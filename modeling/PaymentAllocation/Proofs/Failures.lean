import Mathlib.Data.List.Forall2
import PaymentAllocation.Failure

/-!
# Failing computations

When a sequence of steps that may fail succeeds, and what it fails with otherwise: a step after
another (`bind_eq_ok_iff`, `bind_eq_error_iff`), and the same step for each element of a list,
where the first failure ends it (`mapM_eq_ok_iff`, `mapM_eq_error_iff`). A check fails exactly if
it has findings, and carries all of them (`Failure.ofFindings_eq_error_iff`).
-/

namespace PaymentAllocation

section Steps

variable {ε ε' α β : Type}

theorem bind_eq_ok_iff {step : Except ε α} {next : α → Except ε β} {b : β} :
    step >>= next = .ok b ↔ ∃ a, step = .ok a ∧ next a = .ok b := by
  cases step <;> simp [bind, Except.bind]

theorem bind_eq_error_iff {step : Except ε α} {next : α → Except ε β} {e : ε} :
    step >>= next = .error e ↔ step = .error e ∨ ∃ a, step = .ok a ∧ next a = .error e := by
  cases step <;> simp [bind, Except.bind]

theorem pure_eq_ok_iff {a b : α} : (pure a : Except ε α) = .ok b ↔ a = b := by
  simp [pure, Except.pure]

theorem pure_ne_error {a : α} {e : ε} : (pure a : Except ε α) ≠ .error e := by
  simp [pure, Except.pure]

theorem mapError_eq_ok_iff {step : Except ε α} {f : ε → ε'} {a : α} :
    step.mapError f = .ok a ↔ step = .ok a := by
  cases step <;> simp [Except.mapError]

theorem mapError_eq_error_iff {step : Except ε α} {f : ε → ε'} {e : ε'} :
    step.mapError f = .error e ↔ ∃ cause, step = .error cause ∧ f cause = e := by
  cases step <;> simp [Except.mapError]

/-- All elements succeed, and the results stand in their sequence. -/
theorem mapM_eq_ok_iff {f : α → Except ε β} {list : List α} {results : List β} :
    list.mapM f = .ok results ↔ List.Forall₂ (fun a b => f a = .ok b) list results := by
  induction list generalizing results with
  | nil => cases results <;> simp [pure, Except.pure]
  | cons a rest ih =>
    simp only [List.mapM_cons, bind_eq_ok_iff, pure_eq_ok_iff]
    constructor
    · intro h
      obtain ⟨b, hb, bs, hbs, rfl⟩ := h
      exact .cons hb (ih.1 hbs)
    · rintro (_ | ⟨hb, hbs⟩)
      exact ⟨_, hb, _, ih.2 hbs, rfl⟩

/-- The first element that fails decides. -/
theorem mapM_eq_error_iff {f : α → Except ε β} {list : List α} {e : ε} :
    list.mapM f = .error e ↔
      ∃ (place : Nat) (a : α), list[place]? = some a ∧
        (∀ earlier ∈ list.take place, ∃ b, f earlier = .ok b) ∧ f a = .error e := by
  induction list with
  | nil => simp [pure_ne_error]
  | cons first rest ih =>
    simp only [List.mapM_cons, bind_eq_error_iff, pure_ne_error, and_false, exists_false, or_false]
    rw [ih]
    constructor
    · rintro (h | ⟨b, hb, place, a, ha, earlier, he⟩)
      · exact ⟨0, first, rfl, by simp, h⟩
      · exact ⟨place + 1, a, by simpa using ha, by simpa using ⟨⟨b, hb⟩, earlier⟩, he⟩
    · rintro ⟨_ | place, a, ha, earlier, he⟩
      · cases ha
        exact .inl he
      · rw [List.take_succ_cons, List.forall_mem_cons] at earlier
        obtain ⟨⟨b, hb⟩, earlier⟩ := earlier
        exact .inr ⟨b, hb, place, a, by simpa using ha, earlier, he⟩

end Steps

/-! ## Results of a list -/

section Results

variable {α β γ : Type} {r : α → β → Prop} {list : List α}

theorem exists_forall₂ :
    (∀ a ∈ list, ∃ b, r a b) ↔ ∃ results, List.Forall₂ r list results := by
  induction list with
  | nil => exact iff_of_true (by simp) ⟨[], .nil⟩
  | cons a rest ih =>
    rw [List.forall_mem_cons, ih]
    constructor
    · intro h
      obtain ⟨⟨b, hb⟩, results, hresults⟩ := h
      exact ⟨b :: results, .cons hb hresults⟩
    · rintro ⟨_, _ | ⟨hb, hresults⟩⟩
      exact ⟨⟨_, hb⟩, _, hresults⟩

theorem forall₂_getElem? {results : List β} (h : List.Forall₂ r list results) {index : Nat} {a : α}
    {b : β} (ha : list[index]? = some a) (hb : results[index]? = some b) : r a b := by
  obtain ⟨_, rfl⟩ := List.getElem?_eq_some_iff.1 ha
  obtain ⟨_, rfl⟩ := List.getElem?_eq_some_iff.1 hb
  exact h.get _ _

/-- Results with given images can be chosen element by element. -/
theorem exists_forall₂_map_eq {f : β → γ} {images : List γ} :
    (∃ results, List.Forall₂ r list results ∧ results.map f = images) ↔
      List.Forall₂ (fun a c => ∃ b, r a b ∧ f b = c) list images := by
  constructor
  · rintro ⟨results, hresults, rfl⟩
    rw [List.forall₂_map_right_iff]
    exact hresults.imp fun _ b h => ⟨b, h, rfl⟩
  · intro h
    induction h with
    | nil => exact ⟨[], .nil, rfl⟩
    | cons head _ ih =>
      obtain ⟨b, hb, rfl⟩ := head
      obtain ⟨results, hresults, rfl⟩ := ih
      exact ⟨b :: results, .cons hb hresults, rfl⟩

end Results

/-! ## Checks -/

namespace Failure

/-- The failure of a check and its findings: a single one, or at least two. -/
inductive Carries : Failure → List Finding → Prop
  | one (finding : Finding) : Carries (.invalid finding) [finding]
  | many {findings : List Finding} (several : 2 ≤ findings.length) :
    Carries (.manyInvalid findings) findings

theorem Carries.ne_nil {failure : Failure} {list : List Finding} (h : failure.Carries list) :
    list ≠ [] := by
  rintro rfl
  cases h with
  | many several => simp at several

@[simp] theorem ofFindings_eq_ok_iff {list : List Finding} {result : Unit} :
    ofFindings list = .ok result ↔ list = [] := by
  rcases list with _ | ⟨_, _ | ⟨_, _⟩⟩ <;> simp [ofFindings]

theorem ofFindings_eq_error_iff {list : List Finding} {failure : Failure} :
    ofFindings list = .error failure ↔ failure.Carries list := by
  constructor
  · intro h
    rcases list with _ | ⟨finding, _ | ⟨other, rest⟩⟩ <;> cases h
    · exact .one finding
    · exact .many (by simp)
  · rintro (finding | several)
    · rfl
    · rcases list with _ | ⟨_, _ | ⟨_, _⟩⟩ <;> first | rfl | simp at several

theorem exists_ofFindings_eq_error {list : List Finding} (h : list ≠ []) :
    ∃ failure, ofFindings list = .error failure := by
  cases hlist : ofFindings list with
  | error failure => exact ⟨failure, rfl⟩
  | ok _ => exact absurd (ofFindings_eq_ok_iff.1 hlist) h

end Failure

end PaymentAllocation
