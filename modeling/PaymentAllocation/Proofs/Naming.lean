import Mathlib.Data.List.Basic
import PaymentAllocation.Slot

/-!
# Names and what they stand for

A text is resolved to the member that it names, and kept if it names none (`resolve_eq_found_iff`,
`resolve_eq_notFound_iff`). A qualified name gives back both its due state and the text that was
qualified, whatever that text is (`DueState.qualify_inj`), so it names a slot exactly if the text
names a component (`Slot.name_eq_qualify_iff`).
-/

namespace PaymentAllocation

section Resolving

variable {α : Type} [Vocabulary α]

namespace Vocabulary

theorem lookup_eq_none_iff {text : String} :
    (lookup text : Option α) = none ↔ ∀ member : α, name member ≠ text := by
  simp only [Option.eq_none_iff_forall_ne_some, ne_eq, lookup_eq_some_iff]

theorem parse_eq_ok_iff {text : String} {member : α} :
    parse text = .ok member ↔ name member = text := by
  rw [← lookup_eq_some_iff, parse]
  cases lookup (α := α) text <;> simp

theorem parse_eq_error_iff {text : String} {error : NameError} :
    (parse text : Except NameError α) = .error error ↔
      (∀ member : α, name member ≠ text) ∧ error = .unknown (title α) text := by
  rw [← lookup_eq_none_iff, parse]
  cases lookup (α := α) text <;> simp [eq_comm]

end Vocabulary

namespace Resolution

@[simp] theorem resolve_eq_found_iff {text : String} {member : α} :
    resolve text = found member ↔ Vocabulary.name member = text := by
  rw [← Vocabulary.lookup_eq_some_iff, resolve]
  cases Vocabulary.lookup (α := α) text <;> simp

theorem resolve_eq_notFound_iff {text kept : String} :
    (resolve text : Resolution α) = notFound kept ↔
      kept = text ∧ ∀ member : α, Vocabulary.name member ≠ text := by
  simp only [ne_eq, ← Vocabulary.lookup_eq_some_iff, resolve]
  cases h : Vocabulary.lookup (α := α) text with
  | none => simp [eq_comm]
  | some member => simp

omit [Vocabulary α] in
@[simp] theorem member?_eq_some_iff {resolution : Resolution α} {member : α} :
    resolution.member? = some member ↔ resolution = found member := by
  cases resolution <;> simp [member?]

theorem map_resolve_eq_some_iff {text : Option String} {member : α} :
    text.map resolve = some (found member) ↔ text = some (Vocabulary.name member) := by
  cases text with
  | none => simp
  | some text =>
    rw [Option.map_some, Option.some.injEq, Option.some.injEq, resolve_eq_found_iff]
    exact eq_comm

/-- The texts of a list are resolved to members exactly if they are the names of these. -/
theorem map_resolve_eq_iff {β : Type} {text : β → String} {list : List β} {members : List α} :
    (list.map fun b => resolve (text b)) = members.map found ↔
      members.map Vocabulary.name = list.map text := by
  induction list generalizing members with
  | nil => cases members <;> simp
  | cons b rest ih =>
    cases members with
    | nil => simp
    | cons member others => simp [ih]

end Resolution

/-- Texts are the names of members exactly if each of them names one. -/
theorem exists_map_name {texts : List String} :
    (∃ members : List α, members.map Vocabulary.name = texts) ↔
      ∀ text ∈ texts, ∃ member : α, Vocabulary.name member = text := by
  constructor
  · rintro ⟨members, rfl⟩ text htext
    obtain ⟨member, -, rfl⟩ := List.mem_map.1 htext
    exact ⟨member, rfl⟩
  · intro h
    induction texts with
    | nil => exact ⟨[], rfl⟩
    | cons text rest ih =>
      obtain ⟨member, hmember⟩ := h text (by simp)
      obtain ⟨members, hmembers⟩ := ih fun other hother => h other (by simp [hother])
      exact ⟨member :: members, by rw [List.map_cons, hmember, hmembers]⟩

theorem map_name_injective : Function.Injective (List.map (Vocabulary.name : α → String)) :=
  List.map_injective_iff.2 fun _ _ => Vocabulary.name_injective

end Resolving

/-! ## Qualified names -/

/-- The first characters of the names already tell the due states apart. -/
theorem DueState.qualify_inj {state state' : DueState} {text text' : String} :
    state.qualify text = state'.qualify text' ↔ state = state' ∧ text = text' := by
  constructor
  · intro h
    have hchars := congrArg String.toList h
    simp only [qualify, String.toList_append] at hchars
    cases state <;> cases state' <;> simp [name] at hchars ⊢ <;> exact String.toList_inj.1 hchars
  · rintro ⟨rfl, rfl⟩
    rfl

theorem Component.name_injective : Function.Injective Component.name :=
  fun _ _ => Vocabulary.name_injective (α := Component)

theorem Slot.mem_all (slot : Slot) : slot ∈ Slot.all := Vocabulary.mem_all slot

theorem Slot.nodup_all : Slot.all.Nodup := by decide

theorem Slot.name_injective : Function.Injective Slot.name :=
  fun _ _ => Vocabulary.name_injective (α := Slot)

theorem Slot.name_eq_qualify_iff {slot : Slot} {state : DueState} {text : String} :
    slot.name = state.qualify text ↔ slot.state = state ∧ slot.component.name = text := by
  rw [name_eq_qualify, DueState.qualify_inj]

end PaymentAllocation
