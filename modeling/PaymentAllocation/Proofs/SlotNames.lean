import PaymentAllocation.Proofs.Naming

/-!
# Names of slots, taken apart and looked up

The name of a slot can be searched among the written names, taken apart into a due state and a
component, or put together from these. All three come to the same on every text
(`Slot.three_readings_agree`).

* `Slot.findSome?_componentText?_eq_some_iff` says which due state a text is read with: since no
  text is qualified in two due states, it does not matter in which sequence they are tried, although
  `DUE_` also ends `PAST_DUE_`.
* `Slot.split_qualify` says what becomes of any qualified text, and `Slot.split_of_not_qualified`
  what becomes of all others.
-/

namespace PaymentAllocation

/-- The error says that a text is no name of a slot, and for what reason. -/
structure NameError.IsMalformed (error : NameError) (text reason : String) : Prop where
  value : error.value = text
  message : error.message = "Malformed payment allocation type '" ++ text ++ "': " ++ reason

/-- A text is malformed for one reason. -/
theorem NameError.IsMalformed.reason_eq {error : NameError} {text reason reason' : String}
    (h : error.IsMalformed text reason) (h' : error.IsMalformed text reason') :
    reason = reason' := by
  have same := congrArg String.toList (h.message.symm.trans h'.message)
  simp only [String.toList_append] at same
  exact String.toList_inj.1 (List.append_cancel_left same)

theorem NameError.isMalformed_noDueState (text : String) :
    (noDueState text).IsMalformed text "missing PAST_DUE_, DUE_ or IN_ADVANCE_ prefix" :=
  ⟨rfl, rfl⟩

theorem NameError.isMalformed_unknownComponent (text component : String) :
    (unknownComponent text component).IsMalformed text
      ("unknown allocation component '" ++ component ++ "'") :=
  ⟨rfl, rfl⟩

namespace Slot

variable {text rest : String} {state : DueState} {component : Component}

/-! ## The due state of a name -/

theorem componentText?_eq_some_iff :
    componentText? state text = some rest ↔ text = state.qualify rest := by
  have qualified (rest : String) :
      (state.qualify rest).toList = (state.name ++ "_").toList ++ rest.toList := by
    rw [DueState.qualify]
    exact String.toList_append
  rw [componentText?, Option.map_eq_some_iff]
  simp only [List.isPrefixOf?_eq_some_iff_append_eq]
  constructor
  · rintro ⟨chars, hchars, rfl⟩
    apply String.toList_inj.1
    rw [← hchars, qualified, String.toList_ofList]
  · rintro rfl
    exact ⟨rest.toList, (qualified rest).symm, String.ofList_toList⟩

/-- A text is read with the due state that it is qualified in, whichever is tried first. -/
theorem findSome?_componentText?_eq_some_iff :
    ((Vocabulary.all : List DueState).findSome? fun state =>
        (componentText? state text).map fun rest => (state, rest)) = some (state, rest) ↔
      text = state.qualify rest := by
  constructor
  · intro h
    obtain ⟨tried, -, htried⟩ := List.exists_of_findSome?_eq_some h
    obtain ⟨_, hrest, heq⟩ := Option.map_eq_some_iff.1 htried
    obtain ⟨rfl, rfl⟩ := Prod.mk.inj heq
    exact componentText?_eq_some_iff.1 hrest
  · intro h
    have here := componentText?_eq_some_iff.2 h
    cases found : (Vocabulary.all : List DueState).findSome? fun state =>
        (componentText? state text).map fun rest => (state, rest) with
    | none =>
      have nothing := List.findSome?_eq_none_iff.1 found state (Vocabulary.mem_all state)
      simp [here] at nothing
    | some reading =>
      -- whatever due state was found, it is the one that the text is qualified in
      obtain ⟨tried, -, htried⟩ := List.exists_of_findSome?_eq_some found
      obtain ⟨other, hother, rfl⟩ := Option.map_eq_some_iff.1 htried
      have same := h.symm.trans (componentText?_eq_some_iff.1 hother)
      obtain ⟨rfl, rfl⟩ := DueState.qualify_inj.1 same
      rfl

theorem findSome?_componentText?_eq_none_iff :
    ((Vocabulary.all : List DueState).findSome? fun state =>
        (componentText? state text).map fun rest => (state, rest)) = none ↔
      ∀ (state : DueState) (rest : String), text ≠ state.qualify rest := by
  simp only [Option.eq_none_iff_forall_ne_some, Prod.forall, ne_eq,
    findSome?_componentText?_eq_some_iff]

/-! ## Names taken apart -/

/-- A qualified text is a name if the text names a component, and malformed otherwise. -/
theorem split_qualify (state : DueState) (rest : String) :
    split (state.qualify rest) =
      match Vocabulary.lookup rest with
      | some component => .ok (state, component)
      | none => .error (.unknownComponent (state.qualify rest) rest) := by
  cases named : Vocabulary.lookup (α := Component) rest with
  | none => simp only [split, findSome?_componentText?_eq_some_iff.2 rfl, named]
  | some component => simp only [split, findSome?_componentText?_eq_some_iff.2 rfl, named]

theorem split_of_not_qualified
    (h : ∀ (state : DueState) (rest : String), text ≠ state.qualify rest) :
    split text = .error (.noDueState text) := by
  simp only [split, findSome?_componentText?_eq_none_iff.2 h]

theorem split_qualify_eq_ok_iff {state' : DueState} :
    split (state.qualify rest) = .ok (state', component) ↔
      state' = state ∧ component.name = rest := by
  rw [split_qualify]
  cases h : Vocabulary.lookup (α := Component) rest with
  | none =>
    have unnamed : component.name ≠ rest := by
      rintro rfl
      exact Option.some_ne_none component ((Vocabulary.lookup_name component).symm.trans h)
    simp [unnamed]
  | some found =>
    obtain rfl : found.name = rest := Vocabulary.name_of_lookup h
    rw [Except.ok.injEq, Prod.mk.injEq, Component.name_injective.eq_iff, eq_comm (a := state),
      eq_comm (a := found)]

theorem split_eq_ok_iff :
    split text = .ok (state, component) ↔ text = state.qualify component.name := by
  constructor
  · intro h
    by_cases qualified : ∀ (state : DueState) (rest : String), text ≠ state.qualify rest
    · simp [split_of_not_qualified qualified] at h
    · push Not at qualified
      obtain ⟨state', rest, rfl⟩ := qualified
      obtain ⟨rfl, rfl⟩ := split_qualify_eq_ok_iff.1 h
      rfl
  · rintro rfl
    exact split_qualify_eq_ok_iff.2 ⟨rfl, rfl⟩

theorem split_qualify_of_unnamed (h : ∀ component : Component, component.name ≠ rest) :
    split (state.qualify rest) = .error (.unknownComponent (state.qualify rest) rest) := by
  have unnamed : Vocabulary.lookup (α := Component) rest = none :=
    Option.eq_none_iff_forall_ne_some.2 fun component named =>
      h component (Vocabulary.name_of_lookup named)
  rw [split_qualify, unnamed]

/-- Of a qualified text it is never said that it lacks a due state. -/
theorem not_isMalformed_of_split_qualify {error : NameError}
    (failed : split (state.qualify rest) = .error error) :
    ¬error.IsMalformed (state.qualify rest)
      "missing PAST_DUE_, DUE_ or IN_ADVANCE_ prefix" := by
  intro malformed
  by_cases named : ∃ component : Component, component.name = rest
  · obtain ⟨component, rfl⟩ := named
    rw [split_qualify_eq_ok_iff.2 ⟨rfl, rfl⟩] at failed
    cases failed
  · -- what it is malformed for is then its component
    push Not at named
    rw [split_qualify_of_unnamed named] at failed
    obtain rfl := Except.error.inj failed
    have reason := (NameError.isMalformed_unknownComponent _ _).reason_eq malformed
    have initial := congrArg (fun reason => reason.toList.head?) reason
    simp at initial

/-! ## Names looked up -/

/-- **Looking a name up, taking it apart and putting it together agree on every text.** A text that
is qualified in a due state gives back that state and the component that the rest names, even if the
rest begins with a due state itself. If the rest names none, the text is malformed for that reason,
and it is malformed for the lack of a due state exactly if it is not qualified in any. -/
theorem three_readings_agree :
    (∀ (text : String) (state : DueState) (component : Component),
      (split text = .ok (state, component) ↔
          Vocabulary.parse text = .ok (Slot.mk state component)) ∧
        (split text = .ok (state, component) ↔ text = state.qualify component.name)) ∧
      (∀ (state : DueState) (rest : String),
        (∀ (state' : DueState) (component : Component),
          split (state.qualify rest) = .ok (state', component) ↔
            state' = state ∧ component.name = rest) ∧
          ((∃ error, split (state.qualify rest) = .error error ∧
              error.IsMalformed (state.qualify rest)
                ("unknown allocation component '" ++ rest ++ "'")) ↔
            ∀ component : Component, component.name ≠ rest)) ∧
      ∀ text : String,
        (∃ error, split text = .error error ∧
            error.IsMalformed text "missing PAST_DUE_, DUE_ or IN_ADVANCE_ prefix") ↔
          ∀ (state : DueState) (rest : String), text ≠ state.qualify rest := by
  refine ⟨fun text state component => ⟨?_, split_eq_ok_iff⟩,
    fun state rest => ⟨fun state' component => split_qualify_eq_ok_iff, ?_, ?_⟩,
    fun text => ⟨?_, ?_⟩⟩
  · rw [split_eq_ok_iff, Vocabulary.parse_eq_ok_iff, eq_comm]
    exact Eq.congr_left (name_eq_qualify (Slot.mk state component)).symm
  · rintro ⟨error, failed, -⟩ component rfl
    rw [split_qualify_eq_ok_iff.2 ⟨rfl, rfl⟩] at failed
    cases failed
  · intro unnamed
    exact ⟨_, split_qualify_of_unnamed unnamed, NameError.isMalformed_unknownComponent _ _⟩
  · rintro ⟨error, failed, malformed⟩ state rest rfl
    exact not_isMalformed_of_split_qualify failed malformed
  · intro unqualified
    exact ⟨_, split_of_not_qualified unqualified, NameError.isMalformed_noDueState text⟩

example : split "DUE_PAST_DUE_FEE" =
    .error (.unknownComponent "DUE_PAST_DUE_FEE" "PAST_DUE_FEE") := by decide

end Slot

end PaymentAllocation
