import PaymentAllocation.Proofs.Requests

/-!
# What a conversion fails with

A request that is not sound has a defect, and its conversion fails with that one
(`convert_ofRequest_eq_error_iff`). `Request.Defect` says which, in terms of what is written: the
type of transaction comes first, then the future rule, then the entries by ascending order value,
and last what is wrong with the rule as a whole.
-/

namespace PaymentAllocation

/-! ## Defects -/

/-- What the conversion of a setting fails with: it is missing, or its text names no member. -/
inductive SettingDefect (α : Type) [Vocabulary α] (key : String) : Option String → Failure → Prop
  | missing : SettingDefect α key none (.notFound key)
  | unknown {text : String} (h : ∀ member : α, Vocabulary.name member ≠ text) :
    SettingDefect α key (some text) (.name (.unknown (Vocabulary.title α) text))

/-- What the conversion of the request at an index fails with. -/
inductive Request.Defect (index : Nat) (request : Request) : Failure → Prop
  | transactionType {failure : Failure}
      (defect : SettingDefect TransactionType (requestField index "transactionType")
        request.transactionType failure) :
    Defect index request failure
  | futureRule {failure : Failure}
      (type : ∃ type : TransactionType, request.transactionType = some type.name)
      (defect : SettingDefect FutureRule (requestField index "futureInstallmentAllocationRule")
        request.futureRule failure) :
    Defect index request failure
  /-- Of the entries that name no slot, the one that stands first by ascending order value. -/
  | slot {sorted : List Entry} {place : Nat} {entry : Entry}
      (type : ∃ type : TransactionType, request.transactionType = some type.name)
      (future : ∃ future : FutureRule, request.futureRule = some future.name)
      (sorting : IsStableSort (fun entry : Entry => entry.order.value) request.entries sorted)
      (here : sorted[place]? = some entry)
      (earlier : ∀ other ∈ sorted.take place, ∃ slot : Slot, slot.name = other.name)
      (unknown : ∀ slot : Slot, slot.name ≠ entry.name) :
    Defect index request (.name (.unknown (Vocabulary.title Slot) entry.name))
  | noSlots {rule : Rule} (asks : request.AsksFor rule) (empty : rule.slots = []) :
    Defect index request
      (.invalid ⟨"allocationTypes", "Allocation order cannot be empty", some "non_empty_order",
        none⟩)
  /-- One finding for each slot that stands behind an equal one. -/
  | slotsRepeated {rule : Rule} {failure : Failure} (asks : request.AsksFor rule)
      (carries : failure.Carries <|
        (rule.slots.zipIdx.filter fun (slot, place) => slot ∈ rule.slots.take place).map
          fun (slot, _) =>
            ⟨"allocationTypes", "Allocation type appears more than once",
              some "unique_allocation_type", some slot.name⟩) :
    Defect index request failure

/-! ## Failures of a conversion -/

theorem required_map_resolve_eq_error_iff {α : Type} [Vocabulary α] {key : String}
    {setting : Option String} {failure : Failure} :
    AssembledRule.required (α := α) key (setting.map .resolve) = .error failure ↔
      SettingDefect α key setting failure := by
  rw [AssembledRule.required_eq_error_iff]
  cases setting with
  | none =>
    simp only [Option.map_none, true_and, reduceCtorEq, false_and, exists_false, or_false]
    constructor
    · rintro rfl
      exact .missing
    · rintro ⟨⟩
      rfl
  | some text =>
    simp only [Option.map_some, reduceCtorEq, false_and, false_or, Option.some.injEq,
      Resolution.resolve_eq_notFound_iff]
    constructor
    · intro h
      obtain ⟨_, ⟨rfl, unknown⟩, rfl⟩ := h
      exact .unknown unknown
    · rintro (_ | unknown)
      exact ⟨text, ⟨rfl, unknown⟩, rfl⟩

/-- The first of the sorted entries that names no slot decides. -/
theorem resolvedSlots_ofRequest_eq_error_iff {index : Nat} {request : Request}
    {failure : Failure} :
    AssembledRule.resolvedSlots (AssembledRule.ofRequest index request).slots = .error failure ↔
      ∃ (place : Nat) (entry : Entry), (Entry.sorted request.entries)[place]? = some entry ∧
        (∀ other ∈ (Entry.sorted request.entries).take place,
          ∃ slot : Slot, slot.name = other.name) ∧
        (∀ slot : Slot, slot.name ≠ entry.name) ∧
        failure = .name (.unknown (Vocabulary.title Slot) entry.name) := by
  rw [AssembledRule.resolvedSlots_ofRequest, mapM_eq_error_iff]
  simp only [mapError_eq_ok_iff, AssembledRule.get_eq_ok_iff, Resolution.resolve_eq_found_iff,
    mapError_eq_error_iff, AssembledRule.get_eq_error_iff, Resolution.resolve_eq_notFound_iff]
  constructor
  · intro h
    obtain ⟨place, entry, here, earlier, _, ⟨_, ⟨rfl, unknown⟩, rfl⟩, rfl⟩ := h
    exact ⟨place, entry, here, earlier, unknown, rfl⟩
  · intro h
    obtain ⟨place, entry, here, earlier, unknown, rfl⟩ := h
    exact ⟨place, entry, here, earlier, _, ⟨_, ⟨rfl, unknown⟩, rfl⟩, rfl⟩

theorem Rule.findings_eq (rule : Rule) :
    rule.findings =
      (if rule.slots = [] then
        [⟨"allocationTypes", "Allocation order cannot be empty", some "non_empty_order", none⟩]
      else []) ++
        (rule.slots.zipIdx.filter fun (slot, place) => slot ∈ rule.slots.take place).map
          fun (slot, _) =>
            ⟨"allocationTypes", "Allocation type appears more than once",
              some "unique_allocation_type", some slot.name⟩ := by
  rw [findings, laterOccurrences_nil, List.map_map]
  simp only [List.isEmpty_iff]
  rfl

/-- **The conversion of a request fails with its defect.** -/
theorem convert_ofRequest_eq_error_iff {index : Nat} {request : Request} {failure : Failure} :
    (AssembledRule.ofRequest index request).convert = .error failure ↔
      request.Defect index failure := by
  have type : (∃ type, (AssembledRule.ofRequest index request).transactionType =
      some (.found type)) ↔ ∃ type : TransactionType, request.transactionType = some type.name :=
    exists_congr fun _ => Resolution.map_resolve_eq_some_iff
  have future : (∃ future, (AssembledRule.ofRequest index request).futureRule =
      some (.found future)) ↔ ∃ future : FutureRule, request.futureRule = some future.name :=
    exists_congr fun _ => Resolution.map_resolve_eq_some_iff
  rw [AssembledRule.convert_eq_error_iff, AssembledRule.toRule_eq_error_iff, type, future,
    resolvedSlots_ofRequest_eq_error_iff]
  simp only [AssembledRule.denotes_ofRequest_iff]
  constructor
  · rintro ((defect | ⟨type, defect | ⟨future, place, entry, here, earlier, unknown, rfl⟩⟩) |
      ⟨rule, asks, carries⟩)
    · exact .transactionType (required_map_resolve_eq_error_iff.1 defect)
    · exact .futureRule type (required_map_resolve_eq_error_iff.1 defect)
    · exact .slot type future ((isStableSort_iff _).2 rfl) here earlier unknown
    · rw [Rule.findings_eq] at carries
      split_ifs at carries with empty
      · -- without slots nothing is repeated, so there is this one finding
        rw [empty] at carries
        cases carries with
        | one => exact .noSlots asks empty
        | many several => simp at several
      · exact .slotsRepeated asks carries
  · intro h
    cases h with
    | transactionType defect => exact .inl (.inl (required_map_resolve_eq_error_iff.2 defect))
    | futureRule type defect =>
      exact .inl (.inr ⟨type, .inl (required_map_resolve_eq_error_iff.2 defect)⟩)
    | slot type future sorting here earlier unknown =>
      obtain rfl := (isStableSort_iff _).1 sorting
      exact .inl (.inr ⟨type, .inr ⟨future, _, _, here, earlier, unknown, rfl⟩⟩)
    | noSlots asks empty =>
      refine .inr ⟨_, asks, ?_⟩
      rw [Rule.findings_eq, empty]
      exact .one _
    | slotsRepeated asks carries =>
      refine .inr ⟨_, asks, ?_⟩
      have nonempty := carries.ne_nil
      rw [Rule.findings_eq, if_neg]
      · exact carries
      · intro empty
        simp [empty] at nonempty

end PaymentAllocation
