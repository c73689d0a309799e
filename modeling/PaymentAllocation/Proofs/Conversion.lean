import PaymentAllocation.Assembly
import PaymentAllocation.Proofs.Blocks
import PaymentAllocation.Proofs.Failures

/-!
# From requests to rules

An assembled rule denotes a rule if all its names are known (`AssembledRule.Denotes`), and a
request asks for a rule if it does so once its entries are sorted (`Request.AsksFor`); assembling
takes one to the other (`denotes_ofRequest_iff`).

* A conversion yields the rule that is denoted (`toRule_eq_ok_iff`), and fails with the first name
  that is missing or unknown (`toRule_eq_error_iff`).
* `AssembledRule.finish` yields the denoted rules if each of them names a slot and none twice
  (`finish_eq_ok_iff`); else it fails as the first assembled rule that stands in the way
  (`finish_eq_error_iff`).
-/

namespace PaymentAllocation

/-! ## Rules on their own -/

namespace Rule

/-- The rule names a slot, and none twice. -/
structure IsProper (rule : Rule) : Prop where
  nonempty : rule.slots ≠ []
  nodup : rule.slots.Nodup

theorem findings_eq_nil_iff {rule : Rule} : rule.findings = [] ↔ rule.IsProper := by
  rw [findings, List.append_eq_nil_iff, List.map_eq_nil_iff, laterOccurrences_eq_nil_iff]
  constructor
  · rintro ⟨hempty, nodup⟩
    refine ⟨fun hnil => ?_, nodup⟩
    simp [hnil] at hempty
  · rintro ⟨nonempty, nodup⟩
    exact ⟨by simp [nonempty], nodup⟩

theorem check_eq_ok_iff {rule : Rule} {result : Unit} : rule.check = .ok result ↔ rule.IsProper :=
  Failure.ofFindings_eq_ok_iff.trans findings_eq_nil_iff

end Rule

/-! ## What is denoted -/

/-- All names of an assembled rule are known, and `rule` is what they stand for. -/
structure AssembledRule.Denotes (assembled : AssembledRule) (rule : Rule) : Prop where
  transactionType : assembled.transactionType = some (.found rule.transactionType)
  futureRule : assembled.futureRule = some (.found rule.futureRule)
  slots : assembled.slots.map (·.slot) = rule.slots.map .found

/-- All names of a request are known, and `rule` is what they stand for, with the slots by
ascending order value and those of equal order values in the caller's sequence. -/
structure Request.AsksFor (request : Request) (rule : Rule) : Prop where
  transactionType : request.transactionType = some rule.transactionType.name
  futureRule : request.futureRule = some rule.futureRule.name
  slots : ∃ sorted, IsStableSort (fun entry : Entry => entry.order.value) request.entries sorted ∧
    rule.slots.map Slot.name = sorted.map (·.name)

theorem Request.asksFor_iff {request : Request} {rule : Rule} :
    request.AsksFor rule ↔ request.transactionType = some rule.transactionType.name ∧
      request.futureRule = some rule.futureRule.name ∧
      rule.slots.map Slot.name = (Entry.sorted request.entries).map (·.name) :=
  ⟨fun h => ⟨h.transactionType, h.futureRule, (exists_isStableSort _).1 h.slots⟩,
    fun h => ⟨h.1, h.2.1, (exists_isStableSort _).2 h.2.2⟩⟩

theorem Request.AsksFor.map_name_slots {request : Request} {rule : Rule}
    (h : request.AsksFor rule) :
    rule.slots.map Slot.name = (Entry.sorted request.entries).map (·.name) :=
  (asksFor_iff.1 h).2.2

namespace AssembledRule

theorem slots_ofRequest (index : Nat) (request : Request) :
    (ofRequest index request).slots =
      (sortBy (·.1.order.value) request.entries.zipIdx).map fun (entry, position) =>
        ⟨entry.order, .resolve entry.name, position⟩ :=
  sortBy_map _ _ _

theorem map_slot_ofRequest (index : Nat) (request : Request) :
    (ofRequest index request).slots.map (·.slot) =
      (Entry.sorted request.entries).map fun entry => .resolve entry.name := by
  rw [slots_ofRequest, Entry.sorted, ← map_fst_sortBy_zipIdx _ request.entries,
    List.map_map, List.map_map]
  rfl

theorem map_order_ofRequest (index : Nat) (request : Request) :
    (ofRequest index request).slots.map (·.order) =
      (Entry.sorted request.entries).map (·.order) := by
  rw [slots_ofRequest, Entry.sorted, ← map_fst_sortBy_zipIdx _ request.entries,
    List.map_map, List.map_map]
  rfl

theorem getElem?_assemble {requests : List Request} {index : Nat} :
    (assemble requests)[index]? = requests[index]?.map (ofRequest index) := by
  rw [assemble, List.getElem?_map, List.getElem?_zipIdx, Option.map_map]
  simp [Function.comp_def]

theorem denotes_ofRequest_iff {index : Nat} {request : Request} {rule : Rule} :
    (ofRequest index request).Denotes rule ↔ request.AsksFor rule := by
  constructor
  · rintro ⟨htype, hfuture, hslots⟩
    rw [map_slot_ofRequest, Resolution.map_resolve_eq_iff] at hslots
    exact Request.asksFor_iff.2 ⟨Resolution.map_resolve_eq_some_iff.1 htype,
      Resolution.map_resolve_eq_some_iff.1 hfuture, hslots⟩
  · intro h
    refine ⟨Resolution.map_resolve_eq_some_iff.2 h.transactionType,
      Resolution.map_resolve_eq_some_iff.2 h.futureRule, ?_⟩
    rw [map_slot_ofRequest, Resolution.map_resolve_eq_iff]
    exact h.map_name_slots

/-! ## Conversion -/

section Settings

variable {α : Type} [Vocabulary α] {key : String} {setting : Option (Resolution α)}

theorem required_eq_ok_iff {member : α} :
    required key setting = .ok member ↔ setting = some (.found member) := by
  rcases setting with _ | member' | text <;> simp [required, Resolution.get, Except.mapError]

theorem required_eq_error_iff {failure : Failure} :
    required key setting = .error failure ↔
      (setting = none ∧ failure = .notFound key) ∨
        ∃ text, setting = some (.notFound text) ∧
          failure = .name (.unknown (Vocabulary.title α) text) := by
  rcases setting with _ | member' | text <;>
    simp [required, Resolution.get, Except.mapError, eq_comm]

end Settings

theorem get_eq_ok_iff {α : Type} [Vocabulary α] {resolution : Resolution α} {member : α} :
    resolution.get = .ok member ↔ resolution = .found member := by
  cases resolution <;> simp [Resolution.get]

theorem get_eq_error_iff {α : Type} [Vocabulary α] {resolution : Resolution α}
    {error : NameError} :
    resolution.get = .error error ↔
      ∃ text, resolution = .notFound text ∧ error = .unknown (Vocabulary.title α) text := by
  cases resolution <;> simp [Resolution.get, eq_comm]

theorem resolvedSlots_eq_mapM (entries : List AssembledSlot) :
    resolvedSlots entries =
      (entries.map (·.slot)).mapM fun resolution => resolution.get.mapError Failure.name := by
  induction entries with
  | nil => rfl
  | cons entry rest ih => rw [resolvedSlots, ih, List.map_cons, List.mapM_cons]

theorem resolvedSlots_eq_ok_iff {entries : List AssembledSlot} {slots : List Slot} :
    resolvedSlots entries = .ok slots ↔ entries.map (·.slot) = slots.map .found := by
  simp only [resolvedSlots_eq_mapM, mapM_eq_ok_iff, mapError_eq_ok_iff, get_eq_ok_iff]
  rw [← List.forall₂_eq_eq_eq, List.forall₂_map_right_iff]

/-- The slots of an assembled request are read off its sorted entries, name by name. -/
theorem resolvedSlots_ofRequest (index : Nat) (request : Request) :
    resolvedSlots (ofRequest index request).slots =
      (Entry.sorted request.entries).mapM fun entry =>
        (Resolution.resolve entry.name).get.mapError Failure.name := by
  rw [resolvedSlots_eq_mapM, map_slot_ofRequest, List.mapM_map]
  rfl

theorem toRule_eq_ok_iff {assembled : AssembledRule} {rule : Rule} :
    assembled.toRule = .ok rule ↔ assembled.Denotes rule := by
  simp only [toRule, bind_eq_ok_iff, required_eq_ok_iff, resolvedSlots_eq_ok_iff, pure_eq_ok_iff]
  constructor
  · intro h
    obtain ⟨type, htype, future, hfuture, slots, hslots, rfl⟩ := h
    exact ⟨htype, hfuture, hslots⟩
  · intro h
    obtain ⟨htype, hfuture, hslots⟩ := h
    exact ⟨_, htype, _, hfuture, _, hslots, rfl⟩

/-- The type of transaction is looked at first, then the future rule, then the slots. -/
theorem toRule_eq_error_iff {assembled : AssembledRule} {failure : Failure} :
    assembled.toRule = .error failure ↔
      required (requestField assembled.index "transactionType") assembled.transactionType =
          .error failure ∨
        (∃ type, assembled.transactionType = some (.found type)) ∧
          (required (requestField assembled.index "futureInstallmentAllocationRule")
                assembled.futureRule = .error failure ∨
            (∃ future, assembled.futureRule = some (.found future)) ∧
              resolvedSlots assembled.slots = .error failure) := by
  simp only [toRule, bind_eq_error_iff, required_eq_ok_iff, pure_ne_error, and_false,
    exists_false, or_false, exists_and_right]

/-- The rule that was asked for, if it can stand on its own. -/
def convert (assembled : AssembledRule) : Except Failure Rule := do
  let rule ← assembled.toRule
  rule.check
  return rule

theorem convert_eq_ok_iff {assembled : AssembledRule} {rule : Rule} :
    assembled.convert = .ok rule ↔ assembled.Denotes rule ∧ rule.IsProper := by
  simp only [convert, bind_eq_ok_iff, toRule_eq_ok_iff, Rule.check_eq_ok_iff, pure_eq_ok_iff]
  constructor
  · intro h
    obtain ⟨_, hdenotes, _, hproper, rfl⟩ := h
    exact ⟨hdenotes, hproper⟩
  · rintro ⟨hdenotes, hproper⟩
    exact ⟨rule, hdenotes, (), hproper, rfl⟩

theorem convert_eq_error_iff {assembled : AssembledRule} {failure : Failure} :
    assembled.convert = .error failure ↔
      assembled.toRule = .error failure ∨
        ∃ rule, assembled.Denotes rule ∧ failure.Carries rule.findings := by
  simp only [convert, bind_eq_error_iff, toRule_eq_ok_iff, pure_ne_error, and_false, exists_false,
    or_false, Rule.check, Failure.ofFindings_eq_error_iff]

theorem finish_eq_mapM (list : List AssembledRule) : finish list = list.mapM convert := by
  induction list with
  | nil => rfl
  | cons assembled rest ih =>
    rw [finish, ih, List.mapM_cons, convert]
    simp only [bind_assoc, pure_bind]

/-- Finishing succeeds if each assembled rule denotes one that names a slot and none twice. -/
theorem finish_eq_ok_iff {list : List AssembledRule} {rules : List Rule} :
    finish list = .ok rules ↔
      List.Forall₂ (fun assembled rule => assembled.Denotes rule ∧ rule.IsProper) list rules := by
  simp only [finish_eq_mapM, mapM_eq_ok_iff, convert_eq_ok_iff]

/-- Finishing fails as the first assembled rule does that cannot be converted. -/
theorem finish_eq_error_iff {list : List AssembledRule} {failure : Failure} :
    finish list = .error failure ↔
      ∃ (place : Nat) (assembled : AssembledRule), list[place]? = some assembled ∧
        (∀ earlier ∈ list.take place, ∃ rule, earlier.Denotes rule ∧ rule.IsProper) ∧
        assembled.convert = .error failure := by
  simp only [finish_eq_mapM, mapM_eq_error_iff, convert_eq_ok_iff]

end AssembledRule

end PaymentAllocation
