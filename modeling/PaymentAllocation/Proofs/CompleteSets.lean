import Mathlib.Data.List.Perm.Subperm
import PaymentAllocation.Proofs.Naming
import PaymentAllocation.Proofs.Origins

/-!
# Complete sets

A policy may require that a rule names each slot exactly once. The check counts no occurrences: it
looks whether a slot is missing and whether there are as many entries as slots. That is enough
(`AssembledRule.isCompleteSet_iff_missing`), since names that are unknown or repeated leave too
little room for all slots.

* `AssembledRule.IsCompleteSet` is what such a policy asks for, and `AssembledRule.missing` are the
  slots that are not named.
* The check has one finding on a rule that names no complete set, and none on any other
  (`filter_isIncompleteSet_policyViolations`).

So the validator reports an incomplete set exactly where there is one, with the slots that are
missing (`PolicySet.complete_set_judged_exactly`).
-/

namespace PaymentAllocation

namespace AssembledRule

/-! ## What is named -/

/-- All names are known, and they name all slots in some sequence, each once. -/
structure IsCompleteSet (rule : AssembledRule) : Prop where
  known : ∀ entry ∈ rule.slots, entry.slot.isFound = true
  perm : rule.knownSlots.Perm Slot.all

/-- The slots that no entry stands for, in the order of declaration. -/
def missing (rule : AssembledRule) : List Slot :=
  Slot.all.filter fun slot => ∀ entry ∈ rule.slots, entry.slot ≠ .found slot

variable {rule : AssembledRule} {slot : Slot}

theorem mem_knownSlots :
    slot ∈ rule.knownSlots ↔ ∃ entry ∈ rule.slots, entry.slot = .found slot := by
  simp only [knownSlots, List.mem_filterMap, Resolution.member?_eq_some_iff]

theorem length_knownSlots_le (rule : AssembledRule) :
    rule.knownSlots.length ≤ rule.slots.length :=
  List.length_filterMap_le _ _

theorem length_knownSlots_eq_iff :
    rule.knownSlots.length = rule.slots.length ↔
      ∀ entry ∈ rule.slots, entry.slot.isFound = true :=
  List.filterMap_length_eq_length

/-- A slot is known as often as entries stand for it. -/
theorem count_knownSlots (rule : AssembledRule) (slot : Slot) :
    rule.knownSlots.count slot = (rule.slots.map (·.slot)).count (.found slot) := by
  rw [knownSlots, List.count_filterMap, List.count, List.countP_map]
  refine List.countP_congr fun entry _ => ?_
  simp

theorem missing_eq_filter (rule : AssembledRule) :
    rule.missing = Slot.all.filter (· ∉ rule.knownSlots) := by
  simp only [missing, mem_knownSlots, not_exists, not_and, ne_eq]

theorem missing_eq_nil_iff : rule.missing = [] ↔ ∀ slot, slot ∈ rule.knownSlots := by
  simp [missing_eq_filter, List.filter_eq_nil_iff, Slot.mem_all]

/-- Where no slot is missing, all have room among the known names. -/
theorem subperm_knownSlots (h : rule.missing = []) : Slot.all.Subperm rule.knownSlots :=
  Slot.nodup_all.subperm fun slot _ => missing_eq_nil_iff.1 h slot

/-- **No name is unknown or repeated where no slot is missing and there are as many entries as
slots.** -/
theorem isCompleteSet_iff_missing :
    rule.IsCompleteSet ↔ rule.missing = [] ∧ rule.slots.length = Slot.all.length := by
  constructor
  · rintro ⟨known, perm⟩
    exact ⟨missing_eq_nil_iff.2 fun slot => perm.mem_iff.2 slot.mem_all,
      (length_knownSlots_eq_iff.2 known).symm.trans perm.length_eq⟩
  · rintro ⟨none, length⟩
    -- There are no more known names than entries, so the slots fill them up.
    have perm : Slot.all.Perm rule.knownSlots :=
      (subperm_knownSlots none).perm_of_length_le (rule.length_knownSlots_le.trans length.le)
    exact ⟨length_knownSlots_eq_iff.1 (perm.length_eq.symm.trans length.symm), perm.symm⟩

instance : DecidablePred IsCompleteSet := fun _ =>
  decidable_of_iff _ isCompleteSet_iff_missing.symm

theorem isCompleteSet_iff_count :
    rule.IsCompleteSet ↔ (∀ entry ∈ rule.slots, entry.slot.isFound = true) ∧
      ∀ slot, (rule.slots.map (·.slot)).count (.found slot) = 1 := by
  have once (slot : Slot) : Slot.all.count slot = 1 :=
    List.count_eq_one_of_mem Slot.nodup_all slot.mem_all
  have counted : rule.knownSlots.Perm Slot.all ↔
      ∀ slot, (rule.slots.map (·.slot)).count (.found slot) = 1 := by
    simp only [List.perm_iff_count, once, count_knownSlots]
  exact ⟨fun h => ⟨h.known, counted.1 h.perm⟩, fun h => ⟨h.1, counted.2 h.2⟩⟩

/-- If no slot is missing, it is for too many entries that the set is not complete. -/
theorem length_lt_of_missing_eq_nil (incomplete : ¬rule.IsCompleteSet) (h : rule.missing = []) :
    Slot.all.length < rule.slots.length := by
  have enough : Slot.all.length ≤ rule.slots.length :=
    (subperm_knownSlots h).length_le.trans rule.length_knownSlots_le
  exact lt_of_le_of_ne enough fun length =>
    incomplete (isCompleteSet_iff_missing.2 ⟨h, length.symm⟩)

end AssembledRule

/-! ## What the check finds -/

theorem finding_setIncomplete (index : Nat) (code : String) (missing : List Slot) :
    (Violation.setIncomplete index code missing).finding =
      ⟨orderField index,
        "Strategy '" ++ code ++ "' requires each of the 24 allocation types exactly once",
        some "complete_allocation_set", some (",".intercalate (missing.map Slot.name))⟩ := by
  have message : "' requires each of the " ++ (toString Slot.all.length ++
      " allocation types exactly once") =
      "' requires each of the 24 allocation types exactly once" := by decide
  simp only [Violation.finding, String.append_assoc, message]

/-- The finding is that a rule does not name the complete set. -/
def Finding.IsIncompleteSet (finding : Finding) : Prop :=
  finding.rule = some "complete_allocation_set"

instance : DecidablePred Finding.IsIncompleteSet := fun finding =>
  inferInstanceAs (Decidable (finding.rule = some "complete_allocation_set"))

theorem isIncompleteSet_finding_iff {violation : Violation} :
    violation.finding.IsIncompleteSet ↔
      ∃ index code missing, violation = .setIncomplete index code missing := by
  cases violation <;> simp [Finding.IsIncompleteSet, Violation.finding]

/-- The check has one finding on a rule that names no complete set, and none on any other. -/
theorem filter_isIncompleteSet_policyViolations {policy : Policy}
    (requires : policy.requiresCompleteSet = true) (rule : AssembledRule) :
    ((policyViolations policy rule).map Violation.finding).filter (·.IsIncompleteSet) =
      if rule.IsCompleteSet then []
      else [(Violation.setIncomplete rule.index policy.code rule.missing).finding] := by
  have incomplete : (rule.missing ≠ [] ∨ rule.slots.length ≠ Slot.all.length) ↔
      ¬rule.IsCompleteSet := by
    rw [AssembledRule.isCompleteSet_iff_missing, not_and_or]
  have others (violation : Slot → Violation) (slots : List Slot)
      (h : ∀ slot, ¬(violation slot).finding.IsIncompleteSet) :
      ((slots.map violation).map Violation.finding).filter (·.IsIncompleteSet) = [] := by
    simp [h]
  simp only [policyViolations, ← rule.missing_eq_filter, requires, true_and, incomplete,
    List.map_append, List.filter_append]
  rw [others _ _ fun slot => by simp [isIncompleteSet_finding_iff],
    others _ _ fun slot => by simp [isIncompleteSet_finding_iff], List.nil_append, List.nil_append]
  by_cases complete : rule.IsCompleteSet
  · rw [if_pos complete, if_neg (not_not.2 complete)]
    rfl
  · rw [if_neg complete, if_pos complete]
    rfl

namespace PolicySet

variable {set : PolicySet} {code : Option String}

/-- The validator judges rule by rule whether the complete set is named. -/
theorem filter_isIncompleteSet_findings (allows : (set.policyFor code).allowsAllocation = true)
    (requires : (set.policyFor code).requiresCompleteSet = true) (rules : List AssembledRule) :
    (set.validator.findings rules code).filter (·.IsIncompleteSet) = rules.flatMap fun rule =>
      if rule.IsCompleteSet then []
      else [(Violation.setIncomplete rule.index (set.policyFor code).code
        rule.missing).finding] := by
  have origin (v : Violation) (h : decide v.finding.IsIncompleteSet = true) :
      v.origin?.map Prod.snd = some Check.suitability := by
    obtain ⟨index, code, missing, rfl⟩ := isIncompleteSet_finding_iff.1 (of_decide_eq_true h)
    rfl
  rw [filter_findings_of_check allows origin]
  exact List.flatMap_congr fun rule _ => filter_isIncompleteSet_policyViolations requires rule

/-- **A rule names the complete set if it names each slot exactly once and nothing else.** Let the
policy in force require this. Then the validator finds an assembled rule complete exactly if all its
names are known and its slots are all slots in some sequence. Else it reports the set once, and the
value is made of the names of the slots that are missing, in the order of declaration; if none is
missing there are too many entries, and the value is empty. Of several rules each is judged as it is
alone. -/
theorem complete_set_judged_exactly (allows : (set.policyFor code).allowsAllocation = true)
    (requires : (set.policyFor code).requiresCompleteSet = true) (rule : AssembledRule) :
    ((set.validator.findings [rule] code).filter (·.IsIncompleteSet) = [] ↔
        rule.IsCompleteSet) ∧
      (rule.IsCompleteSet ↔ (∀ entry ∈ rule.slots, entry.slot.isFound = true) ∧
        ∀ slot, (rule.slots.map (·.slot)).count (.found slot) = 1) ∧
      (¬rule.IsCompleteSet →
        (set.validator.findings [rule] code).filter (·.IsIncompleteSet) = [⟨orderField rule.index,
          "Strategy '" ++ (set.policyFor code).code ++
            "' requires each of the 24 allocation types exactly once",
          some "complete_allocation_set",
          some (",".intercalate (rule.missing.map Slot.name))⟩]) ∧
      (¬rule.IsCompleteSet → (∀ slot, ∃ entry ∈ rule.slots, entry.slot = .found slot) →
        24 < rule.slots.length ∧
          ((set.validator.findings [rule] code).filter (·.IsIncompleteSet)).map (·.value) =
            [some ""]) ∧
      ∀ rules, (set.validator.findings rules code).filter (·.IsIncompleteSet) =
        rules.flatMap fun rule =>
          (set.validator.findings [rule] code).filter (·.IsIncompleteSet) := by
  have each := filter_isIncompleteSet_findings allows requires
  have alone (rule : AssembledRule) := (each [rule]).trans (List.flatMap_singleton ..)
  have incomplete (h : ¬rule.IsCompleteSet) := (alone rule).trans (if_neg h)
  rw [finding_setIncomplete] at incomplete
  refine ⟨⟨fun h => ?_, fun h => (alone rule).trans (if_pos h)⟩,
    AssembledRule.isCompleteSet_iff_count, incomplete, fun h present => ?_, fun rules => ?_⟩
  · by_contra hincomplete
    simp [incomplete hincomplete] at h
  · have none : rule.missing = [] :=
      AssembledRule.missing_eq_nil_iff.2 fun slot => AssembledRule.mem_knownSlots.2 (present slot)
    rw [incomplete h, none]
    exact ⟨AssembledRule.length_lt_of_missing_eq_nil h none, rfl⟩
  · rw [each]
    exact List.flatMap_congr fun rule _ => (alone rule).symm

/-- The standard policies, but rules must name the complete set. -/
def completing : PolicySet :=
  { standard with policies := [{ Policy.advanced with requiresCompleteSet := true }] }

/-- A rule for repayments with entries of these names, all at the order value 1. -/
def repaymentsOf (index : Nat) (slots : List (Resolution Slot)) : AssembledRule where
  index := index
  transactionType := some (.found .repayment)
  futureRule := some (.found .nextInstallment)
  slots := slots.zipIdx.map fun (slot, position) => ⟨.one, slot, position⟩

/-- An unknown name neither takes the place of a slot nor goes with all of them. -/
theorem complete_set_judged_exactly_unknownName :
    let whole := repaymentsOf 0 (Slot.all.reverse.map .found)
    let replaced := repaymentsOf 1 (.notFound "BOGUS" :: Slot.all.tail.map .found)
    let added := repaymentsOf 2 (.notFound "BOGUS" :: Slot.all.map .found)
    ((completing.validator.findings [whole, replaced, added]
        (some "advanced-payment-allocation-strategy")).filter (·.IsIncompleteSet)).map
          (fun finding => (finding.field, finding.value)) =
      [("paymentAllocation[1].paymentAllocationOrder", some "PAST_DUE_PENALTY"),
        ("paymentAllocation[2].paymentAllocationOrder", some "")] := by
  intro whole replaced added
  have judged (rule : AssembledRule) := @complete_set_judged_exactly completing
    (some "advanced-payment-allocation-strategy") (by decide) (by decide) rule
  obtain ⟨silent, -, -, -, each⟩ := judged whole
  obtain ⟨-, -, missing, -, -⟩ := judged replaced
  obtain ⟨-, -, surplus, -, -⟩ := judged added
  rw [each, List.flatMap_cons, List.flatMap_cons, List.flatMap_singleton,
    silent.2 (by decide +kernel), missing (by decide +kernel), surplus (by decide +kernel)]
  decide +kernel

end PolicySet

end PaymentAllocation
