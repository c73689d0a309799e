import PaymentAllocation.Proofs.UnknownComponents

/-!
# Two checks for duplicates

Whether a rule repeats a slot is looked at twice: the validator looks at the entries of an assembled
rule, and the rule that is made of them is checked on its own. Each check walks a list of its own
and keeps its own account of what it has seen.

* `Rule.verdicts` are what both checks come to, in one sequence (`map_verdict_slotViolations`,
  `Rule.map_verdict_findings`); only paths and wordings differ.
* Under a policy that allows allocations, what only the check of names can report is what it reports
  of each assembled rule (`PolicySet.valuesOf_findings`).

So what the validator finds repeated or empty is what the rule on its own is found to repeat or to
lack (`PolicySet.duplicate_checks_agree`).
-/

namespace PaymentAllocation

/-! ## Verdicts -/

/-- What a finding says apart from its path and its wording: its rule and its value. -/
def Finding.verdict (finding : Finding) : Option String × Option String :=
  (finding.rule, finding.value)

/-- The values of the findings of a rule, in sequence. -/
def valuesOf (rule : String) (findings : List Finding) : List (Option String) :=
  (findings.filter (·.rule = some rule)).map (·.value)

section Values

variable {rule : String} {findings : List Finding}

theorem valuesOf_eq_verdicts (rule : String) (findings : List Finding) :
    valuesOf rule findings =
      ((findings.map Finding.verdict).filter (·.1 = some rule)).map Prod.snd := by
  rw [valuesOf, List.filter_map, List.map_map]
  rfl

theorem valuesOf_ne_nil_iff :
    valuesOf rule findings ≠ [] ↔ ∃ finding ∈ findings, finding.rule = some rule := by
  rw [valuesOf, Ne, List.map_eq_nil_iff, List.filter_eq_nil_iff]
  simp

end Values

/-! ## What both checks come to -/

/-- A rule without slots is empty, and each slot is repeated wherever it stands behind itself. -/
def Rule.verdicts (rule : Rule) : List (Option String × Option String) :=
  (if rule.slots = [] then [(some "non_empty_order", none)] else []) ++
    (laterOccurrences [] rule.slots).map fun slot =>
      (some "unique_allocation_type", some slot.name)

theorem Rule.map_verdict_findings (rule : Rule) :
    rule.findings.map Finding.verdict = rule.verdicts := by
  rw [findings, verdicts, List.map_append, List.map_map]
  simp only [List.isEmpty_iff]
  refine congrArg₂ (· ++ ·) ?_ rfl
  split_ifs <;> rfl

/-- Entries that stand for slots are found to repeat what the slots repeat, whatever was seen
before them. -/
theorem map_verdict_entryViolations {index : Nat} {seen slots : List Slot}
    {entries : List AssembledSlot} (h : entries.map (·.slot) = slots.map .found) :
    (entryViolations index seen entries).map (·.finding.verdict) =
      (laterOccurrences seen slots).map fun slot =>
        (some "unique_allocation_type", some slot.name) := by
  induction entries generalizing seen slots with
  | nil =>
    obtain rfl : slots = [] := List.map_eq_nil_iff.1 h.symm
    rfl
  | cons entry rest ih =>
    obtain ⟨slot, slots, rfl, hslot, hrest⟩ := List.map_eq_cons_iff.1 h.symm
    dsimp only at hslot
    rw [entryViolations, laterOccurrences, ← hslot]
    dsimp only
    split_ifs
    · rw [List.map_cons, List.map_cons, ih hrest.symm]
      rfl
    · exact ih hrest.symm

theorem map_verdict_slotViolations {assembled : AssembledRule} {rule : Rule}
    (h : assembled.Denotes rule) :
    ((slotViolations assembled).map Violation.finding).map Finding.verdict = rule.verdicts := by
  have empty : assembled.slots.isEmpty = true ↔ rule.slots = [] := by
    rw [List.isEmpty_iff, ← List.length_eq_zero_iff, h.length_slots, List.length_eq_zero_iff]
  rw [slotViolations_eq_append, Rule.verdicts, List.map_map, List.map_append,
    ← map_verdict_entryViolations h.slots]
  simp only [empty]
  refine congrArg₂ (· ++ ·) ?_ rfl
  split_ifs <;> rfl

/-- The rule is found to repeat the slots that stand behind themselves. -/
theorem Rule.valuesOf_findings (rule : Rule) :
    valuesOf "unique_allocation_type" rule.findings =
      (laterOccurrences [] rule.slots).map fun slot => some slot.name := by
  have repeated : rule.verdicts.filter (·.1 = some "unique_allocation_type") =
      (laterOccurrences [] rule.slots).map fun slot =>
        (some "unique_allocation_type", some slot.name) := by
    rw [verdicts, List.filter_append, List.filter_eq_nil_iff.2 (by split_ifs <;> simp),
      List.nil_append, List.filter_eq_self.2 (by simp)]
  rw [valuesOf_eq_verdicts, map_verdict_findings, repeated, List.map_map]
  rfl

/-- Each slot is found to be repeated as often as it occurs, but for the first time. -/
theorem Rule.count_valuesOf_findings (rule : Rule) (slot : Slot) :
    (valuesOf "unique_allocation_type" rule.findings).count (some slot.name) =
      rule.slots.count slot - 1 := by
  have injective : Function.Injective fun slot : Slot => some slot.name :=
    fun _ _ h => Slot.name_injective (Option.some.inj h)
  rw [rule.valuesOf_findings, List.count_map_of_injective _ _ injective, count_laterOccurrences]

/-! ## What the validator reports -/

/-- Where all settings and slots are known, there is a rule that they stand for. -/
theorem AssembledRule.exists_denotes {assembled : AssembledRule} {type : TransactionType}
    {future : FutureRule} (htype : assembled.transactionType = some (.found type))
    (hfuture : assembled.futureRule = some (.found future))
    (hslots : ∀ entry ∈ assembled.slots, entry.slot.isFound = true) :
    ∃ rule, assembled.Denotes rule := by
  refine ⟨⟨type, future, assembled.knownSlots⟩, htype, hfuture, ?_⟩
  rw [knownSlots, List.map_filterMap, ← List.filterMap_eq_map]
  refine List.filterMap_congr fun entry hentry => ?_
  obtain ⟨slot, hslot⟩ := Option.isSome_iff_exists.1 (hslots entry hentry)
  have found := Resolution.member?_eq_some_iff.1 hslot
  simp [found, Resolution.member?]

namespace PolicySet

variable {set : PolicySet} {code : Option String}

/-- What only the check of names can report, it reports of each rule in turn. -/
theorem valuesOf_findings (allows : (set.policyFor code).allowsAllocation = true) (name : String)
    (hname : ∀ v : Violation, v.finding.rule = some name →
      v.origin?.map Prod.snd = some Check.entries) (rules : List AssembledRule) :
    valuesOf name (set.validator.findings rules code) = rules.flatMap fun assembled =>
      valuesOf name ((slotViolations assembled).map Violation.finding) := by
  have origin (v : Violation) (h : decide (v.finding.rule = some name) = true) :
      v.origin?.map Prod.snd = some Check.entries := hname v (of_decide_eq_true h)
  rw [valuesOf, filter_findings_of_check allows origin, List.map_flatMap]
  rfl

/-- **A check of the rule on its own finds what the validator finds.** Let all settings and slots of
an assembled rule be known. Whatever other rules there are, the values that the validator reports as
repeated for it are those that the converted rule is found to repeat, in the same sequence, and each
slot is among them once less than it occurs. Either finds the order empty exactly if the other does,
so the rule on its own has findings exactly if the check of names has. -/
theorem duplicate_checks_agree (allows : (set.policyFor code).allowsAllocation = true)
    {assembled : AssembledRule} {type : TransactionType} {future : FutureRule}
    (htype : assembled.transactionType = some (.found type))
    (hfuture : assembled.futureRule = some (.found future))
    (hslots : ∀ entry ∈ assembled.slots, entry.slot.isFound = true) :
    ∃ rule, assembled.toRule = .ok rule ∧
      assembled.slots.map (·.slot) = rule.slots.map .found ∧
      valuesOf "unique_allocation_type" (set.validator.findings [assembled] code) =
        valuesOf "unique_allocation_type" rule.findings ∧
      (∀ before behind : List AssembledRule,
        valuesOf "unique_allocation_type"
            (set.validator.findings (before ++ assembled :: behind) code) =
          valuesOf "unique_allocation_type" (set.validator.findings before code) ++
            valuesOf "unique_allocation_type" rule.findings ++
            valuesOf "unique_allocation_type" (set.validator.findings behind code)) ∧
      (∀ slot : Slot, (valuesOf "unique_allocation_type" rule.findings).count (some slot.name) =
        (assembled.slots.map (·.slot)).count (.found slot) - 1) ∧
      ((∃ finding ∈ set.validator.findings [assembled] code,
          finding.rule = some "non_empty_order") ↔
        ∃ finding ∈ rule.findings, finding.rule = some "non_empty_order") ∧
      (rule.findings = [] ↔ slotViolations assembled = []) := by
  obtain ⟨rule, denotes⟩ := AssembledRule.exists_denotes htype hfuture hslots
  have verdicts : ((slotViolations assembled).map Violation.finding).map Finding.verdict =
      rule.findings.map Finding.verdict :=
    (map_verdict_slotViolations denotes).trans rule.map_verdict_findings.symm
  have alone (name : String) : valuesOf name ((slotViolations assembled).map Violation.finding) =
      valuesOf name rule.findings := by
    rw [valuesOf_eq_verdicts, valuesOf_eq_verdicts, verdicts]
  have repeated := valuesOf_findings allows "unique_allocation_type" fun v h => by
    cases v <;> simp_all [Violation.finding, Violation.origin?]
  have empty := valuesOf_findings allows "non_empty_order" fun v h => by
    cases v <;> simp_all [Violation.finding, Violation.origin?]
  have injective : Function.Injective (.found : Slot → Resolution Slot) :=
    fun _ _ => Resolution.found.inj
  refine ⟨rule, AssembledRule.toRule_eq_ok_iff.2 denotes, denotes.slots, ?_,
    fun before behind => ?_, fun slot => ?_, ?_, ?_⟩
  · rw [repeated, List.flatMap_singleton, alone]
  · rw [repeated, repeated, repeated, List.flatMap_append, List.flatMap_cons, alone,
      List.append_assoc]
  · rw [rule.count_valuesOf_findings, denotes.slots, List.count_map_of_injective _ _ injective]
  · rw [← valuesOf_ne_nil_iff, ← valuesOf_ne_nil_iff, empty, List.flatMap_singleton, alone]
  · have length := congrArg List.length verdicts
    simp only [List.length_map] at length
    rw [← List.length_eq_zero_iff, ← List.length_eq_zero_iff, length]

/-- An assembled rule that repeats one slot twice and another once. -/
def repeatedSlots : AssembledRule where
  index := 2
  transactionType := some (.found .default)
  futureRule := some (.found .nextInstallment)
  slots :=
    [⟨.one, .found ⟨.due, .fee⟩, 0⟩, ⟨.one, .found ⟨.due, .penalty⟩, 3⟩,
      ⟨.one, .found ⟨.due, .fee⟩, 1⟩, ⟨.ofNat 7, .found ⟨.due, .penalty⟩, 4⟩,
      ⟨.ofNat 9, .found ⟨.due, .fee⟩, 2⟩]

theorem duplicate_checks_agree_repeatedSlots :
    valuesOf "unique_allocation_type" (standard.validator.findings [repeatedSlots]
          (some "advanced-payment-allocation-strategy")) =
        [some "DUE_FEE", some "DUE_PENALTY", some "DUE_FEE"] ∧
      ∃ rule, repeatedSlots.toRule = .ok rule ∧
        (valuesOf "unique_allocation_type" rule.findings).count (some "DUE_FEE") = 2 ∧
        ¬∃ finding ∈ rule.findings, finding.rule = some "non_empty_order" := by
  obtain ⟨rule, converted, -, alone, -, count, empty, -⟩ :=
    @duplicate_checks_agree standard (some "advanced-payment-allocation-strategy") (by decide)
      repeatedSlots _ _ rfl rfl (by decide)
  obtain rfl : ⟨.default, .nextInstallment,
      [⟨.due, .fee⟩, ⟨.due, .penalty⟩, ⟨.due, .fee⟩, ⟨.due, .penalty⟩, ⟨.due, .fee⟩]⟩ = rule :=
    Except.ok.inj converted
  exact ⟨alone.trans (by decide), _, converted, count ⟨.due, .fee⟩, mt empty.2 (by decide)⟩

end PolicySet

end PaymentAllocation
