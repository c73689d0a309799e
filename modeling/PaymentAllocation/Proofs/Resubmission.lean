import PaymentAllocation.Proofs.CompiledRules
import PaymentAllocation.Proofs.UnknownComponents

/-!
# Compiled rules as requests

A compiled rule can be written as a request again (`Rule.toRequest`): it is one that has nothing
wrong with it, and it asks for the rule that it was made from (`Rule.passes_toRequest`). So compiled
rules are accepted again where nothing is expanded, and come out as they are.

Where the topology is known, the first request is read as a base order. A slot is no component
(`isUnknownComponent_slot`), so none of the names that the expansion makes of it is known
(`PolicySet.compiled_rules_resubmitted`).
-/

namespace PaymentAllocation

/-! ## Rules as requests -/

namespace Rule

/-- The request that is written with the names of a rule, its slots numbered 1, 2, …, N. -/
def toRequest (rule : Rule) : Request where
  transactionType := some rule.transactionType.name
  futureRule := some rule.futureRule.name
  entries := Entry.number (rule.slots.map Slot.name)

variable {rule : Rule}

theorem sorted_entries_toRequest (rule : Rule) :
    (Entry.sorted rule.toRequest.entries).map (·.name) = rule.slots.map Slot.name := by
  rw [toRequest, Entry.sorted_number, Entry.map_name_number]

theorem asksFor_toRequest (rule : Rule) : rule.toRequest.AsksFor rule :=
  Request.asksFor_iff.2 ⟨rfl, rfl, (sorted_entries_toRequest rule).symm⟩

/-- What is written with the names of a rule has as little wrong with it as the rule. -/
theorem passes_toRequest {policy : Policy} (proper : rule.IsProper)
    (suits : policy.Suits {slot | slot ∈ rule.slots}) : rule.toRequest.Passes policy rule where
  asks := asksFor_toRequest rule
  proper := proper
  suits := suits
  orders := by
    have few := proper.length_le
    have all : Slot.all.length = 24 := rfl
    rw [toRequest, Entry.length_number, Entry.map_value_number]
    rw [List.length_map]
    omega

end Rule

/-! ## Slots are no components -/

theorem isUnknownComponent_slot (slot : Slot) : IsUnknownComponent slot.name := by
  have all : ∀ slot ∈ Slot.all, IsUnknownComponent slot.name := by decide
  exact all slot (Vocabulary.mem_all slot)

section Unknown

variable {slots : List Slot}

theorem filter_isUnknownComponent_slots (slots : List Slot) :
    (slots.map Slot.name).filter (IsUnknownComponent ·) = slots.map Slot.name := by
  refine List.filter_eq_self.2 (List.forall_mem_map.2 fun slot _ => ?_)
  exact decide_eq_true (isUnknownComponent_slot slot)

/-- Each slot has one finding in each due state. -/
theorem count_value_unknownFindings (nodup : slots.Nodup) {slot : Slot} (h : slot ∈ slots)
    (state : DueState) :
    ((unknownFindings (slots.map Slot.name)).map (·.value)).count
      (some (state.qualify slot.name)) = 1 := by
  have names : (slots.map Slot.name).Nodup := nodup.map Slot.name_injective
  rw [map_value_unknownFindings, filter_isUnknownComponent_slots]
  refine List.count_eq_one_of_mem ((nodup_qualified names).map (Option.some_injective _)) ?_
  exact List.mem_map_of_mem (qualify_mem_qualified (List.mem_map_of_mem h))

end Unknown

namespace PolicySet

variable {set : PolicySet} {code : Option String} {requests : List Request}
  {topology : Resolution Topology} {compiled : Compiled}

/-! ## What is compiled can be written again -/

/-- A compiled rule has nothing wrong with it. -/
theorem passes_of_compile_eq_ok (h : set.compile requests topology code = .ok compiled)
    (allows : (set.policyFor code).allowsAllocation = true) :
    ∀ rule ∈ compiled.rules, rule.toRequest.Passes (set.policyFor code) rule := by
  intro rule hrule
  obtain ⟨request, passed⟩ :=
    exists_forall₂.2 ⟨_, (forall₂_passes_of_compile_eq_ok h allows).flip⟩ rule hrule
  exact Rule.passes_toRequest passed.proper passed.suits

/-- Where no allocation is allowed, none is compiled. -/
theorem rules_eq_nil_of_disallows (h : set.compile requests topology code = .ok compiled)
    (disallows : (set.policyFor code).allowsAllocation = false) : compiled.rules = [] := by
  obtain ⟨silent, asks, -⟩ := Validator.compile_eq_ok_iff.1 h
  obtain rfl := eq_nil_of_verdict_eq_nil disallows silent
  exact List.forall₂_nil_left_iff.1 asks

theorem verdict_toRequest (h : set.compile requests topology code = .ok compiled)
    (text : String) :
    set.validator.verdict (compiled.rules.map Rule.toRequest) (.notFound text) code = [] := by
  cases allows : (set.policyFor code).allowsAllocation with
  | true =>
    have passes := passes_of_compile_eq_ok h allows
    rw [verdict_eq_nil_iff_of_notFound, violations_assemble_eq_nil_iff allows]
    refine ⟨compiled.rules.map (·.transactionType), ?_, (types_of_compile_eq_ok h).2 allows⟩
    rw [List.forall₂_map_left_iff, List.forall₂_map_right_iff, List.forall₂_same]
    exact fun rule hrule => ⟨rule, passes rule hrule, rfl⟩
  | false =>
    rw [rules_eq_nil_of_disallows h allows]
    exact verdict_nil_eq_nil_iff.2 (.inl allows)

/-- Nothing is expanded, so each rule is asked for by the request that was written for it. -/
theorem compile_toRequest (h : set.compile requests topology code = .ok compiled)
    (text : String) :
    ∃ compiled', set.compile (compiled.rules.map Rule.toRequest) (.notFound text) code =
        .ok compiled' ∧
      compiled'.rules = compiled.rules := by
  have proper := isProper_of_compile_eq_ok h
  have unchanged : (Request.expandFirst (.notFound text) (compiled.rules.map Rule.toRequest)).2 =
      compiled.rules.map Rule.toRequest := by
    cases compiled.rules <;> rfl
  refine ⟨⟨compiled.rules, _⟩, Validator.compile_eq_ok_iff.2 ⟨verdict_toRequest h text, ?_, rfl⟩,
    rfl⟩
  rw [unchanged, List.forall₂_map_left_iff, List.forall₂_same]
  exact fun rule hrule => ⟨Rule.asksFor_toRequest rule, proper rule hrule⟩

/-! ## What is compiled is no base order -/

/-- Where all requests but the first one pass, what is wrong with one is wrong with the first. -/
theorem index_of_mem_violations {policy : Policy} {first : Request} {rest : List Request}
    (allows : policy.allowsAllocation = true)
    (passes : ∀ request ∈ rest, ∃ rule, request.Passes policy rule) {violation : Violation}
    (h : violation ∈ violations policy code (AssembledRule.assemble (first :: rest)))
    {index : Nat} {check : Check} (origin : violation.origin? = some (index, check)) :
    index = 0 := by
  obtain ⟨request, hrequest, h⟩ := exists_request_of_mem_violations allows h origin
  cases index with
  | zero => rfl
  | succ i =>
    obtain ⟨rule, passed⟩ := passes request (List.mem_of_getElem? hrequest)
    have none : ruleViolations policy (.ofRequest (i + 1) request) = [] :=
      ruleViolations_eq_nil_iff.2 ⟨rule, Request.passes_ofRequest_iff.2 passed⟩
    rw [ruleViolations_eq_flatMap, List.flatMap_eq_nil_iff] at none
    rw [none check (by cases check <;> simp)] at h
    exact absurd h List.not_mem_nil

/-- Of what is written again only the first request is expanded, and only there are unknown
names. -/
theorem breaks_of_mem_reported {first : Request} {rest : List Request} {t : Topology}
    (allows : (set.policyFor code).allowsAllocation = true)
    (passes : ∀ request ∈ rest, ∃ rule, request.Passes (set.policyFor code) rule)
    {finding : Finding}
    (h : finding ∈ reported (set.compile (first :: rest) (.found t) code))
    (hrule : finding.rule = some "resolved_allocation_type") :
    finding.Breaks "resolved_allocation_type" 0 := by
  rw [reported_compile, verdict_eq_map_finding] at h
  obtain ⟨violation, hviolation, rfl⟩ := List.mem_map.1 h
  obtain ⟨index, position, text, rfl⟩ :
      ∃ index position text, violation = .slotUnknown index position text := by
    cases violation <;> simp_all [Violation.finding]
  have first : index = 0 := by
    -- the caller's order values have violations of their own, none of them about a name
    rcases List.mem_append.1 hviolation with hbase | hviolation
    · have origin := origin_of_mem_baseViolations hbase
      simp [Violation.origin?] at origin
    · exact index_of_mem_violations allows passes hviolation rfl
  subst first
  exact breaks_resolved_iff.2 ⟨position, text, rfl⟩

/-- Every slot of the first rule is unknown three times once it is read as a component. -/
theorem filter_reported_toRequest {first : Rule} {rest : List Rule} {t : Topology}
    (allows : (set.policyFor code).allowsAllocation = true) (proper : first.IsProper)
    (passes : ∀ rule ∈ rest, rule.toRequest.Passes (set.policyFor code) rule) :
    (reported (set.compile (first.toRequest :: rest.map Rule.toRequest) (.found t) code)).filter
        (·.rule = some "resolved_allocation_type") =
      unknownFindings (first.slots.map Slot.name) := by
  have names : ((Entry.sorted first.toRequest.entries).map (·.name)).eraseDups =
      first.slots.map Slot.name := by
    have nodup : (first.slots.map Slot.name).Nodup := proper.nodup.map Slot.name_injective
    rw [Rule.sorted_entries_toRequest, eraseDups_eq_self nodup]
  have others : ∀ request ∈ rest.map Rule.toRequest,
      ∃ rule, request.Passes (set.policyFor code) rule :=
    List.forall_mem_map.2 fun rule hrule => ⟨rule, passes rule hrule⟩
  -- nothing is left of the index in the rule of a finding, so the other requests must have none
  rw [← names, ← filter_reported_resolved allows]
  refine List.filter_congr fun finding h => decide_eq_decide.2 ⟨?_, And.left⟩
  exact breaks_of_mem_reported allows others h

/-- **Compiled rules can be submitted again where nothing is expanded, and nowhere else.** With an
unknown topology they are accepted as they are. With a known one the first of them is read as a base
order, and each of its slots is reported three times, since no name of a slot is the name of a
component. -/
theorem compiled_rules_resubmitted {set : PolicySet} {requests : List Request}
    {topology : Resolution Topology} {code : Option String} {compiled : Compiled}
    (h : set.compile requests topology code = .ok compiled) :
    (∀ text, ∃ compiled',
      set.compile (compiled.rules.map Rule.toRequest) (.notFound text) code = .ok compiled' ∧
        compiled'.rules = compiled.rules) ∧
      ∀ first ∈ compiled.rules.head?, ∀ t : Topology, ∃ failure,
        set.compile (compiled.rules.map Rule.toRequest) (.found t) code = .error failure ∧
          failure.findings.filter (·.rule = some "resolved_allocation_type") =
            unknownFindings (first.slots.map Slot.name) ∧
          (unknownFindings (first.slots.map Slot.name)).length = 3 * first.slots.length ∧
          ∀ slot ∈ first.slots, ∀ state : DueState,
            ((unknownFindings (first.slots.map Slot.name)).map (·.value)).count
              (some (state.qualify slot.name)) = 1 := by
  refine ⟨compile_toRequest h, fun first hfirst t => ?_⟩
  obtain ⟨rest, hrules⟩ := List.head?_eq_some_iff.1 hfirst
  have allows : (set.policyFor code).allowsAllocation = true := by
    by_contra disallows
    have none := rules_eq_nil_of_disallows h (eq_false_of_ne_true disallows)
    simp [hrules] at none
  have passes := passes_of_compile_eq_ok h allows
  rw [hrules] at passes
  obtain ⟨passed, passes⟩ := List.forall_mem_cons.1 passes
  have unknown := filter_reported_toRequest (t := t) allows passed.proper passes
  have hlength : (unknownFindings (first.slots.map Slot.name)).length =
      3 * first.slots.length := by
    rw [length_unknownFindings, filter_isUnknownComponent_slots, List.length_map]
  rw [hrules, List.map_cons]
  cases result : set.compile (first.toRequest :: rest.map Rule.toRequest) (.found t) code with
  | ok compiled' =>
    -- a rule has a slot, so that there is a finding
    have positive := List.length_pos_iff.2 passed.proper.nonempty
    rw [result] at unknown
    rw [← unknown] at hlength
    have none : 0 = 3 * first.slots.length := hlength
    omega
  | error failure =>
    rw [result] at unknown
    exact ⟨failure, rfl, unknown, hlength,
      fun slot hslot => count_value_unknownFindings passed.proper.nodup hslot⟩

theorem compiled_rules_resubmitted_repeatedBase :
    ∃ compiled compiled' failure,
      standard.compile repeatedBase (.found .horizontal)
          (some "advanced-payment-allocation-strategy") = .ok compiled ∧
        standard.compile (compiled.rules.map Rule.toRequest) (.notFound "DIAGONAL")
          (some "advanced-payment-allocation-strategy") = .ok compiled' ∧
        compiled'.rules = compiled.rules ∧
        standard.compile (compiled.rules.map Rule.toRequest) (.found .vertical)
          (some "advanced-payment-allocation-strategy") = .error failure ∧
        (failure.findings.filter (·.rule = some "resolved_allocation_type")).length = 18 := by
  have accepted : standard.compile repeatedBase (.found .horizontal)
      (some "advanced-payment-allocation-strategy") =
      .ok ⟨[⟨.default, .nextInstallment, Slot.blocks [.penalty, .principal]⟩,
        ⟨.repayment, .lastInstallment, [⟨.pastDue, .fees⟩, ⟨.due, .fees⟩]⟩],
        (Request.expandFirst (.found .horizontal) repeatedBase).1⟩ := by
    decide +kernel
  obtain ⟨again, base⟩ := compiled_rules_resubmitted accepted
  obtain ⟨compiled', accepted', same⟩ := again "DIAGONAL"
  obtain ⟨failure, rejected, unknown, hlength, -⟩ := base _ rfl .vertical
  refine ⟨_, compiled', failure, accepted, accepted', same, rejected, ?_⟩
  rw [unknown, hlength]
  rfl

end PolicySet

end PaymentAllocation
