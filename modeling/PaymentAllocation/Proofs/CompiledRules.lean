import PaymentAllocation.Proofs.Acceptance

/-!
# The rules that come out

The rules that a policy set compiles are those that the requests ask for, the first of them with
the blocks of its base order where the topology is known. Their types are different, and include
all that the policy requires (`PolicySet.types_of_compile_eq_ok`), so that looking a type up finds
its only rule (`Compiled.ruleFor_eq_some_iff`).
-/

namespace PaymentAllocation

theorem Compiled.ruleFor_eq_some_iff {compiled : Compiled}
    (nodup : (compiled.rules.map (·.transactionType)).Nodup) {type : TransactionType}
    {rule : Rule} :
    compiled.ruleFor type = some rule ↔ rule ∈ compiled.rules ∧ rule.transactionType = type := by
  constructor
  · intro h
    exact ⟨List.mem_of_find?_eq_some h, by simpa using List.find?_some h⟩
  · rintro ⟨hrule, rfl⟩
    cases h : compiled.ruleFor rule.transactionType with
    | none => simpa using List.find?_eq_none.1 h rule hrule
    | some other =>
      have hother := List.mem_of_find?_eq_some h
      have same : other.transactionType = rule.transactionType := by simpa using List.find?_some h
      rw [List.inj_on_of_nodup_map nodup hother hrule same]

namespace PolicySet

variable {set : PolicySet} {code : Option String} {requests : List Request}
  {topology : Resolution Topology} {compiled : Compiled}

/-- Each rule that is compiled names a slot, and none twice. -/
theorem isProper_of_compile_eq_ok (h : set.compile requests topology code = .ok compiled) :
    ∀ rule ∈ compiled.rules, rule.IsProper := by
  obtain ⟨-, asks, -⟩ := Validator.compile_eq_ok_iff.1 h
  intro rule hrule
  obtain ⟨request, -, proper⟩ := exists_forall₂.2 ⟨_, asks.flip⟩ rule hrule
  exact proper

/-- The rules that are compiled are for different types, which suit the policy if it allows an
allocation at all. -/
theorem types_of_compile_eq_ok
    (h : set.compile requests topology code = .ok compiled) :
    (compiled.rules.map (·.transactionType)).Nodup ∧
      ((set.policyFor code).allowsAllocation = true →
        (set.policyFor code).SuitsTypes (compiled.rules.map (·.transactionType))) := by
  obtain ⟨silent, asks, -⟩ := Validator.compile_eq_ok_iff.1 h
  obtain ⟨rules, denotes, types⟩ :=
    exists_denotes_of_findings_eq_nil (List.append_eq_nil_iff.1 silent).2
  exact rules_eq_of_denotes denotes asks ▸ types

/-- Under a policy that allows allocations, requests that compile, the first one expanded, have
nothing wrong with them. -/
theorem forall₂_passes_of_compile_eq_ok (h : set.compile requests topology code = .ok compiled)
    (allows : (set.policyFor code).allowsAllocation = true) :
    List.Forall₂ (Request.Passes (set.policyFor code)) (Request.expandFirst topology requests).2
      compiled.rules := by
  obtain ⟨silent, asks, -⟩ := Validator.compile_eq_ok_iff.1 h
  have none := findings_eq_nil_iff.1 (List.append_eq_nil_iff.1 silent).2
  obtain ⟨rules, passes, -⟩ := (violations_eq_nil_iff_of_allows allows).1 none
  obtain rfl := rules_eq_of_denotes (passes.imp fun _ _ h => ⟨h.denotes, h.proper⟩) asks
  exact (forall₂_assemble_iff fun _ _ _ => Request.passes_ofRequest_iff).1 passes

/-- Each rule is what its request asks for, in full or by its base order. -/
theorem asksFor_of_compile_eq_ok (h : set.compile requests topology code = .ok compiled)
    {index : Nat} {request : Request} {rule : Rule} (hrequest : requests[index]? = some request)
    (hrule : compiled.rules[index]? = some rule) :
    if index = 0 ∧ topology.isFound then request.AsksForBlocks rule else request.AsksFor rule := by
  obtain ⟨-, asks, -⟩ := Validator.compile_eq_ok_iff.1 h
  have expanded : (Request.expandFirst topology requests).2[index]? =
      some (if index = 0 then request.expanded topology else request) := by
    rw [getElem?_expandFirst, hrequest, Option.map_some]
  obtain ⟨asks, -⟩ := forall₂_getElem? asks expanded hrule
  cases topology with
  | found t =>
    -- only here the request at index 0 is not what the caller wrote
    by_cases first : index = 0
    · rw [if_pos first] at asks
      rw [if_pos ⟨first, rfl⟩]
      exact Request.asksFor_expanded_iff.1 asks
    · rw [if_neg first] at asks
      rw [if_neg fun base => first base.1]
      exact asks
  | notFound text =>
    have unchanged : request.expanded (.notFound text) = request := rfl
    rw [unchanged, ite_self] at asks
    rw [if_neg fun base => Bool.false_ne_true base.2]
    exact asks

/-- **What a successful compilation means.** There is one rule for each request, with its type and
its future rule. The first rule has the blocks of the base order if the topology is known, with
three slots for each different name; all others have the slots named by ascending order value. The
rule for a type of transaction is the only one of that type, and all types that the policy requires
have one. -/
theorem compile_meaning {set : PolicySet} {requests : List Request}
    {topology : Resolution Topology} {code : Option String} {compiled : Compiled}
    (h : set.compile requests topology code = .ok compiled) :
    compiled.rules.length = requests.length ∧
      (∀ index request rule, requests[index]? = some request →
        compiled.rules[index]? = some rule →
          if index = 0 ∧ topology.isFound then
            request.AsksForBlocks rule ∧
              rule.slots.length = 3 * (request.entries.map (·.name)).toFinset.card
          else request.AsksFor rule) ∧
      (compiled.rules.map (·.transactionType)).Nodup ∧
      (∀ type rule, compiled.ruleFor type = some rule ↔
        rule ∈ compiled.rules ∧ rule.transactionType = type) ∧
      ((set.policyFor code).allowsAllocation = true →
        ∀ type ∈ (set.policyFor code).requiredTypes, (compiled.ruleFor type).isSome) := by
  obtain ⟨nodup, suits⟩ := types_of_compile_eq_ok h
  obtain ⟨-, asks, -⟩ := Validator.compile_eq_ok_iff.1 h
  have hlength : compiled.rules.length = requests.length :=
    asks.length_eq.symm.trans length_expandFirst
  refine ⟨hlength, ?_, nodup, fun type rule => Compiled.ruleFor_eq_some_iff nodup, ?_⟩
  · intro index request rule hrequest hrule
    have asks := asksFor_of_compile_eq_ok h hrequest hrule
    split_ifs at asks ⊢
    · exact ⟨asks, asks.length_slots⟩
    · exact asks
  · intro allows type htype
    obtain ⟨rule, hrule, rfl⟩ := List.mem_map.1 ((suits allows).required type htype)
    rw [(Compiled.ruleFor_eq_some_iff nodup).2 ⟨hrule, rfl⟩]
    rfl

/-- A base order that is out of sequence and repeats a component, beside a request that is taken as
it is. -/
def repeatedBase : List Request :=
  [⟨some "DEFAULT", some "NEXT_INSTALLMENT",
    [⟨.ofNat 2, "PRINCIPAL"⟩, ⟨.ofNat 1, "PENALTY"⟩, ⟨.ofNat 3, "PRINCIPAL"⟩]⟩,
  ⟨some "REPAYMENT", some "LAST_INSTALLMENT",
    [⟨.ofNat 2, "DUE_FEES"⟩, ⟨.ofNat 1, "PAST_DUE_FEES"⟩]⟩]

theorem compile_meaning_repeatedBase :
    ∃ compiled,
      standard.compile repeatedBase (.found .horizontal)
          (some "advanced-payment-allocation-strategy") = .ok compiled ∧
        compiled.rules =
          [⟨.default, .nextInstallment, Slot.blocks [.penalty, .principal]⟩,
          ⟨.repayment, .lastInstallment, [⟨.pastDue, .fees⟩, ⟨.due, .fees⟩]⟩] ∧
        compiled.rules.length = 2 ∧ (compiled.ruleFor .default).isSome := by
  have accepted : standard.compile repeatedBase (.found .horizontal)
      (some "advanced-payment-allocation-strategy") =
      .ok ⟨[⟨.default, .nextInstallment, Slot.blocks [.penalty, .principal]⟩,
        ⟨.repayment, .lastInstallment, [⟨.pastDue, .fees⟩, ⟨.due, .fees⟩]⟩],
        (Request.expandFirst (.found .horizontal) repeatedBase).1⟩ := by
    decide +kernel
  obtain ⟨hlength, -, -, -, required⟩ := compile_meaning accepted
  exact ⟨_, accepted, rfl, hlength, required (by decide) .default (by decide)⟩

end PolicySet

end PaymentAllocation
