import PaymentAllocation.Proofs.Compilation

/-!
# What the policies of strategies accept

With the validator of a policy set nothing is left for conversion to object to
(`exists_finish_eq_ok`), so requests are accepted exactly if there is no finding
(`exists_compile_eq_ok_iff_verdict`), and every failure carries the findings. `AreAcceptable` says
which requests there are no findings about, in terms of what is written in them
(`verdict_eq_nil_iff_areAcceptable`).
-/

namespace PaymentAllocation

namespace PolicySet

variable {set : PolicySet} {code : Option String} {requests : List Request}
  {topology : Resolution Topology}

/-! ## Findings and conversion -/

theorem findings_eq_nil_iff {list : List AssembledRule} :
    set.validator.findings list code = [] ↔ violations (set.policyFor code) code list = [] :=
  List.map_eq_nil_iff

/-- Assembled rules without findings denote proper rules, whose types suit the policy if it allows
an allocation at all. -/
theorem exists_denotes_of_findings_eq_nil {list : List AssembledRule}
    (h : set.validator.findings list code = []) :
    ∃ rules, List.Forall₂ (fun assembled rule => assembled.Denotes rule ∧ rule.IsProper)
        list rules ∧ (rules.map (·.transactionType)).Nodup ∧
      ((set.policyFor code).allowsAllocation = true →
        (set.policyFor code).SuitsTypes (rules.map (·.transactionType))) := by
  rw [findings_eq_nil_iff] at h
  cases allows : (set.policyFor code).allowsAllocation with
  | true =>
    obtain ⟨rules, passes, types⟩ := (violations_eq_nil_iff_of_allows allows).1 h
    exact ⟨rules, passes.imp fun _ _ h => ⟨h.denotes, h.proper⟩, types.nodup, fun _ => types⟩
  | false =>
    obtain rfl := (violations_eq_nil_iff_of_not_allows allows).1 h
    exact ⟨[], .nil, List.nodup_nil, by simp⟩

theorem exists_finish_eq_ok {list : List AssembledRule}
    (h : set.validator.findings list code = []) :
    ∃ rules, AssembledRule.finish list = .ok rules := by
  obtain ⟨rules, denotes, -⟩ := exists_denotes_of_findings_eq_nil h
  exact ⟨rules, AssembledRule.finish_eq_ok_iff.2 denotes⟩

theorem exists_compile_eq_ok_iff_verdict :
    (∃ compiled, set.compile requests topology code = .ok compiled) ↔
      set.validator.verdict requests topology code = [] := by
  rw [compile, Validator.exists_compile_eq_ok_iff]
  refine and_iff_left_of_imp fun silent => ?_
  obtain ⟨rules, hrules⟩ := exists_finish_eq_ok (List.append_eq_nil_iff.1 silent).2
  rw [← forall_mem_assemble_iff, exists_forall₂]
  exact ⟨rules, AssembledRule.finish_eq_ok_iff.1 hrules⟩

theorem carries_of_compile_eq_error {failure : Failure}
    (h : set.compile requests topology code = .error failure) :
    failure.Carries (set.validator.verdict requests topology code) := by
  rcases Validator.compile_eq_error_iff.1 h with carries | ⟨silent, -⟩
  · exact carries
  · obtain ⟨compiled, hcompiled⟩ := exists_compile_eq_ok_iff_verdict.2 silent
    simp [hcompiled] at h

/-- **Conversion cannot fail where the validator of a policy set has no finding.** So whatever a
compilation fails with is findings, and an unknown slot is always among their causes. -/
theorem conversion_cannot_fail (set : PolicySet) (code : Option String) :
    (∀ list, set.validator.findings list code = [] →
        ∃ rules, AssembledRule.finish list = .ok rules) ∧
      (∀ requests topology failure, set.compile requests topology code = .error failure →
        (∃ finding, failure = .invalid finding) ∨
          ∃ findings, failure = .manyInvalid findings ∧ 2 ≤ findings.length) ∧
      ∀ list : List AssembledRule,
        (∃ assembled ∈ list, ∃ entry ∈ assembled.slots, ∃ text, entry.slot = .notFound text) →
          set.validator.findings list code ≠ [] := by
  refine ⟨fun list => exists_finish_eq_ok, fun requests topology failure h => ?_, ?_⟩
  · obtain ⟨findings, carries⟩ : ∃ findings, failure.Carries findings :=
      ⟨_, carries_of_compile_eq_error h⟩
    cases carries with
    | one finding => exact .inl ⟨finding, rfl⟩
    | many several => exact .inr ⟨_, rfl, several⟩
  · rintro list ⟨assembled, hassembled, entry, hentry, text, htext⟩ silent
    obtain ⟨rules, denotes, -⟩ := exists_denotes_of_findings_eq_nil silent
    obtain ⟨rule, denotes, -⟩ := exists_forall₂.2 ⟨rules, denotes⟩ assembled hassembled
    have hmem : entry.slot ∈ assembled.slots.map (·.slot) := List.mem_map_of_mem hentry
    rw [denotes.slots, htext] at hmem
    simp at hmem

/-! ## Acceptance -/

/-- What a caller must write so that a policy accepts it. -/
structure AreAcceptable (policy : Policy) (topology : Resolution Topology)
    (requests : List Request) : Prop where
  /-- All types of transaction are known. They are different, and none that the policy requires is
  missing. -/
  types : ∃ types, requests.map (·.transactionType) = types.map (fun type => some type.name) ∧
    policy.SuitsTypes types
  futureRules : ∀ request ∈ requests,
    ∃ future : FutureRule, request.futureRule = some future.name
  /-- The order values of the caller, the base order included. -/
  numbered : ∀ request ∈ requests, request.IsNumbered
  base : topology.isFound → ∀ first ∈ requests.head?, first.IsSuitableBase policy
  slots : ∀ request ∈ (if topology.isFound then requests.tail else requests),
    request.IsSuitable policy

theorem forall₂_exists_passes_iff {policy : Policy} {types : List TransactionType} :
    List.Forall₂ (fun request type =>
        ∃ rule, Request.Passes policy request rule ∧ rule.transactionType = type) requests types ↔
      requests.map (·.transactionType) = types.map (fun type => some type.name) ∧
        ∀ request ∈ requests, (∃ future : FutureRule, request.futureRule = some future.name) ∧
          request.IsNumbered ∧ request.IsSuitable policy := by
  simp only [Request.exists_passes_iff, and_comm (a := _ = some _), List.forall₂_and_left]
  rw [← List.forall₂_eq_eq_eq, List.forall₂_map_left_iff, List.forall₂_map_right_iff, and_comm]

/-- Requests have no violations if each passes with a type of its own and the types suit. -/
theorem violations_assemble_eq_nil_iff {policy : Policy}
    (allows : policy.allowsAllocation = true) :
    violations policy code (AssembledRule.assemble requests) = [] ↔
      ∃ types, List.Forall₂ (fun request type =>
          ∃ rule, Request.Passes policy request rule ∧ rule.transactionType = type)
        requests types ∧ policy.SuitsTypes types := by
  simp only [violations_eq_nil_iff_of_allows allows,
    forall₂_assemble_iff fun _ _ _ => Request.passes_ofRequest_iff, ← exists_forall₂_map_eq]
  constructor
  · intro h
    obtain ⟨rules, passes, suits⟩ := h
    exact ⟨_, ⟨rules, passes, rfl⟩, suits⟩
  · intro h
    obtain ⟨_, ⟨rules, passes, rfl⟩, suits⟩ := h
    exact ⟨rules, passes, suits⟩

theorem verdict_eq_nil_iff_of_found {first : Request} {rest : List Request} {t : Topology} :
    set.validator.verdict (first :: rest) (.found t) code = [] ↔
      (first.entries.map (·.order.value)).Perm (consecutive 1 first.entries.length) ∧
        violations (set.policyFor code) code
          (AssembledRule.assemble (first.expanded (.found t) :: rest)) = [] := by
  have orders : set.validator.baseOrder first.entries = [] ↔
      (first.entries.map (·.order.value)).Perm (consecutive 1 first.entries.length) := by
    refine List.map_eq_nil_iff.trans ((orderViolations_eq_nil_iff 0 _).trans ?_)
    rw [List.map_map, List.length_map]
    rfl
  rw [← orders, ← findings_eq_nil_iff]
  exact List.append_eq_nil_iff

theorem verdict_eq_nil_iff_of_notFound {text : String} :
    set.validator.verdict requests (.notFound text) code = [] ↔
      violations (set.policyFor code) code (AssembledRule.assemble requests) = [] := by
  rw [← findings_eq_nil_iff]
  cases requests <;> exact Iff.rfl

theorem verdict_nil_eq_nil_iff :
    set.validator.verdict [] topology code = [] ↔
      (set.policyFor code).allowsAllocation = false ∨ (set.policyFor code).requiredTypes = [] := by
  refine findings_eq_nil_iff.trans ?_
  cases allows : (set.policyFor code).allowsAllocation <;>
    simp [Request.expandFirst, AssembledRule.assemble, violations, allows, typeViolations,
      repeatedTypeViolations]

/-- With a base order the first request counts twice: the caller's order values are checked before
the expansion, and everything else behind it. -/
theorem verdict_eq_nil_iff_areAcceptable_of_found {first : Request} {rest : List Request}
    {t : Topology} (allows : (set.policyFor code).allowsAllocation = true) :
    set.validator.verdict (first :: rest) (.found t) code = [] ↔
      AreAcceptable (set.policyFor code) (.found t) (first :: rest) := by
  rw [verdict_eq_nil_iff_of_found, violations_assemble_eq_nil_iff allows]
  constructor
  · rintro ⟨orders, _, _ | ⟨head, tail⟩, suits⟩
    obtain ⟨htype, hfuture, nonempty, base⟩ := Request.exists_passes_expanded_iff.1 head
    obtain ⟨htypes, hrest⟩ := forall₂_exists_passes_iff.1 tail
    have numbered : first.IsNumbered := Request.isNumbered_iff.2 ⟨nonempty, orders⟩
    refine ⟨⟨_, ?_, suits⟩, ?_, ?_, ?_, ?_⟩
    · rw [List.map_cons, List.map_cons, htypes, htype]
    · exact List.forall_mem_cons.2 ⟨hfuture, fun request h => (hrest request h).1⟩
    · exact List.forall_mem_cons.2 ⟨numbered, fun request h => (hrest request h).2.1⟩
    · intro _ request hrequest
      obtain rfl : first = request := by simpa using hrequest
      exact base
    · exact fun request h => (hrest request h).2.2
  · rintro ⟨⟨types, htypes, suits⟩, futures, numbered, base, slots⟩
    obtain ⟨hfuture, futures⟩ := List.forall_mem_cons.1 futures
    obtain ⟨hnumbered, numbered⟩ := List.forall_mem_cons.1 numbered
    obtain ⟨nonempty, orders⟩ := Request.isNumbered_iff.1 hnumbered
    refine ⟨orders, types, ?_, suits⟩
    cases types with
    | nil => simp at htypes
    | cons type types =>
      rw [List.map_cons, List.map_cons, List.cons.injEq] at htypes
      have suitable := base rfl first (by simp)
      refine .cons (Request.exists_passes_expanded_iff.2 ?_) (forall₂_exists_passes_iff.2 ?_)
      · exact ⟨htypes.1, hfuture, nonempty, suitable⟩
      · exact ⟨htypes.2, fun request h =>
          ⟨futures request h, numbered request h, slots request h⟩⟩

theorem verdict_eq_nil_iff_areAcceptable_of_notFound {text : String}
    (allows : (set.policyFor code).allowsAllocation = true) :
    set.validator.verdict requests (.notFound text) code = [] ↔
      AreAcceptable (set.policyFor code) (.notFound text) requests := by
  simp only [verdict_eq_nil_iff_of_notFound, violations_assemble_eq_nil_iff allows,
    forall₂_exists_passes_iff]
  constructor
  · rintro ⟨types, ⟨htypes, passes⟩, suits⟩
    refine ⟨⟨types, htypes, suits⟩, fun request h => (passes request h).1,
      fun request h => (passes request h).2.1, ?_, fun request h => (passes request h).2.2⟩
    rintro ⟨⟩
  · rintro ⟨⟨types, htypes, suits⟩, futures, numbered, -, slots⟩
    exact ⟨types, ⟨htypes, fun request h =>
      ⟨futures request h, numbered request h, slots request h⟩⟩, suits⟩

/-- **Under a policy that allows allocations there is no finding exactly if the requests are
acceptable.** -/
theorem verdict_eq_nil_iff_areAcceptable (allows : (set.policyFor code).allowsAllocation = true)
    (nonempty : requests ≠ []) :
    set.validator.verdict requests topology code = [] ↔
      AreAcceptable (set.policyFor code) topology requests := by
  cases topology with
  | found t =>
    obtain ⟨first, rest, rfl⟩ := List.exists_cons_of_ne_nil nonempty
    exact verdict_eq_nil_iff_areAcceptable_of_found allows
  | notFound text => exact verdict_eq_nil_iff_areAcceptable_of_notFound allows

theorem eq_nil_of_verdict_eq_nil (disallows : (set.policyFor code).allowsAllocation = false)
    (silent : set.validator.verdict requests topology code = []) : requests = [] := by
  have none := findings_eq_nil_iff.1 (List.append_eq_nil_iff.1 silent).2
  rw [violations_eq_nil_iff_of_not_allows disallows] at none
  have hlength := congrArg List.length none
  simpa [AssembledRule.assemble, length_expandFirst] using hlength

/-- The order values of every request that is accepted are 1, 2, …, N, so none is repeated. -/
theorem isNumbered_of_compile_eq_ok {compiled : Compiled}
    (h : set.compile requests topology code = .ok compiled) :
    ∀ request ∈ requests, request.IsNumbered := by
  have silent := exists_compile_eq_ok_iff_verdict.1 ⟨_, h⟩
  rcases eq_or_ne requests [] with rfl | nonempty
  · simp
  · cases allows : (set.policyFor code).allowsAllocation with
    | true => exact ((verdict_eq_nil_iff_areAcceptable allows nonempty).1 silent).numbered
    | false => exact absurd (eq_nil_of_verdict_eq_nil allows silent) nonempty

/-- **What a policy set accepts.** No requests are accepted if no allocation is allowed or none is
required, and others exactly if an allocation is allowed and they are acceptable. -/
theorem compile_succeeds_iff (set : PolicySet) (requests : List Request)
    (topology : Resolution Topology) (code : Option String) :
    (∃ compiled, set.compile requests topology code = .ok compiled) ↔
      (requests = [] ∧ ((set.policyFor code).allowsAllocation = false ∨
          (set.policyFor code).requiredTypes = [])) ∨
        (requests ≠ [] ∧ (set.policyFor code).allowsAllocation = true ∧
          AreAcceptable (set.policyFor code) topology requests) := by
  rw [exists_compile_eq_ok_iff_verdict]
  rcases eq_or_ne requests [] with rfl | nonempty
  · rw [verdict_nil_eq_nil_iff]
    simp
  · cases allows : (set.policyFor code).allowsAllocation with
    | true =>
      rw [verdict_eq_nil_iff_areAcceptable allows nonempty]
      simp [nonempty]
    | false =>
      have notSilent : set.validator.verdict requests topology code ≠ [] :=
        fun silent => nonempty (eq_nil_of_verdict_eq_nil allows silent)
      simp [notSilent, nonempty]

end PolicySet

end PaymentAllocation
