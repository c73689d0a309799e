import PaymentAllocation.Proofs.Acceptance
import PaymentAllocation.Proofs.Expansions
import PaymentAllocation.Proofs.Origins
import PaymentAllocation.Proofs.Paths

/-!
# What a compilation reports

A compilation under the policies of a set reports its verdict (`PolicySet.reported_compile`): the
violations of a base order that is expanded, and then those of the assembled rules. Findings that
can only come from one check on one request are picked out of a report by looking at that check
alone (`PolicySet.filter_reported`).

From this follows which findings there are about order values. The caller's are reported once, by
the first of the two parts where a base order is expanded and by the second everywhere else. What
an expansion numbers anew is numbered as it should be, so it adds nothing
(`PolicySet.order_values_checked_once`).
-/

namespace PaymentAllocation

/-! ## Reports -/

/-- The findings that a compilation ends with; there are none if it succeeds. -/
def reported : Except Failure Compiled → List Finding
  | .ok _ => []
  | .error failure => failure.findings

theorem Failure.Carries.findings_eq {failure : Failure} {list : List Finding}
    (h : failure.Carries list) : failure.findings = list := by
  cases h <;> rfl

/-- The violations of the order values that an expansion replaces. -/
def baseViolations (topology : Resolution Topology) : List Request → List Violation
  | [] => []
  | first :: _ =>
    if topology.isFound then orderViolations 0 (first.entries.map (·.order)) else []

theorem origin_of_mem_baseViolations {topology : Resolution Topology} {requests : List Request}
    {violation : Violation} (h : violation ∈ baseViolations topology requests) :
    violation.origin? = some (0, .orders) := by
  cases requests with
  | nil => simp [baseViolations] at h
  | cons first rest =>
    rw [baseViolations] at h
    split_ifs at h
    · exact origin_of_mem_orderScan h
    · simp at h

namespace PolicySet

variable {set : PolicySet} {code : Option String} {requests : List Request}
  {topology : Resolution Topology}

/-- **A compilation reports its verdict.** -/
theorem reported_compile :
    reported (set.compile requests topology code) =
      set.validator.verdict requests topology code := by
  cases h : set.compile requests topology code with
  | ok compiled => exact (exists_compile_eq_ok_iff_verdict.1 ⟨compiled, h⟩).symm
  | error failure => exact (carries_of_compile_eq_error h).findings_eq

theorem verdict_eq_map_finding :
    set.validator.verdict requests topology code =
      (baseViolations topology requests ++
        violations (set.policyFor code) code
          (AssembledRule.assemble (Request.expandFirst topology requests).2)).map
        Violation.finding := by
  rw [List.map_append]
  cases requests with
  | nil => rfl
  | cons first rest => cases topology <;> rfl

/-- **Findings that only one check on one request can have are what it has found there**, the order
values that were replaced apart. -/
theorem filter_reported {p : Finding → Bool} {index : Nat} {check : Check} {request : Request}
    (allows : (set.policyFor code).allowsAllocation = true)
    (hp : ∀ v : Violation, p v.finding = true → v.origin? = some (index, check))
    (hrequest : requests[index]? = some request) :
    (reported (set.compile requests topology code)).filter p =
      ((baseViolations topology requests).map Violation.finding).filter p ++
        ((check.violations (set.policyFor code) (.ofRequest index
          (if index = 0 then request.expanded topology else request))).map
            Violation.finding).filter p := by
  have expanded : (Request.expandFirst topology requests).2[index]? =
      some (if index = 0 then request.expanded topology else request) := by
    rw [getElem?_expandFirst, hrequest, Option.map_some]
  simp only [reported_compile, verdict_eq_map_finding, List.map_append, List.filter_append,
    List.filter_map]
  rw [filter_violations (q := p ∘ Violation.finding) allows hp expanded]

end PolicySet

/-! ## Order values -/

/-- The finding is about the order values of the request at an index. -/
def Finding.IsAboutOrders (index : Nat) (finding : Finding) : Prop :=
  (finding.rule = some "unique_order" ∨ finding.rule = some "contiguous_order") ∧
    finding.field = orderField index

instance (index : Nat) : DecidablePred (Finding.IsAboutOrders index) := fun finding =>
  inferInstanceAs (Decidable ((finding.rule = some "unique_order" ∨
    finding.rule = some "contiguous_order") ∧ finding.field = orderField index))

theorem isAboutOrders_finding_iff {index : Nat} {violation : Violation} :
    violation.finding.IsAboutOrders index ↔ violation.origin? = some (index, .orders) := by
  cases violation <;>
    simp [Violation.finding, Finding.IsAboutOrders, Violation.origin?, orderField_inj]

theorem filter_isAboutOrders_orderViolations (index : Nat) (orders : List Order) :
    ((orderViolations index orders).map Violation.finding).filter (·.IsAboutOrders index) =
      (orderViolations index orders).map Violation.finding := by
  refine List.filter_eq_self.2 (List.forall_mem_map.2 fun v hv => ?_)
  rw [decide_eq_true_eq, isAboutOrders_finding_iff]
  exact origin_of_mem_orderScan hv

/-- The slots of the request can be numbered if it is a base order. A list of entries for which they
cannot does not fit in an address space of 64 bits. -/
def Request.IsNumberable (request : Request) : Prop :=
  3 * (request.entries.length : Int) < 0x8000000000000000

theorem violations_orders_ofRequest (policy : Policy) (index : Nat) (request : Request) :
    Check.orders.violations policy (.ofRequest index request) =
      orderViolations index (request.entries.map (·.order)) := by
  rw [Check.violations, AssembledRule.map_order_ofRequest]
  exact orderViolations_eq_of_perm index ((Entry.sorted_perm request.entries).map _)

/-- The numbers that an expansion gives are as they should be. -/
theorem orderViolations_expanded {request : Request} (numberable : request.IsNumberable)
    (index : Nat) (topology : Topology) :
    orderViolations index ((request.expanded (.found topology)).entries.map (·.order)) = [] := by
  have blocks := (Expansion.records_of_found request.entries topology).entries
  have fewer := length_eraseDups_le ((Entry.sorted request.entries).map (·.name))
  rw [List.length_map, (Entry.sorted_perm request.entries).length_eq] at fewer
  have numbers := blocks.orders (by rw [Request.IsNumberable] at numberable; omega)
  rw [orderViolations_eq_nil_iff, List.map_map, List.length_map, Request.expanded, blocks.length_eq]
  exact List.Perm.of_eq numbers

namespace PolicySet

variable {set : PolicySet} {code : Option String} {requests : List Request}
  {topology : Resolution Topology}

theorem filter_reported_orders (allows : (set.policyFor code).allowsAllocation = true) {index : Nat}
    {request : Request} (hrequest : requests[index]? = some request)
    (numberable : index = 0 → topology.isFound → request.IsNumberable) :
    (reported (set.compile requests topology code)).filter (·.IsAboutOrders index) =
      (orderViolations index (request.entries.map (·.order))).map Violation.finding := by
  have kept := filter_isAboutOrders_orderViolations index (request.entries.map (·.order))
  have origin (v : Violation) (hv : decide (v.finding.IsAboutOrders index) = true) :
      v.origin? = some (index, .orders) :=
    isAboutOrders_finding_iff.1 (of_decide_eq_true hv)
  rw [filter_reported allows origin hrequest, violations_orders_ofRequest]
  rcases eq_or_ne index 0 with rfl | later
  · obtain ⟨rest, rfl⟩ : ∃ rest, requests = request :: rest := by
      cases requests with
      | nil => simp at hrequest
      | cons first rest => exact ⟨rest, by simpa using hrequest⟩
    cases topology with
    | found t =>
      -- the caller's values are replaced, and those in their place have no violations
      have base : baseViolations (.found t) (request :: rest) =
          orderViolations 0 (request.entries.map (·.order)) := rfl
      rw [if_pos rfl, orderViolations_expanded (numberable rfl rfl), base, kept, List.map_nil,
        List.filter_nil, List.append_nil]
    | notFound text =>
      have base : baseViolations (.notFound text) (request :: rest) = [] := rfl
      have unchanged : request.expanded (.notFound text) = request := rfl
      rw [if_pos rfl, base, unchanged, kept, List.map_nil, List.filter_nil, List.nil_append]
  · have elsewhere : ((baseViolations topology requests).map Violation.finding).filter
        (·.IsAboutOrders index) = [] := by
      refine List.filter_eq_nil_iff.2 (List.forall_mem_map.2 fun v hv => ?_)
      rw [decide_eq_true_eq, isAboutOrders_finding_iff, origin_of_mem_baseViolations hv]
      simpa using later.symm
    rw [if_neg later, elsewhere, kept, List.nil_append]

/-- **The caller's order values are checked once for each request, whatever the topology.** The
findings about them are those of the check on what the caller wrote, provided that a base order can
be numbered anew, and where that is not 1, 2, …, N in some sequence, compilation fails. -/
theorem order_values_checked_once {set : PolicySet} {code : Option String}
    (allows : (set.policyFor code).allowsAllocation = true) (requests : List Request)
    (topology : Resolution Topology) :
    (∀ index request, requests[index]? = some request →
        (index = 0 → topology.isFound → request.IsNumberable) →
          (reported (set.compile requests topology code)).filter (·.IsAboutOrders index) =
            (orderViolations index (request.entries.map (·.order))).map Violation.finding) ∧
      ((∃ request ∈ requests, Misnumbered (request.entries.map (·.order.value))) →
        ∃ failure, set.compile requests topology code = .error failure) := by
  refine ⟨fun index request => filter_reported_orders allows, ?_⟩
  rintro ⟨request, hrequest, misnumbered⟩
  cases h : set.compile requests topology code with
  | error failure => exact ⟨failure, rfl⟩
  | ok compiled =>
    have perm := (Request.isNumbered_iff.1 (isNumbered_of_compile_eq_ok h request hrequest)).2
    rw [misnumbered_iff, List.length_map] at misnumbered
    exact absurd perm misnumbered

/-- A base order that repeats an order value and leaves out others. -/
def misnumberedBase : List Request :=
  [⟨some "DEFAULT", some "NEXT_INSTALLMENT",
    [⟨.ofNat 1, "PENALTY"⟩, ⟨.ofNat 7, "PRINCIPAL"⟩, ⟨.ofNat 1, "INTEREST"⟩]⟩]

theorem order_values_checked_once_misnumberedBase :
    (reported (standard.compile misnumberedBase (.found .horizontal)
        (some "advanced-payment-allocation-strategy"))).filter (·.IsAboutOrders 0) =
      [⟨"paymentAllocation[0].paymentAllocationOrder", "Order value is used more than once",
          some "unique_order", some "1"⟩,
        ⟨"paymentAllocation[0].paymentAllocationOrder",
          "Order values must be consecutive from 1; expected 2", some "contiguous_order",
          some "7"⟩] ∧
      ∃ failure, standard.compile misnumberedBase (.found .horizontal)
        (some "advanced-payment-allocation-strategy") = .error failure := by
  obtain ⟨checked, rejected⟩ := @order_values_checked_once standard
    (some "advanced-payment-allocation-strategy") (by decide) misnumberedBase (.found .horizontal)
  refine ⟨(checked 0 _ rfl fun _ _ => ?_).trans (by decide +kernel), rejected ⟨_, .head _, ?_⟩⟩
  · simp [Request.IsNumberable]
  · exact .repeated (by decide)

end PolicySet

end PaymentAllocation
