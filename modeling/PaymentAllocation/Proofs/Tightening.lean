import Mathlib.Data.List.Flatten
import PaymentAllocation.Proofs.Acceptance

/-!
# Tighter policies

A policy is tightened by requiring and forbidding more (`Policy.IsTightenedBy`). No check looks away
because of what another one found, so all that is found under a policy is found, in the same
sequence, under a tighter one: on a rule (`ruleViolations_sublist`), across rules
(`typeViolations_sublist`) and hence altogether. What the tighter policy accepts is accepted without
the tightening too, and compiles to the same rules (`PolicySet.tightening_only_adds`).
-/

namespace PaymentAllocation

/-- The other policy of the same strategy requires and forbids at least as much. Both allow an
allocation. -/
structure Policy.IsTightenedBy (policy tighter : Policy) : Prop where
  code : tighter.code = policy.code
  allows : policy.allowsAllocation = true
  stillAllows : tighter.allowsAllocation = true
  requiredTypes : policy.requiredTypes.Sublist tighter.requiredTypes
  requiredSlots : policy.requiredSlots.Sublist tighter.requiredSlots
  forbiddenSlots : policy.forbiddenSlots.Sublist tighter.forbiddenSlots
  completeSet : policy.requiresCompleteSet = true → tighter.requiresCompleteSet = true

section Violations

variable {policy tighter : Policy}

/-! ## Checks on one rule -/

theorem policyViolations_sublist (h : policy.IsTightenedBy tighter) (rule : AssembledRule) :
    (policyViolations policy rule).Sublist (policyViolations tighter rule) := by
  simp only [policyViolations, h.code]
  refine (((h.forbiddenSlots.filter _).map _).append ((h.requiredSlots.filter _).map _)).append ?_
  split_ifs with incomplete incomplete'
  · exact List.Sublist.refl _
  · exact absurd ⟨h.completeSet incomplete.1, incomplete.2⟩ incomplete'
  · exact List.nil_sublist _
  · exact List.nil_sublist _

/-- Only the last check on a rule looks at the policy. -/
theorem ruleViolations_sublist (h : policy.IsTightenedBy tighter) (rule : AssembledRule) :
    (ruleViolations policy rule).Sublist (ruleViolations tighter rule) :=
  (List.Sublist.refl _).append (policyViolations_sublist h rule)

/-! ## Checks across rules -/

theorem typeViolations_sublist (h : policy.IsTightenedBy tighter) (list : List AssembledRule) :
    (typeViolations policy list).Sublist (typeViolations tighter list) := by
  rw [typeViolations, typeViolations, h.code]
  exact (List.Sublist.refl _).append ((h.requiredTypes.filter _).map _)

/-- **What is found under a policy is found under a tighter one.** -/
theorem violations_sublist (h : policy.IsTightenedBy tighter) (code code' : Option String)
    (list : List AssembledRule) :
    (violations policy code list).Sublist (violations tighter code' list) := by
  rw [violations, violations, if_pos h.allows, if_pos h.stillAllows]
  exact (List.Sublist.flatMap_right list fun rule _ => ruleViolations_sublist h rule).append
    (typeViolations_sublist h list)

end Violations

namespace PolicySet

variable {set tighter : PolicySet} {code code' : Option String}

theorem findings_sublist (h : (set.policyFor code).IsTightenedBy (tighter.policyFor code'))
    (list : List AssembledRule) :
    (set.validator.findings list code).Sublist (tighter.validator.findings list code') :=
  (violations_sublist h code code' list).map Violation.finding

/-- The order values of a base order are checked under no policy. -/
theorem verdict_sublist (h : (set.policyFor code).IsTightenedBy (tighter.policyFor code'))
    (requests : List Request) (topology : Resolution Topology) :
    (set.validator.verdict requests topology code).Sublist
      (tighter.validator.verdict requests topology code') :=
  (List.Sublist.refl _).append (findings_sublist h _)

/-- **Tightening a policy only adds findings.** Those about any assembled rules are, in sequence,
among those under the tighter policy, and whatever is compiled under the tighter policy is compiled
to the same rules without the tightening. -/
theorem tightening_only_adds (h : (set.policyFor code).IsTightenedBy (tighter.policyFor code')) :
    (∀ list : List AssembledRule, (set.validator.findings list code).Sublist
        (tighter.validator.findings list code')) ∧
      ∀ (requests : List Request) (topology : Resolution Topology) (compiled : Compiled),
        tighter.compile requests topology code' = .ok compiled →
          set.compile requests topology code = .ok compiled := by
  refine ⟨findings_sublist h, fun requests topology compiled compiles => ?_⟩
  obtain ⟨silent, asks, hexpansion⟩ := Validator.compile_eq_ok_iff.1 compiles
  have silent' : set.validator.verdict requests topology code = [] :=
    List.sublist_nil.1 (silent ▸ verdict_sublist h requests topology)
  exact Validator.compile_eq_ok_iff.2 ⟨silent', asks, hexpansion⟩

/-- The standard policies with all slots required and a rule for repayments. -/
def demanding : PolicySet :=
  { standard with
    policies := [{ Policy.advanced with
      requiredTypes := [.repayment, .default]
      requiredSlots := [⟨.due, .fee⟩]
      requiresCompleteSet := true }] }

/-- A rule for refunds whose only slot stands at the order value 2. -/
def lateRefunds : List AssembledRule :=
  AssembledRule.assemble
    [⟨some "PAYOUT_REFUND", some "NEXT_INSTALLMENT", [⟨.ofNat 2, "DUE_AVAL"⟩]⟩]

/-- Base order and full order of all components. -/
def fullRequests : List Request :=
  [⟨some "DEFAULT", some "REAMORTIZATION",
      Entry.number ((Vocabulary.all : List Component).map Component.name)⟩,
    ⟨some "REPAYMENT", some "NEXT_INSTALLMENT", Entry.number (Slot.all.map Slot.name)⟩]

theorem tightening_only_adds_demanding :
    let code := some "advanced-payment-allocation-strategy"
    (standard.validator.findings lateRefunds code).map (·.rule) =
        [some "contiguous_order", some "required_transaction_type"] ∧
      (demanding.validator.findings lateRefunds code).map (·.rule) =
        [some "contiguous_order", some "required_allocation_type",
          some "complete_allocation_set", some "required_transaction_type",
          some "required_transaction_type"] ∧
      (standard.validator.findings lateRefunds code).Sublist
        (demanding.validator.findings lateRefunds code) ∧
      ∃ compiled, demanding.compile fullRequests (.found .vertical) code = .ok compiled ∧
        standard.compile fullRequests (.found .vertical) code = .ok compiled := by
  intro code
  obtain ⟨adds, accepts⟩ := @tightening_only_adds standard demanding code code (by
    constructor <;> decide)
  have silent : demanding.validator.verdict fullRequests (.found .vertical) code = [] := by
    decide +kernel
  obtain ⟨compiled, compiles⟩ := exists_compile_eq_ok_iff_verdict.2 silent
  exact ⟨by decide +kernel, by decide +kernel, adds lateRefunds, compiled, compiles,
    accepts _ _ _ compiles⟩

end PolicySet

end PaymentAllocation
