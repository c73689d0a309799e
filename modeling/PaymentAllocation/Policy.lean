import PaymentAllocation.Failure
import PaymentAllocation.Slot
import PaymentAllocation.Terms
import PaymentAllocation.Text.Blank

/-!
# Policies of repayment strategies

Which allocations a repayment strategy accepts is configuration.

* A `Policy` belongs to the code of a strategy. It says whether an allocation may be configured at
  all, which types of transaction need a rule, and which slots a rule must or must not name.
  `Policy.faults` are the ways in which a policy contradicts itself.
* A `PolicySet` holds the policies of some strategies and one for all others
  (`PolicySet.policyFor`). `PolicySet.register` puts a policy in the place of all that have its
  code, and `PolicySet.registerAll` goes on where a registration fails.
-/

namespace PaymentAllocation

/-! ## Policies -/

/-- What one repayment strategy accepts. -/
structure Policy where
  /-- The code of the strategy. -/
  code : String
  description : Option String
  /-- Whether an allocation may be configured at all. -/
  allowsAllocation : Bool
  /-- The types of transaction that need a rule. -/
  requiredTypes : List TransactionType
  /-- The slots that every rule must name. -/
  requiredSlots : List Slot
  /-- The slots that no rule may name. -/
  forbiddenSlots : List Slot
  /-- Whether every rule must name each slot exactly once. -/
  requiresCompleteSet : Bool
  deriving DecidableEq, Repr

namespace Policy

/-- The policy that accepts no allocation. -/
def closed (code : String) : Policy := ⟨code, none, false, [], [], [], false⟩

/-- The policy of the strategy made for payment allocation, which needs a default rule. -/
def advanced : Policy where
  code := "advanced-payment-allocation-strategy"
  description := some "Advanced payment allocation with due-state ordering"
  allowsAllocation := true
  requiredTypes := [.default]
  requiredSlots := []
  forbiddenSlots := []
  requiresCompleteSet := false

/-- The policy of strategies that have none of their own. -/
def fallback : Policy :=
  { closed "default" with
    description := some "Strategies without payment allocation support" }

/-- A way in which a policy contradicts itself. -/
inductive Fault
  /-- The code is blank. -/
  | noCode
  /-- A slot is both required and forbidden. -/
  | contradictory (slot : Slot)
  /-- All slots are required and some are forbidden. -/
  | incompletable
  /-- Types of transaction need a rule where none is allowed. -/
  | unallowable
  deriving DecidableEq, Repr

/-- The fault as a finding about the policy of that code. -/
def Fault.finding (code : String) : Fault → Finding
  | noCode => ⟨"code", "Strategy code cannot be empty", none, none⟩
  | contradictory slot =>
    ⟨"required_allocation_types", "Policy '" ++ code ++ "' both requires and forbids a slot",
      some "disjoint_required_forbidden", some slot.name⟩
  | incompletable =>
    ⟨"forbidden_allocation_types",
      "Policy '" ++ code ++ "' requires the complete set but forbids slots",
      some "disjoint_required_forbidden", none⟩
  | unallowable =>
    ⟨"required_transaction_types",
      "Policy '" ++ code ++
        "' requires transaction types but does not allow payment allocation",
      some "consistent_policy", none⟩

/-- All ways in which the policy contradicts itself. -/
def faults (policy : Policy) : List Fault :=
  (if (Text.trim policy.code.toList).isEmpty then [.noCode] else []) ++
    (policy.requiredSlots.filter (· ∈ policy.forbiddenSlots)).map .contradictory ++
    (if policy.requiresCompleteSet ∧ policy.forbiddenSlots ≠ [] then [.incompletable] else []) ++
    (if ¬policy.allowsAllocation ∧ policy.requiredTypes ≠ [] then [.unallowable] else [])

/-- The faults of the policy as findings that name its code. -/
def findings (policy : Policy) : List Finding :=
  policy.faults.map (Fault.finding policy.code)

/-- Fails with all findings about the policy. -/
def check (policy : Policy) : Except Failure Unit := Failure.ofFindings policy.findings

end Policy

/-! ## Policy sets -/

/-- The policies of some strategies and the one for all others. -/
structure PolicySet where
  fallback : Policy
  policies : List Policy
  deriving DecidableEq, Repr

namespace PolicySet

/-- The policies in force where none are given. -/
def standard : PolicySet := ⟨.fallback, [.advanced]⟩

/-- The first policy of that code; without a code, or without such a policy, the fallback. -/
def policyFor (set : PolicySet) (code : Option String) : Policy :=
  (code.bind fun code => set.policies.find? fun policy => policy.code = code).getD set.fallback

/-- The policy instead of all others of its code, at the end of the list, if it has no faults. -/
def register (set : PolicySet) (policy : Policy) : Except Failure PolicySet := do
  policy.check
  return { set with
    policies := set.policies.filter (fun other => other.code ≠ policy.code) ++ [policy] }

/-- The same as a change of the set in place. A failure undoes nothing, it only keeps the steps
behind it from being taken. -/
def registerInPlace (policy : Policy) : ExceptT Failure (StateM PolicySet) Unit := do
  policy.check
  modify fun set =>
    { set with policies := set.policies.filter fun other => other.code ≠ policy.code }
  modify fun set => { set with policies := set.policies ++ [policy] }

/-- What each of several registrations comes to, one after another, and the set that they leave. -/
def registerAll (set : PolicySet) : List Policy → List (Except Failure Unit) × PolicySet
  | [] => ([], set)
  | policy :: rest =>
    let (result, next) := (registerInPlace policy).run.run set
    let (results, last) := registerAll next rest
    (result :: results, last)

/-- The path of a listed policy. -/
def memberField (index : Nat) : String := "policies[" ++ toString index ++ "]"

/-- The finding that an earlier policy of the list has the code too. -/
def codeRepeated (index : Nat) (code : String) : Finding :=
  ⟨memberField index ++ ".code", "Duplicate strategy code", some "unique_strategy_code",
    some code⟩

/-- The findings about listed policies, the first of which has that index. `seen` are the codes
of the policies before it. -/
def memberFindings (index : Nat) (seen : List String) : List Policy → List Finding
  | [] => []
  | policy :: rest =>
    policy.findings.map (Finding.within (memberField index)) ++
      (if policy.code ∈ seen then [codeRepeated index policy.code] else []) ++
      memberFindings (index + 1) (policy.code :: seen) rest

/-- The findings about the fallback and then those about the listed policies. -/
def findings (set : PolicySet) : List Finding :=
  set.fallback.findings ++ memberFindings 0 [] set.policies

/-- Fails with all findings about the policies. -/
def check (set : PolicySet) : Except Failure Unit := Failure.ofFindings set.findings

end PolicySet

end PaymentAllocation
