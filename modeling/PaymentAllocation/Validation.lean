import PaymentAllocation.Assembly
import PaymentAllocation.Policy

/-!
# Validation of assembled rules

A `Validator` returns findings about assembled rules and about the order values of a base order.
The validator of a policy set (`PolicySet.validator`) collects `Violation`s:

* the settings of each rule must be there and be known,
* its entries must be there, be known and not repeat a slot (`slotViolations`),
* their order values must run 1, 2, …, N (`orderViolations`),
* its slots must suit the policy (`policyViolations`),
* and the rules together must be for different types of transaction, among them all that the
  policy requires (`typeViolations`).
-/

namespace PaymentAllocation

/-! ## Violations -/

/-- A way in which assembled rules break the structure of an allocation or the policy of a
strategy. Indices and positions say where in the command. -/
inductive Violation
  /-- The strategy with that code allows no allocation. -/
  | notAllowed (code : Option String)
  | typeMissing (index : Nat)
  | typeUnknown (index : Nat) (text : String)
  | futureRuleMissing (index : Nat)
  | futureRuleUnknown (index : Nat) (text : String)
  /-- The rule has no entries. -/
  | noEntries (index : Nat)
  | slotUnknown (index position : Nat) (text : String)
  | slotRepeated (index position : Nat) (slot : Slot)
  /-- An order value is used again. -/
  | orderRepeated (index : Nat) (order : Order)
  /-- An order value stands where `expected` should. -/
  | orderGap (index : Nat) (expected order : Order)
  | slotForbidden (index : Nat) (code : String) (slot : Slot)
  | slotRequired (index : Nat) (code : String) (slot : Slot)
  /-- The rule does not name each slot exactly once; `missing` are those that it does not name. -/
  | setIncomplete (index : Nat) (code : String) (missing : List Slot)
  /-- The type of transaction has a rule already, the one at `first`. -/
  | typeRepeated (index first : Nat) (type : TransactionType)
  | typeRequired (code : String) (type : TransactionType)
  deriving DecidableEq, Repr

namespace Violation

/-- The violation in words, with the path of its field. -/
def finding : Violation → Finding
  | notAllowed code =>
    ⟨"paymentAllocation", "Payment allocation is not supported by the repayment strategy",
      some "allocation_allowed", some (code.getD "<none>")⟩
  | typeMissing index =>
    ⟨requestField index "transactionType", "Transaction type is required", some "required", none⟩
  | typeUnknown index text =>
    ⟨requestField index "transactionType", "Unknown transaction type",
      some "resolved_transaction_type", some text⟩
  | futureRuleMissing index =>
    ⟨requestField index "futureInstallmentAllocationRule",
      "Future installment allocation rule is required", some "required", none⟩
  | futureRuleUnknown index text =>
    ⟨requestField index "futureInstallmentAllocationRule",
      "Unknown future installment allocation rule", some "resolved_future_installment_rule",
      some text⟩
  | noEntries index =>
    ⟨orderField index, "Payment allocation order cannot be empty", some "non_empty_order", none⟩
  | slotUnknown index position text =>
    ⟨slotField index position, "Unknown payment allocation type",
      some "resolved_allocation_type", some text⟩
  | slotRepeated index position slot =>
    ⟨slotField index position, "Payment allocation type appears more than once",
      some "unique_allocation_type", some slot.name⟩
  | orderRepeated index order =>
    ⟨orderField index, "Order value is used more than once", some "unique_order",
      some order.text⟩
  | orderGap index expected order =>
    ⟨orderField index, "Order values must be consecutive from 1; expected " ++ expected.text,
      some "contiguous_order", some order.text⟩
  | slotForbidden index code slot =>
    ⟨orderField index, "Allocation type is not permitted by strategy '" ++ code ++ "'",
      some "forbidden_allocation_type", some slot.name⟩
  | slotRequired index code slot =>
    ⟨orderField index, "Allocation type is required by strategy '" ++ code ++ "'",
      some "required_allocation_type", some slot.name⟩
  | setIncomplete index code missing =>
    ⟨orderField index,
      "Strategy '" ++ code ++ "' requires each of the " ++ toString Slot.all.length ++
        " allocation types exactly once",
      some "complete_allocation_set", some (",".intercalate (missing.map Slot.name))⟩
  | typeRepeated index first type =>
    ⟨requestField index "transactionType",
      "Transaction type already configured at paymentAllocation[" ++ toString first ++ "]",
      some "unique_transaction_type", some type.name⟩
  | typeRequired code type =>
    ⟨"paymentAllocation",
      "A rule for this transaction type is required by strategy '" ++ code ++ "'",
      some "required_transaction_type", some type.name⟩

end Violation

/-! ## Checks on one rule -/

/-- What is wrong with a setting that must be there and be known. -/
def settingViolations {α : Type} (missing : Violation) (unknown : String → Violation) :
    Option (Resolution α) → List Violation
  | none => [missing]
  | some (.notFound text) => [unknown text]
  | some (.found _) => []

/-- Entries whose names are unknown, or name a slot that is in `seen` or occurs earlier. -/
def entryViolations (index : Nat) (seen : List Slot) : List AssembledSlot → List Violation
  | [] => []
  | entry :: rest =>
    match entry.slot with
    | .notFound text =>
      .slotUnknown index entry.position text :: entryViolations index seen rest
    | .found slot =>
      if slot ∈ seen then
        .slotRepeated index entry.position slot :: entryViolations index seen rest
      else entryViolations index (slot :: seen) rest

/-- What is wrong with the names of the entries. -/
def slotViolations (rule : AssembledRule) : List Violation :=
  if rule.slots.isEmpty then [.noEntries rule.index]
  else entryViolations rule.index [] rule.slots

/-- Walks ascending order values: `previous` is the last one, and `expected` the one that should
come next unless the last one is repeated. -/
def orderScan (index : Nat) (expected : Order) (previous : Option Order) :
    List Order → List Violation
  | [] => []
  | order :: rest =>
    if previous = some order then
      .orderRepeated index order :: orderScan index expected previous rest
    else if order = expected then orderScan index order.next (some order) rest
    else .orderGap index expected order :: orderScan index order.next (some order) rest

/-- What is wrong with order values, which in ascending order must run 1, 2, …, N. -/
def orderViolations (index : Nat) (orders : List Order) : List Violation :=
  orderScan index .one none (sortBy Order.value orders)

/-- Where the slots of a rule do not suit a policy. -/
def policyViolations (policy : Policy) (rule : AssembledRule) : List Violation :=
  let present := rule.knownSlots
  let missing := Slot.all.filter (· ∉ present)
  (policy.forbiddenSlots.filter (· ∈ present)).map (.slotForbidden rule.index policy.code) ++
    (policy.requiredSlots.filter (· ∉ present)).map (.slotRequired rule.index policy.code) ++
    (if policy.requiresCompleteSet ∧ (missing ≠ [] ∨ rule.slots.length ≠ Slot.all.length) then
      [.setIncomplete rule.index policy.code missing]
    else [])

/-- All that is wrong with one rule. -/
def ruleViolations (policy : Policy) (rule : AssembledRule) : List Violation :=
  settingViolations (.typeMissing rule.index) (.typeUnknown rule.index) rule.transactionType ++
    settingViolations (.futureRuleMissing rule.index) (.futureRuleUnknown rule.index)
      rule.futureRule ++
    slotViolations rule ++
    orderViolations rule.index (rule.slots.map (·.order)) ++
    policyViolations policy rule

/-! ## Checks across rules -/

/-- Rules for a type of transaction that an earlier rule is for. `seen` says which types have a
rule so far and the index of the first one. -/
def repeatedTypeViolations (seen : List (TransactionType × Nat)) :
    List AssembledRule → List Violation
  | [] => []
  | rule :: rest =>
    match rule.transactionType? with
    | none => repeatedTypeViolations seen rest
    | some type =>
      match seen.lookup type with
      | some first => .typeRepeated rule.index first type :: repeatedTypeViolations seen rest
      | none => repeatedTypeViolations ((type, rule.index) :: seen) rest

/-- Types of transaction with more than one rule, and required ones without any. -/
def typeViolations (policy : Policy) (rules : List AssembledRule) : List Violation :=
  repeatedTypeViolations [] rules ++
    (policy.requiredTypes.filter (· ∉ rules.filterMap (·.transactionType?))).map
      (.typeRequired policy.code)

/-- All that is wrong with the rules of a strategy. Where the policy allows no allocation, nothing
else is looked at. -/
def violations (policy : Policy) (code : Option String) (rules : List AssembledRule) :
    List Violation :=
  if policy.allowsAllocation then
    rules.flatMap (ruleViolations policy) ++ typeViolations policy rules
  else if rules.isEmpty then []
  else [.notAllowed code]

/-! ## Validators -/

/-- The findings about the order values of a base order. -/
def baseOrderFindings (base : List Entry) : List Finding :=
  (orderViolations 0 (base.map (·.order))).map Violation.finding

/-- A judge of allocations. -/
structure Validator where
  /-- The findings about assembled rules under the strategy of a code. -/
  findings : List AssembledRule → Option String → List Finding
  /-- The findings about the order values that a caller gave to a base order. -/
  baseOrder : List Entry → List Finding := baseOrderFindings

/-- The validator that applies the policy of the strategy. -/
def PolicySet.validator (set : PolicySet) : Validator where
  findings rules code := (violations (set.policyFor code) code rules).map Violation.finding

end PaymentAllocation
