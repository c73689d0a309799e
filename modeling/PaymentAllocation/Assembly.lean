import PaymentAllocation.Request
import PaymentAllocation.Rule

/-!
# Assembled rules

An `AssembledRule` is a request with its names resolved and its entries sorted. Names that mean
nothing are kept as they were written, and every slot remembers where its entry stood, so that
findings can point at what the caller wrote.

* `AssembledRule.assemble` resolves all requests.
* `AssembledRule.toRule` turns an assembled rule into a `Rule` and fails at the first name that is
  missing or unknown.
* `AssembledRule.finish` does so for all of them, and checks each rule that comes out.
-/

namespace PaymentAllocation

/-! ## Paths of fields -/

/-- The path of a field of the request at an index. -/
def requestField (index : Nat) (name : String) : String :=
  "paymentAllocation[" ++ toString index ++ "]." ++ name

/-- The path of the entries of the request at an index. -/
def orderField (index : Nat) : String := requestField index "paymentAllocationOrder"

/-- The path of the name in the entry at a position. -/
def slotField (index position : Nat) : String :=
  requestField index
    ("paymentAllocationOrder[" ++ toString position ++ "].paymentAllocationRule")

/-! ## Assembly -/

/-- An entry with its name resolved. -/
structure AssembledSlot where
  order : Order
  slot : Resolution Slot
  /-- Where the entry stands in its request. -/
  position : Nat
  deriving DecidableEq, Repr

/-- A request with its names resolved. -/
structure AssembledRule where
  /-- Where the request stands in the command. -/
  index : Nat
  transactionType : Option (Resolution TransactionType)
  futureRule : Option (Resolution FutureRule)
  /-- The slots by ascending order value. -/
  slots : List AssembledSlot
  deriving DecidableEq, Repr

namespace AssembledRule

/-- Resolves the names of a request. -/
def ofRequest (index : Nat) (request : Request) : AssembledRule where
  index := index
  transactionType := request.transactionType.map Resolution.resolve
  futureRule := request.futureRule.map Resolution.resolve
  slots := sortBy (·.order.value) <| request.entries.zipIdx.map fun (entry, position) =>
    ⟨entry.order, .resolve entry.name, position⟩

/-- Resolves the names of all requests. -/
def assemble (requests : List Request) : List AssembledRule :=
  requests.zipIdx.map fun (request, index) => ofRequest index request

/-- The type of transaction, if it is there and known. -/
def transactionType? (rule : AssembledRule) : Option TransactionType :=
  rule.transactionType.bind Resolution.member?

/-- The slots whose names are known. -/
def knownSlots (rule : AssembledRule) : List Slot :=
  rule.slots.filterMap fun entry => entry.slot.member?

/-! ## Conversion -/

/-- The member behind a setting, which must be there and be known. -/
def required {α : Type} [Vocabulary α] (key : String) :
    Option (Resolution α) → Except Failure α
  | none => .error (.notFound key)
  | some resolution => resolution.get.mapError Failure.name

/-- The slots behind the entries; the first unknown name is an error. -/
def resolvedSlots : List AssembledSlot → Except Failure (List Slot)
  | [] => .ok []
  | entry :: rest => do
    let slot ← entry.slot.get.mapError Failure.name
    return slot :: (← resolvedSlots rest)

/-- The rule that was asked for; the first name that is missing or unknown is an error. -/
def toRule (rule : AssembledRule) : Except Failure Rule := do
  let transactionType ← required (requestField rule.index "transactionType") rule.transactionType
  let futureRule ←
    required (requestField rule.index "futureInstallmentAllocationRule") rule.futureRule
  return ⟨transactionType, futureRule, ← resolvedSlots rule.slots⟩

/-- The rules that were asked for, each checked on its own. The first failure ends it. -/
def finish : List AssembledRule → Except Failure (List Rule)
  | [] => .ok []
  | assembled :: rest => do
    let rule ← assembled.toRule
    rule.check
    return rule :: (← finish rest)

end AssembledRule

end PaymentAllocation
