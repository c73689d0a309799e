import PaymentAllocation.Expansion

/-!
# Requests and commands

The part of a loan product command that is about payment allocation, with all names as they were
written. A command holds one `Request` for each type of transaction. Only the first request is
read as a base order and expanded (`Request.expandFirst`).
-/

namespace PaymentAllocation

/-- The configuration for one type of transaction. -/
structure Request where
  transactionType : Option String
  futureRule : Option String
  entries : List Entry
  deriving DecidableEq, Repr

namespace Request

/-- A request that says nothing. -/
def empty : Request := ⟨none, none, []⟩

/-- Replaces the entries of the first request by their expansion; `none` if there is no request. -/
def expandFirst (topology : Resolution Topology) :
    List Request → Option Expansion × List Request
  | [] => (none, [])
  | first :: rest =>
    let expansion := Expansion.of first.entries topology
    (some expansion, { first with entries := expansion.entries } :: rest)

end Request

/-- What a loan product says about payment allocation. -/
structure Command where
  /-- The code of the strategy that processes repayments. -/
  strategyCode : Option String
  /-- The name of the topology. -/
  topologyName : Option String
  requests : List Request
  deriving DecidableEq, Repr

namespace Command

/-- A command that says nothing. -/
def empty : Command := ⟨none, none, []⟩

/-- The topology named, or the default where none is. -/
def topology (command : Command) : Resolution Topology :=
  match command.topologyName with
  | some name => .resolve name
  | none => .found default

end Command

end PaymentAllocation
