import PaymentAllocation.Validation

/-!
# Compilation

From requests to rules: the first request is expanded, all are assembled, the order values of the
base order and the assembled rules are validated, and only what has no finding is turned into
rules. `Validator.compile` does this with any validator; a set of policies compiles with its own
(`PolicySet.compile`).
-/

namespace PaymentAllocation

/-- What compilation yields. -/
structure Compiled where
  /-- One rule for each request, in their sequence. -/
  rules : List Rule
  /-- The expansion of the first request. -/
  expansion : Option Expansion
  deriving DecidableEq, Repr

/-- The rule for a type of transaction. -/
def Compiled.ruleFor (compiled : Compiled) (type : TransactionType) : Option Rule :=
  compiled.rules.find? fun rule => rule.transactionType = type

namespace Validator

/-- The findings about an expansion: only of a base order that was expanded are the caller's order
values lost to later checks. -/
def expansionFindings (validator : Validator) : Option Expansion → List Finding
  | none => []
  | some expansion =>
    if expansion.isExpanded then validator.baseOrder expansion.base else []

/-- The rules that the requests ask for, if the validator has no finding about them. -/
def compile (validator : Validator) (requests : List Request) (topology : Resolution Topology)
    (code : Option String) : Except Failure Compiled := do
  let (expansion, expanded) := Request.expandFirst topology requests
  let assembled := AssembledRule.assemble expanded
  Failure.ofFindings
    (validator.expansionFindings expansion ++ validator.findings assembled code)
  return ⟨← AssembledRule.finish assembled, expansion⟩

end Validator

namespace PolicySet

/-- The rules that the requests ask for under the policy of a strategy. -/
def compile (set : PolicySet) (requests : List Request) (topology : Resolution Topology)
    (code : Option String) : Except Failure Compiled :=
  set.validator.compile requests topology code

/-- The rules that a command asks for under the policy of its strategy. -/
def compileCommand (set : PolicySet) (command : Command) : Except Failure Compiled :=
  set.compile command.requests command.topology command.strategyCode

end PolicySet

end PaymentAllocation
