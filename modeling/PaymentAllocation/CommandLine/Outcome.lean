import PaymentAllocation.Failure

/-!
# Outcomes

What a run of the program prints and how it ends (`Outcome`). A run that fails names its reason
and what that reason comes from, the outermost first (`RunError.chain`).
-/

namespace PaymentAllocation.CommandLine

/-- Why a run fails. -/
inductive RunError
  /-- An argument is no entry in shorthand. -/
  | invalidEntry (text : String)
  /-- The requests of a command have that many findings. -/
  | rejected (count : Nat)
  /-- The file of a command cannot be read. -/
  | unreadable (path : String) (error : FileError)
  /-- The policies of a file cannot be used. -/
  | policies (path : String) (failure : Failure)
  /-- A command cannot be compiled. -/
  | failed (failure : Failure)
  deriving DecidableEq, Repr

/-- The message of a failure, and of what it comes from. -/
def failureChain (failure : Failure) : List String :=
  failure.message ::
    match failure with
    | .file error => [error.message]
    | _ => []

namespace RunError

/-- What is said of the error itself. What it comes from is told apart (`RunError.chain`). -/
def message : RunError → String
  | invalidEntry text =>
    "Invalid allocation entry: " ++ text ++ ". Use ORDER:NAME, e.g. 1:PENALTY."
  | rejected count =>
    "Payment allocation rejected with " ++ toString count ++ " validation error(s)"
  | unreadable path _ => "Failed to read " ++ path
  | policies path _ => "Failed to load policies from " ++ path
  | failed failure => failure.message

/-- The message, and below it the messages of what the error comes from. -/
def chain : RunError → List String
  | unreadable path error => [(unreadable path error).message, error.message]
  | policies path failure => (policies path failure).message :: failureChain failure
  | failed failure => failureChain failure
  | error => [error.message]

end RunError

/-- What a run prints and how it ends. -/
structure Outcome where
  /-- The results. -/
  output : String
  /-- Remarks on problems, apart from the results. Lines of the log are not among them, such as the
  warning that a topology is unknown. -/
  diagnostics : String
  /-- Why the run fails, if it does. -/
  error : Option RunError
  deriving DecidableEq, Repr

namespace Outcome

/-- A run that succeeds. -/
def success (output diagnostics : String) : Outcome := ⟨output, diagnostics, none⟩

/-- A run that fails without having printed anything. -/
def failure (error : RunError) : Outcome := ⟨"", "", some error⟩

/-- The status that the program ends with: 1 for a run that fails, and else 0. -/
def exitCode (outcome : Outcome) : Nat := if outcome.error.isSome then 1 else 0

/-- The messages of the error. -/
def errors (outcome : Outcome) : List String := (outcome.error.map RunError.chain).getD []

end Outcome

end PaymentAllocation.CommandLine
