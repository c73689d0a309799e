import PaymentAllocation.CommandLine.Run
import PaymentAllocation.CommandLine.Usage

/-!
# The program

Takes the arguments, reads the files that they name, and prints the outcome of the run.
-/

namespace PaymentAllocation.CommandLine

/-- The reason why the system could not read a file. -/
def systemError : IO.Error → FileError
  | .noFileOrDirectory _ _ _ => .missing
  | .inappropriateType _ code _ => if code = 21 then .directory else .notDirectory
  | error@(.invalidArgument _ code _) => if code = 36 then .nameTooLong else .other (toString error)
  | error => .other (toString error)

/-- Reads a file of the system. -/
def readFile (path : String) : IO (Except FileError String) := do
  try
    return decodeFile (← IO.FS.readBinFile path)
  catch error => return .error (systemError error)

/-- The errors of a run, each below the one that it has caused. -/
def errorText : List String → String
  | [] => ""
  | [error] => line ("Error: " ++ error)
  | [error, cause] => line ("Error: " ++ error ++ "\n\nCaused by:\n    " ++ cause)
  | error :: causes =>
    line ("Error: " ++ error ++ "\n\nCaused by:") ++
      String.join (causes.zipIdx.map fun (cause, number) =>
        line ("    " ++ toString number ++ ": " ++ cause))

/-- Prints what belongs on the standard output and what belongs on the standard error. -/
def printBoth (output diagnostics : String) : IO Unit := do
  IO.eprint diagnostics
  IO.print output

end PaymentAllocation.CommandLine

open PaymentAllocation.CommandLine in
/-- Policies may also be named in the environment. -/
def main (arguments : List String) : IO UInt32 := do
  let policies ← IO.getEnv "PAYALLOC_POLICY"
  let environment := (policies.map fun path => ("policy", path)).toList
  match Invocation.ofArguments environment arguments with
  | .error refusal =>
    let (output, diagnostics) := refusal.report
    printBoth output diagnostics
    return refusal.exitCode.toUInt32
  | .ok invocation =>
    let contents ← invocation.task.files.mapM fun path => return (path, ← readFile path)
    let outcome := invocation.run fun path => (contents.lookup path).getD (.error .missing)
    printBoth outcome.output (outcome.diagnostics ++ errorText outcome.errors)
    return outcome.exitCode.toUInt32
