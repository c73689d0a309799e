import PaymentAllocation.CommandLine.Arguments

/-!
# Usage

What is said to somebody who asks how the program is used, or who has not used it that way.
-/

namespace PaymentAllocation.CommandLine

/-- How the program is used. -/
def usage : String :=
  "Usage: payment-allocation [OPTIONS] COMMAND\n\n" ++
  "Commands:\n" ++
  "  compile COMMAND [-p, --policy FILE]      Compile the payment allocation of a loan product\n" ++
  "  expand ENTRIES... [-t, --topology NAME]  Show the expansion of a base order\n" ++
  "  vocabulary [KIND]                        List the names of a configuration\n" ++
  "  help [COMMAND]                           Show this text\n\n" ++
  "Options:\n" ++
  "  -f, --format NAME  How results are printed: table or json\n" ++
  "  -v, --verbose      Tell more\n" ++
  "  -h, --help         Show this text\n" ++
  "  -V, --version      Show the version\n"

/-- What is wrong with the arguments. -/
def Refusal.message : Refusal → String
  | unknownArgument => "unexpected argument"
  | invalidValue => "a value is missing or invalid"
  | unknownCommand => "unrecognized command"
  | missingArgument => "a required argument was not provided"
  | conflict => "an argument cannot be used multiple times"
  | surplusValue => "an argument takes no value"
  | missingCommand => "a command is required"
  | nothingGiven => "a command is required"
  | help => usage
  | version => "payment-allocation 0.1.0\n"

/-- What is printed in place of a result, and what is printed as an error. -/
def Refusal.report : Refusal → String × String
  | help => (message help, "")
  | version => (message version, "")
  | nothingGiven => ("", usage)
  | refusal => ("", "error: " ++ refusal.message ++ "\n\n" ++ usage)

end PaymentAllocation.CommandLine
