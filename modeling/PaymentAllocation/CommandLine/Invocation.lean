import PaymentAllocation.CommandLine.Arguments
import PaymentAllocation.CommandLine.Listing

/-!
# Invocations

What the program can be asked to do (`Invocation`) and how the arguments on its command line ask
for it (`Invocation.ofArguments`):

* `compile COMMAND` compiles the command in a file, with the policies of `--policy FILE` or of the
  environment;
* `expand ENTRIES` shows the expansion of a base order for `--topology NAME`;
* `vocabulary KIND` lists one vocabulary or all.

`--format NAME` and `--verbose` may stand before and after the name of the command. Behind it
they count more.
-/

namespace PaymentAllocation.CommandLine

/-- How results are printed. -/
inductive Layout
  | table
  | json
  deriving DecidableEq, Repr

/-- The layout that is chosen by a name. -/
def Layout.ofName? (text : String) : Option Layout :=
  if text = "table" then some table else if text = "json" then some json else none

/-- What the program is asked to do. -/
inductive Task
  /-- To compile the command in a file, with the policies in another one or the standard ones. -/
  | compile (command : String) (policies : Option String)
  /-- To expand a base order that is written in shorthand. -/
  | expand (topology : String) (entries : List String)
  /-- To list a vocabulary, or all of them. -/
  | list (listing : Option Listing)
  deriving DecidableEq, Repr

/-- The files whose contents the task asks for. -/
def Task.files : Task → List String
  | compile command policies => command :: policies.toList
  | _ => []

/-- A task, and how its result is printed. -/
structure Invocation where
  layout : Layout
  /-- Whether the program is to tell more about what it does. -/
  verbose : Bool
  task : Task
  deriving DecidableEq, Repr

/-! ## Grammars -/

/-- The options that may stand everywhere. -/
def commonSettings : List Setting :=
  [⟨"format", 'f', .value fun text => (Layout.ofName? text).isSome⟩,
    ⟨"verbose", 'v', .flag⟩,
    ⟨"help", 'h', .stop .help⟩,
    ⟨"version", 'V', .stop .version⟩]

/-- The names of the commands. -/
def commandNames : List String := ["compile", "expand", "vocabulary", "help"]

/-- The arguments before the name of a command. -/
def outerGrammar : Grammar := ⟨commonSettings, [], commandNames⟩

/-- The arguments of `compile`: the file of a command, and an option for a file of policies. Neither
path may be empty. -/
def compileGrammar : Grammar :=
  ⟨⟨"policy", 'p', .value (· ≠ "")⟩ :: commonSettings, [⟨"command", (· ≠ ""), false, true⟩], []⟩

/-- The arguments of `expand`: at least one entry in shorthand, and an option for a topology. -/
def expandGrammar : Grammar :=
  ⟨⟨"topology", 't', .value fun _ => true⟩ :: commonSettings,
    [⟨"entries", fun _ => true, true, true⟩], []⟩

/-- The arguments of `vocabulary`: at most one name of a vocabulary. -/
def vocabularyGrammar : Grammar :=
  ⟨commonSettings, [⟨"kind", fun text => (Listing.ofName? text).isSome, false, false⟩], []⟩

/-! ## From arguments to invocations -/

/-- What comes of a request for help about a command. -/
def helpAbout : List String → Refusal
  | [] => .help
  | [name] => if name ∈ commandNames then .help else .unknownCommand
  | _ => .unknownCommand

/-- Reads the arguments after the name of a command. -/
def readInner (grammar : Grammar) (environment : List (String × String))
    (arguments : List String) : Except Refusal Reading := do
  let (reading, _) ← scan grammar {} arguments
  finish grammar environment reading

/-- The task that is asked for by the name of a command and the arguments after it, with all that
these arguments give. -/
def readTask (environment : List (String × String)) (name : String) (arguments : List String) :
    Except Refusal (Task × Reading) := do
  if name = "compile" then
    let reading ← readInner compileGrammar environment arguments
    return (.compile ((reading.value? "command").getD "") (reading.value? "policy"), reading)
  else if name = "expand" then
    let reading ← readInner expandGrammar environment arguments
    return (.expand ((reading.value? "topology").getD Topology.horizontal.name)
      (reading.values "entries"), reading)
  else if name = "vocabulary" then
    let reading ← readInner vocabularyGrammar environment arguments
    return (.list ((reading.value? "kind").bind Listing.ofName?), reading)
  else
    throw (helpAbout arguments)

/-- The invocation that arguments ask for. The environment gives values to options by their
names. What follows the name of a command is read before the options in front of it are
checked. -/
def Invocation.ofArguments (environment : List (String × String)) (arguments : List String) :
    Except Refusal Invocation := do
  match ← scan outerGrammar {} arguments with
  | (outer, none) =>
    let outer ← outer.settle
    throw (if outer.given.isEmpty then .nothingGiven else .missingCommand)
  | (outer, some (name, rest)) =>
    let (task, inner) ← readTask environment name rest
    let outer ← outer.settle
    let format := (inner.value? "format").or (outer.value? "format")
    return {
      layout := (format.bind Layout.ofName?).getD .table
      verbose := inner.isGiven "verbose" || outer.isGiven "verbose"
      task }

end PaymentAllocation.CommandLine
