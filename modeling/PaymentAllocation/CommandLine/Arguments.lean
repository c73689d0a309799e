/-!
# Arguments of a command line

The arguments of a command are options, values without a name, and perhaps the name of a further
command, after which the rest belongs to that command. A `Grammar` says what there is, and `scan`
reads arguments by it:

* `--name value`, `--name=value`, `-n value`, `-n=value` and `-nvalue` give a value to an option,
  and flags can be bundled: `-ab`;
* after `--` all arguments are values without a name;
* an option that takes a value takes the next argument, unless that looks like an option;
* what an argument gives is checked when the next one needs it settled, so that a flaw found
  earlier may be reported later (`settle`).
-/

namespace PaymentAllocation.CommandLine

/-- Why arguments are not carried out. -/
inductive Refusal
  | unknownArgument
  /-- A value is missing or not one of those that are accepted. -/
  | invalidValue
  | unknownCommand
  | missingArgument
  /-- An option is given twice. -/
  | conflict
  /-- A value is given to a flag. -/
  | surplusValue
  | missingCommand
  /-- Nothing is given where a command is needed. -/
  | nothingGiven
  | help
  | version
  deriving DecidableEq, Repr

/-- The exit code: asking for help or for the version is no mistake. -/
def Refusal.exitCode : Refusal → Nat
  | help => 0
  | version => 0
  | _ => 2

/-! ## Grammars -/

/-- What an option does. -/
inductive Effect
  /-- It takes a value that must be accepted. -/
  | value (accepts : String → Bool)
  /-- It is given or not. -/
  | flag
  /-- It ends the reading at once. -/
  | stop (refusal : Refusal)

/-- An option: its name after two dashes, its letter after one, and what it does. -/
structure Setting where
  name : String
  letter : Char
  effect : Effect

/-- A value without a name. -/
structure Operand where
  name : String
  accepts : String → Bool
  /-- Whether more than one may be given. -/
  repeats : Bool
  required : Bool

/-- What the arguments of a command may be. -/
structure Grammar where
  settings : List Setting
  operands : List Operand
  /-- The names of further commands. -/
  commands : List String

/-! ## Reading -/

/-- The one of which the value is not checked yet. -/
inductive Subject
  | setting (name : String) (accepts : String → Bool)
  | operand (name : String) (accepts : String → Bool)

/-- What has been read so far. -/
structure Reading where
  /-- The checked values with the names of their options and operands, in their sequence. -/
  given : List (String × String) := []
  /-- The last option or operand and its value, if it has one yet. -/
  pending : Option (Subject × Option String) := none
  /-- Whether `--` has been read. -/
  escaped : Bool := false
  /-- How many operands are complete. -/
  place : Nat := 0

namespace Reading

/-- Whether the last argument is an option that waits for its value. -/
def awaitsValue (reading : Reading) : Bool :=
  match reading.pending with
  | some (_, none) => true
  | _ => false

/-- Whether a value for that name has been read. -/
def isGiven (reading : Reading) (name : String) : Bool :=
  reading.given.any fun (other, _) => other = name

/-- The first value of a name, if one has been read. -/
def value? (reading : Reading) (name : String) : Option String := reading.given.lookup name

/-- All values of a name. -/
def values (reading : Reading) (name : String) : List String :=
  reading.given.filterMap fun (other, value) => if other = name then some value else none

/-- Adds a value. -/
def give (reading : Reading) (name value : String) : Reading :=
  { reading with given := reading.given ++ [(name, value)] }

/-- Checks the pending value and adds it. -/
def settle (reading : Reading) : Except Refusal Reading :=
  let settled := { reading with pending := none }
  match reading.pending with
  | none => .ok reading
  | some (_, none) => .error .invalidValue
  | some (.setting name accepts, some value) =>
    if reading.isGiven name then .error .conflict
    else if accepts value then .ok (settled.give name value)
    else .error .invalidValue
  | some (.operand name accepts, some value) =>
    if accepts value then .ok (settled.give name value) else .error .invalidValue

/-- Reads an option that takes no value. -/
def raise (reading : Reading) (name : String) : Effect → Except Refusal Reading
  | .stop refusal => do
    let _ ← reading.settle
    throw refusal
  | _ => do
    let reading ← reading.settle
    if reading.isGiven name then throw .conflict
    return reading.give name ""

/-- Adds something of which the value is checked later. -/
def await (reading : Reading) (subject : Subject) (value : Option String) :
    Except Refusal Reading := do
  let settled ← reading.settle
  return { settled with pending := some (subject, value) }

/-- Reads an option that takes a value; one that is attached to it is checked at once. -/
def take (reading : Reading) (name : String) (accepts : String → Bool)
    (attached : Option String) : Except Refusal Reading := do
  let waiting ← reading.await (.setting name accepts) attached
  if attached.isSome then waiting.settle else return waiting

/-- Reads an option by its name, without the dashes. -/
def longOption (grammar : Grammar) (reading : Reading) (name : String)
    (attached : Option String) : Except Refusal Reading :=
  match grammar.settings.find? (·.name = name) with
  | none => .error .unknownArgument
  | some setting =>
    match setting.effect, attached with
    | .value accepts, _ => reading.take name accepts attached
    | effect, none => reading.raise name effect
    | _, some _ => .error .surplusValue

/-- Reads options by their letters, without the dash. -/
def shortOptions (grammar : Grammar) (reading : Reading) : List Char → Except Refusal Reading
  | [] => .ok reading
  | letter :: rest =>
    match grammar.settings.find? (·.letter = letter) with
    | none => .error .unknownArgument
    | some setting =>
      match setting.effect with
      | .value accepts =>
        let attached := match rest with
          | [] => none
          | '=' :: value => some (String.ofList value)
          | value => some (String.ofList value)
        reading.take setting.name accepts attached
      | effect => do shortOptions grammar (← reading.raise setting.name effect) rest

/-- Reads a value without a name. -/
def operand (grammar : Grammar) (reading : Reading) (value : String) : Except Refusal Reading :=
  match grammar.operands[reading.place]? with
  | some operand => do
    let waiting ← reading.await (.operand operand.name operand.accepts) (some value)
    return if operand.repeats then waiting else { waiting with place := waiting.place + 1 }
  | none =>
    if grammar.commands.isEmpty ∨ (reading.escaped ∧ value ∈ grammar.commands) then
      .error .unknownArgument
    else .error .unknownCommand

end Reading

/-- The name and the attached value of an option after two dashes. -/
def splitAttached (option : List Char) : String × Option String :=
  match option.dropWhile (· ≠ '=') with
  | _ :: value => (String.ofList (option.takeWhile (· ≠ '=')), some (String.ofList value))
  | [] => (String.ofList option, none)

/-- Reads arguments up to the name of a further command; that name and the arguments after it are
returned as they are. -/
def scan (grammar : Grammar) (reading : Reading) :
    List String → Except Refusal (Reading × Option (String × List String))
  | [] => .ok (reading, none)
  | argument :: rest =>
    if reading.escaped then do scan grammar (← reading.operand grammar argument) rest
    else if ¬reading.awaitsValue ∧ argument ∈ grammar.commands then
      .ok (reading, some (argument, rest))
    else
      match argument.toList with
      | ['-', '-'] => scan grammar { reading with escaped := true } rest
      | '-' :: '-' :: option => do
        let (name, attached) := splitAttached option
        scan grammar (← reading.longOption grammar name attached) rest
      | '-' :: letter :: letters => do
        scan grammar (← reading.shortOptions grammar (letter :: letters)) rest
      | _ =>
        match reading.pending with
        | some (subject, none) =>
          scan grammar { reading with pending := some (subject, some argument) } rest
        | _ => do scan grammar (← reading.operand grammar argument) rest

/-- Checks what is left to be checked, takes options that are not given from the environment, and
makes sure that nothing is missing. -/
def finish (grammar : Grammar) (environment : List (String × String)) (reading : Reading) :
    Except Refusal Reading := do
  let reading ← reading.settle
  let reading ← environment.foldlM (fun reading (name, value) => do
    if reading.isGiven name then return reading
    let some setting := grammar.settings.find? (·.name = name) | return reading
    let .value accepts := setting.effect | return reading
    reading.take name accepts (some value)) reading
  if grammar.operands.any fun operand => operand.required && !reading.isGiven operand.name then
    throw .missingArgument
  return reading

end PaymentAllocation.CommandLine
