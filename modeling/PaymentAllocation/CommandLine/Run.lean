import PaymentAllocation.CommandLine.Invocation
import PaymentAllocation.CommandLine.Outcome
import PaymentAllocation.Format.Schema
import PaymentAllocation.Table

/-!
# Running invocations

What the program prints for each task, as tables for people or as JSON for other programs. All is
computed from the contents of the files that the task names (`Invocation.run`).

* `compileFile` prints the rules of a command, or the findings about it;
* `expandEntries` prints the expansion of a base order;
* `listVocabularies` prints the members of vocabularies.

The results in JSON form one document, and remarks never stand among them.
-/

namespace PaymentAllocation.CommandLine

/-! ## Pieces of output -/

/-- The text as a line. -/
def line (text : String) : String := text ++ "\n"

/-- A remark on a problem. -/
def notice (text : String) : String := line ("⚠ " ++ text)

/-- A remark for each name that an expansion has dropped. -/
def suppressedNotices (expansion : Expansion) : String :=
  String.join <| expansion.suppressed.map fun name =>
    notice ("Duplicate slot " ++ name ++ " suppressed")

/-- A document on lines of its own. -/
def documentText (document : Document) : String := line (Json.writeIndented document)

/-- Rows under a heading. -/
def rowsText (heading : List String) (rows : List (List String)) : String :=
  line (if rows.isEmpty then "(none)" else (Table.mk heading rows).render)

/-- Rows under a heading, below a title. -/
def titledRows (title : String) (heading : List String) (rows : List (List String)) : String :=
  line "" ++ line title ++ rowsText heading rows

/-! ## Compiling -/

/-- The slots of a rule in their order. -/
def ruleText (rule : Rule) : String :=
  titledRows (rule.transactionType.name ++ " (" ++ rule.futureRule.label ++ ")")
    ["#", "Allocation Type", "Label"]
    ((rule.slots.zipIdx 1).map fun (slot, position) =>
      [toString position, slot.name, slot.label])

/-- The outcome where a command compiles. -/
def printCompiled (compiled : Compiled) : Layout → Outcome
  | .json => .success (documentText (.list (compiled.rules.map Rule.toDocument))) ""
  | .table =>
    let notices := (compiled.expansion.map suppressedNotices).getD ""
    if compiled.rules.isEmpty then
      .success (line "ℹ No payment allocation configured.") notices
    else
      .success
        (String.join (compiled.rules.map ruleText) ++
          line ("✓ Compiled " ++ toString compiled.rules.length ++ " payment allocation rule(s)"))
        notices

/-- The outcome where there are findings. -/
def printFindings (findings : List Finding) (layout : Layout) : Outcome :=
  let error := some (.rejected findings.length)
  match layout with
  | .json => ⟨documentText (.list (findings.map Finding.toDocument)), "", error⟩
  | .table =>
    ⟨rowsText ["Field", "Rule", "Value", "Message"]
        (findings.map fun finding =>
          [finding.field, finding.rule.getD "", finding.value.getD "", finding.message]),
      line "✗ Payment allocation rejected", error⟩

/-- The body of a command and the policies to compile it with. -/
def readSources (read : String → Except FileError String) (path : String)
    (policyPath : Option String) : Except RunError (String × PolicySet) := do
  let body ← (read path).mapError (.unreadable path)
  match policyPath with
  | none => return (body, .standard)
  | some policyPath =>
    return (body, ← (PolicySet.load read policyPath).mapError (.policies policyPath))

/-- Compiles the command in a file. -/
def compileFile (read : String → Except FileError String) (layout : Layout) (path : String)
    (policyPath : Option String) : Outcome :=
  match readSources read path policyPath with
  | .error error => .failure error
  | .ok (body, policies) =>
    match policies.compileJson body with
    | .ok compiled => printCompiled compiled layout
    | .error failure =>
      if failure.findings.isEmpty then .failure (.failed failure)
      else printFindings failure.findings layout

/-! ## Expanding -/

/-- The entries that arguments write in shorthand, or the first argument that writes none. -/
def readEntries : List String → Except RunError (List Entry)
  | [] => .ok []
  | text :: rest =>
    match Entry.ofShorthand? text with
    | some entry => do return entry :: (← readEntries rest)
    | none => .error (.invalidEntry text)

/-- What is printed of an expansion as JSON: the entries that are kept, whether they were expanded,
the topology as it was given and the names that were dropped. -/
def expansionDocument (expansion : Expansion) : Document :=
  .record [("entries", .list (expansion.entries.map Entry.toDocument)),
    ("expanded", .boolean expansion.isExpanded),
    ("processingType", .ofString expansion.topology.text),
    ("suppressed", .list (expansion.suppressed.map .ofString))]

/-- The label of the slot of that name. -/
def slotLabel (name : String) : String :=
  ((Vocabulary.lookup name : Option Slot).map Slot.label).getD "<unknown>"

/-- The outcome of an expansion. A topology that is unknown is no failure, but remarked on in
tables. -/
def printExpansion (expansion : Expansion) : Layout → Outcome
  | .json => .success (documentText (expansionDocument expansion)) ""
  | .table =>
    let unknown :=
      if expansion.isExpanded then ""
      else
        notice ("Unknown processing type '" ++ expansion.topology.text ++
          "'; entries passed through unchanged")
    let summary := [["Processing type", expansion.topology.text],
      ["Base entries", toString expansion.base.length],
      ["Emitted slots", toString expansion.raw.length],
      ["Kept entries", toString expansion.entries.length]]
    let entries := expansion.entries.map fun entry =>
      [entry.order.text, entry.name, slotLabel entry.name]
    .success
      (titledRows "Expansion" ["Step", "Value"] summary ++
        titledRows "Allocation Order" ["Order", "Allocation Rule", "Label"] entries)
      (unknown ++ suppressedNotices expansion)

/-- Expands a base order that is written in shorthand. -/
def expandEntries (layout : Layout) (topology : String) (entries : List String) : Outcome :=
  match readEntries entries with
  | .ok base => printExpansion (Expansion.of base (.resolve topology)) layout
  | .error error => .failure error

/-! ## Listing -/

/-- Lists a vocabulary, or all of them. -/
def listVocabularies (layout : Layout) (listing : Option Listing) : Outcome :=
  let terms := (listing.map Listing.terms).getD (Listing.all.flatMap Listing.terms)
  match layout with
  | .json => .success (documentText (.list (terms.map Term.toDocument))) ""
  | .table =>
    .success
      (rowsText ["Vocabulary", "Name", "Label"]
        (terms.map fun term => [term.vocabulary, term.name, term.label])) ""

/-- Carries out a task, with `read` for the files that it names. -/
def Invocation.run (read : String → Except FileError String) (invocation : Invocation) :
    Outcome :=
  match invocation.task with
  | .compile command policies => compileFile read invocation.layout command policies
  | .expand topology entries => expandEntries invocation.layout topology entries
  | .list listing => listVocabularies invocation.layout listing

end PaymentAllocation.CommandLine
