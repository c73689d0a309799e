import PaymentAllocation.Compilation
import PaymentAllocation.Format.Json.Reader
import PaymentAllocation.Format.Json.Writer
import PaymentAllocation.Format.Toml.Reader

/-!
# Configuration as documents

How commands, rules, policies and findings are laid out in documents, and how commands, rules and
policies are read back. A function `toDocument` writes all fields in a fixed order, and its
partner `ofDocument?` reads what the format allows: fields with a default may be missing.

* `Command.ofJson` reads the body of a command, `PolicySet.compileJson` also compiles it.
* `PolicySet.ofJson`, `PolicySet.ofToml` and `PolicySet.load` read policies and check them.
-/

namespace PaymentAllocation

open Document

/-! ## Names -/

namespace Vocabulary

variable {α : Type} [Vocabulary α]

/-- Writes a member as JSON. -/
def toJson (member : α) : String := Json.write (ofMember member)

/-- Reads a member from JSON. -/
def ofJson? (text : String) : Option α := (Json.read? text).bind (member? Json.dialect)

end Vocabulary

namespace Resolution

variable {α : Type} [Vocabulary α]

/-- A table with one member, whose key says whether a member was found. -/
def toDocument : Resolution α → Document
  | found member => record [("Found", ofMember member)]
  | notFound text => record [("NotFound", ofString text)]

/-- Reads a resolution by the key of its only member. A text is kept even if it names a member. -/
def ofDocument? : Document → Option (Resolution α)
  | .table [(some "Found", name)] => (Document.member? Json.dialect name).map found
  | .table [(some "NotFound", text)] => text.string?.map notFound
  | _ => none

/-- Writes a resolution as JSON on one line. -/
def toJson (resolution : Resolution α) : String := Json.write resolution.toDocument

/-- Reads a resolution from JSON. -/
def ofJson? (text : String) : Option (Resolution α) := (Json.read? text).bind ofDocument?

end Resolution

/-! ## Commands -/

namespace Entry

/-- An entry as a record of its order value and its name. -/
def toDocument (entry : Entry) : Document :=
  record [("order", .integer entry.order.value), ("paymentAllocationRule", ofString entry.name)]

/-- Reads an entry; both fields must be there and the order value in range. -/
def ofDocument? (document : Document) : Option Entry := do
  let [order, name] ← fields? Json.dialect ["order", "paymentAllocationRule"] document | none
  return ⟨← Order.ofInt? (← (← order).integer?), ← (← name).string?⟩

end Entry

namespace Request

/-- A request as a record, with `null` for a setting that is missing. -/
def toDocument (request : Request) : Document :=
  record [("transactionType", ofOption request.transactionType),
    ("futureInstallmentAllocationRule", ofOption request.futureRule),
    ("paymentAllocationOrder", .list (request.entries.map Entry.toDocument))]

/-- Reads a request; any of its fields may be missing, and the settings may be `null`. -/
def ofDocument? (document : Document) : Option Request := do
  let [transactionType, futureRule, entries] ← fields? Json.dialect
    ["transactionType", "futureInstallmentAllocationRule", "paymentAllocationOrder"] document
    | none
  return ⟨← orElse? none optionalString? transactionType, ← orElse? none optionalString? futureRule,
    ← orElse? [] (listOf? Entry.ofDocument?) entries⟩

end Request

namespace Command

/-- A command as a record, with `null` for a setting that is missing. -/
def toDocument (command : Command) : Document :=
  record [("transactionProcessingStrategyCode", ofOption command.strategyCode),
    ("loanScheduleProcessingType", ofOption command.topologyName),
    ("paymentAllocation", .list (command.requests.map Request.toDocument))]

/-- Reads a command; any of its fields may be missing, and the settings may be `null`. -/
def ofDocument? (document : Document) : Option Command := do
  let [strategyCode, topologyName, requests] ← fields? Json.dialect
    ["transactionProcessingStrategyCode", "loanScheduleProcessingType", "paymentAllocation"]
    document | none
  return ⟨← orElse? none optionalString? strategyCode,
    ← orElse? none optionalString? topologyName,
    ← orElse? [] (listOf? Request.ofDocument?) requests⟩

/-- Writes a command as JSON on one line. -/
def toJson (command : Command) : String := Json.write command.toDocument

/-- Reads a command from JSON. -/
def ofJson (text : String) : Except Failure Command :=
  match (Json.read? text).bind ofDocument? with
  | some command => .ok command
  | none => .error (.structural none)

end Command

/-- Reads a command from JSON and compiles it. -/
def PolicySet.compileJson (set : PolicySet) (text : String) : Except Failure Compiled := do
  set.compileCommand (← Command.ofJson text)

/-! ## Rules and findings -/

namespace Rule

/-- A rule as a record, with its slots in the order in which they are paid. -/
def toDocument (rule : Rule) : Document :=
  record [("transactionType", ofMember rule.transactionType),
    ("futureInstallmentAllocationRule", ofMember rule.futureRule),
    ("allocationTypes", .list (rule.slots.map ofMember))]

/-- Reads a rule; all fields must be there and all names known. -/
def ofDocument? (document : Document) : Option Rule := do
  let [transactionType, futureRule, slots] ← fields? Json.dialect
    ["transactionType", "futureInstallmentAllocationRule", "allocationTypes"] document | none
  return ⟨← member? Json.dialect (← transactionType), ← member? Json.dialect (← futureRule),
    ← listOf? (member? Json.dialect) (← slots)⟩

end Rule

/-- A finding as a row of texts, where an absent rule or value is empty. -/
def Finding.toDocument (finding : Finding) : Document :=
  record [("field", ofString finding.field), ("rule", ofString (finding.rule.getD "")),
    ("value", ofString (finding.value.getD "")), ("message", ofString finding.message)]

/-! ## Policies -/

namespace Policy

/-- A policy as a record of all its fields, those with a default included. -/
def toDocument (policy : Policy) : Document :=
  record [("code", ofString policy.code), ("description", ofOption policy.description),
    ("allows_payment_allocation", .boolean policy.allowsAllocation),
    ("required_transaction_types", .list (policy.requiredTypes.map ofMember)),
    ("required_allocation_types", .list (policy.requiredSlots.map ofMember)),
    ("forbidden_allocation_types", .list (policy.forbiddenSlots.map ofMember)),
    ("require_complete_set", .boolean policy.requiresCompleteSet)]

/-- Reads a policy. Only its code must be there: a policy that says nothing else allows no
allocation, and it requires and forbids nothing. -/
def ofDocument? (dialect : Dialect) (document : Document) : Option Policy := do
  let [code, description, allows, requiredTypes, requiredSlots, forbiddenSlots, complete] ←
    fields? dialect
      ["code", "description", "allows_payment_allocation", "required_transaction_types",
        "required_allocation_types", "forbidden_allocation_types", "require_complete_set"]
      document
    | none
  return {
    code := ← (← code).string?
    description := ← orElse? none optionalString? description
    allowsAllocation := ← orElse? false boolean? allows
    requiredTypes := ← orElse? [] (listOf? (member? dialect)) requiredTypes
    requiredSlots := ← orElse? [] (listOf? (member? dialect)) requiredSlots
    forbiddenSlots := ← orElse? [] (listOf? (member? dialect)) forbiddenSlots
    requiresCompleteSet := ← orElse? false boolean? complete }

end Policy

namespace PolicySet

/-- A policy set as a record, with the fallback under `default`. -/
def toDocument (set : PolicySet) : Document :=
  record [("default", set.fallback.toDocument),
    ("policies", .list (set.policies.map Policy.toDocument))]

/-- Reads a policy set. The standard fallback stands in for one that is missing, and there need be
no list of policies. -/
def ofDocument? (dialect : Dialect) (document : Document) : Option PolicySet := do
  let [fallback, policies] ← fields? dialect ["default", "policies"] document | none
  return ⟨← orElse? Policy.fallback (Policy.ofDocument? dialect) fallback,
    ← orElse? [] (listOf? (Policy.ofDocument? dialect)) policies⟩

/-- Writes a policy set as JSON on one line. -/
def toJson (set : PolicySet) : String := Json.write set.toDocument

/-- The policy set that was read, if it was and has no findings. -/
def accept : Option PolicySet → Except Failure PolicySet
  | none => .error (.policy none)
  | some set => do
    set.check
    return set

/-- Reads a policy set from JSON and checks it. -/
def ofJson (text : String) : Except Failure PolicySet :=
  accept ((Json.read? text).bind (ofDocument? Json.dialect))

/-- Reads a policy set from TOML and checks it. -/
def ofToml (text : String) : Except Failure PolicySet :=
  accept ((Toml.read? text).bind (ofDocument? Toml.dialect))

/-- What follows the last dot in the last component of a path, if something stands before the
dot. -/
def fileExtension? (path : String) : Option String := do
  let components := Folder.pieces '/' path.toList
  let name ← (components.filter fun component => component ∉ [[], ['.']]).getLast?
  match name.reverse.dropWhile (· ≠ '.') with
  | _ :: _ :: _ => return String.ofList (name.reverse.takeWhile (· ≠ '.')).reverse
  | _ => none

/-- Reads a policy set from a file whose extension says in which format it is written. -/
def load (read : String → Except FileError String) (path : String) :
    Except Failure PolicySet := do
  let text ← (read path).mapError Failure.file
  match fileExtension? path with
  | some "toml" => ofToml text
  | some "json" => ofJson text
  | _ => throw (.policy (some ("Unsupported policy file extension: " ++ path)))

end PolicySet

end PaymentAllocation
