import PaymentAllocation.Vocabulary

/-!
# Documents

Configuration comes as JSON or as TOML. Both are read into a `Document`, a tree of tables and
lists, and a domain type is then read from the tree in the same way for both formats.

* `Document.fields?` finds the fields of a record, which is a table or, less common, the list of
  its fields in their order. Unknown keys are ignored, and a known key may stand only once.
* `Document.member?` reads the member of a vocabulary: its name, or a table with its name as the
  only key and nothing behind it.
* `Dialect` holds what differs between the formats.
-/

namespace PaymentAllocation

/-- The tree of a configuration file. -/
inductive Document
  | null
  | boolean (value : Bool)
  | integer (value : Int)
  /-- A number that is not written as an integer, a date or a time. None of them is ever read. -/
  | scalar
  /-- A text; `none` if it is written with half of a surrogate pair and so is no text. -/
  | text (value : Option String)
  | list (items : List Document)
  | table (members : List (Option String × Document))

/-- What a format of documents lays down for records and members. -/
structure Dialect where
  /-- What stands behind the name of a member in a table. -/
  isNothing : Document → Bool
  /-- Whether a record that is written as a list may be longer than its fields. -/
  surplusItems : Bool

namespace Document

/-! ## Writing -/

/-- The text as a document. -/
def ofString (text : String) : Document := .text (some text)

/-- The text as a document, `null` if there is none. -/
def ofOption : Option String → Document
  | some content => ofString content
  | none => .null

/-- The record of the given fields. -/
def record (fields : List (String × Document)) : Document :=
  .table (fields.map fun (key, value) => (some key, value))

/-- The member of a vocabulary by its name. -/
def ofMember {α : Type} [Vocabulary α] (member : α) : Document :=
  ofString (Vocabulary.documentName member)

/-! ## Reading -/

/-- Reads a text; one with half of a surrogate pair is none. -/
def string? : Document → Option String
  | .text value => value
  | _ => none

/-- Reads a truth value. No number and no text stands for one. -/
def boolean? : Document → Option Bool
  | .boolean value => some value
  | _ => none

/-- Reads an integer of any size. -/
def integer? : Document → Option Int
  | .integer value => some value
  | _ => none

/-- Reads a text that may be `null`. -/
def optionalString? : Document → Option (Option String)
  | .null => some none
  | document => document.string?.map some

/-- Reads all of the documents, or none. -/
def readAll {α : Type} (read : Document → Option α) : List Document → Option (List α)
  | [] => some []
  | document :: rest => do return (← read document) :: (← readAll read rest)

/-- Reads a list, all of whose items must be readable. -/
def listOf? {α : Type} (read : Document → Option α) : Document → Option (List α)
  | .list items => readAll read items
  | _ => none

/-- Reads a field that need not be there. -/
def orElse? {α : Type} (missing : α) (read : Document → Option α) : Option Document → Option α
  | none => some missing
  | some document => read document

/-- The fields of those names, in the order of the names; `none` for a field that is missing. -/
def fields? (dialect : Dialect) (names : List String) :
    Document → Option (List (Option Document))
  | .table members =>
    if members.all (·.1.isSome) ∧
        names.all fun name => members.countP (fun member => member.1 = some name) ≤ 1 then
      some (names.map fun name => members.lookup (some name))
    else none
  | .list items =>
    if dialect.surplusItems ∨ items.length ≤ names.length then
      some (names.zipIdx.map fun (_, place) => items[place]?)
    else none
  | _ => none

variable {α : Type} [Vocabulary α]

/-- Reads the member of a vocabulary. -/
def member? (dialect : Dialect) : Document → Option α
  | .text (some name) => Vocabulary.ofDocumentName? name
  | .table [(some name, nothing)] =>
    if dialect.isNothing nothing then Vocabulary.ofDocumentName? name else none
  | _ => none

end Document

end PaymentAllocation
