import PaymentAllocation.Text.Words

/-!
# Closed vocabularies

A payment allocation is written with names from a handful of closed vocabularies. Names are
matched exactly, and a name that matches nothing is kept, so that it can be reported later
beside all other findings.

* `Vocabulary α` lists the members of `α`, each with a name and a label. Both directions are part
  of the class: the list misses no member, and no two members share a name.
* In documents a member goes by a name that is made of its identifier (`Vocabulary.documentName`).
  It is required to be the written one.
* `Vocabulary.lookup` finds the member that a text names; `Vocabulary.parse` reports the text that
  names none.
* `Resolution α` is the outcome of reading a text: the member found, or the text itself.
-/

namespace PaymentAllocation

/-- A closed set of named members. -/
class Vocabulary (α : Type) where
  /-- What messages call the vocabulary. -/
  title : String
  /-- The members in the order of their declaration. -/
  all : List α
  /-- The words that a member is declared by, run together. -/
  identifier : α → String
  /-- The written name of a member. -/
  name : α → String
  /-- The text that people read. -/
  label : α → String
  mem_all : ∀ member, member ∈ all
  name_injective : ∀ {a b}, name a = name b → a = b
  capitals_identifier : ∀ member, Text.capitals (identifier member).toList = (name member).toList

/-! ## Names that cannot be read -/

/-- Why a text is not the name it should be. -/
inductive NameError
  /-- No member of the vocabulary of that title is named `value`. -/
  | unknown (vocabulary value : String)
  /-- The name `value` of a slot does not begin with a due state. -/
  | noDueState (value : String)
  /-- The name `value` of a slot goes on with a text that names no component. -/
  | unknownComponent (value component : String)
  deriving DecidableEq, Repr

namespace NameError

/-- The text that could not be read. -/
def value : NameError → String
  | unknown _ value => value
  | noDueState value => value
  | unknownComponent value _ => value

/-- What is said of a name of a slot that cannot be taken apart. -/
private def malformed (value reason : String) : String :=
  "Malformed payment allocation type '" ++ value ++ "': " ++ reason

/-- The error in words. -/
def message : NameError → String
  | unknown vocabulary value => "Unknown " ++ vocabulary ++ ": '" ++ value ++ "'"
  | noDueState value => malformed value "missing PAST_DUE_, DUE_ or IN_ADVANCE_ prefix"
  | unknownComponent value component =>
    malformed value ("unknown allocation component '" ++ component ++ "'")

end NameError

/-! ## Looking names up -/

namespace Vocabulary

variable {α : Type} [Vocabulary α]

/-- The member of that name. -/
def lookup (text : String) : Option α :=
  (all : List α).find? fun member => name member = text

/-- The member of that name, or an error that keeps the text. -/
def parse (text : String) : Except NameError α :=
  match lookup text with
  | some member => .ok member
  | none => .error (.unknown (title α) text)

theorem name_of_lookup {text : String} {member : α} (h : lookup text = some member) :
    name member = text := by
  simpa using List.find?_some h

theorem lookup_name (member : α) : lookup (name member) = some member := by
  cases h : lookup (α := α) (name member) with
  | none => simpa using List.find?_eq_none.1 h member (mem_all member)
  | some other => rw [name_injective (name_of_lookup h)]

theorem lookup_eq_some_iff {text : String} {member : α} :
    lookup text = some member ↔ name member = text :=
  ⟨name_of_lookup, fun h => h ▸ lookup_name member⟩

/-- The name of a member in documents, the words of its identifier in capitals. -/
def documentName (member : α) : String := String.ofList (Text.capitals (identifier member).toList)

/-- The member that goes by a name in documents. -/
def ofDocumentName? (text : String) : Option α :=
  (all : List α).find? fun member => documentName member = text

/-- Both sources of names agree. -/
theorem documentName_eq (member : α) : documentName member = name member := by
  rw [documentName, capitals_identifier, String.ofList_toList]

theorem ofDocumentName?_eq_lookup (text : String) :
    (ofDocumentName? text : Option α) = lookup text := by
  simp only [ofDocumentName?, documentName_eq, lookup]

/-- The place of a member in the order of declaration. -/
def rank [DecidableEq α] (member : α) : Nat := (all : List α).idxOf member

/-- The members in the order of declaration. -/
def sorted [DecidableEq α] (members : List α) : List α :=
  members.mergeSort fun a b => rank a ≤ rank b

end Vocabulary

/-! ## Resolutions -/

/-- The outcome of reading a text in a vocabulary. -/
inductive Resolution (α : Type)
  | found (member : α)
  /-- The text names no member and is kept as it was written. -/
  | notFound (text : String)
  deriving DecidableEq, Repr

namespace Resolution

variable {α : Type}

/-- The member found, if there is one. -/
def member? : Resolution α → Option α
  | found member => some member
  | notFound _ => none

/-- Whether the text names a member. -/
def isFound (resolution : Resolution α) : Bool := resolution.member?.isSome

variable [Vocabulary α]

/-- The member that a text names, or the text itself if it names none. -/
def resolve (text : String) : Resolution α :=
  match Vocabulary.lookup text with
  | some member => found member
  | none => notFound text

/-- The text that the resolution was made from. -/
def text : Resolution α → String
  | found member => Vocabulary.name member
  | notFound text => text

/-- The text with a mark on those that name no member. -/
def display : Resolution α → String
  | found member => Vocabulary.name member
  | notFound text => text ++ " (unresolved)"

/-- The member, where an unresolved text is an error. -/
def get : Resolution α → Except NameError α
  | found member => .ok member
  | notFound text => .error (.unknown (Vocabulary.title α) text)

theorem text_resolve (text : String) : (resolve text : Resolution α).text = text := by
  unfold resolve
  split
  · exact Vocabulary.name_of_lookup ‹_›
  · rfl

theorem get_resolve (text : String) :
    (resolve text : Resolution α).get = Vocabulary.parse text := by
  unfold resolve Vocabulary.parse
  split <;> rfl

end Resolution

end PaymentAllocation
