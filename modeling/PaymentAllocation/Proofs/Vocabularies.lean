import PaymentAllocation.Proofs.Documents
import PaymentAllocation.Proofs.JsonTexts
import PaymentAllocation.Proofs.Naming

/-!
# One meaning for every name

A text can be looked up in a vocabulary, resolved, parsed and read from JSON, and the names in
documents have a source of their own, the identifiers of the members. A vocabulary is coherent
(`Vocabulary.IsCoherent`) if a text means the same in all these ways, and if members and resolutions
are read back from their JSON. All six vocabularies are (`Vocabulary.names_mean_one_thing`).

A resolution says whether its text was found, and its JSON says so too. So a text that was not found
stays one that was not found, even where it is the name of a member.
-/

namespace PaymentAllocation

open Document

namespace Vocabulary

/-- A text means the same in a vocabulary wherever it is read as a name, and what is written of
members and of resolutions is read back. -/
structure IsCoherent (α : Type) [Vocabulary α] : Prop where
  unique : ∀ (text : String) (a b : α), name a = text → name b = text → a = b
  /-- What the name of a member comes to. -/
  named : ∀ (text : String) (member : α), name member = text →
    lookup text = some member ∧ Resolution.resolve text = .found member ∧
      (Resolution.resolve text).get = .ok member ∧ parse text = .ok member
  /-- What a text comes to that is no name. -/
  unnamed : ∀ text : String, (∀ member : α, name member ≠ text) →
    (lookup text : Option α) = none ∧ (Resolution.resolve text : Resolution α) = .notFound text ∧
      (Resolution.resolve text : Resolution α).get = .error (.unknown (title α) text) ∧
      (parse text : Except NameError α) = .error (.unknown (title α) text)
  text_resolve : ∀ text : String, (Resolution.resolve text : Resolution α).text = text
  /-- Identifiers and written names give the same names. -/
  documentName_eq : ∀ member : α, documentName member = name member
  /-- A string in JSON, however it is spelled, is read as the member that its content names. -/
  decoded : ∀ content json : String, Json.IsTextOf (ofString content) json →
    ∀ member : α, ofJson? json = some member ↔ lookup content = some member
  ofJson_toJson : ∀ member : α, ofJson? (toJson member) = some member
  resolution_ofJson_toJson : ∀ resolution : Resolution α,
    Resolution.ofJson? resolution.toJson = some resolution

section Generic

variable {α : Type} [Vocabulary α]

theorem ofJson?_of_isTextOf {content json : String} (h : Json.IsTextOf (ofString content) json) :
    (ofJson? json : Option α) = lookup content := by
  rw [ofJson?, Json.read?_of_isTextOf h, Option.bind_some, ← ofDocumentName?_eq_lookup]
  rfl

theorem isTextOf_toJson (member : α) : Json.IsTextOf (ofString (name member)) (toJson member) := by
  rw [← documentName_eq]
  exact Json.isTextOf_write _

theorem isCoherent (α : Type) [Vocabulary α] : IsCoherent α where
  unique text a b ha hb := name_injective (ha.trans hb.symm)
  named text member h := by
    have resolved : Resolution.resolve text = .found member := Resolution.resolve_eq_found_iff.2 h
    have parsed : parse text = .ok member := parse_eq_ok_iff.2 h
    exact ⟨lookup_eq_some_iff.2 h, resolved, (Resolution.get_resolve text).trans parsed, parsed⟩
  unnamed text h := by
    have resolved : (Resolution.resolve text : Resolution α) = .notFound text :=
      Resolution.resolve_eq_notFound_iff.2 ⟨rfl, h⟩
    have refused : (parse text : Except NameError α) = .error (.unknown (title α) text) :=
      parse_eq_error_iff.2 ⟨h, rfl⟩
    exact ⟨lookup_eq_none_iff.2 h, resolved, (Resolution.get_resolve text).trans refused, refused⟩
  text_resolve := Resolution.text_resolve
  documentName_eq := documentName_eq
  decoded content json h member := by rw [ofJson?_of_isTextOf h]
  ofJson_toJson member := by rw [ofJson?_of_isTextOf (isTextOf_toJson member), lookup_name]
  resolution_ofJson_toJson resolution := by
    have read : Json.read? resolution.toJson = some resolution.toDocument :=
      Json.read?_of_isTextOf (Json.isTextOf_write _)
    rw [Resolution.ofJson?, read, Option.bind_some, Resolution.readsBack]

end Generic

/-- **A name means one thing in every vocabulary.** At most one member goes by it, and it is looked
up, resolved, parsed and read from JSON as that member. Every other text is kept and is an error
that tells the vocabulary and the text. Members and resolutions are read back from their JSON. -/
theorem names_mean_one_thing :
    IsCoherent DueState ∧ IsCoherent Component ∧ IsCoherent Slot ∧ IsCoherent FutureRule ∧
      IsCoherent TransactionType ∧ IsCoherent Topology :=
  ⟨isCoherent _, isCoherent _, isCoherent _, isCoherent _, isCoherent _, isCoherent _⟩

/-- The name of a member is kept apart from the member. -/
example : (Resolution.notFound "DUE" : Resolution DueState).toJson =
    "\x7b\"NotFound\":\"DUE\"\x7d" := by
  decide +kernel

end Vocabulary

end PaymentAllocation
