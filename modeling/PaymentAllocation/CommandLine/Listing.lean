import PaymentAllocation.Format.Document
import PaymentAllocation.Slot
import PaymentAllocation.Terms

/-!
# Listing vocabularies

The vocabularies that a configuration is written in, by the names under which they can be listed
(`Listing`), and their members as rows (`Term`). Components that are only kept for old
configurations are not listed.
-/

namespace PaymentAllocation

/-- A vocabulary that can be listed. -/
inductive Listing
  | allocation
  | due
  | payment
  | future
  | transaction
  | processing
  deriving DecidableEq, Repr

/-- A member of a vocabulary as a row. -/
structure Term where
  vocabulary : String
  name : String
  label : String
  deriving DecidableEq, Repr

/-- A row as a record, with its columns in the order in which they are printed. -/
def Term.toDocument (term : Term) : Document :=
  .record [("vocabulary", .ofString term.vocabulary), ("name", .ofString term.name),
    ("label", .ofString term.label)]

namespace Listing

/-- All of them, in the order in which they are listed together. -/
def all : List Listing := [allocation, due, payment, future, transaction, processing]

/-- The name under which a vocabulary is listed. -/
def name : Listing → String
  | allocation => "allocation"
  | due => "due"
  | payment => "payment"
  | future => "future"
  | transaction => "transaction"
  | processing => "processing"

/-- The vocabulary that is listed under a name. -/
def ofName? (text : String) : Option Listing := all.find? fun listing => listing.name = text

/-- Members of a vocabulary as rows. -/
def rows {α : Type} [Vocabulary α] (listing : Listing) (members : List α) : List Term :=
  members.map fun member => ⟨listing.name, Vocabulary.name member, Vocabulary.label member⟩

/-- The rows of a vocabulary. Of the components only those are listed that are still offered. -/
def terms (listing : Listing) : List Term :=
  match listing with
  | allocation => listing.rows Component.selectable
  | due => listing.rows (Vocabulary.all : List DueState)
  | payment => listing.rows (Vocabulary.all : List Slot)
  | future => listing.rows (Vocabulary.all : List FutureRule)
  | transaction => listing.rows (Vocabulary.all : List TransactionType)
  | processing => listing.rows (Vocabulary.all : List Topology)

end Listing

end PaymentAllocation
