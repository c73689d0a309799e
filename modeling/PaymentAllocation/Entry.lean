import PaymentAllocation.Order
import PaymentAllocation.Text.Blank
import PaymentAllocation.Text.Decimal

/-!
# Entries of an allocation order

An entry is a name with its place in the order (`Entry`). On a command line it is written in
shorthand, `ORDER:NAME` (`Entry.ofShorthand?`): the first colon separates the two, blanks around
either do not count, and a name may hold colons and blanks of its own but must not be empty.
-/

namespace PaymentAllocation

/-- A name and its place in an allocation order. -/
structure Entry where
  order : Order
  /-- The name of a component or of a slot, as the caller wrote it. -/
  name : String
  deriving DecidableEq, Repr

namespace Entry

/-- The text before the first colon and the text after it. -/
def splitColon? : List Char → Option (List Char × List Char)
  | [] => none
  | ':' :: rest => some ([], rest)
  | c :: rest => (splitColon? rest).map fun (before, after) => (c :: before, after)

/-- Reads `ORDER:NAME`. -/
def ofShorthand? (text : String) : Option Entry := do
  let (before, after) ← splitColon? text.toList
  let value ← Text.integer? (Text.trim before)
  let order ← Order.ofInt? value
  let name := Text.trim after
  if name.isEmpty then none else some ⟨order, String.ofList name⟩

/-- The names, numbered from 1. -/
def number (names : List String) : List Entry :=
  (names.zipIdx 1).map fun (name, place) => ⟨Order.ofNat place, name⟩

/-- The entries by ascending order value; equal values keep their sequence. -/
def sorted (entries : List Entry) : List Entry := sortBy (·.order.value) entries

end Entry

end PaymentAllocation
