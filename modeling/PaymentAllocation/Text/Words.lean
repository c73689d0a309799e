/-!
# Words of an identifier

An identifier is made of words that are run together, each with a capital letter at its beginning:
`PastDue`. The same words in capitals stand apart from each other (`capitals`): `PAST_DUE`.
-/

namespace PaymentAllocation.Text

/-- The words of an identifier in capitals, with an underscore between any two. -/
def capitals : List Char → List Char
  | [] => []
  | first :: rest =>
    first.toUpper :: rest.flatMap fun c => if c.isUpper then ['_', c] else [c.toUpper]

example : capitals "ChargeOff".toList = "CHARGE_OFF".toList := by decide

end PaymentAllocation.Text
