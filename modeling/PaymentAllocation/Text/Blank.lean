/-!
# Blank characters

The characters with the Unicode property White_Space, and the text between the blanks at both of
its ends (`trim`). The property holds neither of the zero-width space nor of the byte order mark.
-/

namespace PaymentAllocation.Text

/-- The blanks in ascending order, as ranges with both ends included. -/
def blankRanges : List (Nat × Nat) :=
  [(0x9, 0xD), (0x20, 0x20), (0x85, 0x85), (0xA0, 0xA0), (0x1680, 0x1680), (0x2000, 0x200A),
    (0x2028, 0x2029), (0x202F, 0x202F), (0x205F, 0x205F), (0x3000, 0x3000)]

/-- Whether a character has the property White_Space. -/
def isBlank (c : Char) : Bool :=
  blankRanges.any fun (first, last) => first ≤ c.toNat && c.toNat ≤ last

example : blankRanges.foldl (fun n (first, last) => n + (last - first + 1)) 0 = 25 := by decide

example : [' ', '\t', '\n', '\r'].all isBlank := by decide

example : isBlank '\u200b' = false ∧ isBlank '\ufeff' = false := by decide

/-- The characters from the first that is no blank to the last that is none. -/
def trim (cs : List Char) : List Char :=
  ((cs.dropWhile isBlank).reverse.dropWhile isBlank).reverse

end PaymentAllocation.Text
