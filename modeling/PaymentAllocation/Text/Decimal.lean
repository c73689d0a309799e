/-!
# Decimal integers

Integers as they are typed: digits with an optional sign in front (`integer?`). Digits are ASCII,
at least one is needed, and leading zeros do not matter.
-/

namespace PaymentAllocation.Text

/-- The number that an ASCII digit stands for. -/
def digit? (c : Char) : Option Nat :=
  if '0' ≤ c ∧ c ≤ '9' then some (c.toNat - 48) else none

/-- The number that follows `value` when the digits are written after it. -/
def digitsFrom? (value : Nat) : List Char → Option Nat
  | [] => some value
  | c :: cs => do digitsFrom? (10 * value + (← digit? c)) cs

/-- Reads digits, of which there must be at least one. -/
def natural? : List Char → Option Nat
  | [] => none
  | cs => digitsFrom? 0 cs

/-- Reads digits with an optional sign in front. There is no limit to the number. -/
def integer? : List Char → Option Int
  | '-' :: cs => (natural? cs).map fun n => -(n : Int)
  | '+' :: cs => (natural? cs).map Int.ofNat
  | cs => (natural? cs).map Int.ofNat

end PaymentAllocation.Text
