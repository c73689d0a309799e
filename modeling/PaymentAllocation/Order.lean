/-!
# Order values

The number that says where an entry stands. It is an integer of 64 bits with a sign, and callers
may give any of them.

* `Order.ofInt?` is the range check on numbers that come from outside.
* `Order.next` is the value expected after another one; the largest value has no successor and is
  its own.
* `sortBy` sorts by ascending key and keeps the sequence of elements with equal keys.
-/

namespace PaymentAllocation

/-- A signed integer of 64 bits. -/
structure Order where
  value : Int
  lower : -0x8000000000000000 ≤ value
  upper : value < 0x8000000000000000
  deriving DecidableEq

namespace Order

theorem eq_of_value {a b : Order} (h : a.value = b.value) : a = b := by
  cases a
  cases b
  simp_all

instance : Repr Order := ⟨fun order _ => repr order.value⟩

/-- The integer as an order value, if it is in range. -/
def ofInt? (n : Int) : Option Order :=
  if h : -0x8000000000000000 ≤ n ∧ n < 0x8000000000000000 then some ⟨n, h.1, h.2⟩ else none

theorem ofInt?_eq_some_iff {n : Int} {order : Order} :
    ofInt? n = some order ↔ order.value = n := by
  have lower := order.lower
  have upper := order.upper
  unfold ofInt?
  split
  · exact ⟨fun h => Option.some.inj h ▸ rfl, fun h => congrArg some (eq_of_value h.symm)⟩
  · simp only [reduceCtorEq, false_iff]
    omega

/-- The largest order value, which has no successor. -/
def largest : Order := ⟨0x7fffffffffffffff, by decide, by decide⟩

/-- The natural number as an order value, or the largest one. -/
def ofNat (n : Nat) : Order :=
  if h : (n : Int) < 0x8000000000000000 then ⟨n, by omega, h⟩ else largest

/-- The order value that every allocation order begins with. -/
def one : Order := ofNat 1

/-- The value after this one; the largest value stays where it is. -/
def next (order : Order) : Order :=
  if h : order.value + 1 < 0x8000000000000000 then
    ⟨order.value + 1, by have := order.lower; omega, h⟩
  else order

/-- The decimal digits of the value, after a minus sign if it is negative. -/
def text (order : Order) : String := toString order.value

end Order

/-! ## Sorting -/

variable {α : Type}

/-- Puts `a` before the first element whose key is not smaller. -/
def insertBy (key : α → Int) (a : α) : List α → List α
  | [] => [a]
  | b :: bs => if key a ≤ key b then a :: b :: bs else b :: insertBy key a bs

/-- The elements by ascending key; equal keys keep their sequence. -/
def sortBy (key : α → Int) : List α → List α
  | [] => []
  | a :: as => insertBy key a (sortBy key as)

end PaymentAllocation
