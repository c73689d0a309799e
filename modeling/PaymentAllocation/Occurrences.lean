/-!
# Occurrences

A list in which elements may occur more than once, taken apart: `firstOccurrences` are what is
left if each element counts once, and `laterOccurrences` are what is dropped.
-/

namespace PaymentAllocation

variable {α : Type} [DecidableEq α]

/-- The elements less those that occur in `seen` or earlier in the list. -/
def firstOccurrences (seen : List α) : List α → List α
  | [] => []
  | a :: rest =>
    if a ∈ seen then firstOccurrences seen rest else a :: firstOccurrences (a :: seen) rest

/-- The elements that occur in `seen` or earlier in the list. -/
def laterOccurrences (seen : List α) : List α → List α
  | [] => []
  | a :: rest =>
    if a ∈ seen then a :: laterOccurrences seen rest else laterOccurrences (a :: seen) rest

end PaymentAllocation
