import PaymentAllocation.Entry
import PaymentAllocation.Occurrences
import PaymentAllocation.Slot
import PaymentAllocation.Terms

/-!
# Expansion of a base order

A caller orders components once, and the expansion repeats that order for each due state:

    base       1:PENALTY 2:PRINCIPAL
    expanded   1:PAST_DUE_PENALTY 2:PAST_DUE_PRINCIPAL 3:DUE_PENALTY
               4:DUE_PRINCIPAL 5:IN_ADVANCE_PENALTY 6:IN_ADVANCE_PRINCIPAL

* `expandSlots` writes out all names; the due states form consecutive blocks.
* `suppressDuplicates` keeps the first entry of each name and closes the gaps.
* `Expansion.of` is both steps with a record of what they did. Both topologies are treated alike;
  where the topology is unknown, the base order is passed on as it is.
-/

namespace PaymentAllocation

/-- Every name of the base order in every due state, numbered from 1. -/
def expandSlots (base : List Entry) : List Entry :=
  let sorted := Entry.sorted base
  Entry.number <| (Vocabulary.all : List DueState).flatMap fun state =>
    sorted.map fun entry => state.qualify entry.name

/-- The first entry of each name, numbered anew from 1. -/
def suppressDuplicates (entries : List Entry) : List Entry :=
  Entry.number (firstOccurrences [] (entries.map (·.name)))

/-- What became of a base order. -/
structure Expansion where
  topology : Resolution Topology
  /-- The base order with the caller's order values. -/
  base : List Entry
  /-- All entries before any was suppressed. -/
  raw : List Entry
  /-- The entries that are left. -/
  entries : List Entry
  deriving DecidableEq, Repr

namespace Expansion

/-- The expansion of a base order; an unknown topology leaves it as it is. -/
def of (base : List Entry) (topology : Resolution Topology) : Expansion :=
  match topology with
  | .found _ =>
    let raw := expandSlots base
    ⟨topology, base, raw, suppressDuplicates raw⟩
  | .notFound _ => ⟨topology, base, base, base⟩

/-- Whether the base order was expanded, and not passed on. -/
def isExpanded (expansion : Expansion) : Bool := expansion.topology.isFound

/-- The names that were dropped because they had occurred before. -/
def suppressed (expansion : Expansion) : List String :=
  if expansion.isExpanded then laterOccurrences [] (expansion.raw.map (·.name)) else []

end Expansion

end PaymentAllocation
