import PaymentAllocation.Proofs.Blocks

/-!
# What an expansion records

The expansion of a base order depends on the names of the base order by ascending order value and
on nothing else (`Expansion.records_of_found`).

* `AreBlocksOf` says of entries that they are given texts in each due state, block by block, and
  numbered from 1. All entries of an expansion are so for the names of the base order, and those
  that are left for the names without repeats.
* `Expansion.Records` adds what was suppressed: in each due state the names that had occurred.

The numbers stop at the largest order value. They are 1, 2, …, N in every list that is short enough
to be numbered, and one that is not would not fit in an address space of 64 bits.
-/

namespace PaymentAllocation

/-! ## Numbered blocks -/

/-- The entries are the texts in each due state, the due states one after another, numbered
from 1. -/
structure AreBlocksOf (texts : List String) (entries : List Entry) : Prop where
  length_eq : entries.length = 3 * texts.length
  /-- The text at `j` in the due state at `k`. -/
  entry : ∀ {k j : Nat} {state : DueState} {text : String},
    [DueState.pastDue, .due, .inAdvance][k]? = some state → texts[j]? = some text →
      entries[k * texts.length + j]? =
        some ⟨.ofNat (k * texts.length + j + 1), state.qualify text⟩
  /-- No number is lost to the limit of the range. -/
  orders : 3 * (texts.length : Int) < 0x8000000000000000 →
    entries.map (·.order.value) = consecutive 1 (3 * texts.length)

theorem areBlocksOf_number_qualified (texts : List String) :
    AreBlocksOf texts (Entry.number (qualified texts)) where
  length_eq := by rw [Entry.length_number, length_qualified]
  entry hstate htext := by
    rw [Entry.getElem?_number, getElem?_qualified hstate htext]
    rfl
  orders h := by
    have hlength := length_qualified texts
    rw [Entry.map_value_number (by omega), hlength]

/-! ## Expansions -/

namespace Expansion

/-- What an expansion records of a base order with these names by ascending order value. -/
structure Records (names : List String) (expansion : Expansion) : Prop where
  raw : AreBlocksOf names expansion.raw
  entries : AreBlocksOf names.eraseDups expansion.entries
  /-- Repeats could as well have been dropped from the base order. -/
  again : expansion.entries = expandSlots (Entry.number names.eraseDups)
  /-- In each due state the names that stand behind an equal one. -/
  suppressed : expansion.suppressed =
    [DueState.pastDue, .due, .inAdvance].flatMap fun state =>
      (names.zipIdx.filter fun (name, place) => name ∈ names.take place).map fun (name, _) =>
        state.qualify name
  length_suppressed : expansion.suppressed.length = 3 * (names.length - names.eraseDups.length)
  /-- No name is lost, and none is made up. -/
  perm : (expansion.raw.map (·.name)).Perm
    (expansion.entries.map (·.name) ++ expansion.suppressed)

theorem suppressed_of_found (base : List Entry) (topology : Topology) :
    (of base (.found topology)).suppressed =
      qualified (laterOccurrences [] ((Entry.sorted base).map (·.name))) := by
  have expanded : (of base (.found topology)).suppressed =
      laterOccurrences [] ((of base (.found topology)).raw.map (·.name)) := rfl
  rw [expanded, map_name_raw_of_found]
  exact laterOccurrences_blocks (fun _ _ _ _ => DueState.qualify_inj.1) _ (by decide)

theorem perm_map_name_raw (base : List Entry) (topology : Topology) :
    ((of base (.found topology)).raw.map (·.name)).Perm
      ((of base (.found topology)).entries.map (·.name) ++
        (of base (.found topology)).suppressed) := by
  have kept : (of base (.found topology)).entries.map (·.name) =
      firstOccurrences [] ((of base (.found topology)).raw.map (·.name)) :=
    Entry.map_name_number _
  rw [kept]
  exact (perm_first_append_later [] _).symm

theorem records_of_found (base : List Entry) (topology : Topology) :
    (of base (.found topology)).Records ((Entry.sorted base).map (·.name)) where
  raw := by
    rw [raw_of_found]
    exact areBlocksOf_number_qualified _
  entries := by
    rw [entries_of_found]
    exact areBlocksOf_number_qualified _
  again := by
    rw [entries_of_found, expandSlots_eq, Entry.sorted_number, Entry.map_name_number]
  suppressed := by
    rw [suppressed_of_found, laterOccurrences_nil, qualified]
    simp only [List.map_map]
    rfl
  length_suppressed := by
    have hlength := (perm_map_name_raw base topology).length_eq
    rw [map_name_raw_of_found, List.length_append, map_name_entries_of_found, length_qualified,
      length_qualified] at hlength
    omega
  perm := perm_map_name_raw base topology

/-- **What an expansion records.** Where the topology is known, it goes by the names of the base
order in the one stable sort by order value, whichever topology it is. Where it is unknown, the
base order is passed on and nothing is suppressed, not even repeats. -/
theorem expansion_report (base : List Entry) :
    (∃ sorted, IsStableSort (fun entry : Entry => entry.order.value) base sorted ∧
        ∀ topology : Topology, (of base (.found topology)).Records (sorted.map (·.name))) ∧
      (∀ topology topology' : Topology, of base (.found topology') =
        { of base (.found topology) with topology := .found topology' }) ∧
      ∀ text, (of base (.notFound text)).raw = base ∧ (of base (.notFound text)).entries = base ∧
        (of base (.notFound text)).suppressed = [] :=
  ⟨⟨_, (isStableSort_iff _).2 rfl, records_of_found base⟩, fun _ _ => rfl,
    fun _ => ⟨rfl, rfl, rfl⟩⟩

/-- Two entries share an order value, a component is repeated, and two names are no components. -/
def tiedBase : List Entry :=
  [⟨.ofNat 2, "PENALTY"⟩, ⟨⟨-5, by decide, by decide⟩, "DUE_FEES"⟩, ⟨.ofNat 2, ""⟩,
    ⟨.ofNat 7, "PENALTY"⟩]

theorem expansion_report_tiedBase :
    (of tiedBase (.found .vertical)).raw[1 * 4 + 2]? = some ⟨.ofNat 7, "DUE_"⟩ ∧
      (of tiedBase (.found .vertical)).entries[1 * 3 + 2]? = some ⟨.ofNat 6, "DUE_"⟩ ∧
      (of tiedBase (.found .vertical)).entries.map (·.order.value) = consecutive 1 9 ∧
      (of tiedBase (.found .vertical)).suppressed =
        ["PAST_DUE_PENALTY", "DUE_PENALTY", "IN_ADVANCE_PENALTY"] := by
  obtain ⟨⟨sorted, hsorted, records⟩, -, -⟩ := expansion_report tiedBase
  have names : sorted.map (·.name) = ["DUE_FEES", "PENALTY", "", "PENALTY"] := by
    rw [(isStableSort_iff _).1 hsorted]
    decide
  have kept : (sorted.map (·.name)).eraseDups = ["DUE_FEES", "PENALTY", ""] := by
    rw [names]
    decide
  obtain ⟨raw, entries, -, suppressed, -, -⟩ := records .vertical
  rw [kept] at entries
  rw [names] at raw suppressed
  exact ⟨raw.entry (k := 1) (j := 2) rfl rfl, entries.entry (k := 1) (j := 2) rfl rfl,
    entries.orders (by decide), suppressed.trans (by decide)⟩

end Expansion

end PaymentAllocation
