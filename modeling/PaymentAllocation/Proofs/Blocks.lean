import PaymentAllocation.Proofs.Naming
import PaymentAllocation.Proofs.Occurrences
import PaymentAllocation.Proofs.OrderValues

/-!
# The blocks of an expanded order

An expanded order is made of one block for each due state, and each block names the components of
the base order in their sequence, without repeats (`map_name_entries_of_found`). It names slots
exactly if the base order names components (`map_name_eq_qualified_iff`), and these slots are
`Slot.blocks`.

The entries are numbered in their sequence, so that sorting leaves them alone (`sorted_number`);
below the limit of the range the numbers are 1, 2, …, N (`map_value_number`).
-/

namespace PaymentAllocation

/-! ## Numbered entries -/

namespace Entry

@[simp] theorem map_name_number (names : List String) : (number names).map (·.name) = names := by
  rw [number, List.map_map]
  exact List.zipIdx_map_fst 1 names

@[simp] theorem length_number (names : List String) : (number names).length = names.length := by
  simp [number]

theorem map_order_number (names : List String) :
    (number names).map (·.order) = (List.range' 1 names.length).map Order.ofNat := by
  rw [← List.zipIdx_map_snd 1 names, number, List.map_map, List.map_map]
  simp only [Function.comp_def]

theorem map_value_number {names : List String} (h : (names.length : Int) < 0x8000000000000000) :
    (number names).map (·.order.value) = consecutive 1 names.length := by
  have hvalues := congrArg (List.map Order.value) (map_order_number names)
  rw [List.map_map, List.map_map, List.range'_eq_map_range, List.map_map] at hvalues
  refine hvalues.trans ?_
  rw [consecutive]
  refine List.map_congr_left fun i hi => ?_
  have hi := List.mem_range.1 hi
  rw [Function.comp_apply, Function.comp_apply, Order.value_ofNat_of_lt (by omega)]
  omega

theorem getElem?_number (names : List String) (i : Nat) :
    (number names)[i]? = names[i]?.map fun name => ⟨.ofNat (i + 1), name⟩ := by
  rw [number, List.getElem?_map, List.getElem?_zipIdx, Option.map_map, Nat.add_comm]
  rfl

theorem number_ascending (names : List String) :
    (number names).Pairwise fun a b => a.order.value ≤ b.order.value := by
  have orders : ((number names).map (·.order)).Pairwise fun a b => a.value ≤ b.value := by
    rw [map_order_number, List.pairwise_map]
    refine (List.pairwise_lt_range' 1).imp fun h => ?_
    rw [Order.value_ofNat, Order.value_ofNat]
    omega
  rwa [List.pairwise_map] at orders

theorem sorted_number (names : List String) : sorted (number names) = number names :=
  sortBy_eq_self _ (number_ascending names)

@[simp] theorem mem_sorted {entries : List Entry} {entry : Entry} :
    entry ∈ sorted entries ↔ entry ∈ entries :=
  mem_sortBy _

theorem sorted_perm (entries : List Entry) : (sorted entries).Perm entries := sortBy_perm _ entries

end Entry

/-! ## Blocks of names and of slots -/

/-- The texts in each due state, the due states one after another. -/
def qualified (texts : List String) : List String :=
  (Vocabulary.all : List DueState).flatMap fun state => texts.map state.qualify

@[simp] theorem length_qualified (texts : List String) :
    (qualified texts).length = 3 * texts.length := by
  have states : (Vocabulary.all : List DueState) = [.pastDue, .due, .inAdvance] := rfl
  simp only [qualified, states, List.flatMap_cons, List.flatMap_nil, List.length_append,
    List.length_map, List.length_nil]
  omega

theorem qualify_mem_qualified {texts : List String} {state : DueState} {text : String}
    (h : text ∈ texts) : state.qualify text ∈ qualified texts :=
  List.mem_flatMap.2 ⟨state, Vocabulary.mem_all state, List.mem_map_of_mem h⟩

theorem nodup_qualified {texts : List String} (h : texts.Nodup) : (qualified texts).Nodup := by
  rw [qualified, List.nodup_flatMap]
  refine ⟨fun state _ => h.map fun _ _ heq => (DueState.qualify_inj.1 heq).2, ?_⟩
  have states : (Vocabulary.all : List DueState).Nodup := by decide
  refine states.imp fun hne => List.disjoint_left.2 fun _ h h' => hne ?_
  obtain ⟨_, -, rfl⟩ := List.mem_map.1 h
  obtain ⟨_, -, same⟩ := List.mem_map.1 h'
  exact (DueState.qualify_inj.1 same).1.symm

theorem zipIdx_qualified (texts : List String) :
    (qualified texts).zipIdx =
      [DueState.pastDue, .due, .inAdvance].zipIdx.flatMap fun (state, k) =>
        texts.zipIdx.map fun (text, j) => (state.qualify text, k * texts.length + j) := by
  have blocks := zipIdx_blocks DueState.qualify texts (Vocabulary.all : List DueState) 0
  rwa [Nat.zero_mul] at blocks

theorem getElem?_qualified {texts : List String} {k j : Nat} {state : DueState} {text : String}
    (hstate : [DueState.pastDue, .due, .inAdvance][k]? = some state)
    (htext : texts[j]? = some text) :
    (qualified texts)[k * texts.length + j]? = some (state.qualify text) := by
  have placed : (state.qualify text, k * texts.length + j) ∈ (qualified texts).zipIdx := by
    rw [zipIdx_qualified, List.mem_flatMap]
    exact ⟨(state, k), List.mem_zipIdx_iff_getElem?.2 hstate,
      List.mem_map.2 ⟨(text, j), List.mem_zipIdx_iff_getElem?.2 htext, rfl⟩⟩
  exact List.mem_zipIdx_iff_getElem?.1 placed

/-- The components in each due state, the due states one after another. -/
def Slot.blocks (components : List Component) : List Slot :=
  [DueState.pastDue, .due, .inAdvance].flatMap fun state =>
    components.map fun component => ⟨state, component⟩

theorem Slot.map_name_blocks (components : List Component) :
    (blocks components).map Slot.name = qualified (components.map Component.name) := by
  have names (state : DueState) : Slot.name ∘ (fun component => ⟨state, component⟩) =
      state.qualify ∘ Component.name := funext fun component => name_eq_qualify ⟨state, component⟩
  rw [blocks, qualified, List.map_flatMap]
  simp only [List.map_map, names]
  rfl

theorem Slot.length_blocks (components : List Component) :
    (blocks components).length = 3 * components.length := by
  simpa using congrArg List.length (map_name_blocks components)

theorem Slot.mem_blocks {components : List Component} {slot : Slot} :
    slot ∈ blocks components ↔ slot.component ∈ components := by
  obtain ⟨state, component⟩ := slot
  cases state <;> simp [blocks]

theorem Slot.nodup_blocks {components : List Component} (h : components.Nodup) :
    (blocks components).Nodup := by
  have names := nodup_qualified (h.map Component.name_injective)
  rw [← map_name_blocks] at names
  exact names.of_map Slot.name

/-- The texts of an expanded order name slots exactly if those of the base order name components. -/
theorem map_name_eq_qualified_iff {slots : List Slot} {texts : List String} :
    slots.map Slot.name = qualified texts ↔
      ∃ components : List Component, components.map Component.name = texts ∧
        slots = Slot.blocks components := by
  constructor
  · intro h
    have named : ∀ text ∈ texts, ∃ component : Component, Vocabulary.name component = text := by
      intro text htext
      have hmem : DueState.pastDue.qualify text ∈ slots.map Slot.name := by
        rw [h]
        exact qualify_mem_qualified htext
      obtain ⟨slot, -, hslot⟩ := List.mem_map.1 hmem
      exact ⟨slot.component, (Slot.name_eq_qualify_iff.1 hslot).2⟩
    obtain ⟨components, rfl⟩ := exists_map_name.2 named
    refine ⟨components, rfl, map_name_injective ?_⟩
    exact h.trans (Slot.map_name_blocks components).symm
  · rintro ⟨components, rfl, rfl⟩
    exact Slot.map_name_blocks components

/-- Repeats are dropped in each due state alike, since a qualified name tells its due state. -/
theorem eraseDups_qualified (texts : List String) :
    (qualified texts).eraseDups = qualified texts.eraseDups :=
  eraseDups_blocks (fun _ _ _ _ => DueState.qualify_inj.1) texts (by decide)

/-! ## Expanded orders -/

namespace Expansion

theorem expandSlots_eq (base : List Entry) :
    expandSlots base = Entry.number (qualified ((Entry.sorted base).map (·.name))) := by
  simp only [expandSlots, qualified, List.map_map]
  rfl

variable (base : List Entry) (topology : Topology)

theorem raw_of_found :
    (of base (.found topology)).raw =
      Entry.number (qualified ((Entry.sorted base).map (·.name))) :=
  expandSlots_eq base

theorem map_name_raw_of_found :
    (of base (.found topology)).raw.map (·.name) =
      qualified ((Entry.sorted base).map (·.name)) := by
  rw [raw_of_found, Entry.map_name_number]

theorem entries_of_found :
    (of base (.found topology)).entries =
      Entry.number (qualified ((Entry.sorted base).map (·.name)).eraseDups) := by
  rw [← eraseDups_qualified, ← map_name_raw_of_found base topology, ← firstOccurrences_nil]
  rfl

theorem map_name_entries_of_found :
    (of base (.found topology)).entries.map (·.name) =
      qualified ((Entry.sorted base).map (·.name)).eraseDups := by
  rw [entries_of_found, Entry.map_name_number]

theorem sorted_entries_of_found :
    Entry.sorted (of base (.found topology)).entries = (of base (.found topology)).entries :=
  Entry.sorted_number _

end Expansion

end PaymentAllocation
