import Mathlib.Data.Finset.Card
import Mathlib.Data.List.Perm.Subperm
import PaymentAllocation.Proofs.Violations
import PaymentAllocation.Request

/-!
# Requests that can be compiled

What a caller must write for a request to become a rule. A request can be converted if it is sound
(`Request.IsSound`), that is, if its names are known and its entries name slots and none twice.
The checks let it pass if in addition its entries are numbered 1, 2, …, N and its slots suit the
policy (`exists_passes_iff`).

The first request is read as a base order where the topology is known. It then asks for the blocks
of the components that it names (`asksFor_expanded_iff`). Components may be repeated, and the
checks see only what the expansion has numbered anew, so they say nothing about the numbers of the
caller (`exists_passes_expanded_iff`).
-/

namespace PaymentAllocation

namespace Request

/-! ## Conditions on what is written -/

/-- The order values are 1, 2, …, N in some sequence, and there is at least one. -/
def IsNumbered (request : Request) : Prop :=
  ∃ n, 1 ≤ n ∧ (request.entries.map (·.order.value)).Perm (consecutive 1 n)

/-- All names are known, and the entries name slots and none twice. -/
structure IsSound (request : Request) : Prop where
  type : ∃ type : TransactionType, request.transactionType = some type.name
  futureRule : ∃ future : FutureRule, request.futureRule = some future.name
  nonempty : request.entries ≠ []
  named : ∀ entry ∈ request.entries, ∃ slot : Slot, slot.name = entry.name
  nodup : (request.entries.map (·.name)).Nodup

/-- The entries name slots that suit a policy, and none twice. -/
structure IsSuitable (policy : Policy) (request : Request) : Prop where
  named : ∀ entry ∈ request.entries, ∃ slot : Slot, slot.name = entry.name
  nodup : (request.entries.map (·.name)).Nodup
  suits : policy.Suits {slot | ∃ entry ∈ request.entries, entry.name = slot.name}

/-- The entries name components, and the slots of these in all due states suit a policy. -/
structure IsSuitableBase (policy : Policy) (request : Request) : Prop where
  named : ∀ entry ∈ request.entries, ∃ component : Component, component.name = entry.name
  suits : policy.Suits {slot | ∃ entry ∈ request.entries, entry.name = slot.component.name}

theorem isNumbered_iff {request : Request} :
    request.IsNumbered ↔ request.entries ≠ [] ∧
      (request.entries.map (·.order.value)).Perm (consecutive 1 request.entries.length) := by
  constructor
  · intro h
    obtain ⟨n, positive, perm⟩ := h
    have hlength : request.entries.length = n := by simpa using perm.length_eq
    refine ⟨List.ne_nil_of_length_pos (by omega), hlength.symm ▸ perm⟩
  · rintro ⟨nonempty, perm⟩
    exact ⟨_, List.length_pos_iff.2 nonempty, perm⟩

/-! ## Requests as they are -/

section AsksFor

variable {request : Request} {rule : Rule}

theorem AsksFor.perm_map_name (h : request.AsksFor rule) :
    (rule.slots.map Slot.name).Perm (request.entries.map (·.name)) :=
  h.map_name_slots ▸ (Entry.sorted_perm request.entries).map _

theorem AsksFor.mem_slots_iff (h : request.AsksFor rule) {slot : Slot} :
    slot ∈ rule.slots ↔ ∃ entry ∈ request.entries, entry.name = slot.name := by
  rw [← List.mem_map, ← h.perm_map_name.mem_iff]
  exact (List.mem_map_of_injective Slot.name_injective).symm

theorem AsksFor.isProper_iff (h : request.AsksFor rule) :
    rule.IsProper ↔ request.entries ≠ [] ∧ (request.entries.map (·.name)).Nodup := by
  have hlength := h.perm_map_name.length_eq
  rw [List.length_map, List.length_map] at hlength
  rw [← h.perm_map_name.nodup_iff, List.nodup_map_iff Slot.name_injective,
    ← List.length_pos_iff, ← hlength, List.length_pos_iff]
  exact ⟨fun h => ⟨h.nonempty, h.nodup⟩, fun h => ⟨h.1, h.2⟩⟩

end AsksFor

theorem exists_slots_iff {entries : List Entry} :
    (∃ slots : List Slot, slots.map Slot.name = (Entry.sorted entries).map (·.name)) ↔
      ∀ entry ∈ entries, ∃ slot : Slot, slot.name = entry.name := by
  refine (exists_map_name (α := Slot)).trans ?_
  simp only [List.forall_mem_map, Entry.mem_sorted]
  rfl

theorem exists_asksFor_iff {request : Request} {type : TransactionType} :
    (∃ rule, request.AsksFor rule ∧ rule.transactionType = type) ↔
      request.transactionType = some type.name ∧
        (∃ future : FutureRule, request.futureRule = some future.name) ∧
        ∀ entry ∈ request.entries, ∃ slot : Slot, slot.name = entry.name := by
  rw [← exists_slots_iff]
  constructor
  · intro h
    obtain ⟨rule, asks, rfl⟩ := h
    exact ⟨asks.transactionType, ⟨_, asks.futureRule⟩, _, asks.map_name_slots⟩
  · intro h
    obtain ⟨htype, ⟨future, hfuture⟩, slots, hslots⟩ := h
    exact ⟨⟨type, future, slots⟩, asksFor_iff.2 ⟨htype, hfuture, hslots⟩, rfl⟩

/-- A request is sound exactly if it asks for a rule that names a slot and none twice. -/
theorem isSound_iff {request : Request} :
    request.IsSound ↔ ∃ rule, request.AsksFor rule ∧ rule.IsProper := by
  constructor
  · intro h
    obtain ⟨⟨type, htype⟩, hfuture, nonempty, named, nodup⟩ := h
    obtain ⟨rule, asks, -⟩ := exists_asksFor_iff.2 ⟨htype, hfuture, named⟩
    exact ⟨rule, asks, asks.isProper_iff.2 ⟨nonempty, nodup⟩⟩
  · intro h
    obtain ⟨rule, asks, proper⟩ := h
    obtain ⟨htype, hfuture, named⟩ := exists_asksFor_iff.1 ⟨rule, asks, rfl⟩
    obtain ⟨nonempty, nodup⟩ := asks.isProper_iff.1 proper
    exact ⟨⟨_, htype⟩, hfuture, nonempty, named, nodup⟩

/-- A request asks for a rule that has nothing wrong with it. -/
structure Passes (policy : Policy) (request : Request) (rule : Rule) : Prop where
  asks : request.AsksFor rule
  proper : rule.IsProper
  orders : (request.entries.map (·.order.value)).Perm (consecutive 1 request.entries.length)
  suits : policy.Suits {slot | slot ∈ rule.slots}

theorem passes_ofRequest_iff {policy : Policy} {index : Nat} {request : Request} {rule : Rule} :
    (AssembledRule.ofRequest index request).Passes policy rule ↔ request.Passes policy rule := by
  have values : ((AssembledRule.ofRequest index request).slots.map (·.order.value)).Perm
      (request.entries.map (·.order.value)) := by
    have orders := congrArg (List.map Order.value)
      (AssembledRule.map_order_ofRequest index request)
    rw [List.map_map, List.map_map] at orders
    exact orders ▸ (Entry.sorted_perm request.entries).map _
  have hlength : (AssembledRule.ofRequest index request).slots.length = request.entries.length := by
    simpa using values.length_eq
  constructor
  · intro h
    obtain ⟨denotes, proper, orders, suits⟩ := h
    exact ⟨AssembledRule.denotes_ofRequest_iff.1 denotes, proper,
      hlength ▸ values.symm.trans orders, suits⟩
  · intro h
    obtain ⟨asks, proper, orders, suits⟩ := h
    exact ⟨AssembledRule.denotes_ofRequest_iff.2 asks, proper,
      hlength.symm ▸ values.trans orders, suits⟩

/-- **A request passes exactly if its names are known, its entries are numbered and its slots suit
the policy.** -/
theorem exists_passes_iff {policy : Policy} {request : Request} {type : TransactionType} :
    (∃ rule, request.Passes policy rule ∧ rule.transactionType = type) ↔
      request.transactionType = some type.name ∧
        (∃ future : FutureRule, request.futureRule = some future.name) ∧
        request.IsNumbered ∧ request.IsSuitable policy := by
  constructor
  · intro h
    obtain ⟨rule, ⟨asks, proper, orders, suits⟩, rfl⟩ := h
    obtain ⟨htype, hfuture, named⟩ := exists_asksFor_iff.1 ⟨rule, asks, rfl⟩
    obtain ⟨nonempty, nodup⟩ := asks.isProper_iff.1 proper
    refine ⟨htype, hfuture, isNumbered_iff.2 ⟨nonempty, orders⟩, named, nodup, ?_⟩
    simpa only [asks.mem_slots_iff] using suits
  · intro h
    obtain ⟨htype, hfuture, numbered, named, nodup, suits⟩ := h
    obtain ⟨nonempty, orders⟩ := isNumbered_iff.1 numbered
    obtain ⟨rule, asks, rfl⟩ := exists_asksFor_iff.2 ⟨htype, hfuture, named⟩
    refine ⟨rule, ⟨asks, asks.isProper_iff.2 ⟨nonempty, nodup⟩, orders, ?_⟩, rfl⟩
    simpa only [asks.mem_slots_iff] using suits

end Request

/-! ## Base orders -/

/-- A rule that names no slot twice has at most as many as there are. -/
theorem Rule.IsProper.length_le {rule : Rule} (proper : rule.IsProper) :
    rule.slots.length ≤ Slot.all.length :=
  (List.subperm_of_subset proper.nodup fun slot _ => slot.mem_all).length_le

/-- The names of a base order by ascending order value, where later entries with a name that has
occurred do not count. -/
def AreBaseNames (entries : List Entry) (names : List String) : Prop :=
  ∃ sorted, IsStableSort (fun entry : Entry => entry.order.value) entries sorted ∧
    names = (sorted.map (·.name)).eraseDups

theorem areBaseNames_iff {entries : List Entry} {names : List String} :
    AreBaseNames entries names ↔ names = ((Entry.sorted entries).map (·.name)).eraseDups :=
  exists_isStableSort _

/-- The entries are a base order of `components`: all of their names name components, and these
are they. -/
def IsBaseOrder (entries : List Entry) (components : List Component) : Prop :=
  AreBaseNames entries (components.map Component.name)

section BaseOrder

variable {entries : List Entry} {components : List Component}

theorem isBaseOrder_iff :
    IsBaseOrder entries components ↔
      components.map Component.name = ((Entry.sorted entries).map (·.name)).eraseDups :=
  areBaseNames_iff

theorem exists_isBaseOrder_iff :
    (∃ components, IsBaseOrder entries components) ↔
      ∀ entry ∈ entries, ∃ component : Component, component.name = entry.name := by
  simp only [isBaseOrder_iff]
  refine (exists_map_name (α := Component)).trans ?_
  simp only [List.mem_eraseDups, List.forall_mem_map, Entry.mem_sorted]
  rfl

theorem IsBaseOrder.nodup (h : IsBaseOrder entries components) : components.Nodup :=
  List.Nodup.of_map Component.name (isBaseOrder_iff.1 h ▸ nodup_eraseDups _)

theorem IsBaseOrder.mem_iff (h : IsBaseOrder entries components) {component : Component} :
    component ∈ components ↔ ∃ entry ∈ entries, entry.name = component.name := by
  rw [← List.mem_map_of_injective Component.name_injective, isBaseOrder_iff.1 h,
    List.mem_eraseDups]
  simp only [List.mem_map, Entry.mem_sorted]

/-- There are as many components as different names. -/
theorem IsBaseOrder.length_eq (h : IsBaseOrder entries components) :
    components.length = (entries.map (·.name)).toFinset.card := by
  have names : (components.map Component.name).toFinset = (entries.map (·.name)).toFinset := by
    ext name
    rw [isBaseOrder_iff.1 h]
    simp only [List.mem_toFinset, List.mem_eraseDups, List.mem_map, Entry.mem_sorted]
  rw [← names, List.toFinset_card_of_nodup (h.nodup.map Component.name_injective),
    List.length_map]

theorem IsBaseOrder.blocks_ne_nil_iff (h : IsBaseOrder entries components) :
    Slot.blocks components ≠ [] ↔ entries ≠ [] := by
  rw [← List.length_pos_iff, Slot.length_blocks, h.length_eq,
    Nat.mul_pos_iff_of_pos_left (by omega), Finset.card_pos, List.toFinset_nonempty_iff, ne_eq,
    List.map_eq_nil_iff]

end BaseOrder

namespace Request

/-- All names of a request with a base order are known, and `rule` is what they stand for: the
blocks of the components. -/
structure AsksForBlocks (request : Request) (rule : Rule) : Prop where
  transactionType : request.transactionType = some rule.transactionType.name
  futureRule : request.futureRule = some rule.futureRule.name
  slots : ∃ components, IsBaseOrder request.entries components ∧
    rule.slots = Slot.blocks components

/-- There are three slots for each different name. -/
theorem AsksForBlocks.length_slots {request : Request} {rule : Rule}
    (h : request.AsksForBlocks rule) :
    rule.slots.length = 3 * (request.entries.map (·.name)).toFinset.card := by
  obtain ⟨components, hbase, hslots⟩ := h.slots
  rw [hslots, Slot.length_blocks, hbase.length_eq]

/-- The request with its base order expanded. -/
def expanded (topology : Resolution Topology) (request : Request) : Request :=
  { request with entries := (Expansion.of request.entries topology).entries }

section Expanded

variable {request : Request} {topology : Topology} {rule : Rule}

/-- An expanded request asks for the blocks of its base order. -/
theorem asksFor_expanded_iff :
    (request.expanded (.found topology)).AsksFor rule ↔ request.AsksForBlocks rule := by
  simp only [asksFor_iff, expanded, Expansion.sorted_entries_of_found,
    Expansion.map_name_entries_of_found, map_name_eq_qualified_iff, ← isBaseOrder_iff]
  exact ⟨fun ⟨htype, hfuture, hslots⟩ => ⟨htype, hfuture, hslots⟩,
    fun ⟨htype, hfuture, hslots⟩ => ⟨htype, hfuture, hslots⟩⟩

/-- The numbers that an expansion gives are those that the checks want: there are no more slots
than 24, so the numbering stays far below the limit of its range. -/
theorem orders_expanded (asks : (request.expanded (.found topology)).AsksFor rule)
    (proper : rule.IsProper) :
    ((request.expanded (.found topology)).entries.map (·.order.value)).Perm
      (consecutive 1 (request.expanded (.found topology)).entries.length) := by
  have hlength := asks.perm_map_name.length_eq
  have few := proper.length_le
  have hall : Slot.all.length = 24 := rfl
  simp only [expanded, Expansion.of, suppressDuplicates, List.length_map,
    Entry.length_number] at hlength ⊢
  rw [Entry.map_value_number (by omega)]

/-- **A base order passes exactly if its request names a type and a future rule, and it names
components of which the slots suit the policy.** -/
theorem exists_passes_expanded_iff {policy : Policy} {type : TransactionType} :
    (∃ rule, (request.expanded (.found topology)).Passes policy rule ∧
        rule.transactionType = type) ↔
      request.transactionType = some type.name ∧
        (∃ future : FutureRule, request.futureRule = some future.name) ∧
        request.entries ≠ [] ∧ request.IsSuitableBase policy := by
  constructor
  · intro h
    obtain ⟨rule, ⟨asks, proper, -, suits⟩, rfl⟩ := h
    obtain ⟨htype, hfuture, components, hbase, hslots⟩ := asksFor_expanded_iff.1 asks
    refine ⟨htype, ⟨_, hfuture⟩, hbase.blocks_ne_nil_iff.1 (hslots ▸ proper.nonempty),
      exists_isBaseOrder_iff.1 ⟨_, hbase⟩, ?_⟩
    simpa only [hslots, Slot.mem_blocks, hbase.mem_iff] using suits
  · intro h
    obtain ⟨htype, ⟨future, hfuture⟩, nonempty, named, suits⟩ := h
    obtain ⟨components, hbase⟩ := exists_isBaseOrder_iff.2 named
    have asks : (request.expanded (.found topology)).AsksFor
        ⟨type, future, Slot.blocks components⟩ :=
      asksFor_expanded_iff.2 ⟨htype, hfuture, components, hbase, rfl⟩
    have proper : Rule.IsProper ⟨type, future, Slot.blocks components⟩ :=
      ⟨hbase.blocks_ne_nil_iff.2 nonempty, Slot.nodup_blocks hbase.nodup⟩
    refine ⟨_, ⟨asks, proper, orders_expanded asks proper, ?_⟩, rfl⟩
    simpa only [Slot.mem_blocks, hbase.mem_iff] using suits

end Expanded

end Request

end PaymentAllocation
