import PaymentAllocation.Proofs.Reports

/-!
# Names that are no components

A name of a base order that names no component names no slot in any due state, and each of its three
slots is reported where it stands in the expanded order (`entryViolations_expanded`). The expansion
has dropped repeats before, so nothing is reported twice, and no slot of the first request is ever
reported as repeated (`PolicySet.unknown_components_reported`).
-/

namespace PaymentAllocation

/-! ## Entries whose known slots are different -/

/-- The violation of an entry whose name is unknown. -/
def AssembledSlot.unknown? (index : Nat) (entry : AssembledSlot) : Option Violation :=
  match entry.slot with
  | .notFound text => some (.slotUnknown index entry.position text)
  | .found _ => none

/-- Where known slots are new and not repeated, only unknown names are violations. -/
theorem entryViolations_of_isFresh {index : Nat} {seen : List Slot} {entries : List AssembledSlot}
    (fresh : IsFresh seen (entries.filterMap (·.slot.member?))) :
    entryViolations index seen entries = entries.filterMap (·.unknown? index) := by
  induction entries generalizing seen with
  | nil => rfl
  | cons entry rest ih =>
    rw [entryViolations]
    cases hslot : entry.slot with
    | notFound text =>
      rw [List.filterMap_cons_none (by rw [hslot]; rfl)] at fresh
      have unknown : entry.unknown? index = some (.slotUnknown index entry.position text) := by
        rw [AssembledSlot.unknown?, hslot]
      rw [List.filterMap_cons_some unknown, ih fresh]
    | found slot =>
      rw [List.filterMap_cons_some (by rw [hslot]; rfl), isFresh_cons_iff] at fresh
      have known : entry.unknown? index = none := by rw [AssembledSlot.unknown?, hslot]
      dsimp only
      rw [if_neg fresh.1, List.filterMap_cons_none known, ih fresh.2]

theorem slotViolations_eq_append (rule : AssembledRule) :
    slotViolations rule =
      (if rule.slots.isEmpty then [.noEntries rule.index] else []) ++
        entryViolations rule.index [] rule.slots := by
  rw [slotViolations]
  split_ifs with h
  · rw [List.isEmpty_iff.1 h]
    rfl
  · rfl

namespace AssembledRule

theorem slots_ofRequest_of_ascending (index : Nat) {request : Request}
    (h : request.entries.Pairwise fun a b => a.order.value ≤ b.order.value) :
    (ofRequest index request).slots =
      request.entries.zipIdx.map fun (entry, position) =>
        ⟨entry.order, .resolve entry.name, position⟩ := by
  rw [← List.zipIdx_map_fst 0 request.entries, List.pairwise_map] at h
  exact sortBy_eq_self _ (List.pairwise_map.2 h)

/-- Different names do not stand for the same slot. -/
theorem nodup_knownSlots_ofRequest (index : Nat) {request : Request}
    (nodup : (request.entries.map (·.name)).Nodup) :
    (ofRequest index request).knownSlots.Nodup := by
  have known : (ofRequest index request).knownSlots =
      ((Entry.sorted request.entries).map (·.name)).filterMap fun name =>
        (Resolution.resolve name).member? := by
    have slots := congrArg (List.filterMap Resolution.member?) (map_slot_ofRequest index request)
    rw [List.filterMap_map, List.filterMap_map] at slots
    rw [List.filterMap_map]
    exact slots
  rw [known]
  refine List.Nodup.filterMap (fun name name' slot h h' => ?_)
    ((((Entry.sorted_perm request.entries).map _).nodup_iff).2 nodup)
  have named {name : String} (h : slot ∈ (Resolution.resolve name : Resolution Slot).member?) :
      slot.name = name :=
    Resolution.resolve_eq_found_iff.1 (Resolution.member?_eq_some_iff.1 h)
  exact (named h).symm.trans (named h')

end AssembledRule

/-! ## Unknown components -/

/-- The text names no component. -/
def IsUnknownComponent (text : String) : Prop := ∀ component : Component, component.name ≠ text

instance : DecidablePred IsUnknownComponent := fun text =>
  decidable_of_iff (∀ component ∈ (Vocabulary.all : List Component), component.name ≠ text)
    ⟨fun h component => h component (Vocabulary.mem_all component),
      fun h component _ => h component⟩

theorem resolve_qualify_eq_notFound_iff {state : DueState} {text kept : String} :
    (Resolution.resolve (state.qualify text) : Resolution Slot) = .notFound kept ↔
      kept = state.qualify text ∧ IsUnknownComponent text := by
  rw [Resolution.resolve_eq_notFound_iff]
  refine and_congr_right fun _ => ?_
  constructor
  · intro h component hname
    exact h ⟨state, component⟩ (Slot.name_eq_qualify_iff.2 ⟨rfl, hname⟩)
  · intro h slot hname
    exact h slot.component (Slot.name_eq_qualify_iff.1 hname).2

/-- The violations of the expanded order of these names: in each due state one for each name that is
no component, at its place there. -/
def unknownSlots (names : List String) : List Violation :=
  [DueState.pastDue, .due, .inAdvance].zipIdx.flatMap fun (state, k) =>
    (names.zipIdx.filter fun (name, _) => IsUnknownComponent name).map fun (name, j) =>
      .slotUnknown 0 (k * names.length + j) (state.qualify name)

theorem filterMap_eq_map_filter {α β : Type} {f : α → Option β} {p : α → Prop} [DecidablePred p]
    {g : α → β} (h : ∀ a, f a = if p a then some (g a) else none) (list : List α) :
    list.filterMap f = (list.filter (p ·)).map g := by
  rw [← List.filterMap_eq_map, List.filterMap_filter]
  refine List.filterMap_congr fun a _ => ?_
  simp [h]

/-- The name of a slot is unknown exactly if its component is. -/
theorem unknown?_qualify (state : DueState) (text : String) (order : Order) (position : Nat) :
    AssembledSlot.unknown? 0 ⟨order, .resolve (state.qualify text), position⟩ =
      if IsUnknownComponent text then some (.slotUnknown 0 position (state.qualify text))
      else none := by
  rw [AssembledSlot.unknown?]
  cases h : (Resolution.resolve (state.qualify text) : Resolution Slot) with
  | notFound kept =>
    obtain ⟨rfl, unknown⟩ := resolve_qualify_eq_notFound_iff.1 h
    rw [if_pos unknown]
  | found slot =>
    have known : ¬IsUnknownComponent text := fun unknown => by
      simp [resolve_qualify_eq_notFound_iff.2 ⟨rfl, unknown⟩] at h
    rw [if_neg known]

theorem filterMap_zipIdx_number {β : Type} (f : String × Nat → Option β) (texts : List String) :
    (Entry.number texts).zipIdx.filterMap (fun (entry, position) => f (entry.name, position)) =
      texts.zipIdx.filterMap f := by
  have names := congrArg (List.filterMap f) (List.zipIdx_map (l := Entry.number texts) (k := 0)
    (f := fun entry : Entry => entry.name))
  rw [Entry.map_name_number, List.filterMap_map] at names
  exact names.symm

theorem entryViolations_expanded (request : Request) (topology : Topology) :
    entryViolations 0 [] (AssembledRule.ofRequest 0 (request.expanded (.found topology))).slots =
      unknownSlots ((Entry.sorted request.entries).map (·.name)).eraseDups := by
  have fresh :
      (AssembledRule.ofRequest 0 (request.expanded (.found topology))).knownSlots.Nodup := by
    refine AssembledRule.nodup_knownSlots_ofRequest 0 ?_
    rw [Request.expanded, Expansion.map_name_entries_of_found, ← eraseDups_qualified]
    exact nodup_eraseDups _
  have entries : (request.expanded (.found topology)).entries =
      Entry.number (qualified ((Entry.sorted request.entries).map (·.name)).eraseDups) :=
    Expansion.entries_of_found request.entries topology
  rw [entryViolations_of_isFresh (isFresh_nil_iff.2 fresh),
    AssembledRule.slots_ofRequest_of_ascending 0 (entries ▸ Entry.number_ascending _), entries,
    List.filterMap_map]
  generalize ((Entry.sorted request.entries).map (·.name)).eraseDups = names
  calc
    _ = (qualified names).zipIdx.filterMap fun (text, position) =>
        AssembledSlot.unknown? 0 ⟨.one, .resolve text, position⟩ :=
      filterMap_zipIdx_number _ _
    _ = unknownSlots names := by
      rw [zipIdx_qualified, List.filterMap_flatMap, unknownSlots]
      refine List.flatMap_congr fun block _ => ?_
      rw [List.filterMap_map]
      exact filterMap_eq_map_filter (fun _ => unknown?_qualify _ _ _ _) names.zipIdx

/-! ## What is reported -/

/-- A base order with these names has a finding for each that is no component in each due state. It
points to the place of the slot in the expanded order. -/
def unknownFindings (names : List String) : List Finding :=
  [DueState.pastDue, .due, .inAdvance].zipIdx.flatMap fun (state, k) =>
    (names.zipIdx.filter fun (name, _) => IsUnknownComponent name).map fun (name, j) =>
      ⟨slotField 0 (k * names.length + j), "Unknown payment allocation type",
        some "resolved_allocation_type", some (state.qualify name)⟩

theorem map_finding_unknownSlots (names : List String) :
    (unknownSlots names).map Violation.finding = unknownFindings names := by
  simp only [unknownSlots, unknownFindings, List.map_flatMap, List.map_map]
  rfl

theorem map_value_unknownFindings (names : List String) :
    (unknownFindings names).map (·.value) =
      (qualified (names.filter (IsUnknownComponent ·))).map some := by
  have unknown : (names.zipIdx.filter fun (name, _) => IsUnknownComponent name).map Prod.fst =
      names.filter (IsUnknownComponent ·) := by
    rw [← List.zipIdx_map_fst 0 names, List.filter_map, List.zipIdx_map_fst]
    rfl
  simp only [unknownFindings, qualified, List.map_flatMap, List.map_map, ← unknown]
  rfl

theorem length_unknownFindings (names : List String) :
    (unknownFindings names).length = 3 * (names.filter (IsUnknownComponent ·)).length := by
  simpa using congrArg List.length (map_value_unknownFindings names)

/-- The finding is of a rule and about the request at an index. -/
def Finding.Breaks (rule : String) (index : Nat) (finding : Finding) : Prop :=
  finding.rule = some rule ∧ finding.IsAbout index

instance (rule : String) (index : Nat) : DecidablePred (Finding.Breaks rule index) :=
  fun finding => inferInstanceAs (Decidable (finding.rule = some rule ∧ finding.IsAbout index))

theorem Finding.breaks_iff {rule : String} {index index' : Nat} {name : String} {finding : Finding}
    (h : finding.field = requestField index' name) :
    finding.Breaks rule index ↔ finding.rule = some rule ∧ index = index' := by
  rw [Breaks, isAbout_iff h]

theorem breaks_resolved_iff {index : Nat} {violation : Violation} :
    violation.finding.Breaks "resolved_allocation_type" index ↔
      ∃ position text, violation = .slotUnknown index position text := by
  cases violation with
  | slotUnknown index' position text =>
    rw [Finding.breaks_iff rfl]
    simp [Violation.finding, eq_comm]
  | _ => simp [Finding.Breaks, Violation.finding]

theorem breaks_unique_iff {index : Nat} {violation : Violation} :
    violation.finding.Breaks "unique_allocation_type" index ↔
      ∃ position slot, violation = .slotRepeated index position slot := by
  cases violation with
  | slotRepeated index' position slot =>
    rw [Finding.breaks_iff rfl]
    simp [Violation.finding, eq_comm]
  | _ => simp [Finding.Breaks, Violation.finding]

theorem breaks_of_mem_unknownFindings {names : List String} {finding : Finding}
    (h : finding ∈ unknownFindings names) : finding.Breaks "resolved_allocation_type" 0 := by
  rw [← map_finding_unknownSlots] at h
  obtain ⟨violation, hviolation, rfl⟩ := List.mem_map.1 h
  simp only [unknownSlots, List.mem_flatMap, List.mem_map] at hviolation
  obtain ⟨_, _, _, _, rfl⟩ := hviolation
  exact breaks_resolved_iff.2 ⟨_, _, rfl⟩

namespace PolicySet

variable {set : PolicySet} {code : Option String} {first : Request} {rest : List Request}
  {topology : Topology}

/-- Findings that only the check of names can have on the first request, where it is expanded. -/
theorem filter_reported_entries (allows : (set.policyFor code).allowsAllocation = true)
    {p : Finding → Bool}
    (hp : ∀ v : Violation, p v.finding = true → v.origin? = some (0, .entries)) :
    (reported (set.compile (first :: rest) (.found topology) code)).filter p =
      (if (AssembledRule.ofRequest 0 (first.expanded (.found topology))).slots.isEmpty then
          [(Violation.noEntries 0).finding].filter p else []) ++
        (unknownFindings ((Entry.sorted first.entries).map (·.name)).eraseDups).filter p := by
  have base : ((baseViolations (.found topology) (first :: rest)).map Violation.finding).filter p =
      [] := by
    refine List.filter_eq_nil_iff.2 (List.forall_mem_map.2 fun v hv hpv => ?_)
    simpa [origin_of_mem_baseViolations hv] using hp v hpv
  have slots := slotViolations_eq_append (.ofRequest 0 (first.expanded (.found topology)))
  have entries := entryViolations_expanded first topology
  rw [filter_reported allows hp rfl, base, List.nil_append, if_pos rfl, Check.violations, slots,
    List.map_append, List.filter_append]
  refine congrArg₂ (· ++ ·) ?_ ?_
  · split_ifs <;> rfl
  · rw [← map_finding_unknownSlots, ← entries]
    rfl

theorem filter_reported_resolved (allows : (set.policyFor code).allowsAllocation = true) :
    (reported (set.compile (first :: rest) (.found topology) code)).filter
        (·.Breaks "resolved_allocation_type" 0) =
      unknownFindings ((Entry.sorted first.entries).map (·.name)).eraseDups := by
  have origin (v : Violation) (h : decide (v.finding.Breaks "resolved_allocation_type" 0) = true) :
      v.origin? = some (0, .entries) := by
    obtain ⟨position, text, rfl⟩ := breaks_resolved_iff.1 (of_decide_eq_true h)
    rfl
  have empty : [(Violation.noEntries 0).finding].filter
      (·.Breaks "resolved_allocation_type" 0) = [] := by decide
  rw [filter_reported_entries allows origin, empty, ite_self, List.nil_append]
  exact List.filter_eq_self.2 fun finding h => decide_eq_true (breaks_of_mem_unknownFindings h)

theorem not_breaks_unique (allows : (set.policyFor code).allowsAllocation = true) :
    ∀ finding ∈ reported (set.compile (first :: rest) (.found topology) code),
      ¬finding.Breaks "unique_allocation_type" 0 := by
  have origin (v : Violation) (h : decide (v.finding.Breaks "unique_allocation_type" 0) = true) :
      v.origin? = some (0, .entries) := by
    obtain ⟨position, slot, rfl⟩ := breaks_unique_iff.1 (of_decide_eq_true h)
    rfl
  have empty : [(Violation.noEntries 0).finding].filter
      (·.Breaks "unique_allocation_type" 0) = [] := by decide
  have unknown : (unknownFindings ((Entry.sorted first.entries).map (·.name)).eraseDups).filter
      (·.Breaks "unique_allocation_type" 0) = [] := by
    refine List.filter_eq_nil_iff.2 fun finding h => ?_
    rw [decide_eq_true_eq, Finding.Breaks, (breaks_of_mem_unknownFindings h).1]
    simp
  have none : (reported (set.compile (first :: rest) (.found topology) code)).filter
      (·.Breaks "unique_allocation_type" 0) = [] := by
    rw [filter_reported_entries allows origin, empty, ite_self, unknown, List.append_nil]
  exact fun finding h => by simpa using List.filter_eq_nil_iff.1 none finding h

/-- **Names of a base order that are no components are reported, and never dropped.** Each different
one has three findings, one in each due state, at the places of its slots in the expanded order. No
slot of the first request is reported as repeated, since the expansion drops repeats. -/
theorem unknown_components_reported {set : PolicySet} {code : Option String}
    (allows : (set.policyFor code).allowsAllocation = true) (topology : Topology)
    (first : Request) (rest : List Request) :
    ∃ names, AreBaseNames first.entries names ∧
      (reported (set.compile (first :: rest) (.found topology) code)).filter
          (·.Breaks "resolved_allocation_type" 0) = unknownFindings names ∧
      (unknownFindings names).length =
        3 * ((first.entries.map (·.name)).toFinset.filter IsUnknownComponent).card ∧
      (∀ entry ∈ first.entries, IsUnknownComponent entry.name → ∀ state : DueState,
        ((unknownFindings names).map (·.value)).count (some (state.qualify entry.name)) = 1) ∧
      ∀ finding ∈ reported (set.compile (first :: rest) (.found topology) code),
        ¬finding.Breaks "unique_allocation_type" 0 := by
  have mem (name : String) : name ∈ ((Entry.sorted first.entries).map (·.name)).eraseDups ↔
      name ∈ first.entries.map (·.name) :=
    List.mem_eraseDups.trans ((Entry.sorted_perm first.entries).map _).mem_iff
  have nodup := nodup_eraseDups ((Entry.sorted first.entries).map (·.name))
  refine ⟨_, areBaseNames_iff.2 rfl, filter_reported_resolved allows, ?_, ?_,
    not_breaks_unique allows⟩
  · have names : (((Entry.sorted first.entries).map (·.name)).eraseDups.filter
        (IsUnknownComponent ·)).toFinset =
        (first.entries.map (·.name)).toFinset.filter IsUnknownComponent := by
      ext name
      simp [mem]
    rw [length_unknownFindings, ← names, List.toFinset_card_of_nodup (nodup.filter _)]
  · intro entry hentry unknown state
    rw [map_value_unknownFindings]
    refine List.count_eq_one_of_mem ((nodup_qualified (nodup.filter _)).map
      (Option.some_injective _)) (List.mem_map_of_mem (qualify_mem_qualified ?_))
    rw [List.mem_filter, mem]
    exact ⟨List.mem_map_of_mem hentry, decide_eq_true unknown⟩

/-- A base order that names what is no component, and repeats it. -/
def unknownBase : Request :=
  ⟨some "DEFAULT", some "NEXT_INSTALLMENT",
    [⟨.ofNat 2, "BOGUS"⟩, ⟨.ofNat 1, "PENALTY"⟩, ⟨.ofNat 3, "BOGUS"⟩]⟩

theorem unknown_components_reported_unknownBase :
    (reported (standard.compile [unknownBase] (.found .vertical)
        (some "advanced-payment-allocation-strategy"))).filter
        (·.Breaks "resolved_allocation_type" 0) =
      [⟨"paymentAllocation[0].paymentAllocationOrder[1].paymentAllocationRule",
          "Unknown payment allocation type", some "resolved_allocation_type",
          some "PAST_DUE_BOGUS"⟩,
        ⟨"paymentAllocation[0].paymentAllocationOrder[3].paymentAllocationRule",
          "Unknown payment allocation type", some "resolved_allocation_type", some "DUE_BOGUS"⟩,
        ⟨"paymentAllocation[0].paymentAllocationOrder[5].paymentAllocationRule",
          "Unknown payment allocation type", some "resolved_allocation_type",
          some "IN_ADVANCE_BOGUS"⟩] := by
  obtain ⟨names, base, found, -⟩ := @unknown_components_reported standard
    (some "advanced-payment-allocation-strategy") (by decide) .vertical unknownBase []
  have hnames : names = ["PENALTY", "BOGUS"] := by
    rw [areBaseNames_iff.1 base]
    decide
  rw [found, hnames]
  decide +kernel

end PolicySet

end PaymentAllocation
