import PaymentAllocation.Proofs.UnknownComponents

/-!
# What is found about the names in entries

The check of names walks along sorted entries and keeps the slots that it has seen, but what it
finds is addressed to the caller's sequence: whether there is a finding about an entry, and which
one, follows from the request as it was written (`PolicySet.entries_judged_in_place`).

* `AssembledSlot.Precedes` is the order of the sorted entries: by order value and then by position.
  No two of them stand at the same place in it (`AssembledRule.slots_ofRequest_strict`), so that
  what the walk has seen before an entry is what precedes it (`entryViolations_eq_filterMap`).
* `Request.IsRepeated` says the same of what was written: another entry with the same name has a
  smaller order value, or the same one and a smaller position.
* `Request.JudgesEntry` says which findings there are about an entry, in terms of these.
-/

namespace PaymentAllocation

/-! ## The order of sorted entries -/

namespace AssembledSlot

/-- The entry comes before the other one: by its order value or, among equal ones, by its
position. -/
def Precedes (entry other : AssembledSlot) : Prop :=
  entry.order.value < other.order.value ∨
    entry.order.value = other.order.value ∧ entry.position < other.position

instance : DecidableRel Precedes := fun entry other =>
  inferInstanceAs (Decidable (entry.order.value < other.order.value ∨
    entry.order.value = other.order.value ∧ entry.position < other.position))

theorem Precedes.irrefl (entry : AssembledSlot) : ¬entry.Precedes entry := by
  unfold Precedes
  omega

theorem Precedes.asymm {entry other : AssembledSlot} (h : entry.Precedes other) :
    ¬other.Precedes entry := by
  unfold Precedes at *
  omega

/-- What is wrong with an entry that stands among others, where some slots were seen before. -/
def violation? (index : Nat) (seen : List Slot) (entries : List AssembledSlot)
    (entry : AssembledSlot) : Option Violation :=
  match entry.slot with
  | .notFound text => some (.slotUnknown index entry.position text)
  | .found slot =>
    if slot ∈ seen ∨ ∃ other ∈ entries, other.Precedes entry ∧ other.slot = .found slot then
      some (.slotRepeated index entry.position slot)
    else none

variable {index : Nat} {seen seen' : List Slot} {entries : List AssembledSlot}
  {first entry : AssembledSlot}

/-- An entry that comes first may as well be counted as seen. -/
theorem violation?_cons (before : first.Precedes entry)
    (hseen : ∀ slot, slot ∈ seen' ↔ slot ∈ seen ∨ first.slot = .found slot) :
    entry.violation? index seen (first :: entries) = entry.violation? index seen' entries := by
  unfold violation?
  cases entry.slot with
  | notFound text => rfl
  | found slot =>
    have same : (slot ∈ seen ∨ ∃ other ∈ first :: entries,
          other.Precedes entry ∧ other.slot = .found slot) ↔
        slot ∈ seen' ∨ ∃ other ∈ entries, other.Precedes entry ∧ other.slot = .found slot := by
      simp only [hseen, List.mem_cons, exists_eq_or_imp, before, true_and, or_assoc]
    simp only [same]

/-- For an entry that comes first only what was seen before counts. -/
theorem violation?_first (behind : ∀ other ∈ entries, first.Precedes other) {slot : Slot}
    (h : first.slot = .found slot) :
    first.violation? index seen (first :: entries) =
      if slot ∈ seen then some (.slotRepeated index first.position slot) else none := by
  have nothing : ¬∃ other ∈ first :: entries, other.Precedes first ∧ other.slot = .found slot := by
    rintro ⟨other, hother, before, -⟩
    rcases List.mem_cons.1 hother with rfl | hother
    · exact Precedes.irrefl other before
    · exact (behind other hother).asymm before
  simp only [violation?, h, nothing, or_false]

end AssembledSlot

open AssembledSlot

/-- Along sorted entries it does not take a walk to say what is wrong with each. -/
theorem entryViolations_eq_filterMap (index : Nat) (seen : List Slot)
    {entries : List AssembledSlot} (strict : entries.Pairwise Precedes) :
    entryViolations index seen entries = entries.filterMap (·.violation? index seen entries) := by
  induction entries generalizing seen with
  | nil => rfl
  | cons entry rest ih =>
    obtain ⟨first, strict⟩ := List.pairwise_cons.1 strict
    -- the first entry precedes all others, so for them it may move from the list to what was seen
    have tail (seen' : List Slot)
        (hseen : ∀ slot, slot ∈ seen' ↔ slot ∈ seen ∨ entry.slot = .found slot) :
        rest.filterMap (·.violation? index seen (entry :: rest)) =
          entryViolations index seen' rest := by
      rw [ih seen' strict]
      exact List.filterMap_congr fun other hother => violation?_cons (first other hother) hseen
    rw [entryViolations, List.filterMap_cons]
    cases hslot : entry.slot with
    | notFound text =>
      have unknown : entry.violation? index seen (entry :: rest) =
          some (.slotUnknown index entry.position text) := by
        rw [violation?, hslot]
      rw [unknown, tail seen (by simp [hslot])]
    | found slot =>
      rw [violation?_first first hslot]
      by_cases h : slot ∈ seen
      · have hseen : ∀ other, other ∈ seen ↔ other ∈ seen ∨ entry.slot = .found other := by
          intro other
          rw [hslot, Resolution.found.injEq]
          exact ⟨.inl, fun h' => h'.elim id fun heq => heq ▸ h⟩
        simp only [h, if_true, tail seen hseen]
      · have hseen : ∀ other, other ∈ slot :: seen ↔ other ∈ seen ∨ entry.slot = .found other := by
          intro other
          rw [hslot, Resolution.found.injEq, List.mem_cons, or_comm, eq_comm]
        simp only [h, if_false, tail (slot :: seen) hseen]

/-! ## Entries of a request -/

namespace AssembledRule

variable {index : Nat} {request : Request}

/-- The entries of an assembled request are those of the request with their positions. -/
theorem mem_slots_ofRequest {slot : AssembledSlot} :
    slot ∈ (ofRequest index request).slots ↔
      ∃ (position : Nat) (entry : Entry), request.entries[position]? = some entry ∧
        slot = ⟨entry.order, .resolve entry.name, position⟩ := by
  rw [slots_ofRequest, List.mem_map]
  constructor
  · rintro ⟨⟨entry, position⟩, hmem, rfl⟩
    rw [mem_sortBy, List.mem_zipIdx_iff_getElem?] at hmem
    exact ⟨position, entry, hmem, rfl⟩
  · rintro ⟨position, entry, hentry, rfl⟩
    refine ⟨(entry, position), ?_, rfl⟩
    rw [mem_sortBy, List.mem_zipIdx_iff_getElem?]
    exact hentry

theorem slots_ofRequest_strict (index : Nat) (request : Request) :
    (ofRequest index request).slots.Pairwise Precedes := by
  have places : request.entries.zipIdx.Pairwise fun a b : Entry × Nat => a.2 < b.2 := by
    have ascending := List.pairwise_lt_range' (s := 0) (n := request.entries.length)
    rw [← List.zipIdx_map_snd 0 request.entries, List.pairwise_map] at ascending
    exact ascending
  have strict := sortBy_stable (fun a : Entry × Nat => a.1.order.value) places
  rw [slots_ofRequest, List.pairwise_map]
  exact strict

/-- At each position of the request stands one entry. -/
theorem filter_position_slots {position : Nat} {entry : Entry}
    (h : request.entries[position]? = some entry) :
    (ofRequest index request).slots.filter (·.position = position) =
      [⟨entry.order, .resolve entry.name, position⟩] := by
  have nodup : (ofRequest index request).slots.Nodup := by
    refine (slots_ofRequest_strict index request).imp fun hprecedes heq => ?_
    exact Precedes.irrefl _ (heq ▸ hprecedes)
  refine List.perm_singleton.1 ((List.perm_ext_iff_of_nodup (nodup.filter _)
    (List.nodup_singleton _)).2 fun slot => ?_)
  rw [List.mem_filter, mem_slots_ofRequest, List.mem_singleton, decide_eq_true_eq]
  constructor
  · rintro ⟨⟨position', entry', h', rfl⟩, rfl⟩
    rw [h, Option.some.injEq] at h'
    rw [h']
  · rintro rfl
    exact ⟨⟨position, entry, h, rfl⟩, rfl⟩

end AssembledRule

namespace Request

/-- An entry before the one at that position has the same name. -/
def IsRepeated (request : Request) (position : Nat) (entry : Entry) : Prop :=
  ∃ (position' : Nat) (entry' : Entry), request.entries[position']? = some entry' ∧
    entry'.name = entry.name ∧
    (entry'.order.value < entry.order.value ∨
      entry'.order.value = entry.order.value ∧ position' < position)

instance (request : Request) (position : Nat) (entry : Entry) :
    Decidable (request.IsRepeated position entry) :=
  decidable_of_iff (∃ place ∈ request.entries.zipIdx, place.1.name = entry.name ∧
      (place.1.order.value < entry.order.value ∨
        place.1.order.value = entry.order.value ∧ place.2 < position)) <| by
    rw [Prod.exists, exists_comm]
    simp only [List.mem_zipIdx_iff_getElem?, IsRepeated]

variable {request : Request} {position : Nat} {entry : Entry}

/-- The walk meets the slot of an entry again exactly if the name of the entry is repeated. -/
theorem isRepeated_iff (index : Nat) {slot : Slot} (h : slot.name = entry.name) :
    request.IsRepeated position entry ↔
      ∃ other ∈ (AssembledRule.ofRequest index request).slots,
        other.Precedes ⟨entry.order, .resolve entry.name, position⟩ ∧
          other.slot = .found slot := by
  constructor
  · rintro ⟨position', entry', hentry, hname, before⟩
    refine ⟨_, AssembledRule.mem_slots_ofRequest.2 ⟨position', entry', hentry, rfl⟩, before, ?_⟩
    exact Resolution.resolve_eq_found_iff.2 (h.trans hname.symm)
  · rintro ⟨other, hother, before, hslot⟩
    obtain ⟨position', entry', hentry, rfl⟩ := AssembledRule.mem_slots_ofRequest.1 hother
    have hname := Resolution.resolve_eq_found_iff.1 hslot
    exact ⟨position', entry', hentry, hname.symm.trans h, before⟩

end Request

/-! ## Findings at an entry -/

/-- The finding is about the name in the entry at a position of the request at an index. -/
def Finding.IsAboutEntry (index position : Nat) (finding : Finding) : Prop :=
  (finding.rule = some "resolved_allocation_type" ∨
    finding.rule = some "unique_allocation_type") ∧ finding.field = slotField index position

instance (index position : Nat) : DecidablePred (Finding.IsAboutEntry index position) :=
  fun finding => inferInstanceAs (Decidable ((finding.rule = some "resolved_allocation_type" ∨
    finding.rule = some "unique_allocation_type") ∧ finding.field = slotField index position))

/-- Where the entry stands that a violation is about. -/
def Violation.entry? : Violation → Option (Nat × Nat)
  | slotUnknown index position _ | slotRepeated index position _ => some (index, position)
  | _ => none

theorem isAboutEntry_finding_iff {index position : Nat} {violation : Violation} :
    violation.finding.IsAboutEntry index position ↔
      violation.entry? = some (index, position) := by
  cases violation <;>
    simp [Violation.finding, Finding.IsAboutEntry, Violation.entry?, slotField_inj]

theorem Violation.origin_of_entry {violation : Violation} {index position : Nat}
    (h : violation.entry? = some (index, position)) :
    violation.origin? = some (index, .entries) := by
  cases violation <;> simp_all [Violation.entry?, Violation.origin?]

/-- An entry is found to be wrong at its own position. -/
theorem AssembledSlot.entry_of_violation {index : Nat} {seen : List Slot}
    {entries : List AssembledSlot} {entry : AssembledSlot} {violation : Violation}
    (h : entry.violation? index seen entries = some violation) :
    violation.entry? = some (index, entry.position) := by
  unfold violation? at h
  split at h
  · obtain rfl := Option.some.inj h
    rfl
  · split_ifs at h
    obtain rfl := Option.some.inj h
    rfl

/-- What is found about an entry: its name is unknown, or it is repeated, or nothing. -/
structure Request.JudgesEntry (request : Request) (index position : Nat) (entry : Entry)
    (findings : List Finding) : Prop where
  unknown : (∀ slot : Slot, slot.name ≠ entry.name) →
    findings = [⟨slotField index position, "Unknown payment allocation type",
      some "resolved_allocation_type", some entry.name⟩]
  repeated : (∃ slot : Slot, slot.name = entry.name) → request.IsRepeated position entry →
    findings = [⟨slotField index position, "Payment allocation type appears more than once",
      some "unique_allocation_type", some entry.name⟩]
  sound : (∃ slot : Slot, slot.name = entry.name) → ¬request.IsRepeated position entry →
    findings = []

theorem Request.judgesEntry_violation? (request : Request) (index position : Nat)
    (entry : Entry) :
    request.JudgesEntry index position entry
      (((AssembledSlot.mk entry.order (.resolve entry.name) position).violation? index []
        (AssembledRule.ofRequest index request).slots).toList.map Violation.finding) where
  unknown h := by
    have unknown : (Resolution.resolve entry.name : Resolution Slot) = .notFound entry.name :=
      Resolution.resolve_eq_notFound_iff.2 ⟨rfl, h⟩
    simp only [violation?, unknown]
    rfl
  repeated h again := by
    obtain ⟨slot, hslot⟩ := h
    have known : (Resolution.resolve entry.name : Resolution Slot) = .found slot :=
      Resolution.resolve_eq_found_iff.2 hslot
    have met := (isRepeated_iff index hslot).1 again
    rw [known] at met
    simp only [violation?, known, met, or_true, if_true]
    rw [← hslot]
    rfl
  sound h new := by
    obtain ⟨slot, hslot⟩ := h
    have known : (Resolution.resolve entry.name : Resolution Slot) = .found slot :=
      Resolution.resolve_eq_found_iff.2 hslot
    have notMet := mt (isRepeated_iff index hslot).2 new
    rw [known] at notMet
    simp only [violation?, known, notMet, List.not_mem_nil, or_false, if_false]
    rfl

/-! ## Findings in assembled requests -/

/-- What is found about the names in a request is found along its sorted entries. -/
theorem slotViolations_ofRequest (index : Nat) (request : Request) :
    slotViolations (.ofRequest index request) =
      (if request.entries = [] then [.noEntries index] else []) ++
        (AssembledRule.ofRequest index request).slots.filterMap
          (·.violation? index [] (AssembledRule.ofRequest index request).slots) := by
  have empty : (AssembledRule.ofRequest index request).slots.isEmpty ↔ request.entries = [] := by
    have slots := AssembledRule.map_slot_ofRequest index request
    rw [List.isEmpty_iff, ← List.length_eq_zero_iff, ← List.length_map, slots, List.length_map,
      (Entry.sorted_perm request.entries).length_eq, List.length_eq_zero_iff]
  have walk := entryViolations_eq_filterMap index []
    (AssembledRule.slots_ofRequest_strict index request)
  rw [slotViolations_eq_append, ← walk]
  simp only [empty]
  rfl

/-- Where a test of the results can be made before, it may be made before. -/
theorem filter_filterMap_eq {α β : Type} {f : α → Option β} {p : β → Bool} {q : α → Bool}
    (h : ∀ a b, f a = some b → p b = q a) (list : List α) :
    (list.filterMap f).filter p = (list.filter q).filterMap f := by
  rw [List.filter_filterMap, List.filterMap_filter]
  refine List.filterMap_congr fun a _ => ?_
  cases hf : f a with
  | none => simp
  | some b => simp [Option.filter, h a b hf]

/-- What is found about one entry is what is wrong with it. -/
theorem filter_entry_slotViolations {index position : Nat} {request : Request} {entry : Entry}
    (h : request.entries[position]? = some entry) :
    (slotViolations (.ofRequest index request)).filter
        (·.finding.IsAboutEntry index position) =
      ((AssembledSlot.mk entry.order (.resolve entry.name) position).violation? index []
        (AssembledRule.ofRequest index request).slots).toList := by
  have empty : (if request.entries = [] then [Violation.noEntries index] else []).filter
      (·.finding.IsAboutEntry index position) = [] := by
    split_ifs <;> simp [isAboutEntry_finding_iff, Violation.entry?]
  have here (slot : AssembledSlot) (violation : Violation)
      (hviolation : slot.violation? index [] (AssembledRule.ofRequest index request).slots =
        some violation) :
      decide (violation.finding.IsAboutEntry index position) =
        decide (slot.position = position) := by
    simp [isAboutEntry_finding_iff, AssembledSlot.entry_of_violation hviolation]
  rw [slotViolations_ofRequest, List.filter_append, empty, List.nil_append,
    filter_filterMap_eq here, AssembledRule.filter_position_slots h, List.filterMap_cons,
    List.filterMap_nil]
  cases AssembledSlot.violation? index [] (AssembledRule.ofRequest index request).slots
    ⟨entry.order, .resolve entry.name, position⟩ <;> rfl

/-- A name that something is found about stands in an entry of a request. -/
theorem exists_entry_of_mem_violations {policy : Policy} {code : Option String}
    {requests : List Request} {violation : Violation} {index position : Nat}
    (allows : policy.allowsAllocation = true)
    (h : violation ∈ violations policy code (AssembledRule.assemble requests))
    (place : violation.entry? = some (index, position)) :
    ∃ (request : Request) (entry : Entry), requests[index]? = some request ∧
      request.entries[position]? = some entry := by
  obtain ⟨request, hrequest, h⟩ :=
    exists_request_of_mem_violations allows h (Violation.origin_of_entry place)
  rw [Check.violations, slotViolations_ofRequest, List.mem_append, List.mem_filterMap] at h
  obtain h | ⟨slot, hslot, hviolation⟩ := h
  · split_ifs at h
    · obtain rfl := List.mem_singleton.1 h
      simp [Violation.entry?] at place
    · simp at h
  · obtain ⟨position', entry, hentry, rfl⟩ := AssembledRule.mem_slots_ofRequest.1 hslot
    rw [AssembledSlot.entry_of_violation hviolation] at place
    obtain ⟨-, rfl⟩ := Prod.mk.inj (Option.some.inj place)
    exact ⟨request, entry, hrequest, hentry⟩

/-- The finding is that a request has no entries. -/
def Finding.IsEmptiness (index : Nat) (finding : Finding) : Prop :=
  finding.rule = some "non_empty_order" ∧ finding.field = orderField index

instance (index : Nat) : DecidablePred (Finding.IsEmptiness index) := fun finding =>
  inferInstanceAs (Decidable (finding.rule = some "non_empty_order" ∧
    finding.field = orderField index))

theorem isEmptiness_finding_iff {index : Nat} {violation : Violation} :
    violation.finding.IsEmptiness index ↔ violation = .noEntries index := by
  cases violation <;>
    simp [Violation.finding, Finding.IsEmptiness, orderField_inj]

theorem filter_emptiness_slotViolations (index : Nat) (request : Request) :
    (slotViolations (.ofRequest index request)).filter (·.finding.IsEmptiness index) =
      if request.entries = [] then [.noEntries index] else [] := by
  have entries : ((AssembledRule.ofRequest index request).slots.filterMap
      (·.violation? index [] (AssembledRule.ofRequest index request).slots)).filter
        (·.finding.IsEmptiness index) = [] := by
    refine List.filter_eq_nil_iff.2 fun violation h => ?_
    obtain ⟨slot, -, hviolation⟩ := List.mem_filterMap.1 h
    have place := AssembledSlot.entry_of_violation hviolation
    rw [decide_eq_true_eq, isEmptiness_finding_iff]
    rintro rfl
    simp [Violation.entry?] at place
  rw [slotViolations_ofRequest, List.filter_append, entries, List.append_nil]
  split_ifs
  · exact List.filter_eq_self.2 fun violation h =>
      decide_eq_true (isEmptiness_finding_iff.2 (List.mem_singleton.1 h))
  · rfl

namespace PolicySet

/-- Findings of the validator that only the check of names can have on one request. -/
theorem filter_findings_entries {set : PolicySet} {code : Option String}
    {requests : List Request} {request : Request} {index : Nat} {p : Finding → Bool}
    (allows : (set.policyFor code).allowsAllocation = true)
    (hp : ∀ v : Violation, p v.finding = true → v.origin? = some (index, .entries))
    (hrequest : requests[index]? = some request) :
    (set.validator.findings (AssembledRule.assemble requests) code).filter p =
      ((slotViolations (.ofRequest index request)).filter (p ·.finding)).map Violation.finding := by
  rw [validator, List.filter_map]
  exact congrArg _ (filter_violations allows hp hrequest)

/-- **What is found about the name in an entry is told by the request as it was written, and points
to where the entry stands there.** Each name has at most one finding: that it is unknown, or that an
earlier entry by order value, or by position among equal ones, has it too. Nothing is found about
names that are not there, different entries have different paths, and a request is found to have no
entries exactly if it has none. -/
theorem entries_judged_in_place {set : PolicySet} {code : Option String}
    (allows : (set.policyFor code).allowsAllocation = true) (requests : List Request) :
    (∀ (i j : Nat) (request : Request) (entry : Entry), requests[i]? = some request →
      request.entries[j]? = some entry → request.JudgesEntry i j entry
        ((set.validator.findings (AssembledRule.assemble requests) code).filter
          (·.IsAboutEntry i j))) ∧
      (∀ finding ∈ set.validator.findings (AssembledRule.assemble requests) code,
        finding.rule = some "resolved_allocation_type" ∨
            finding.rule = some "unique_allocation_type" →
          ∃ (i j : Nat) (request : Request) (entry : Entry), requests[i]? = some request ∧
            request.entries[j]? = some entry ∧ finding.field = slotField i j) ∧
      (∀ i j i' j' : Nat, slotField i j = slotField i' j' → i = i' ∧ j = j') ∧
      ∀ (i : Nat) (request : Request), requests[i]? = some request →
        (set.validator.findings (AssembledRule.assemble requests) code).filter
            (·.IsEmptiness i) =
          if request.entries = [] then
            [⟨orderField i, "Payment allocation order cannot be empty", some "non_empty_order",
              none⟩]
          else [] := by
  refine ⟨fun i j request entry hrequest hentry => ?_, fun finding hfinding hrule => ?_,
    fun i j i' j' => slotField_inj.1, fun i request hrequest => ?_⟩
  · have origin (v : Violation) (h : decide (v.finding.IsAboutEntry i j) = true) :
        v.origin? = some (i, .entries) :=
      Violation.origin_of_entry (isAboutEntry_finding_iff.1 (of_decide_eq_true h))
    rw [filter_findings_entries allows origin hrequest, filter_entry_slotViolations hentry]
    exact request.judgesEntry_violation? i j entry
  · obtain ⟨violation, hviolation, rfl⟩ := List.mem_map.1 hfinding
    obtain ⟨i, j, place⟩ : ∃ i j, violation.entry? = some (i, j) := by
      cases violation <;> simp_all [Violation.finding, Violation.entry?]
    obtain ⟨request, entry, hrequest, hentry⟩ :=
      exists_entry_of_mem_violations allows hviolation place
    exact ⟨i, j, request, entry, hrequest, hentry, (isAboutEntry_finding_iff.2 place).2⟩
  · have origin (v : Violation) (h : decide (v.finding.IsEmptiness i) = true) :
        v.origin? = some (i, .entries) := by
      rw [isEmptiness_finding_iff.1 (of_decide_eq_true h)]
      rfl
    rw [filter_findings_entries allows origin hrequest, filter_emptiness_slotViolations]
    split_ifs <;> rfl

/-- A request that gives names again at equal and at smaller order values, and an unknown one. -/
def tiedEntries : Request :=
  ⟨some "DEFAULT", some "NEXT_INSTALLMENT",
    [⟨.ofNat 2, "DUE_FEE"⟩, ⟨.ofNat 3, "BOGUS"⟩, ⟨.ofNat 1, "DUE_FEE"⟩, ⟨.ofNat 3, "BOGUS"⟩,
      ⟨.ofNat 1, "DUE_FEE"⟩]⟩

theorem entries_judged_in_place_tiedEntries :
    let findings := standard.validator.findings (AssembledRule.assemble [tiedEntries])
      (some "advanced-payment-allocation-strategy")
    findings.filter (·.IsAboutEntry 0 0) =
        [⟨"paymentAllocation[0].paymentAllocationOrder[0].paymentAllocationRule",
          "Payment allocation type appears more than once", some "unique_allocation_type",
          some "DUE_FEE"⟩] ∧
      findings.filter (·.IsAboutEntry 0 1) =
        [⟨"paymentAllocation[0].paymentAllocationOrder[1].paymentAllocationRule",
          "Unknown payment allocation type", some "resolved_allocation_type", some "BOGUS"⟩] ∧
      findings.filter (·.IsAboutEntry 0 2) = [] := by
  obtain ⟨judged, -⟩ := @entries_judged_in_place standard
    (some "advanced-payment-allocation-strategy") (by decide) [tiedEntries]
  have known : ∃ slot : Slot, slot.name = "DUE_FEE" := ⟨⟨.due, .fee⟩, by decide⟩
  have unknown : ∀ slot : Slot, slot.name ≠ "BOGUS" := by
    intro slot
    have all : ∀ slot ∈ Slot.all, slot.name ≠ "BOGUS" := by decide
    exact all slot (Vocabulary.mem_all slot)
  refine ⟨?_, ?_, ?_⟩
  · exact (judged 0 0 _ _ rfl rfl).repeated known (by decide)
  · exact (judged 0 1 _ _ rfl rfl).unknown unknown
  · exact (judged 0 2 _ _ rfl rfl).sound known (by decide)

end PolicySet

end PaymentAllocation
