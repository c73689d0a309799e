import PaymentAllocation.Proofs.Acceptance

/-!
# Policies that can be satisfied

Which policies leave room for any allocation. One that allows allocations accepts some requests
under an unknown topology exactly if it is satisfiable (`Policy.IsSatisfiable`): then requests for
all types of transaction, each with every slot that is not forbidden, are accepted
(`Policy.widestRequests`). Under a known topology the first request stands for slots in all due
states, so a component counts as a whole (`Policy.Frees`) and less is satisfiable
(`Policy.IsSatisfiableByBlocks`).

A policy that both requires and forbids a slot is never satisfiable
(`Policy.exists_contradiction_iff`), but there are others that nothing is wrong with.
-/

namespace PaymentAllocation

namespace Policy

variable {policy : Policy}

/-! ## Room for slots -/

/-- A policy leaves room for a rule. -/
structure IsSatisfiable (policy : Policy) : Prop where
  disjoint : ∀ slot ∈ policy.requiredSlots, slot ∉ policy.forbiddenSlots
  free : ∃ slot : Slot, slot ∉ policy.forbiddenSlots
  complete : policy.requiresCompleteSet = true → policy.forbiddenSlots = []

/-- No slot of the component is forbidden. -/
def Frees (policy : Policy) (component : Component) : Prop :=
  ∀ state, ⟨state, component⟩ ∉ policy.forbiddenSlots

instance : DecidablePred policy.Frees := fun component =>
  decidable_of_iff (∀ state ∈ (Vocabulary.all : List DueState),
      (⟨state, component⟩ : Slot) ∉ policy.forbiddenSlots)
    ⟨fun h state => h state (Vocabulary.mem_all state), fun h state _ => h state⟩

/-- A policy leaves room for a rule that names each of its components in all due states. -/
structure IsSatisfiableByBlocks (policy : Policy) : Prop where
  required : ∀ slot ∈ policy.requiredSlots, policy.Frees slot.component
  free : ∃ component, policy.Frees component
  complete : policy.requiresCompleteSet = true → policy.forbiddenSlots = []

theorem IsSatisfiableByBlocks.isSatisfiable (h : policy.IsSatisfiableByBlocks) :
    policy.IsSatisfiable := by
  obtain ⟨component, hcomponent⟩ := h.free
  exact ⟨fun slot hslot => h.required slot hslot slot.state, ⟨_, hcomponent .due⟩, h.complete⟩

theorem Suits.isSatisfiable {slots : Set Slot} (h : policy.Suits slots)
    (nonempty : slots.Nonempty) : policy.IsSatisfiable := by
  obtain ⟨slot, hslot⟩ := nonempty
  refine ⟨fun slot hslot forbidden => h.forbidden slot forbidden (h.required slot hslot),
    ⟨slot, fun forbidden => h.forbidden slot forbidden hslot⟩, fun complete => ?_⟩
  exact List.eq_nil_iff_forall_not_mem.2 fun slot forbidden =>
    h.forbidden slot forbidden (h.complete complete slot)

theorem Suits.isSatisfiableByBlocks (components : Set Component)
    (h : policy.Suits {slot | slot.component ∈ components}) (nonempty : components.Nonempty) :
    policy.IsSatisfiableByBlocks := by
  have frees : ∀ component ∈ components, policy.Frees component :=
    fun component hcomponent state forbidden => h.forbidden _ forbidden hcomponent
  obtain ⟨component, hcomponent⟩ := nonempty
  refine ⟨fun slot hslot => frees _ (h.required slot hslot), ⟨component, frees _ hcomponent⟩, ?_⟩
  exact (h.isSatisfiable ⟨⟨.due, component⟩, hcomponent⟩).complete

/-- All slots that are not forbidden. -/
def freeSlots (policy : Policy) : List Slot := Slot.all.filter (· ∉ policy.forbiddenSlots)

/-- All components of which no slot is forbidden. -/
def freeComponents (policy : Policy) : List Component :=
  (Vocabulary.all : List Component).filter policy.Frees

theorem mem_freeSlots {slot : Slot} : slot ∈ policy.freeSlots ↔ slot ∉ policy.forbiddenSlots := by
  simp [freeSlots, Slot.mem_all]

theorem mem_freeComponents {component : Component} :
    component ∈ policy.freeComponents ↔ policy.Frees component := by
  simp [freeComponents, Vocabulary.mem_all]

/-- If any slots suit a policy, those do that are not forbidden. -/
theorem IsSatisfiable.suits_freeSlots (h : policy.IsSatisfiable) :
    policy.Suits {slot | slot ∈ policy.freeSlots} where
  forbidden slot forbidden free := mem_freeSlots.1 free forbidden
  required slot required := mem_freeSlots.2 (h.disjoint slot required)
  complete complete slot := mem_freeSlots.2 (by simp [h.complete complete])

theorem IsSatisfiableByBlocks.suits_freeComponents (h : policy.IsSatisfiableByBlocks) :
    policy.Suits {slot | slot.component ∈ policy.freeComponents} where
  forbidden slot forbidden free := mem_freeComponents.1 free slot.state forbidden
  required slot required := mem_freeComponents.2 (h.required slot required)
  complete complete slot := mem_freeComponents.2 fun state => by simp [h.complete complete]

/-! ## Policies that require what they forbid -/

/-- A finding says that a policy requires what it forbids exactly if that is so of a slot, or if all
slots are required and some are forbidden. -/
theorem exists_contradiction_iff :
    (∃ finding ∈ policy.findings, finding.rule = some "disjoint_required_forbidden") ↔
      (∃ slot ∈ policy.requiredSlots, slot ∈ policy.forbiddenSlots) ∨
        policy.requiresCompleteSet = true ∧ policy.forbiddenSlots ≠ [] := by
  have rule (fault : Fault) :
      (fault.finding policy.code).rule = some "disjoint_required_forbidden" ↔
        (∃ slot, fault = .contradictory slot) ∨ fault = .incompletable := by
    cases fault <;> simp [Fault.finding]
  have contradictory (slot : Slot) : .contradictory slot ∈ policy.faults ↔
      slot ∈ policy.requiredSlots ∧ slot ∈ policy.forbiddenSlots := by
    simp [faults]
  have incompletable : .incompletable ∈ policy.faults ↔
      policy.requiresCompleteSet = true ∧ policy.forbiddenSlots ≠ [] := by
    simp [faults]
  simp only [findings, List.mem_map, exists_exists_and_eq_and, rule]
  constructor
  · rintro ⟨_, hfault, ⟨slot, rfl⟩ | rfl⟩
    · exact .inl ⟨slot, (contradictory slot).1 hfault⟩
    · exact .inr (incompletable.1 hfault)
  · rintro (⟨slot, hslot⟩ | h)
    · exact ⟨_, (contradictory slot).2 hslot, .inl ⟨slot, rfl⟩⟩
    · exact ⟨_, incompletable.2 h, .inr rfl⟩

theorem IsSatisfiable.not_contradiction (h : policy.IsSatisfiable) :
    ¬∃ finding ∈ policy.findings, finding.rule = some "disjoint_required_forbidden" := by
  rw [exists_contradiction_iff]
  rintro (⟨slot, required, forbidden⟩ | ⟨complete, some⟩)
  · exact h.disjoint slot required forbidden
  · exact some (h.complete complete)

end Policy

/-! ## Requests that leave nothing out -/

namespace Request

variable {policy : Policy} {type : TransactionType}

/-- A request that numbers names in their sequence. -/
def ofNames (type : TransactionType) (names : List String) : Request :=
  ⟨some type.name, some FutureRule.nextInstallment.name, Entry.number names⟩

theorem exists_entry_ofNames {names : List String} {name : String} :
    (∃ entry ∈ (ofNames type names).entries, entry.name = name) ↔ name ∈ names := by
  rw [← List.mem_map, ofNames, Entry.map_name_number]

theorem isNumbered_ofNames {names : List String} (nonempty : names ≠ [])
    (few : (names.length : Int) < 0x8000000000000000) : (ofNames type names).IsNumbered := by
  refine ⟨names.length, List.length_pos_iff.2 nonempty, ?_⟩
  rw [ofNames, Entry.map_value_number few]

theorem isSuitable_ofNames {slots : List Slot} (nodup : slots.Nodup)
    (suits : policy.Suits {slot | slot ∈ slots}) :
    (ofNames type (slots.map Slot.name)).IsSuitable policy where
  named entry hentry := by
    have hname := exists_entry_ofNames.1 ⟨entry, hentry, rfl⟩
    obtain ⟨slot, -, hslot⟩ := List.mem_map.1 hname
    exact ⟨slot, hslot⟩
  nodup := by
    rw [ofNames, Entry.map_name_number]
    exact nodup.map Slot.name_injective
  suits := by
    simpa only [exists_entry_ofNames, List.mem_map_of_injective Slot.name_injective] using suits

theorem isSuitableBase_ofNames {components : List Component}
    (suits : policy.Suits {slot | slot.component ∈ components}) :
    (ofNames type (components.map Component.name)).IsSuitableBase policy where
  named entry hentry := by
    have hname := exists_entry_ofNames.1 ⟨entry, hentry, rfl⟩
    obtain ⟨component, -, hcomponent⟩ := List.mem_map.1 hname
    exact ⟨component, hcomponent⟩
  suits := by
    simpa only [exists_entry_ofNames, List.mem_map_of_injective Component.name_injective]
      using suits

theorem IsNumbered.exists_mem {request : Request} (h : request.IsNumbered) :
    ∃ entry, entry ∈ request.entries :=
  List.exists_mem_of_ne_nil _ (isNumbered_iff.1 h).1

/-- A request with suitable slots shows that the policy leaves room for slots. -/
theorem IsSuitable.isSatisfiable {request : Request} (h : request.IsSuitable policy)
    (numbered : request.IsNumbered) : policy.IsSatisfiable := by
  obtain ⟨entry, hentry⟩ := numbered.exists_mem
  obtain ⟨slot, hslot⟩ := h.named entry hentry
  exact h.suits.isSatisfiable ⟨slot, entry, hentry, hslot.symm⟩

theorem IsSuitableBase.isSatisfiableByBlocks {request : Request} (h : request.IsSuitableBase policy)
    (numbered : request.IsNumbered) : policy.IsSatisfiableByBlocks := by
  obtain ⟨entry, hentry⟩ := numbered.exists_mem
  obtain ⟨component, hcomponent⟩ := h.named entry hentry
  exact Policy.Suits.isSatisfiableByBlocks
    {component | ∃ entry ∈ request.entries, entry.name = component.name} h.suits
    ⟨component, entry, hentry, hcomponent.symm⟩

end Request

namespace Policy

variable {policy : Policy} {topology : Resolution Topology}

/-- Requests for all types of transaction. The first names what is given, and the others all slots
that are not forbidden. -/
def widestRequests (policy : Policy) (names : List String) : List Request :=
  .ofNames .default names ::
    ((Vocabulary.all : List TransactionType).filter (· ≠ .default)).map fun type =>
      .ofNames type (policy.freeSlots.map Slot.name)

theorem suitsTypes_all (policy : Policy) :
    policy.SuitsTypes
      (.default :: (Vocabulary.all : List TransactionType).filter (· ≠ .default)) where
  nodup := by decide
  required type _ := by cases type <;> decide

/-- At least one name and at most 24 of them can be numbered. -/
theorem isNumbered_of_filter {α : Type} {all : List α} {p : α → Bool} {a : α} (name : α → String)
    (mem : a ∈ all.filter p) (few : all.length ≤ 24) (type : TransactionType) :
    (Request.ofNames type ((all.filter p).map name)).IsNumbered := by
  have hlength : (all.filter p).length ≤ all.length := List.length_filter_le _ _
  refine Request.isNumbered_ofNames (List.ne_nil_of_mem (List.mem_map_of_mem mem)) ?_
  rw [List.length_map]
  omega

theorem isNumbered_freeSlots (h : policy.IsSatisfiable) (type : TransactionType) :
    (Request.ofNames type (policy.freeSlots.map Slot.name)).IsNumbered := by
  obtain ⟨slot, hslot⟩ := h.free
  exact isNumbered_of_filter _ (mem_freeSlots.2 hslot) (by decide) type

theorem isSuitable_freeSlots (h : policy.IsSatisfiable) (type : TransactionType) :
    (Request.ofNames type (policy.freeSlots.map Slot.name)).IsSuitable policy :=
  Request.isSuitable_ofNames (Slot.nodup_all.filter _) h.suits_freeSlots

/-- The requests are acceptable as soon as the first of them is. -/
theorem areAcceptable_widestRequests (h : policy.IsSatisfiable) {names : List String}
    (numbered : (Request.ofNames .default names).IsNumbered)
    (base : topology.isFound → (Request.ofNames .default names).IsSuitableBase policy)
    (slots : ¬topology.isFound → (Request.ofNames .default names).IsSuitable policy) :
    PolicySet.AreAcceptable policy topology (policy.widestRequests names) where
  types := by
    refine ⟨_, ?_, policy.suitsTypes_all⟩
    simp [widestRequests, Request.ofNames]
  futureRules request hrequest := by
    rcases List.mem_cons.1 hrequest with rfl | hrequest
    · exact ⟨.nextInstallment, rfl⟩
    · obtain ⟨type, -, rfl⟩ := List.mem_map.1 hrequest
      exact ⟨.nextInstallment, rfl⟩
  numbered request hrequest := by
    rcases List.mem_cons.1 hrequest with rfl | hrequest
    · exact numbered
    · obtain ⟨type, -, rfl⟩ := List.mem_map.1 hrequest
      exact isNumbered_freeSlots h type
  base found first hfirst := by
    obtain rfl : Request.ofNames .default names = first := by simpa [widestRequests] using hfirst
    exact base found
  slots request hrequest := by
    have later : ∀ request ∈ (policy.widestRequests names).tail, request.IsSuitable policy := by
      rintro _ hlater
      obtain ⟨type, -, rfl⟩ := List.mem_map.1 hlater
      exact isSuitable_freeSlots h type
    split_ifs at hrequest with found
    · exact later request hrequest
    · rcases List.mem_cons.1 hrequest with rfl | hrequest
      · exact slots found
      · exact later request hrequest

end Policy

/-! ## What can be compiled -/

namespace PolicySet

variable {set : PolicySet} {code : Option String}

/-- Some requests are accepted, other than none. -/
def CanCompile (set : PolicySet) (topology : Resolution Topology) (code : Option String) : Prop :=
  ∃ requests, requests ≠ [] ∧ ∃ compiled, set.compile requests topology code = .ok compiled

theorem canCompile_iff {topology : Resolution Topology}
    (allows : (set.policyFor code).allowsAllocation = true) :
    set.CanCompile topology code ↔
      ∃ requests, requests ≠ [] ∧ AreAcceptable (set.policyFor code) topology requests :=
  exists_congr fun _ => and_congr_right fun nonempty =>
    exists_compile_eq_ok_iff_verdict.trans (verdict_eq_nil_iff_areAcceptable allows nonempty)

theorem canCompile_notFound_iff (allows : (set.policyFor code).allowsAllocation = true)
    {text : String} :
    set.CanCompile (.notFound text) code ↔ (set.policyFor code).IsSatisfiable := by
  rw [canCompile_iff allows]
  constructor
  · rintro ⟨requests, nonempty, acceptable⟩
    obtain ⟨request, hrequest⟩ := List.exists_mem_of_ne_nil _ nonempty
    exact (acceptable.slots request hrequest).isSatisfiable (acceptable.numbered request hrequest)
  · intro h
    refine ⟨_, List.cons_ne_nil _ _,
      Policy.areAcceptable_widestRequests h (Policy.isNumbered_freeSlots h _) ?_ ?_⟩
    · exact fun found => absurd found Bool.false_ne_true
    · exact fun _ => Policy.isSuitable_freeSlots h _

theorem canCompile_found_iff (allows : (set.policyFor code).allowsAllocation = true)
    {topology : Topology} :
    set.CanCompile (.found topology) code ↔ (set.policyFor code).IsSatisfiableByBlocks := by
  rw [canCompile_iff allows]
  constructor
  · rintro ⟨requests, nonempty, acceptable⟩
    obtain ⟨first, rest, rfl⟩ := List.exists_cons_of_ne_nil nonempty
    exact (acceptable.base rfl first rfl).isSatisfiableByBlocks
      (acceptable.numbered first List.mem_cons_self)
  · intro h
    obtain ⟨component, hcomponent⟩ := h.free
    have numbered := Policy.isNumbered_of_filter Component.name
      (Policy.mem_freeComponents.2 hcomponent) (by decide) .default
    refine ⟨_, List.cons_ne_nil _ _,
      Policy.areAcceptable_widestRequests h.isSatisfiable numbered ?_ ?_⟩
    · exact fun _ => Request.isSuitableBase_ofNames h.suits_freeComponents
    · exact fun unknown => absurd rfl unknown

/-- Under any topology it takes a satisfiable policy. -/
theorem CanCompile.isSatisfiable {topology : Resolution Topology}
    (h : set.CanCompile topology code) (allows : (set.policyFor code).allowsAllocation = true) :
    (set.policyFor code).IsSatisfiable := by
  cases topology with
  | found topology => exact ((canCompile_found_iff allows).1 h).isSatisfiable
  | notFound text => exact (canCompile_notFound_iff allows).1 h

theorem exists_compile_eq_error_of_not_canCompile {topology : Resolution Topology}
    (h : ¬set.CanCompile topology code) {requests : List Request} (nonempty : requests ≠ []) :
    ∃ failure, set.compile requests topology code = .error failure := by
  cases hcompile : set.compile requests topology code with
  | error failure => exact ⟨failure, rfl⟩
  | ok compiled => exact absurd ⟨requests, nonempty, compiled, hcompile⟩ h

/-- A policy without findings that forbids all slots. -/
def forbiddingAll : Policy :=
  { Policy.closed "all" with allowsAllocation := true, forbiddenSlots := Slot.all }

/-- A policy without findings that requires a slot and forbids another of its component. -/
def forbiddingBeside : Policy :=
  { Policy.closed "beside" with
    allowsAllocation := true
    requiredSlots := [⟨.due, .fees⟩]
    forbiddenSlots := [⟨.pastDue, .fees⟩] }

theorem not_canCompile_forbiddingAll (hpolicy : set.policyFor code = forbiddingAll)
    {topology : Resolution Topology} : ¬set.CanCompile topology code := by
  intro h
  obtain ⟨slot, free⟩ := (hpolicy ▸ h.isSatisfiable (by rw [hpolicy]; rfl)).free
  exact free (Vocabulary.mem_all slot)

theorem not_canCompile_forbiddingBeside (hpolicy : set.policyFor code = forbiddingBeside)
    {topology : Topology} : ¬set.CanCompile (.found topology) code := by
  rw [canCompile_found_iff (by rw [hpolicy]; rfl), hpolicy]
  intro h
  exact h.required ⟨.due, .fees⟩ (by simp [forbiddingBeside]) .pastDue (by simp [forbiddingBeside])

theorem canCompile_forbiddingBeside (hpolicy : set.policyFor code = forbiddingBeside)
    {text : String} : set.CanCompile (.notFound text) code := by
  rw [canCompile_notFound_iff (by rw [hpolicy]; rfl), hpolicy]
  exact ⟨by decide, ⟨⟨.due, .aval⟩, by decide⟩, by decide⟩

/-- **Which policies can be satisfied.** Under an unknown topology it takes a slot that is not
forbidden, under a known one a component of which no slot is forbidden; nothing required may be
forbidden, by slot or by component, and nothing at all where all slots are required. A policy that
is found to require what it forbids can never be satisfied, and neither can some with no finding. -/
theorem canCompile_exactly_if {set : PolicySet} {code : Option String}
    (allows : (set.policyFor code).allowsAllocation = true) :
    (∀ text, set.CanCompile (.notFound text) code ↔ (set.policyFor code).IsSatisfiable) ∧
      (∀ topology, set.CanCompile (.found topology) code ↔
        (set.policyFor code).IsSatisfiableByBlocks) ∧
      ((∃ finding ∈ (set.policyFor code).findings,
          finding.rule = some "disjoint_required_forbidden") →
        ∀ requests topology, requests ≠ [] →
          ∃ failure, set.compile requests topology code = .error failure) ∧
      (∃ policy : Policy, policy.allowsAllocation = true ∧ policy.findings = [] ∧
        (∀ slot, slot ∈ policy.forbiddenSlots) ∧
          ∀ (set : PolicySet) code, set.policyFor code = policy →
            ∀ topology, ¬set.CanCompile topology code) ∧
      ∃ policy : Policy, policy.allowsAllocation = true ∧ policy.findings = [] ∧
        (∃ component state state', ⟨state, component⟩ ∈ policy.requiredSlots ∧
          ⟨state', component⟩ ∈ policy.forbiddenSlots) ∧
          ∀ (set : PolicySet) code, set.policyFor code = policy →
            (∀ topology, ¬set.CanCompile (.found topology) code) ∧
              ∀ text, set.CanCompile (.notFound text) code := by
  refine ⟨fun _ => canCompile_notFound_iff allows, fun _ => canCompile_found_iff allows, ?_,
    ⟨forbiddingAll, rfl, by decide +kernel, fun slot => Vocabulary.mem_all slot,
      fun _ _ hpolicy _ => not_canCompile_forbiddingAll hpolicy⟩,
    ⟨forbiddingBeside, rfl, by decide +kernel, ⟨.fees, .due, .pastDue, by decide, by decide⟩,
      fun _ _ hpolicy => ⟨fun _ => not_canCompile_forbiddingBeside hpolicy,
        fun _ => canCompile_forbiddingBeside hpolicy⟩⟩⟩
  intro contradiction requests topology nonempty
  refine exists_compile_eq_error_of_not_canCompile (fun h => ?_) nonempty
  exact (h.isSatisfiable allows).not_contradiction contradiction

/-- The policy allows allocations and forbids one slot of a component. -/
theorem canCompile_exactly_if_forbiddingBeside :
    ((PolicySet.mk .fallback [forbiddingBeside]).policyFor
          (some "beside")).allowsAllocation = true ∧
      (PolicySet.mk .fallback [forbiddingBeside]).CanCompile (.notFound "DIAGONAL")
        (some "beside") ∧
      ¬(PolicySet.mk .fallback [forbiddingBeside]).CanCompile (.found .vertical)
        (some "beside") := by
  have allows : ((PolicySet.mk .fallback [forbiddingBeside]).policyFor
      (some "beside")).allowsAllocation = true := by decide
  obtain ⟨unknown, known, -⟩ := canCompile_exactly_if allows
  refine ⟨allows, (unknown _).2 ⟨by decide, ⟨⟨.due, .aval⟩, by decide⟩, by decide⟩, ?_⟩
  rw [known]
  exact fun h => h.required ⟨.due, .fees⟩ (by decide) .pastDue (by decide)

end PolicySet

end PaymentAllocation
