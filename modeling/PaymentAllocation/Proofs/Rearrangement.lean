import Mathlib.Data.List.Perm.Basic
import PaymentAllocation.Proofs.CompiledRules
import PaymentAllocation.Proofs.Expansions

/-!
# Positions do not decide

Entries with the same order value are sorted by their positions. But no request with such entries
is accepted, be it read as a base order or as it is (`PolicySet.isNumbered_of_compile_eq_ok`), and
what is accepted is sorted by its order values alone (`Request.Rearranges.sorted_eq`). So the
entries of every request can be rearranged. Requests behind the first can trade places, since none
of them is a base order, and each still becomes the same rule
(`PolicySet.getElem?_rules_of_rearranges`).

Acceptance does not go by positions either (`PolicySet.AreAcceptable.of_areRearranged`), though what
is found where requests are not accepted may depend on them.
-/

namespace PaymentAllocation

theorem Entry.sorted_eq_of_perm {entries entries' : List Entry} (h : entries.Perm entries')
    (nodup : (entries.map (·.order.value)).Nodup) : sorted entries = sorted entries' :=
  sortBy_eq_of_perm _ h fun _ ha _ hb => List.inj_on_of_nodup_map nodup ha hb

/-! ## Expansions of a base order in another sequence -/

namespace Expansion

/-- Both expansions have the same entries and drop the same names; their base orders may differ. -/
structure SameOutcome (expansion other : Expansion) : Prop where
  raw : expansion.raw = other.raw
  entries : expansion.entries = other.entries
  suppressed : expansion.suppressed = other.suppressed

theorem sameOutcome_of_sorted_eq {base base' : List Entry}
    (h : Entry.sorted base = Entry.sorted base') (topology : Topology) :
    (of base (.found topology)).SameOutcome (of base' (.found topology)) where
  raw := by rw [raw_of_found, raw_of_found, h]
  entries := by rw [entries_of_found, entries_of_found, h]
  suppressed := by rw [suppressed_of_found, suppressed_of_found, h]

end Expansion

/-! ## Requests with their entries in another sequence -/

namespace Request

/-- `other` asks for the same type and the same future rule by the same entries, in some
sequence. -/
structure Rearranges (request other : Request) : Prop where
  transactionType : request.transactionType = other.transactionType
  futureRule : request.futureRule = other.futureRule
  entries : request.entries.Perm other.entries

theorem IsNumbered.nodup {request : Request} (h : request.IsNumbered) :
    (request.entries.map (·.order.value)).Nodup := by
  obtain ⟨n, -, perm⟩ := h
  exact perm.nodup_iff.2 (nodup_consecutive 1 n)

theorem AsksFor.unique {request : Request} {rule rule' : Rule} (h : request.AsksFor rule)
    (h' : request.AsksFor rule') : rule = rule' := by
  obtain ⟨type, future, slots⟩ := rule
  obtain ⟨type', future', slots'⟩ := rule'
  obtain rfl : type = type' := Vocabulary.name_injective
    (Option.some.inj (h.transactionType.symm.trans h'.transactionType))
  obtain rfl : future = future' := Vocabulary.name_injective
    (Option.some.inj (h.futureRule.symm.trans h'.futureRule))
  obtain rfl : slots = slots' :=
    map_name_injective (h.map_name_slots.trans h'.map_name_slots.symm)
  rfl

theorem AsksForBlocks.unique {request : Request} {rule rule' : Rule}
    (h : request.AsksForBlocks rule) (h' : request.AsksForBlocks rule') : rule = rule' := by
  have expanded : (request.expanded (.found default)).AsksFor rule := asksFor_expanded_iff.2 h
  exact expanded.unique (asksFor_expanded_iff.2 h')

namespace Rearranges

variable {request other : Request} {policy : Policy} {rule : Rule}

@[refl] theorem refl (request : Request) : request.Rearranges request := ⟨rfl, rfl, .refl _⟩

@[symm] theorem symm (h : request.Rearranges other) : other.Rearranges request :=
  ⟨h.transactionType.symm, h.futureRule.symm, h.entries.symm⟩

theorem isNumbered (h : request.Rearranges other) (numbered : request.IsNumbered) :
    other.IsNumbered := by
  obtain ⟨n, positive, perm⟩ := numbered
  exact ⟨n, positive, (h.entries.symm.map _).trans perm⟩

theorem isSuitable (h : request.Rearranges other) (suitable : request.IsSuitable policy) :
    other.IsSuitable policy where
  named entry hentry := suitable.named entry (h.entries.mem_iff.2 hentry)
  nodup := (h.entries.map _).nodup_iff.1 suitable.nodup
  suits := by simpa only [h.entries.mem_iff] using suitable.suits

theorem isSuitableBase (h : request.Rearranges other) (suitable : request.IsSuitableBase policy) :
    other.IsSuitableBase policy where
  named entry hentry := suitable.named entry (h.entries.mem_iff.2 hentry)
  suits := by simpa only [h.entries.mem_iff] using suitable.suits

theorem sorted_eq (h : request.Rearranges other) (numbered : request.IsNumbered) :
    Entry.sorted request.entries = Entry.sorted other.entries :=
  Entry.sorted_eq_of_perm h.entries numbered.nodup

theorem asksFor (h : request.Rearranges other) (numbered : request.IsNumbered)
    (asks : request.AsksFor rule) : other.AsksFor rule := by
  rw [asksFor_iff] at asks ⊢
  rwa [← h.transactionType, ← h.futureRule, ← h.sorted_eq numbered]

theorem asksForBlocks (h : request.Rearranges other) (numbered : request.IsNumbered)
    (asks : request.AsksForBlocks rule) : other.AsksForBlocks rule where
  transactionType := h.transactionType ▸ asks.transactionType
  futureRule := h.futureRule ▸ asks.futureRule
  slots := by
    have slots := asks.slots
    simp only [isBaseOrder_iff, h.sorted_eq numbered] at slots ⊢
    exact slots

end Rearranges

/-! ## Requests in another sequence -/

/-- The types are the same, and every request of `requests'` rearranges one of `requests`, the first
the first. -/
structure AreRearranged (requests requests' : List Request) : Prop where
  types : (requests.map (·.transactionType)).Perm (requests'.map (·.transactionType))
  first : ∀ first' ∈ requests'.head?, ∃ first ∈ requests.head?, first.Rearranges first'
  rest : ∀ request' ∈ requests'.tail, ∃ request ∈ requests.tail, request.Rearranges request'

theorem areRearranged_of_forall₂ {requests requests' : List Request}
    (h : List.Forall₂ Rearranges requests requests') : AreRearranged requests requests' := by
  have types : requests.map (·.transactionType) = requests'.map (·.transactionType) := by
    rw [← List.forall₂_eq_eq_eq, List.forall₂_map_left_iff, List.forall₂_map_right_iff]
    exact h.imp fun _ _ h => h.transactionType
  refine ⟨.of_eq types, ?_, ?_⟩
  · cases h with
    | nil => simp
    | cons head tail => simpa using head
  · cases h with
    | nil => simp
    | cons head tail =>
      exact exists_forall₂.2 ⟨_, ((List.forall₂_and_left _ _).2 ⟨fun _ => id, tail⟩).flip⟩

theorem areRearranged_of_perm {first : Request} {rest rest' : List Request}
    (h : rest.Perm rest') : AreRearranged (first :: rest) (first :: rest') where
  types := (h.cons first).map _
  first _ hfirst := ⟨_, hfirst, .refl _⟩
  rest request hrequest := ⟨request, h.mem_iff.2 hrequest, .refl _⟩

theorem AreRearranged.exists_rearranges {requests requests' : List Request}
    (h : AreRearranged requests requests') {request' : Request} (hrequest : request' ∈ requests') :
    ∃ request ∈ requests, request.Rearranges request' := by
  cases requests' with
  | nil => simp at hrequest
  | cons first' rest' =>
    rcases List.mem_cons.1 hrequest with rfl | hrequest
    · obtain ⟨first, hfirst, same⟩ := h.first request' rfl
      exact ⟨first, List.mem_of_head? hfirst, same⟩
    · obtain ⟨request, hmem, same⟩ := h.rest request' hrequest
      exact ⟨request, List.mem_of_mem_tail hmem, same⟩

end Request

/-! ## Acceptance -/

theorem Policy.SuitsTypes.of_perm {policy : Policy} {types types' : List TransactionType}
    (suits : policy.SuitsTypes types) (h : types.Perm types') : policy.SuitsTypes types' where
  nodup := h.nodup_iff.1 suits.nodup
  required type htype := h.mem_iff.1 (suits.required type htype)

namespace PolicySet

variable {set : PolicySet} {code : Option String} {requests requests' : List Request}
  {topology : Resolution Topology} {compiled compiled' : Compiled}

theorem AreAcceptable.of_areRearranged {policy : Policy}
    (acceptable : AreAcceptable policy topology requests)
    (h : Request.AreRearranged requests requests') : AreAcceptable policy topology requests' where
  types := by
    obtain ⟨types, htypes, suits⟩ := acceptable.types
    have named := h.types.symm
    rw [htypes] at named
    obtain ⟨types', htypes', perm⟩ := (congr_fun₂ (List.eq_map_comp_perm _) _ _).mpr named
    exact ⟨types', htypes', suits.of_perm perm.symm⟩
  futureRules request' hrequest := by
    obtain ⟨request, hmem, same⟩ := h.exists_rearranges hrequest
    exact same.futureRule ▸ acceptable.futureRules request hmem
  numbered request' hrequest := by
    obtain ⟨request, hmem, same⟩ := h.exists_rearranges hrequest
    exact same.isNumbered (acceptable.numbered request hmem)
  base found first' hfirst := by
    obtain ⟨first, hmem, same⟩ := h.first first' hfirst
    exact same.isSuitableBase (acceptable.base found first hmem)
  slots request' hrequest := by
    have slots := acceptable.slots
    split_ifs at slots hrequest
    · obtain ⟨request, hmem, same⟩ := h.rest request' hrequest
      exact same.isSuitable (slots request hmem)
    · obtain ⟨request, hmem, same⟩ := h.exists_rearranges hrequest
      exact same.isSuitable (slots request hmem)

theorem exists_compile_of_areRearranged (h : Request.AreRearranged requests requests')
    (accepted : ∃ compiled, set.compile requests topology code = .ok compiled) :
    ∃ compiled, set.compile requests' topology code = .ok compiled := by
  rw [exists_compile_eq_ok_iff_verdict] at accepted ⊢
  rcases eq_or_ne requests [] with rfl | nonempty
  · obtain rfl : requests' = [] := by simpa using h.types
    exact accepted
  · have nonempty' : requests' ≠ [] := by
      rintro rfl
      exact nonempty (by simpa using h.types)
    cases allows : (set.policyFor code).allowsAllocation with
    | true =>
      rw [verdict_eq_nil_iff_areAcceptable allows nonempty] at accepted
      rw [verdict_eq_nil_iff_areAcceptable allows nonempty']
      exact accepted.of_areRearranged h
    | false => exact absurd (eq_nil_of_verdict_eq_nil allows accepted) nonempty

/-! ## Rules -/

theorem length_rules_of_compile_eq_ok (h : set.compile requests topology code = .ok compiled) :
    compiled.rules.length = requests.length := by
  obtain ⟨-, asks, -⟩ := Validator.compile_eq_ok_iff.1 h
  exact asks.length_eq.symm.trans length_expandFirst

/-- A request that is rearranged becomes the same rule, unless one is a base order and the other
is not. -/
theorem getElem?_rules_of_rearranges (h : set.compile requests topology code = .ok compiled)
    (h' : set.compile requests' topology code = .ok compiled') {i j : Nat}
    (first : i = 0 ↔ j = 0)
    (same : Option.Rel Request.Rearranges requests[i]? requests'[j]?) :
    compiled.rules[i]? = compiled'.rules[j]? := by
  have hlength := length_rules_of_compile_eq_ok h
  have hlength' := length_rules_of_compile_eq_ok h'
  generalize hrequest : requests[i]? = here, hrequest' : requests'[j]? = there at same
  cases same with
  | none =>
    rw [List.getElem?_eq_none_iff] at hrequest hrequest'
    rw [List.getElem?_eq_none (by omega), List.getElem?_eq_none (by omega)]
  | some same =>
    obtain ⟨hi, -⟩ := List.getElem?_eq_some_iff.1 hrequest
    obtain ⟨hj, -⟩ := List.getElem?_eq_some_iff.1 hrequest'
    have hrule := List.getElem?_eq_getElem (hlength ▸ hi)
    have hrule' := List.getElem?_eq_getElem (hlength' ▸ hj)
    have asks := asksFor_of_compile_eq_ok h hrequest hrule
    have asks' := asksFor_of_compile_eq_ok h' hrequest' hrule'
    have numbered := isNumbered_of_compile_eq_ok h _ (List.mem_of_getElem? hrequest)
    rw [hrule, hrule', Option.some.injEq]
    simp only [first] at asks
    split_ifs at asks asks'
    · exact (same.asksForBlocks numbered asks).unique asks'
    · exact (same.asksFor numbered asks).unique asks'

/-- With the same entries in every request the rules are the same. -/
theorem rules_eq_of_forall₂ (same : List.Forall₂ Request.Rearranges requests requests')
    (h : set.compile requests topology code = .ok compiled)
    (h' : set.compile requests' topology code = .ok compiled') :
    compiled.rules = compiled'.rules := by
  refine List.ext_getElem? fun i => getElem?_rules_of_rearranges h h' Iff.rfl ?_
  cases hrequest : requests[i]? with
  | none =>
    rw [List.getElem?_eq_none_iff, same.length_eq, ← List.getElem?_eq_none_iff] at hrequest
    rw [hrequest]
    exact .none
  | some request =>
    obtain ⟨hi, -⟩ := List.getElem?_eq_some_iff.1 hrequest
    have hrequest' := List.getElem?_eq_getElem (same.length_eq ▸ hi)
    rw [hrequest']
    exact .some (forall₂_getElem? same hrequest hrequest')

section Tail

variable {first : Request} {rest rest' : List Request}

/-- A request behind the first becomes the same rule at whatever position. -/
theorem getElem?_rules_of_rest
    (h : set.compile (first :: rest) topology code = .ok compiled)
    (h' : set.compile (first :: rest') topology code = .ok compiled') {i j : Nat}
    (same : rest[i]? = rest'[j]?) : compiled.rules[i + 1]? = compiled'.rules[j + 1]? := by
  refine getElem?_rules_of_rearranges h h' (by simp) ?_
  rw [List.getElem?_cons_succ, List.getElem?_cons_succ, same]
  cases rest'[j]? with
  | none => exact .none
  | some request => exact .some (.refl request)

theorem getElem?_rules_zero
    (h : set.compile (first :: rest) topology code = .ok compiled)
    (h' : set.compile (first :: rest') topology code = .ok compiled') :
    compiled.rules[0]? = compiled'.rules[0]? :=
  getElem?_rules_of_rearranges h h' Iff.rfl (.some (.refl first))

theorem rules_subset_of_rest (perm : rest.Perm rest')
    (h : set.compile (first :: rest) topology code = .ok compiled)
    (h' : set.compile (first :: rest') topology code = .ok compiled') :
    compiled.rules ⊆ compiled'.rules := by
  intro rule hrule
  obtain ⟨i, hrule⟩ := List.mem_iff_getElem?.1 hrule
  cases i with
  | zero => exact List.mem_of_getElem? ((getElem?_rules_zero h h').symm.trans hrule)
  | succ i =>
    have hi : i < rest.length := by
      have hlength := length_rules_of_compile_eq_ok h
      rw [List.length_cons] at hlength
      have := (List.getElem?_eq_some_iff.1 hrule).1
      omega
    obtain ⟨j, hj⟩ := List.mem_iff_getElem?.1 (perm.mem_iff.1 (List.getElem_mem hi))
    have same := getElem?_rules_of_rest h h' ((List.getElem?_eq_getElem hi).trans hj.symm)
    exact List.mem_of_getElem? (same.symm.trans hrule)

theorem ruleFor_eq_of_rest (perm : rest.Perm rest')
    (h : set.compile (first :: rest) topology code = .ok compiled)
    (h' : set.compile (first :: rest') topology code = .ok compiled') (type : TransactionType) :
    compiled.ruleFor type = compiled'.ruleFor type := by
  refine Option.ext fun rule => ?_
  rw [Compiled.ruleFor_eq_some_iff (types_of_compile_eq_ok h).1,
    Compiled.ruleFor_eq_some_iff (types_of_compile_eq_ok h').1]
  refine and_congr_left fun _ => ⟨fun hrule => ?_, fun hrule => ?_⟩
  · exact rules_subset_of_rest perm h h' hrule
  · exact rules_subset_of_rest perm.symm h' h hrule

end Tail

/-! ## Expansions -/

theorem sameOutcome_of_forall₂ {t : Topology}
    (same : List.Forall₂ Request.Rearranges requests requests')
    (h : set.compile requests (.found t) code = .ok compiled)
    (h' : set.compile requests' (.found t) code = .ok compiled') :
    Option.Rel Expansion.SameOutcome compiled.expansion compiled'.expansion := by
  obtain ⟨-, -, hexpansion⟩ := Validator.compile_eq_ok_iff.1 h
  obtain ⟨-, -, hexpansion'⟩ := Validator.compile_eq_ok_iff.1 h'
  have numbered := isNumbered_of_compile_eq_ok h
  rw [hexpansion, hexpansion']
  cases same with
  | nil => exact .none
  | cons first _ =>
    exact .some (Expansion.sameOutcome_of_sorted_eq (first.sorted_eq (numbered _ (by simp))) t)

/-- **Positions do not decide.** Requests with their entries in another sequence are accepted if
the requests are, and then the rules are the same and what a known topology makes of the base order
is the same. Requests behind the first can be in another sequence too: the rules then follow them,
and the rule for each type is the same. -/
theorem position_never_decides (set : PolicySet) (topology : Resolution Topology)
    (code : Option String) :
    (∀ requests requests', List.Forall₂ Request.Rearranges requests requests' →
      ((∃ compiled, set.compile requests topology code = .ok compiled) ↔
          ∃ compiled, set.compile requests' topology code = .ok compiled) ∧
        ∀ compiled compiled', set.compile requests topology code = .ok compiled →
          set.compile requests' topology code = .ok compiled' →
            compiled.rules = compiled'.rules ∧
              (topology.isFound →
                Option.Rel Expansion.SameOutcome compiled.expansion compiled'.expansion)) ∧
      ∀ first rest rest', List.Perm rest rest' →
        ((∃ compiled, set.compile (first :: rest) topology code = .ok compiled) ↔
            ∃ compiled, set.compile (first :: rest') topology code = .ok compiled) ∧
          ∀ compiled compiled', set.compile (first :: rest) topology code = .ok compiled →
            set.compile (first :: rest') topology code = .ok compiled' →
              compiled.rules[0]? = compiled'.rules[0]? ∧
                (∀ i j : Nat, rest[i]? = rest'[j]? →
                  compiled.rules[i + 1]? = compiled'.rules[j + 1]?) ∧
                ∀ type, compiled.ruleFor type = compiled'.ruleFor type := by
  constructor
  · intro requests requests' same
    have back : List.Forall₂ Request.Rearranges requests' requests :=
      (same.imp fun _ _ h => h.symm).flip
    refine ⟨⟨exists_compile_of_areRearranged (Request.areRearranged_of_forall₂ same),
      exists_compile_of_areRearranged (Request.areRearranged_of_forall₂ back)⟩,
      fun compiled compiled' h h' => ⟨rules_eq_of_forall₂ same h h', fun found => ?_⟩⟩
    cases topology with
    | found t => exact sameOutcome_of_forall₂ same h h'
    | notFound text => exact absurd found Bool.false_ne_true
  · intro first rest rest' perm
    exact ⟨⟨exists_compile_of_areRearranged (Request.areRearranged_of_perm perm),
      exists_compile_of_areRearranged (Request.areRearranged_of_perm perm.symm)⟩,
      fun compiled compiled' h h' => ⟨getElem?_rules_zero h h',
        fun i j => getElem?_rules_of_rest h h', ruleFor_eq_of_rest perm h h'⟩⟩

/-- A base order that repeats a component. -/
def installments : Request :=
  ⟨some "DEFAULT", some "NEXT_INSTALLMENT",
    [⟨.ofNat 2, "FEES"⟩, ⟨.ofNat 1, "AVAL"⟩, ⟨.ofNat 3, "FEES"⟩]⟩

/-- An order of slots that is written from the last to the first. -/
def repayments : Request :=
  ⟨some "REPAYMENT", some "LAST_INSTALLMENT", [⟨.ofNat 2, "DUE_FEES"⟩, ⟨.ofNat 1, "DUE_AVAL"⟩]⟩

/-- An order of a single slot. -/
def chargebacks : Request :=
  ⟨some "CHARGEBACK", some "REAMORTIZATION", [⟨.ofNat 1, "IN_ADVANCE_FEES"⟩]⟩

/-- The request with its entries from the last to the first. -/
def turned (request : Request) : Request := { request with entries := request.entries.reverse }

theorem position_never_decides_turned :
    ∃ compiled compiled',
      standard.compile [turned installments, turned repayments, turned chargebacks]
          (.found .vertical) (some "advanced-payment-allocation-strategy") = .ok compiled ∧
        standard.compile [turned installments, turned chargebacks, turned repayments]
          (.found .vertical) (some "advanced-payment-allocation-strategy") = .ok compiled' ∧
        compiled.rules =
          [⟨.default, .nextInstallment, Slot.blocks [.aval, .fees]⟩,
          ⟨.repayment, .lastInstallment, [⟨.due, .aval⟩, ⟨.due, .fees⟩]⟩,
          ⟨.chargeback, .reamortization, [⟨.inAdvance, .fees⟩]⟩] ∧
        compiled'.rules[1]? = some ⟨.chargeback, .reamortization, [⟨.inAdvance, .fees⟩]⟩ ∧
        compiled'.ruleFor .repayment =
          some ⟨.repayment, .lastInstallment, [⟨.due, .aval⟩, ⟨.due, .fees⟩]⟩ := by
  have accepted : standard.compile [installments, repayments, chargebacks] (.found .vertical)
      (some "advanced-payment-allocation-strategy") =
      .ok ⟨[⟨.default, .nextInstallment, Slot.blocks [.aval, .fees]⟩,
        ⟨.repayment, .lastInstallment, [⟨.due, .aval⟩, ⟨.due, .fees⟩]⟩,
        ⟨.chargeback, .reamortization, [⟨.inAdvance, .fees⟩]⟩],
        some (.of installments.entries (.found .vertical))⟩ := by
    decide +kernel
  have rearranges (request : Request) : request.Rearranges (turned request) :=
    ⟨rfl, rfl, (List.reverse_perm _).symm⟩
  obtain ⟨entries, requests⟩ := position_never_decides standard (.found .vertical)
    (some "advanced-payment-allocation-strategy")
  obtain ⟨acceptance, rules⟩ := entries _
    [turned installments, turned repayments, turned chargebacks]
    (.cons (rearranges _) (.cons (rearranges _) (.cons (rearranges _) .nil)))
  obtain ⟨compiled, hcompiled⟩ := acceptance.1 ⟨_, accepted⟩
  have hrules := (rules _ _ accepted hcompiled).1
  obtain ⟨acceptance, moved⟩ := requests (turned installments) _ _
    (.swap (turned chargebacks) (turned repayments) [])
  obtain ⟨compiled', hcompiled'⟩ := acceptance.1 ⟨_, hcompiled⟩
  obtain ⟨-, followed, found⟩ := moved _ _ hcompiled hcompiled'
  refine ⟨compiled, compiled', hcompiled, hcompiled', hrules.symm, ?_, ?_⟩
  · rw [← followed 1 0 rfl, ← hrules]
    rfl
  · rw [← found, Compiled.ruleFor, ← hrules]
    rfl

end PolicySet

end PaymentAllocation
