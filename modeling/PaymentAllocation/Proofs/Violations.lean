import Mathlib.Data.Set.Basic
import PaymentAllocation.Proofs.Conversion
import PaymentAllocation.Proofs.OrderValues

/-!
# When there are no violations

Each check has nothing to say exactly under one condition, and together they let assembled rules
pass that denote proper rules with consecutive order values and suitable slots, for different
types of transaction that include all required ones (`violations_eq_nil_iff_of_allows`). Two of the
checks keep what they have seen; their lemmas are about anything that may have been seen before.
-/

namespace PaymentAllocation

/-! ## What suits a policy -/

/-- The slots of a rule suit a policy: none is forbidden, all that are required are among them, and
they are all slots if the complete set is required. -/
structure Policy.Suits (policy : Policy) (slots : Set Slot) : Prop where
  forbidden : ∀ slot ∈ policy.forbiddenSlots, slot ∉ slots
  required : ∀ slot ∈ policy.requiredSlots, slot ∈ slots
  complete : policy.requiresCompleteSet = true → ∀ slot, slot ∈ slots

/-- The types of rules are different, and all types that a policy requires are among them. -/
structure Policy.SuitsTypes (policy : Policy) (types : List TransactionType) : Prop where
  nodup : types.Nodup
  required : ∀ type ∈ policy.requiredTypes, type ∈ types

/-- An assembled rule denotes a rule that has nothing wrong with it. -/
structure AssembledRule.Passes (policy : Policy) (assembled : AssembledRule) (rule : Rule) :
    Prop where
  denotes : assembled.Denotes rule
  proper : rule.IsProper
  orders : (assembled.slots.map (·.order.value)).Perm (consecutive 1 assembled.slots.length)
  suits : policy.Suits {slot | slot ∈ rule.slots}

/-! ## Checks on one rule -/

theorem settingViolations_eq_nil_iff {α : Type} {missing : Violation} {unknown : String → Violation}
    {setting : Option (Resolution α)} :
    settingViolations missing unknown setting = [] ↔ ∃ member, setting = some (.found member) := by
  rcases setting with _ | member | text <;> simp [settingViolations]

/-- Entries pass if all are known and name slots that are neither in `seen` nor repeated. -/
theorem entryViolations_eq_nil_iff {index : Nat} {seen : List Slot}
    {entries : List AssembledSlot} :
    entryViolations index seen entries = [] ↔
      ∃ slots : List Slot, entries.map (·.slot) = slots.map .found ∧ IsFresh seen slots := by
  induction entries generalizing seen with
  | nil => simp [entryViolations]
  | cons entry rest ih =>
    rw [entryViolations, List.map_cons]
    cases entry.slot with
    | notFound text =>
      refine iff_of_false (by simp) ?_
      rintro ⟨_ | _, h, -⟩ <;> simp at h
    | found slot =>
      have first : (∃ slots : List Slot,
          .found slot :: rest.map (·.slot) = slots.map .found ∧ IsFresh seen slots) ↔
          slot ∉ seen ∧ ∃ slots : List Slot,
            rest.map (·.slot) = slots.map .found ∧ IsFresh (slot :: seen) slots := by
        constructor
        · rintro ⟨_ | ⟨other, slots⟩, hslots, fresh⟩
          · simp at hslots
          · simp only [List.map_cons, List.cons.injEq, Resolution.found.injEq] at hslots
            obtain ⟨rfl, hslots⟩ := hslots
            obtain ⟨hnew, fresh⟩ := isFresh_cons_iff.1 fresh
            exact ⟨hnew, slots, hslots, fresh⟩
        · rintro ⟨hnew, slots, hslots, fresh⟩
          exact ⟨slot :: slots, by rw [hslots, List.map_cons], isFresh_cons_iff.2 ⟨hnew, fresh⟩⟩
      dsimp only
      rw [first]
      split_ifs with hseen
      · simp [hseen]
      · rw [ih, and_iff_right hseen]

theorem slotViolations_eq_nil_iff {assembled : AssembledRule} :
    slotViolations assembled = [] ↔
      ∃ slots : List Slot, assembled.slots.map (·.slot) = slots.map .found ∧ slots ≠ [] ∧
        slots.Nodup := by
  rw [slotViolations]
  split_ifs with hempty
  · rw [List.isEmpty_iff.1 hempty, List.map_nil]
    refine iff_of_false (by simp) ?_
    rintro ⟨slots, hslots, nonempty, -⟩
    exact nonempty (List.map_eq_nil_iff.1 hslots.symm)
  · simp only [entryViolations_eq_nil_iff, isFresh_nil_iff]
    refine exists_congr fun slots => and_congr_right fun hslots => ?_
    have nonempty : slots ≠ [] := by
      rintro rfl
      simp_all
    simp [nonempty]

theorem policyViolations_eq_nil_iff {policy : Policy} {assembled : AssembledRule} :
    policyViolations policy assembled = [] ↔
      (∀ slot ∈ policy.forbiddenSlots, slot ∉ assembled.knownSlots) ∧
        (∀ slot ∈ policy.requiredSlots, slot ∈ assembled.knownSlots) ∧
        (policy.requiresCompleteSet = true →
          (∀ slot, slot ∈ assembled.knownSlots) ∧ assembled.slots.length = Slot.all.length) := by
  simp only [policyViolations, List.append_eq_nil_iff, List.map_eq_nil_iff,
    List.filter_eq_nil_iff, decide_eq_true_eq, ite_eq_right_iff, List.cons_ne_nil, imp_false,
    not_and, not_or, not_not, Slot.mem_all, true_implies, ne_eq, and_assoc]

theorem AssembledRule.Denotes.knownSlots_eq {assembled : AssembledRule} {rule : Rule}
    (h : assembled.Denotes rule) : assembled.knownSlots = rule.slots := by
  have hslots := congrArg (List.filterMap Resolution.member?) h.slots
  rw [List.filterMap_map, List.filterMap_map] at hslots
  refine hslots.trans ?_
  simp [Function.comp_def, Resolution.member?]

theorem AssembledRule.Denotes.length_slots {assembled : AssembledRule} {rule : Rule}
    (h : assembled.Denotes rule) : assembled.slots.length = rule.slots.length := by
  simpa using congrArg List.length h.slots

/-- Different slots that include every slot are as many as there are. -/
theorem length_of_nodup_of_mem {slots : List Slot} (nodup : slots.Nodup)
    (complete : ∀ slot, slot ∈ slots) : slots.length = Slot.all.length := by
  refine ((List.perm_ext_iff_of_nodup nodup Slot.nodup_all).2 fun slot => ?_).length_eq
  exact iff_of_true (complete slot) slot.mem_all

theorem policyViolations_eq_nil_iff_suits {policy : Policy} {assembled : AssembledRule}
    {rule : Rule} (hdenotes : assembled.Denotes rule) (hproper : rule.IsProper) :
    policyViolations policy assembled = [] ↔ policy.Suits {slot | slot ∈ rule.slots} := by
  rw [policyViolations_eq_nil_iff, hdenotes.knownSlots_eq, hdenotes.length_slots]
  constructor
  · rintro ⟨forbidden, required, complete⟩
    exact ⟨forbidden, required, fun h => (complete h).1⟩
  · rintro ⟨forbidden, required, complete⟩
    exact ⟨forbidden, required, fun h =>
      ⟨complete h, length_of_nodup_of_mem hproper.nodup (complete h)⟩⟩

/-- **A rule has no violations exactly if it passes.** -/
theorem ruleViolations_eq_nil_iff {policy : Policy} {assembled : AssembledRule} :
    ruleViolations policy assembled = [] ↔ ∃ rule, assembled.Passes policy rule := by
  simp only [ruleViolations, List.append_eq_nil_iff, settingViolations_eq_nil_iff,
    slotViolations_eq_nil_iff, orderViolations_eq_nil_iff, List.map_map, List.length_map]
  constructor
  · rintro ⟨⟨⟨⟨⟨type, htype⟩, future, hfuture⟩, slots, hslots, nonempty, nodup⟩, orders⟩, suits⟩
    have hdenotes : assembled.Denotes ⟨type, future, slots⟩ := ⟨htype, hfuture, hslots⟩
    have hproper : Rule.IsProper ⟨type, future, slots⟩ := ⟨nonempty, nodup⟩
    exact ⟨_, hdenotes, hproper, orders,
      (policyViolations_eq_nil_iff_suits hdenotes hproper).1 suits⟩
  · intro h
    obtain ⟨rule, hdenotes, hproper, orders, suits⟩ := h
    exact ⟨⟨⟨⟨⟨_, hdenotes.transactionType⟩, _, hdenotes.futureRule⟩, rule.slots, hdenotes.slots,
      hproper.nonempty, hproper.nodup⟩, orders⟩,
      (policyViolations_eq_nil_iff_suits hdenotes hproper).2 suits⟩

/-! ## Checks across rules -/

/-- Types pass if they are neither in `seen` nor repeated; rules of no known type do not count. -/
theorem repeatedTypeViolations_eq_nil_iff {seen : List (TransactionType × Nat)}
    {list : List AssembledRule} :
    repeatedTypeViolations seen list = [] ↔
      IsFresh (seen.map Prod.fst) (list.filterMap (·.transactionType?)) := by
  induction list generalizing seen with
  | nil => simp [repeatedTypeViolations]
  | cons assembled rest ih =>
    rw [repeatedTypeViolations]
    cases htype : assembled.transactionType? with
    | none => rw [List.filterMap_cons_none htype, ih]
    | some type =>
      have lookup_none : seen.lookup type = none ↔ type ∉ seen.map Prod.fst := by
        simp only [List.lookup_eq_none_iff, List.mem_map, not_exists, not_and, bne_iff_ne, ne_eq]
        exact forall₂_congr fun _ _ => not_congr eq_comm
      rw [List.filterMap_cons_some htype, isFresh_cons_iff, ← lookup_none]
      dsimp only
      cases seen.lookup type with
      | some first => simp
      | none =>
        dsimp only
        rw [ih, List.map_cons, and_iff_right rfl]

theorem typeViolations_eq_nil_iff {policy : Policy} {list : List AssembledRule} :
    typeViolations policy list = [] ↔
      policy.SuitsTypes (list.filterMap (·.transactionType?)) := by
  rw [typeViolations, List.append_eq_nil_iff, repeatedTypeViolations_eq_nil_iff,
    List.map_eq_nil_iff, List.filter_eq_nil_iff]
  constructor
  · rintro ⟨fresh, required⟩
    exact ⟨isFresh_nil_iff.1 fresh, fun type htype => by simpa using required type htype⟩
  · rintro ⟨nodup, required⟩
    exact ⟨isFresh_nil_iff.2 nodup, fun type htype => by simpa using required type htype⟩

theorem AssembledRule.Denotes.transactionType?_eq {assembled : AssembledRule} {rule : Rule}
    (h : assembled.Denotes rule) : assembled.transactionType? = some rule.transactionType := by
  rw [transactionType?, h.transactionType]
  rfl

theorem filterMap_transactionType? {policy : Policy} {list : List AssembledRule}
    {rules : List Rule} (h : List.Forall₂ (AssembledRule.Passes policy) list rules) :
    list.filterMap (·.transactionType?) = rules.map (·.transactionType) := by
  induction h with
  | nil => rfl
  | cons head _ ih =>
    rw [List.filterMap_cons_some head.denotes.transactionType?_eq, ih, List.map_cons]

/-! ## All checks -/

/-- **Under a policy that allows allocations there are no violations exactly if every assembled
rule passes and the types suit the policy.** -/
theorem violations_eq_nil_iff_of_allows {policy : Policy} {code : Option String}
    {list : List AssembledRule} (allows : policy.allowsAllocation = true) :
    violations policy code list = [] ↔
      ∃ rules, List.Forall₂ (AssembledRule.Passes policy) list rules ∧
        policy.SuitsTypes (rules.map (·.transactionType)) := by
  rw [violations, if_pos allows, List.append_eq_nil_iff, List.flatMap_eq_nil_iff,
    typeViolations_eq_nil_iff]
  simp only [ruleViolations_eq_nil_iff]
  rw [exists_forall₂]
  constructor
  · intro h
    obtain ⟨⟨rules, hrules⟩, types⟩ := h
    exact ⟨rules, hrules, filterMap_transactionType? hrules ▸ types⟩
  · intro h
    obtain ⟨rules, hrules, types⟩ := h
    exact ⟨⟨rules, hrules⟩, (filterMap_transactionType? hrules).symm ▸ types⟩

theorem violations_eq_nil_iff_of_not_allows {policy : Policy} {code : Option String}
    {list : List AssembledRule} (disallows : policy.allowsAllocation = false) :
    violations policy code list = [] ↔ list = [] := by
  cases list <;> simp [violations, disallows]

end PaymentAllocation
