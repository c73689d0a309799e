import PaymentAllocation.Proofs.Conversion

/-!
# Where violations come from

A violation that is found on one rule tells the index of the rule and the check that found it
(`Violation.origin?`); one that is found across rules tells neither. So the violations of one origin
can be picked out of all that are found in assembled requests: they are what that check finds on
that request (`filter_violations`). Those of one check come rule by rule
(`filter_violations_of_check`), and so do the findings that only one check can have
(`PolicySet.filter_findings_of_check`).
-/

namespace PaymentAllocation

/-! ## Checks and origins -/

/-- The checks that look at one rule. -/
inductive Check
  | settings
  | entries
  | orders
  | suitability
  deriving DecidableEq

/-- What a check finds on a rule. -/
def Check.violations (policy : Policy) (rule : AssembledRule) : Check → List Violation
  | settings =>
    settingViolations (.typeMissing rule.index) (.typeUnknown rule.index) rule.transactionType ++
      settingViolations (.futureRuleMissing rule.index) (.futureRuleUnknown rule.index)
        rule.futureRule
  | entries => slotViolations rule
  | orders => orderViolations rule.index (rule.slots.map (·.order))
  | suitability => policyViolations policy rule

theorem ruleViolations_eq_flatMap (policy : Policy) (rule : AssembledRule) :
    ruleViolations policy rule =
      [Check.settings, .entries, .orders, .suitability].flatMap (Check.violations policy rule) := by
  simp only [ruleViolations, Check.violations, List.flatMap_cons, List.flatMap_nil,
    List.append_nil, List.append_assoc]

/-- The index of the rule that a violation is found on and the check that finds it. -/
def Violation.origin? : Violation → Option (Nat × Check)
  | typeMissing index | typeUnknown index _ => some (index, .settings)
  | futureRuleMissing index | futureRuleUnknown index _ => some (index, .settings)
  | noEntries index | slotUnknown index _ _ | slotRepeated index _ _ => some (index, .entries)
  | orderRepeated index _ | orderGap index _ _ => some (index, .orders)
  | slotForbidden index _ _ | slotRequired index _ _ | setIncomplete index _ _ =>
    some (index, .suitability)
  | notAllowed _ | typeRepeated _ _ _ | typeRequired _ _ => none

/-! ## The origins of what is found -/

theorem mem_settingViolations {α : Type} {missing : Violation} {unknown : String → Violation}
    {setting : Option (Resolution α)} {violation : Violation}
    (h : violation ∈ settingViolations missing unknown setting) :
    violation = missing ∨ ∃ text, violation = unknown text := by
  rcases setting with _ | member | text
  · exact .inl (List.mem_singleton.1 h)
  · simp [settingViolations] at h
  · exact .inr ⟨text, List.mem_singleton.1 h⟩

theorem origin_of_mem_entryViolations {index : Nat} {seen : List Slot}
    {entries : List AssembledSlot} {violation : Violation}
    (h : violation ∈ entryViolations index seen entries) :
    violation.origin? = some (index, .entries) := by
  induction entries generalizing seen with
  | nil => simp [entryViolations] at h
  | cons entry rest ih =>
    rw [entryViolations] at h
    split at h
    · rcases List.mem_cons.1 h with rfl | h
      · rfl
      · exact ih h
    · split_ifs at h
      · rcases List.mem_cons.1 h with rfl | h
        · rfl
        · exact ih h
      · exact ih h

theorem origin_of_mem_orderScan {index : Nat} {expected : Order} {previous : Option Order}
    {orders : List Order} {violation : Violation}
    (h : violation ∈ orderScan index expected previous orders) :
    violation.origin? = some (index, .orders) := by
  induction orders generalizing expected previous with
  | nil => simp [orderScan] at h
  | cons order rest ih =>
    rw [orderScan] at h
    split_ifs at h
    · rcases List.mem_cons.1 h with rfl | h
      · rfl
      · exact ih h
    · exact ih h
    · rcases List.mem_cons.1 h with rfl | h
      · rfl
      · exact ih h

theorem origin_of_mem_policyViolations {policy : Policy} {rule : AssembledRule}
    {violation : Violation} (h : violation ∈ policyViolations policy rule) :
    violation.origin? = some (rule.index, .suitability) := by
  simp only [policyViolations, List.mem_append, List.mem_map] at h
  rcases h with (h | h) | h
  · obtain ⟨slot, -, rfl⟩ := h
    rfl
  · obtain ⟨slot, -, rfl⟩ := h
    rfl
  · split_ifs at h
    · obtain rfl := List.mem_singleton.1 h
      rfl
    · simp at h

/-- **What a check finds on a rule comes from that check and that rule.** -/
theorem origin_of_mem_violations {policy : Policy} {rule : AssembledRule} {check : Check}
    {violation : Violation} (h : violation ∈ check.violations policy rule) :
    violation.origin? = some (rule.index, check) := by
  cases check with
  | settings =>
    rcases List.mem_append.1 h with h | h
    · obtain rfl | ⟨text, rfl⟩ := mem_settingViolations h <;> rfl
    · obtain rfl | ⟨text, rfl⟩ := mem_settingViolations h <;> rfl
  | entries =>
    rw [Check.violations, slotViolations] at h
    split_ifs at h
    · obtain rfl := List.mem_singleton.1 h
      rfl
    · exact origin_of_mem_entryViolations h
  | orders => exact origin_of_mem_orderScan h
  | suitability => exact origin_of_mem_policyViolations h

theorem origin_of_mem_ruleViolations {policy : Policy} {rule : AssembledRule}
    {violation : Violation} (h : violation ∈ ruleViolations policy rule) :
    ∃ check, violation.origin? = some (rule.index, check) := by
  rw [ruleViolations_eq_flatMap] at h
  obtain ⟨check, -, h⟩ := List.mem_flatMap.1 h
  exact ⟨check, origin_of_mem_violations h⟩

theorem origin_of_mem_repeatedTypeViolations {seen : List (TransactionType × Nat)}
    {rules : List AssembledRule} {violation : Violation}
    (h : violation ∈ repeatedTypeViolations seen rules) : violation.origin? = none := by
  induction rules generalizing seen with
  | nil => simp [repeatedTypeViolations] at h
  | cons rule rest ih =>
    rw [repeatedTypeViolations] at h
    split at h
    · exact ih h
    · split at h
      · rcases List.mem_cons.1 h with rfl | h
        · rfl
        · exact ih h
      · exact ih h

theorem origin_of_mem_typeViolations {policy : Policy} {rules : List AssembledRule}
    {violation : Violation} (h : violation ∈ typeViolations policy rules) :
    violation.origin? = none := by
  rcases List.mem_append.1 h with h | h
  · exact origin_of_mem_repeatedTypeViolations h
  · obtain ⟨type, -, rfl⟩ := List.mem_map.1 h
    rfl

/-! ## Violations of one origin -/

/-- Where only one element of a list yields anything, the list yields that. -/
theorem flatMap_eq_of_getElem? {α β : Type} {f : α → List β} {list : List α} {place : Nat} {a : α}
    (here : list[place]? = some a)
    (elsewhere : ∀ (i : Nat) (b : α), list[i]? = some b → i ≠ place → f b = []) :
    list.flatMap f = f a := by
  induction list generalizing place with
  | nil => simp at here
  | cons first rest ih =>
    rw [List.flatMap_cons]
    cases place with
    | zero =>
      obtain rfl : first = a := by simpa using here
      have nothing : rest.flatMap f = [] := by
        refine List.flatMap_eq_nil_iff.2 fun b hb => ?_
        obtain ⟨i, hi⟩ := List.mem_iff_getElem?.1 hb
        exact elsewhere (i + 1) b (by simpa using hi) (by omega)
      rw [nothing, List.append_nil]
    | succ place =>
      rw [elsewhere 0 first rfl (by omega), List.nil_append]
      exact ih (by simpa using here) fun i b hi hne =>
        elsewhere (i + 1) b (by simpa using hi) (by omega)

section Filter

variable {q : Violation → Bool} {index : Nat} {check : Check}

theorem check_of_origin {violation : Violation} (h : violation.origin? = some (index, check)) :
    violation.origin?.map Prod.snd = some check := by
  rw [h, Option.map_some]

theorem filter_eq_nil_of_origin (hq : ∀ v, q v = true → v.origin? = some (index, check))
    {list : List Violation} (h : ∀ v ∈ list, v.origin? ≠ some (index, check)) :
    list.filter q = [] :=
  List.filter_eq_nil_iff.2 fun v hv hqv => h v hv (hq v hqv)

/-- What one check finds on a rule can be picked out of what is found on it. -/
theorem filter_ruleViolations (policy : Policy) (rule : AssembledRule)
    (hq : ∀ v, q v = true → v.origin?.map Prod.snd = some check) :
    (ruleViolations policy rule).filter q = (check.violations policy rule).filter q := by
  have others (other : Check) (hne : other ≠ check) :
      (other.violations policy rule).filter q = [] :=
    List.filter_eq_nil_iff.2 fun v hv hqv => hne <| by
      simpa [origin_of_mem_violations hv] using hq v hqv
  rw [ruleViolations_eq_flatMap, List.filter_flatMap]
  cases check <;> simp [others]

/-- What is found on one request by one check can be picked out of what is found on all. -/
theorem filter_flatMap_ruleViolations (policy : Policy) {requests : List Request}
    {request : Request} (hq : ∀ v, q v = true → v.origin? = some (index, check))
    (hrequest : requests[index]? = some request) :
    ((AssembledRule.assemble requests).flatMap (ruleViolations policy)).filter q =
      (check.violations policy (.ofRequest index request)).filter q := by
  have here : (AssembledRule.assemble requests)[index]? = some (.ofRequest index request) := by
    rw [AssembledRule.getElem?_assemble, hrequest, Option.map_some]
  rw [List.filter_flatMap, flatMap_eq_of_getElem? here,
    filter_ruleViolations _ _ fun v hv => check_of_origin (hq v hv)]
  intro i rule hi hne
  rw [AssembledRule.getElem?_assemble, Option.map_eq_some_iff] at hi
  obtain ⟨other, -, rfl⟩ := hi
  refine filter_eq_nil_of_origin hq fun v hv heq => hne ?_
  obtain ⟨found, hfound⟩ := origin_of_mem_ruleViolations hv
  have same := hfound.symm.trans heq
  simp only [Option.some.injEq, Prod.mk.injEq] at same
  exact same.1

theorem filter_typeViolations (policy : Policy) (rules : List AssembledRule)
    (hq : ∀ v, q v = true → v.origin?.map Prod.snd = some check) :
    (typeViolations policy rules).filter q = [] :=
  List.filter_eq_nil_iff.2 fun v hv hqv => by
    simpa [origin_of_mem_typeViolations hv] using hq v hqv

/-- **What one check finds on assembled rules is what it finds on each, in their sequence.** -/
theorem filter_violations_of_check {policy : Policy} {code : Option String}
    (allows : policy.allowsAllocation = true)
    (hq : ∀ v, q v = true → v.origin?.map Prod.snd = some check) (rules : List AssembledRule) :
    (violations policy code rules).filter q =
      rules.flatMap fun rule => (check.violations policy rule).filter q := by
  rw [violations, if_pos allows, List.filter_append, filter_typeViolations policy rules hq,
    List.append_nil, List.filter_flatMap]
  exact List.flatMap_congr fun rule _ => filter_ruleViolations policy rule hq

/-- **The violations of one origin in assembled requests are what its check finds on its
request.** -/
theorem filter_violations {policy : Policy} {code : Option String} {requests : List Request}
    {request : Request} (allows : policy.allowsAllocation = true)
    (hq : ∀ v, q v = true → v.origin? = some (index, check))
    (hrequest : requests[index]? = some request) :
    (violations policy code (AssembledRule.assemble requests)).filter q =
      (check.violations policy (AssembledRule.ofRequest index request)).filter q := by
  rw [violations, if_pos allows, List.filter_append,
    filter_typeViolations policy _ fun v hv => check_of_origin (hq v hv), List.append_nil,
    filter_flatMap_ruleViolations policy hq hrequest]

/-- A violation in assembled requests is found by its check on the request at its index. -/
theorem exists_request_of_mem_violations {policy : Policy} {code : Option String}
    {requests : List Request} (allows : policy.allowsAllocation = true) {violation : Violation}
    (h : violation ∈ violations policy code (AssembledRule.assemble requests))
    (origin : violation.origin? = some (index, check)) :
    ∃ request, requests[index]? = some request ∧
      violation ∈ check.violations policy (.ofRequest index request) := by
  rw [violations, if_pos allows, List.mem_append, List.mem_flatMap] at h
  obtain ⟨assembled, hassembled, h⟩ | h := h
  · obtain ⟨i, hi⟩ := List.mem_iff_getElem?.1 hassembled
    rw [AssembledRule.getElem?_assemble, Option.map_eq_some_iff] at hi
    obtain ⟨request, hrequest, rfl⟩ := hi
    rw [ruleViolations_eq_flatMap, List.mem_flatMap] at h
    obtain ⟨found, -, h⟩ := h
    have same := (origin_of_mem_violations h).symm.trans origin
    simp only [Option.some.injEq, Prod.mk.injEq] at same
    obtain ⟨rfl, rfl⟩ := same
    exact ⟨request, hrequest, h⟩
  · simp [origin_of_mem_typeViolations h] at origin

/-- What only one check can report, the validator reports rule by rule. -/
theorem PolicySet.filter_findings_of_check {set : PolicySet} {code : Option String}
    {p : Finding → Bool} (allows : (set.policyFor code).allowsAllocation = true)
    (hp : ∀ v : Violation, p v.finding = true → v.origin?.map Prod.snd = some check)
    (rules : List AssembledRule) :
    (set.validator.findings rules code).filter p = rules.flatMap fun rule =>
      ((check.violations (set.policyFor code) rule).map Violation.finding).filter p := by
  have picked : (violations (set.policyFor code) code rules).filter (fun v => p v.finding) = _ :=
    filter_violations_of_check allows hp rules
  simp only [validator, List.filter_map, Function.comp_def, picked, List.map_flatMap]

end Filter

end PaymentAllocation
