import PaymentAllocation.Proofs.Compilation
import PaymentAllocation.Proofs.Origins
import PaymentAllocation.Proofs.Paths

/-!
# What is found about types of transaction

The check across rules walks along the assembled requests and keeps, for each type of transaction,
the index of the first request for it (`HoldsFirst`). What it finds can be told from the requests as
they were written.

* `firstFor?` looks a type up among requests, and `IsFirstFor` says what is found there.
* `repeatedType?` is what the walk finds at one request, which is to look its type up among the
  requests before (`repeatedTypeViolations_eq`).
* `Request.JudgesType` says what is found about the type of one request, by itself and beside the
  others, and `PolicySet.types_judged_exactly` what is found about types altogether, with those that
  are required.
-/

namespace PaymentAllocation

/-! ## The type that a request is for -/

/-- The type of transaction that a request is for, if it is there and known. -/
def Request.type? (request : Request) : Option TransactionType :=
  request.transactionType.bind Vocabulary.lookup

theorem Request.type?_eq_some_iff {request : Request} {type : TransactionType} :
    request.type? = some type ↔ request.transactionType = some type.name := by
  simp only [type?, Option.bind_eq_some_iff, Vocabulary.lookup_eq_some_iff]
  constructor
  · rintro ⟨text, h, rfl⟩
    exact h
  · intro h
    exact ⟨_, h, rfl⟩

namespace AssembledRule

theorem transactionType?_ofRequest (index : Nat) (request : Request) :
    (ofRequest index request).transactionType? = request.type? := by
  refine Option.ext fun type => ?_
  rw [Request.type?_eq_some_iff, transactionType?, Option.bind_eq_some_iff]
  simp only [Resolution.member?_eq_some_iff, exists_eq_right]
  exact Resolution.map_resolve_eq_some_iff

theorem filterMap_transactionType?_assemble (requests : List Request) :
    (assemble requests).filterMap (·.transactionType?) = requests.filterMap (·.type?) := by
  have unindexed : (fun rule : AssembledRule => rule.transactionType?) ∘
      (fun (request, index) => ofRequest index request) = fun place => place.1.type? :=
    funext fun place => transactionType?_ofRequest place.2 place.1
  have places := List.filterMap_map (f := Prod.fst) (g := Request.type?) (l := requests.zipIdx)
  rw [List.zipIdx_map_fst] at places
  rw [assemble, List.filterMap_map, unindexed, places]
  rfl

end AssembledRule

/-- Types of transaction that are written by their names are the types that requests are for. -/
theorem filterMap_type?_eq {requests : List Request} {types : List TransactionType}
    (h : requests.map (·.transactionType) = types.map fun type => some type.name) :
    requests.filterMap (·.type?) = types := by
  have written := congrArg (List.filterMap (·.bind (Vocabulary.lookup (α := TransactionType)))) h
  rw [List.filterMap_map, List.filterMap_map] at written
  refine written.trans ?_
  have named : ((·.bind Vocabulary.lookup) ∘ fun type : TransactionType => some type.name) = some :=
    funext Vocabulary.lookup_name
  rw [named, List.filterMap_some]

theorem exists_types {requests : List Request} :
    (∃ types : List TransactionType,
        requests.map (·.transactionType) = types.map fun type => some type.name) ↔
      ∀ request ∈ requests, ∃ type : TransactionType,
        request.transactionType = some type.name := by
  rw [exists_forall₂]
  refine exists_congr fun types => ?_
  rw [← List.forall₂_eq_eq_eq, List.forall₂_map_left_iff, List.forall₂_map_right_iff]

/-! ## The first request for a type -/

/-- The index of the first request for a type of transaction. -/
def firstFor? (requests : List Request) (type : TransactionType) : Option Nat :=
  requests.findIdx? fun request => request.transactionType = some type.name

/-- The request at an index is for a type of transaction, and none before it is. -/
structure IsFirstFor (requests : List Request) (type : TransactionType) (index : Nat) : Prop where
  here : ∃ request, requests[index]? = some request ∧ request.transactionType = some type.name
  earlier : ∀ request ∈ requests.take index, request.transactionType ≠ some type.name

section FirstFor

variable {requests : List Request} {type : TransactionType} {index first : Nat}

theorem firstFor?_concat (requests : List Request) (request : Request) (type : TransactionType) :
    firstFor? (requests ++ [request]) type = (firstFor? requests type).or
      (if request.transactionType = some type.name then some requests.length else none) := by
  rw [firstFor?, List.findIdx?_append, ← firstFor?]
  by_cases h : request.transactionType = some type.name <;> simp [h]

theorem firstFor?_eq_none_iff :
    firstFor? requests type = none ↔
      ∀ request ∈ requests, request.transactionType ≠ some type.name := by
  rw [firstFor?, List.findIdx?_eq_none_iff]
  simp

theorem firstFor?_eq_some_iff : firstFor? requests type = some index ↔
    IsFirstFor requests type index := by
  rw [firstFor?, List.findIdx?_eq_some_iff_getElem]
  simp only [decide_eq_true_eq]
  constructor
  · rintro ⟨inside, here, earlier⟩
    refine ⟨⟨_, List.getElem?_eq_getElem inside, here⟩, fun request hrequest => ?_⟩
    obtain ⟨i, hi, rfl⟩ := List.mem_take_iff_getElem.1 hrequest
    exact earlier i (by omega)
  · rintro ⟨⟨request, hrequest, here⟩, earlier⟩
    obtain ⟨inside, rfl⟩ := List.getElem?_eq_some_iff.1 hrequest
    refine ⟨inside, here, fun i hi => earlier _ ?_⟩
    exact List.mem_take_iff_getElem.2 ⟨i, by omega, rfl⟩

theorem IsFirstFor.unique (h : IsFirstFor requests type index)
    (h' : IsFirstFor requests type first) : index = first :=
  Option.some.inj ((firstFor?_eq_some_iff.2 h).symm.trans (firstFor?_eq_some_iff.2 h'))

theorem firstFor?_take_eq_some_iff :
    firstFor? (requests.take index) type = some first ↔
      first < index ∧ IsFirstFor requests type first := by
  rw [← firstFor?_eq_some_iff, firstFor?, List.findIdx?_take, ← firstFor?,
    Option.bind_eq_some_iff]
  simp only [Option.guard_eq_some_iff]
  constructor
  · rintro ⟨place, hplace, rfl, before⟩
    exact ⟨of_decide_eq_true before, hplace⟩
  · rintro ⟨before, hfirst⟩
    exact ⟨first, hfirst, rfl, decide_eq_true before⟩

end FirstFor

/-! ## The walk across requests -/

/-- The list holds the types that requests are for, each with the index of the first one. -/
def HoldsFirst (seen : List (TransactionType × Nat)) (requests : List Request) : Prop :=
  ∀ type, seen.lookup type = firstFor? requests type

section HoldsFirst

variable {seen : List (TransactionType × Nat)} {requests : List Request} {request : Request}
  {type : TransactionType}

theorem transactionType_eq_iff (htype : request.transactionType = some type.name)
    {other : TransactionType} : request.transactionType = some other.name ↔ other = type := by
  rw [htype, Option.some.injEq]
  exact ⟨fun h => (Vocabulary.name_injective h).symm, fun h => h ▸ rfl⟩

/-- A request for no type, or for one that is held already, changes nothing. -/
theorem HoldsFirst.concat (h : HoldsFirst seen requests)
    (hold : ∀ type : TransactionType, request.transactionType = some type.name →
      (seen.lookup type).isSome) :
    HoldsFirst seen (requests ++ [request]) := by
  intro type
  rw [firstFor?_concat, ← h type]
  split_ifs with htype
  · obtain ⟨first, hfirst⟩ := Option.isSome_iff_exists.1 (hold type htype)
    rw [hfirst]
    rfl
  · rw [Option.or_none]

/-- A request for a new type is the first one for it. -/
theorem HoldsFirst.cons (h : HoldsFirst seen requests)
    (htype : request.transactionType = some type.name) (new : seen.lookup type = none) :
    HoldsFirst ((type, requests.length) :: seen) (requests ++ [request]) := by
  intro other
  rw [firstFor?_concat, ← h other, List.lookup_cons]
  by_cases same : other = type
  · subst same
    simp [new, htype]
  · have different : request.transactionType ≠ some other.name :=
      mt (transactionType_eq_iff htype).1 same
    simp only [beq_eq_false_iff_ne.2 same, if_neg different, Option.or_none]

end HoldsFirst

/-- The violation that an earlier request is for the type of the one at an index. -/
def repeatedType? (requests : List Request) (index : Nat) (request : Request) :
    Option Violation := do
  let type ← request.type?
  let first ← firstFor? (requests.take index) type
  return .typeRepeated index first type

section RepeatedType

variable {requests : List Request} {index : Nat} {request : Request}

theorem repeatedType?_of_none (h : request.type? = none) :
    repeatedType? requests index request = none := by
  rw [repeatedType?, h]
  rfl

theorem repeatedType?_of_some {type : TransactionType} (h : request.type? = some type) :
    repeatedType? requests index request =
      (firstFor? (requests.take index) type).map (Violation.typeRepeated index · type) := by
  rw [repeatedType?, h]
  exact (Option.map_eq_bind ..).symm

end RepeatedType

/-- The walk looks each type up among the requests before. -/
theorem repeatedTypeViolations_eq_of_holdsFirst {requests : List Request} (before : List Request)
    {rest : List Request} {seen : List (TransactionType × Nat)}
    (hrequests : requests = before ++ rest) (hseen : HoldsFirst seen before) :
    repeatedTypeViolations seen
        ((rest.zipIdx before.length).map fun (request, index) => .ofRequest index request) =
      (rest.zipIdx before.length).flatMap fun (request, index) =>
        (repeatedType? requests index request).toList := by
  induction rest generalizing before seen with
  | nil => rfl
  | cons request rest ih =>
    have hrequests' : requests = (before ++ [request]) ++ rest := by simp [hrequests]
    have passed : requests.take before.length = before := by rw [hrequests, List.take_left]
    have tail {seen' : List (TransactionType × Nat)}
        (hseen' : HoldsFirst seen' (before ++ [request])) :
        repeatedTypeViolations seen' ((rest.zipIdx (before.length + 1)).map
            fun (request, index) => .ofRequest index request) =
          (rest.zipIdx (before.length + 1)).flatMap fun (request, index) =>
            (repeatedType? requests index request).toList := by
      have tail := ih (before ++ [request]) hrequests' hseen'
      rwa [List.length_append, List.length_singleton] at tail
    rw [List.zipIdx_cons, List.map_cons, List.flatMap_cons, repeatedTypeViolations]
    dsimp only
    rw [AssembledRule.transactionType?_ofRequest]
    cases htype : request.type? with
    | none =>
      rw [repeatedType?_of_none htype]
      refine tail (hseen.concat fun type h => ?_)
      simp [Request.type?_eq_some_iff.2 h] at htype
    | some type =>
      rw [repeatedType?_of_some htype, passed, ← hseen type]
      replace htype := Request.type?_eq_some_iff.1 htype
      dsimp only
      cases first : seen.lookup type with
      | some place =>
        have hold (other : TransactionType) (h : request.transactionType = some other.name) :
            (seen.lookup other).isSome := by
          rw [(transactionType_eq_iff htype).1 h, first, Option.isSome_some]
        exact congrArg (_ :: ·) (tail (hseen.concat hold))
      | none => exact tail (hseen.cons htype first)

theorem repeatedTypeViolations_eq (requests : List Request) :
    repeatedTypeViolations [] (AssembledRule.assemble requests) =
      requests.zipIdx.flatMap fun (request, index) =>
        (repeatedType? requests index request).toList :=
  repeatedTypeViolations_eq_of_holdsFirst [] (List.nil_append requests).symm fun _ => rfl

/-! ## Violations about types -/

/-- The index of the request whose type a violation is about. -/
def Violation.typeIndex? : Violation → Option Nat
  | typeMissing index | typeUnknown index _ | typeRepeated index _ _ => some index
  | _ => none

theorem requestField_ne_paymentAllocation (index : Nat) (name : String) :
    requestField index name ≠ "paymentAllocation" := by
  intro h
  have length := congrArg (fun text => text.toList.length) h
  simp only [toList_requestField, List.length_append] at length
  have opening : "paymentAllocation".toList.length < "paymentAllocation[".toList.length := by
    decide
  omega

theorem slotField_ne_requestField_transactionType (index position index' : Nat) :
    slotField index position ≠ requestField index' "transactionType" := by
  intro h
  have name := (requestField_inj.1 h).2
  have first := congrArg (fun text => text.toList.head?) name
  simp at first

/-- A violation is about the type of a request exactly if it stands at the field for it. -/
theorem field_finding_eq_iff {violation : Violation} {index : Nat} :
    violation.finding.field = requestField index "transactionType" ↔
      violation.typeIndex? = some index := by
  cases violation <;>
    simp [Violation.finding, Violation.typeIndex?, orderField, requestField_inj,
      slotField_ne_requestField_transactionType, (requestField_ne_paymentAllocation _ _).symm]

/-- A violation about a type that is found on one rule is found by the check of its settings. -/
theorem Violation.origin_of_typeIndex {violation : Violation} {index : Nat}
    (h : violation.typeIndex? = some index) (found : violation.origin?.isSome) :
    violation.origin? = some (index, .settings) := by
  cases violation <;> simp_all [typeIndex?, origin?]

theorem rule_finding_eq_required_iff {violation : Violation} :
    violation.finding.rule = some "required_transaction_type" ↔
      ∃ code type, violation = .typeRequired code type := by
  cases violation <;> simp [Violation.finding]

theorem typeIndex_of_repeatedType? {requests : List Request} {index : Nat} {request : Request}
    {violation : Violation} (h : repeatedType? requests index request = some violation) :
    violation.typeIndex? = some index := by
  simp only [repeatedType?, Option.bind_eq_bind, Option.bind_eq_some_iff] at h
  obtain ⟨type, -, first, -, h⟩ := h
  obtain rfl := Option.some.inj h
  rfl

section Assembled

variable {policy : Policy} {code : Option String} {requests : List Request} {request : Request}
  {index : Nat} {violation : Violation}

theorem mem_repeatedTypeViolations_assemble :
    violation ∈ repeatedTypeViolations [] (AssembledRule.assemble requests) ↔
      ∃ (index : Nat) (request : Request), requests[index]? = some request ∧
        repeatedType? requests index request = some violation := by
  simp only [repeatedTypeViolations_eq, List.mem_flatMap, Prod.exists,
    List.mem_zipIdx_iff_getElem?, Option.mem_toList]
  exact exists_comm

/-- What is found about the type of a request on its own. -/
theorem filter_typeIndex_ruleViolations (policy : Policy)
    (hrequest : requests[index]? = some request) :
    ((AssembledRule.assemble requests).flatMap (ruleViolations policy)).filter
        (·.typeIndex? = some index) =
      settingViolations (.typeMissing index) (.typeUnknown index)
        (AssembledRule.ofRequest index request).transactionType := by
  -- a type is also found to be repeated, but that is not found on one rule and has no origin
  have settings : ∀ v ∈ (AssembledRule.assemble requests).flatMap (ruleViolations policy),
      decide (v.typeIndex? = some index) =
        decide (v.typeIndex? = some index ∧ v.origin? = some (index, .settings)) := by
    intro v hv
    obtain ⟨rule, -, hv⟩ := List.mem_flatMap.1 hv
    obtain ⟨check, origin⟩ := origin_of_mem_ruleViolations hv
    refine decide_eq_decide.2 (iff_self_and.2 fun h => ?_)
    exact Violation.origin_of_typeIndex h (by rw [origin, Option.isSome_some])
  have types : ∀ v ∈ settingViolations (.typeMissing index) (.typeUnknown index)
        (AssembledRule.ofRequest index request).transactionType,
      decide (v.typeIndex? = some index ∧ v.origin? = some (index, .settings)) = true := by
    intro v hv
    obtain rfl | ⟨text, rfl⟩ := mem_settingViolations hv <;> exact decide_eq_true ⟨rfl, rfl⟩
  have futures : ∀ v ∈ settingViolations (.futureRuleMissing index) (.futureRuleUnknown index)
        (AssembledRule.ofRequest index request).futureRule,
      ¬decide (v.typeIndex? = some index ∧ v.origin? = some (index, .settings)) = true := by
    intro v hv
    obtain rfl | ⟨text, rfl⟩ := mem_settingViolations hv <;> simp [Violation.typeIndex?]
  rw [List.filter_congr settings, filter_flatMap_ruleViolations policy
    (fun v h => (of_decide_eq_true h).2) hrequest, Check.violations, List.filter_append]
  exact (congrArg₂ _ (List.filter_eq_self.2 types) (List.filter_eq_nil_iff.2 futures)).trans
    (List.append_nil _)

/-- What is found about the type of a request beside others. -/
theorem filter_typeIndex_typeViolations (policy : Policy)
    (hrequest : requests[index]? = some request) :
    (typeViolations policy (AssembledRule.assemble requests)).filter
        (·.typeIndex? = some index) = (repeatedType? requests index request).toList := by
  have required (types : List TransactionType) :
      (types.map (Violation.typeRequired policy.code)).filter (·.typeIndex? = some index) = [] := by
    refine List.filter_eq_nil_iff.2 fun v hv => ?_
    obtain ⟨type, -, rfl⟩ := List.mem_map.1 hv
    simp [Violation.typeIndex?]
  have here : requests.zipIdx[index]? = some (request, index) := by
    rw [List.getElem?_zipIdx, hrequest, Option.map_some, Nat.zero_add]
  rw [typeViolations, List.filter_append, required, List.append_nil, repeatedTypeViolations_eq,
    List.filter_flatMap, flatMap_eq_of_getElem? here]
  · refine List.filter_eq_self.2 fun v hv => decide_eq_true ?_
    exact typeIndex_of_repeatedType? (Option.mem_toList.1 hv)
  · rintro i ⟨other, place⟩ hother hne
    obtain ⟨-, rfl⟩ : requests[i]? = some other ∧ i = place := by
      simpa [List.getElem?_zipIdx] using hother
    refine List.filter_eq_nil_iff.2 fun v hv => ?_
    rw [typeIndex_of_repeatedType? (Option.mem_toList.1 hv)]
    simpa using hne

/-- What is found about the type of a request is missing or unknown, or is a repetition. -/
theorem filter_typeIndex_violations (allows : policy.allowsAllocation = true)
    (hrequest : requests[index]? = some request) :
    (violations policy code (AssembledRule.assemble requests)).filter
        (·.typeIndex? = some index) =
      settingViolations (.typeMissing index) (.typeUnknown index)
          (AssembledRule.ofRequest index request).transactionType ++
        (repeatedType? requests index request).toList := by
  rw [violations, if_pos allows, List.filter_append,
    filter_typeIndex_ruleViolations policy hrequest,
    filter_typeIndex_typeViolations policy hrequest]

theorem exists_request_of_typeIndex (allows : policy.allowsAllocation = true)
    (h : violation ∈ violations policy code (AssembledRule.assemble requests))
    (place : violation.typeIndex? = some index) : ∃ request, requests[index]? = some request := by
  cases found : violation.origin?.isSome with
  | true =>
    obtain ⟨request, hrequest, -⟩ := exists_request_of_mem_violations allows h
      (Violation.origin_of_typeIndex place found)
    exact ⟨request, hrequest⟩
  | false =>
    rw [violations, if_pos allows, typeViolations, List.mem_append, List.mem_append] at h
    rcases h with h | h | h
    · obtain ⟨rule, -, h⟩ := List.mem_flatMap.1 h
      obtain ⟨check, origin⟩ := origin_of_mem_ruleViolations h
      simp [origin] at found
    · obtain ⟨i, request, hrequest, h⟩ := mem_repeatedTypeViolations_assemble.1 h
      rw [typeIndex_of_repeatedType? h] at place
      obtain rfl := Option.some.inj place
      exact ⟨request, hrequest⟩
    · obtain ⟨type, -, rfl⟩ := List.mem_map.1 h
      simp [Violation.typeIndex?] at place

theorem typeRequired_notMem_ruleViolations {policyCode : String} {type : TransactionType}
    {rules : List AssembledRule} :
    .typeRequired policyCode type ∉ rules.flatMap (ruleViolations policy) := by
  intro h
  obtain ⟨rule, -, h⟩ := List.mem_flatMap.1 h
  obtain ⟨check, origin⟩ := origin_of_mem_ruleViolations h
  simp [Violation.origin?] at origin

/-- The required types that something is found about are those that no request is for. -/
theorem filter_required_violations (allows : policy.allowsAllocation = true) :
    (violations policy code (AssembledRule.assemble requests)).filter
        (·.finding.rule = some "required_transaction_type") =
      (policy.requiredTypes.filter fun type =>
        ∀ request ∈ requests, request.transactionType ≠ some type.name).map
          (.typeRequired policy.code) := by
  have rules : ∀ v ∈ (AssembledRule.assemble requests).flatMap (ruleViolations policy),
      ¬decide (v.finding.rule = some "required_transaction_type") = true := by
    intro v hv
    rw [decide_eq_true_eq, rule_finding_eq_required_iff]
    rintro ⟨code, type, rfl⟩
    exact typeRequired_notMem_ruleViolations hv
  have repeated : ∀ v ∈ repeatedTypeViolations [] (AssembledRule.assemble requests),
      ¬decide (v.finding.rule = some "required_transaction_type") = true := by
    intro v hv
    obtain ⟨i, request, -, hv⟩ := mem_repeatedTypeViolations_assemble.1 hv
    have place := typeIndex_of_repeatedType? hv
    rw [decide_eq_true_eq, rule_finding_eq_required_iff]
    rintro ⟨code, type, rfl⟩
    simp [Violation.typeIndex?] at place
  have required (types : List TransactionType) :
      (types.map (Violation.typeRequired policy.code)).filter
        (·.finding.rule = some "required_transaction_type") =
          types.map (Violation.typeRequired policy.code) := by
    refine List.filter_eq_self.2 fun v hv => ?_
    obtain ⟨type, -, rfl⟩ := List.mem_map.1 hv
    exact decide_eq_true rfl
  have absent : ∀ type ∈ policy.requiredTypes,
      decide (type ∉ (AssembledRule.assemble requests).filterMap (·.transactionType?)) =
        decide (∀ request ∈ requests, request.transactionType ≠ some type.name) := by
    intro type _
    rw [decide_eq_decide, AssembledRule.filterMap_transactionType?_assemble, List.mem_filterMap]
    simp only [Request.type?_eq_some_iff, not_exists, not_and, ne_eq]
  rw [violations, if_pos allows, typeViolations, List.filter_append, List.filter_append,
    List.filter_eq_nil_iff.2 rules, List.filter_eq_nil_iff.2 repeated, required,
    List.filter_congr absent, List.nil_append, List.nil_append]

end Assembled

/-! ## What is found about types -/

/-- What is found about the type of a request: it is missing, or unknown, or an earlier request is
for it, or nothing. -/
structure Request.JudgesType (requests : List Request) (index : Nat) (request : Request)
    (findings : List Finding) : Prop where
  missing : request.transactionType = none →
    findings = [⟨requestField index "transactionType", "Transaction type is required",
      some "required", none⟩]
  unknown : ∀ text, request.transactionType = some text →
    (∀ type : TransactionType, type.name ≠ text) →
      findings = [⟨requestField index "transactionType", "Unknown transaction type",
        some "resolved_transaction_type", some text⟩]
  repeated : ∀ type : TransactionType, request.transactionType = some type.name →
    (∃ earlier ∈ requests.take index, earlier.transactionType = some type.name) →
      ∃ first < index, IsFirstFor requests type first ∧
        findings = [⟨requestField index "transactionType",
          "Transaction type already configured at paymentAllocation[" ++ toString first ++ "]",
          some "unique_transaction_type", some type.name⟩]
  sound : ∀ type : TransactionType, request.transactionType = some type.name →
    (∀ earlier ∈ requests.take index, earlier.transactionType ≠ some type.name) → findings = []

section JudgesType

variable {index : Nat} {request : Request} {type : TransactionType}

theorem settingViolations_type_eq_nil (h : request.transactionType = some type.name) :
    settingViolations (.typeMissing index) (.typeUnknown index)
      (AssembledRule.ofRequest index request).transactionType = [] :=
  settingViolations_eq_nil_iff.2 ⟨type, Resolution.map_resolve_eq_some_iff.2 h⟩

theorem Request.judgesType (requests : List Request) (index : Nat) (request : Request) :
    request.JudgesType requests index
      ((settingViolations (.typeMissing index) (.typeUnknown index)
          (AssembledRule.ofRequest index request).transactionType ++
        (repeatedType? requests index request).toList).map Violation.finding) where
  missing h := by
    have setting : (AssembledRule.ofRequest index request).transactionType = none := by
      rw [AssembledRule.ofRequest, h, Option.map_none]
    have none : request.type? = none := by rw [type?, h, Option.bind_none]
    rw [setting, repeatedType?_of_none none]
    rfl
  unknown text h unknown := by
    have setting : (AssembledRule.ofRequest index request).transactionType =
        some (.notFound text) := by
      rw [AssembledRule.ofRequest, h, Option.map_some,
        Resolution.resolve_eq_notFound_iff.2 ⟨rfl, unknown⟩]
    have none : request.type? = none := by
      refine Option.eq_none_iff_forall_ne_some.2 fun type htype => unknown type ?_
      exact Option.some.inj ((type?_eq_some_iff.1 htype).symm.trans h)
    rw [setting, repeatedType?_of_none none]
    rfl
  repeated type h again := by
    obtain ⟨first, hfirst⟩ : ∃ first, firstFor? (requests.take index) type = some first := by
      obtain ⟨earlier, hearlier, same⟩ := again
      refine Option.ne_none_iff_exists'.1 fun none => ?_
      exact firstFor?_eq_none_iff.1 none earlier hearlier same
    obtain ⟨before, isFirst⟩ := firstFor?_take_eq_some_iff.1 hfirst
    refine ⟨first, before, isFirst, ?_⟩
    rw [settingViolations_type_eq_nil h,
      repeatedType?_of_some (type?_eq_some_iff.2 h), hfirst]
    rfl
  sound type h new := by
    rw [settingViolations_type_eq_nil h,
      repeatedType?_of_some (type?_eq_some_iff.2 h),
      firstFor?_eq_none_iff.2 new]
    rfl

end JudgesType

/-- The finding is about types of transaction: it stands at the field for the type of a request, or
is that a required type is missing. -/
def Finding.IsAboutTypes (finding : Finding) : Prop :=
  (∃ index, finding.field = requestField index "transactionType") ∨
    finding.rule = some "required_transaction_type"

namespace PolicySet

variable {set : PolicySet} {code : Option String} {requests : List Request}

theorem exists_type_of_silent (allows : (set.policyFor code).allowsAllocation = true)
    (silent : ∀ finding ∈ set.validator.findings (AssembledRule.assemble requests) code,
      ¬finding.IsAboutTypes) :
    ∀ request ∈ requests, ∃ type : TransactionType,
      request.transactionType = some type.name := by
  intro request hrequest
  obtain ⟨index, hindex⟩ := List.mem_iff_getElem?.1 hrequest
  have none : (violations (set.policyFor code) code (AssembledRule.assemble requests)).filter
      (·.typeIndex? = some index) = [] := by
    refine List.filter_eq_nil_iff.2 fun v hv h => ?_
    refine silent _ (List.mem_map_of_mem hv) (.inl ⟨index, ?_⟩)
    exact field_finding_eq_iff.2 (of_decide_eq_true h)
  rw [filter_typeIndex_violations allows hindex, List.append_eq_nil_iff,
    settingViolations_eq_nil_iff] at none
  obtain ⟨⟨type, htype⟩, -⟩ := none
  exact ⟨type, Resolution.map_resolve_eq_some_iff.1 htype⟩

theorem typeViolations_eq_nil_of_silent (allows : (set.policyFor code).allowsAllocation = true)
    (silent : ∀ finding ∈ set.validator.findings (AssembledRule.assemble requests) code,
      ¬finding.IsAboutTypes) :
    typeViolations (set.policyFor code) (AssembledRule.assemble requests) = [] := by
  refine List.eq_nil_iff_forall_not_mem.2 fun v hv => ?_
  have found : v ∈ violations (set.policyFor code) code (AssembledRule.assemble requests) := by
    rw [violations, if_pos allows]
    exact List.mem_append_right _ hv
  refine silent _ (List.mem_map_of_mem found) ?_
  rcases List.mem_append.1 hv with hv | hv
  · obtain ⟨index, request, -, hv⟩ := mem_repeatedTypeViolations_assemble.1 hv
    exact .inl ⟨index, field_finding_eq_iff.2 (typeIndex_of_repeatedType? hv)⟩
  · obtain ⟨type, -, rfl⟩ := List.mem_map.1 hv
    exact .inr rfl

/-- Nothing is found about types exactly if the requests are for different known types that suit the
policy. -/
theorem silent_about_types_iff (allows : (set.policyFor code).allowsAllocation = true) :
    (∀ finding ∈ set.validator.findings (AssembledRule.assemble requests) code,
        ¬finding.IsAboutTypes) ↔
      ∃ types, requests.map (·.transactionType) = types.map (fun type => some type.name) ∧
        (set.policyFor code).SuitsTypes types := by
  constructor
  · intro silent
    obtain ⟨types, htypes⟩ := exists_types.2 (exists_type_of_silent allows silent)
    refine ⟨types, htypes, ?_⟩
    have suits := typeViolations_eq_nil_iff.1 (typeViolations_eq_nil_of_silent allows silent)
    rwa [AssembledRule.filterMap_transactionType?_assemble, filterMap_type?_eq htypes] at suits
  · rintro ⟨types, htypes, suits⟩ finding hfinding about
    obtain ⟨v, hv, rfl⟩ := List.mem_map.1 hfinding
    rw [← filterMap_type?_eq htypes, ← AssembledRule.filterMap_transactionType?_assemble,
      ← typeViolations_eq_nil_iff] at suits
    have found := hv
    rw [violations, if_pos allows, suits, List.append_nil] at found
    rcases about with ⟨index, field⟩ | missing
    · have place := field_finding_eq_iff.1 field
      obtain ⟨request, hrequest⟩ := exists_request_of_typeIndex allows hv place
      obtain ⟨type, htype⟩ := exists_types.1 ⟨types, htypes⟩ request
        (List.mem_of_getElem? hrequest)
      have here : v ∈ List.filter (·.typeIndex? = some index) _ :=
        List.mem_filter.2 ⟨found, decide_eq_true place⟩
      rw [filter_typeIndex_ruleViolations _ hrequest, settingViolations_type_eq_nil htype] at here
      exact List.not_mem_nil here
    · obtain ⟨code, type, rfl⟩ := rule_finding_eq_required_iff.1 missing
      exact typeRequired_notMem_ruleViolations found

/-- **What is found about types of transaction is told by the requests as they were written.** About
the type of each request there is at most one finding: that it is missing, that it is unknown, or
that it is the type of an earlier request, with the index of the first one. Each occurrence of a
required type that no request is for has one finding, in sequence. So nothing is found about types
exactly if the requests are for different known types, among them all that are required. -/
theorem types_judged_exactly (allows : (set.policyFor code).allowsAllocation = true)
    (requests : List Request) :
    (∀ (i : Nat) (request : Request), requests[i]? = some request →
        request.JudgesType requests i
          ((set.validator.findings (AssembledRule.assemble requests) code).filter
            (·.field = requestField i "transactionType"))) ∧
      (∀ finding ∈ set.validator.findings (AssembledRule.assemble requests) code,
        (finding.rule = some "resolved_transaction_type" ∨
            finding.rule = some "unique_transaction_type" ∨
            ∃ i, finding.field = requestField i "transactionType") →
          ∃ i < requests.length, finding.field = requestField i "transactionType") ∧
      (set.validator.findings (AssembledRule.assemble requests) code).filter
          (·.rule = some "required_transaction_type") =
        ((set.policyFor code).requiredTypes.filter fun type =>
          ∀ request ∈ requests, request.transactionType ≠ some type.name).map (fun type =>
            ⟨"paymentAllocation", "A rule for this transaction type is required by strategy '" ++
              (set.policyFor code).code ++ "'", some "required_transaction_type",
              some type.name⟩) ∧
      ((∀ finding ∈ set.validator.findings (AssembledRule.assemble requests) code,
          ¬finding.IsAboutTypes) ↔
        ∃ types, requests.map (·.transactionType) = types.map (fun type => some type.name) ∧
          (set.policyFor code).SuitsTypes types) := by
  refine ⟨fun i request hrequest => ?_, fun finding hfinding about => ?_, ?_,
    silent_about_types_iff allows⟩
  · have judged := request.judgesType requests i
    rw [← @filter_typeIndex_violations _ code _ _ _ allows hrequest] at judged
    simp only [← field_finding_eq_iff] at judged
    rw [validator, List.filter_map]
    exact judged
  · obtain ⟨violation, hviolation, rfl⟩ := List.mem_map.1 hfinding
    obtain ⟨i, place⟩ : ∃ i, violation.typeIndex? = some i := by
      rcases about with unknown | repeated | ⟨i, field⟩
      · cases violation <;> simp_all [Violation.finding, Violation.typeIndex?]
      · cases violation <;> simp_all [Violation.finding, Violation.typeIndex?]
      · exact ⟨i, field_finding_eq_iff.1 field⟩
    obtain ⟨request, hrequest⟩ := exists_request_of_typeIndex allows hviolation place
    exact ⟨i, (List.getElem?_eq_some_iff.1 hrequest).1, field_finding_eq_iff.2 place⟩
  · rw [validator, List.filter_map]
    refine (congrArg (List.map Violation.finding) (filter_required_violations allows)).trans ?_
    rw [List.map_map]
    rfl

/-- Three rules for repayments, between them one for no type and one for a text that only looks like
the type that is required. -/
def repeatedTypes : List Request :=
  [some "REPAYMENT", some "Default", some "REPAYMENT", none, some "REPAYMENT",
    some "CHARGE_OFF"].map fun type => ⟨type, some "NEXT_INSTALLMENT", [⟨.ofNat 1, "DUE_FEE"⟩]⟩

theorem types_judged_exactly_repeatedTypes :
    let findings := standard.validator.findings (AssembledRule.assemble repeatedTypes)
      (some "advanced-payment-allocation-strategy")
    let about (i : Nat) := findings.filter (·.field = requestField i "transactionType")
    about 0 = [] ∧
      about 1 = [⟨"paymentAllocation[1].transactionType", "Unknown transaction type",
        some "resolved_transaction_type", some "Default"⟩] ∧
      about 3 = [⟨"paymentAllocation[3].transactionType", "Transaction type is required",
        some "required", none⟩] ∧
      about 4 = [⟨"paymentAllocation[4].transactionType",
        "Transaction type already configured at paymentAllocation[0]",
        some "unique_transaction_type", some "REPAYMENT"⟩] ∧
      findings.filter (·.rule = some "required_transaction_type") =
        [⟨"paymentAllocation", "A rule for this transaction type is required by strategy " ++
          "'advanced-payment-allocation-strategy'", some "required_transaction_type",
          some "DEFAULT"⟩] := by
  obtain ⟨judged, -, required, -⟩ := @types_judged_exactly standard
    (some "advanced-payment-allocation-strategy") (by decide) repeatedTypes
  have unknown : ∀ type : TransactionType, type.name ≠ "Default" := by
    intro type
    cases type <;> decide
  refine ⟨?_, ?_, ?_, ?_, ?_⟩
  · exact (judged 0 _ rfl).sound .repayment rfl (by decide)
  · exact (judged 1 _ rfl).unknown _ rfl unknown
  · exact (judged 3 _ rfl).missing rfl
  · obtain ⟨first, -, isFirst, found⟩ := (judged 4 _ rfl).repeated .repayment rfl (by decide)
    obtain rfl : first = 0 := isFirst.unique ⟨⟨_, rfl, rfl⟩, by decide⟩
    exact found
  · exact required

end PolicySet

end PaymentAllocation
