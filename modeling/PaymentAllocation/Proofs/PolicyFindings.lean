import PaymentAllocation.Policy
import PaymentAllocation.Proofs.Occurrences

/-!
# Findings about policies

The findings about a policy set are those about the fallback and then, policy by policy, those that
stand under the index of a listed policy (`PolicySet.findings_eq`): the ones about the policy by
itself and, if an earlier policy has its code, one about the code (`PolicySet.findingsAt`). So there
are none exactly if no policy has a finding of its own and the codes are different
(`PolicySet.findings_eq_nil_iff_isConsistent`).
-/

namespace PaymentAllocation

namespace PolicySet

/-- The findings about the policy that is listed at an index. -/
def findingsAt (set : PolicySet) (index : Nat) (policy : Policy) : List Finding :=
  (policy.findings.map fun finding =>
      { finding with field := "policies[" ++ toString index ++ "]." ++ finding.field }) ++
    if policy.code ∈ (set.policies.take index).map (·.code) then
      [⟨"policies[" ++ toString index ++ "].code", "Duplicate strategy code",
        some "unique_strategy_code", some policy.code⟩]
    else []

/-- No policy contradicts itself, and listed policies have different codes. -/
structure IsConsistent (set : PolicySet) : Prop where
  fallback : set.fallback.findings = []
  policies : ∀ policy ∈ set.policies, policy.findings = []
  codes : (set.policies.map (·.code)).Nodup

/-! ## Paths of fields -/

theorem within_memberField (index : Nat) :
    Finding.within (memberField index) = fun finding =>
      { finding with field := "policies[" ++ toString index ++ "]." ++ finding.field } := by
  funext finding
  have dot (opening number field : String) :
      opening ++ number ++ "]" ++ "." ++ field = opening ++ number ++ "]." ++ field := by
    apply String.toList_inj.1
    simp
  simp only [Finding.within, memberField, dot]

theorem codeRepeated_eq (index : Nat) (code : String) :
    codeRepeated index code = ⟨"policies[" ++ toString index ++ "].code", "Duplicate strategy code",
      some "unique_strategy_code", some code⟩ := by
  have dot (opening number : String) :
      opening ++ number ++ "]" ++ ".code" = opening ++ number ++ "].code" := by
    apply String.toList_inj.1
    simp
  simp only [codeRepeated, memberField, dot]

/-! ## Listed policies -/

/-- The walk along the policies keeps the codes of those that it has passed. -/
theorem memberFindings_eq {set : PolicySet} (before : List Policy) {rest : List Policy}
    (seen : List String) (hset : set.policies = before ++ rest)
    (hseen : ∀ code, code ∈ seen ↔ code ∈ before.map (·.code)) :
    memberFindings before.length seen rest =
      (rest.zipIdx before.length).flatMap fun (policy, index) => set.findingsAt index policy := by
  induction rest generalizing before seen with
  | nil => rfl
  | cons policy rest ih =>
    have hset' : set.policies = (before ++ [policy]) ++ rest := by simp [hset]
    have hseen' : ∀ code, code ∈ policy.code :: seen ↔
        code ∈ (before ++ [policy]).map (·.code) := by
      intro code
      rw [List.mem_cons, hseen, List.map_append, List.mem_append, or_comm]
      simp
    have tail := ih _ _ hset' hseen'
    rw [List.length_append, List.length_singleton] at tail
    have head : policy.findings.map (Finding.within (memberField before.length)) ++
        (if policy.code ∈ seen then [codeRepeated before.length policy.code] else []) =
        set.findingsAt before.length policy := by
      rw [findingsAt, hset, List.take_left, codeRepeated_eq]
      simp only [hseen, within_memberField]
    rw [memberFindings, tail, head, List.zipIdx_cons, List.flatMap_cons]

/-- **The findings are those about the fallback and then those about each listed policy.** -/
theorem findings_eq (set : PolicySet) :
    set.findings = set.fallback.findings ++
      set.policies.zipIdx.flatMap fun (policy, index) => set.findingsAt index policy := by
  have members := memberFindings_eq [] [] (List.nil_append set.policies).symm (by simp)
  rw [List.length_nil] at members
  rw [findings, members]

theorem memberFindings_eq_nil_iff {index : Nat} {seen : List String} {list : List Policy} :
    memberFindings index seen list = [] ↔
      (∀ policy ∈ list, policy.findings = []) ∧ IsFresh seen (list.map (·.code)) := by
  induction list generalizing index seen with
  | nil => simp [memberFindings]
  | cons policy rest ih =>
    rw [memberFindings, List.append_eq_nil_iff, List.append_eq_nil_iff, List.map_eq_nil_iff, ih,
      List.forall_mem_cons, List.map_cons, isFresh_cons_iff]
    have code : (if policy.code ∈ seen then [codeRepeated index policy.code] else []) = [] ↔
        policy.code ∉ seen := by
      split_ifs with h <;> simp [h]
    rw [code, and_assoc, and_assoc, and_left_comm (a := policy.code ∉ seen)]

theorem findings_eq_nil_iff_isConsistent {set : PolicySet} :
    set.findings = [] ↔ set.IsConsistent := by
  rw [findings, List.append_eq_nil_iff, memberFindings_eq_nil_iff, isFresh_nil_iff]
  constructor
  · rintro ⟨fallback, policies, codes⟩
    exact ⟨fallback, policies, codes⟩
  · rintro ⟨fallback, policies, codes⟩
    exact ⟨fallback, policies, codes⟩

end PolicySet

end PaymentAllocation
