import PaymentAllocation.Compilation
import PaymentAllocation.Proofs.Failures
import PaymentAllocation.Proofs.PolicyFindings

/-!
# Runs of registrations

A policy set is a map from codes to policies, the fallback standing for all codes that have none.
A registration writes to that map (`PolicySet.policyFor_after_of_accepted`), unless its policy has
findings, and then it does nothing (`PolicySet.after_of_refused`). So after a run each code has the
last policy that was written to it (`PolicySet.policyFor_after`), all else stands as it was
(`PolicySet.filter_after`), and a consistent set is still consistent
(`PolicySet.IsConsistent.after`).

The list behind the map may hold several policies of one code. The first of them counts, and a
registration takes the place of all (`PolicySet.count_after`).
-/

namespace PaymentAllocation

namespace PolicySet

variable {set : PolicySet} {policy : Policy}

/-- The set that a run of registrations leaves. -/
def after (set : PolicySet) (run : List Policy) : PolicySet := (set.registerAll run).2

/-- A run registers a policy of that code. -/
def Registers (run : List Policy) (code : String) : Prop :=
  ∃ policy ∈ run, policy.findings = [] ∧ policy.code = code

/-! ## Policies of other codes -/

/-- The policies of other codes are all that is left of the list when one is registered. -/
def others (set : PolicySet) (code : String) : List Policy :=
  set.policies.filter fun policy => policy.code ≠ code

theorem map_code_others (code : String) :
    (set.others code).map (·.code) = (set.policies.map (·.code)).filter (· ≠ code) := by
  rw [others, List.filter_map]
  rfl

theorem find?_others_self (code : String) :
    ((set.others code).find? fun policy => policy.code = code) = none := by
  rw [List.find?_eq_none]
  intro policy hpolicy
  simpa using (List.mem_filter.1 hpolicy).2

theorem find?_others {code code' : String} (h : code' ≠ code) :
    ((set.others code).find? fun policy => policy.code = code') =
      set.policies.find? fun policy => policy.code = code' := by
  rw [others, List.find?_filter]
  congr 1
  funext policy
  by_cases hcode : policy.code = code' <;> simp [hcode, h]

theorem filter_others {keep : String → Bool} {code : String} (dropped : keep code = false) :
    (set.others code).filter (fun policy => keep policy.code) =
      set.policies.filter fun policy => keep policy.code := by
  rw [others, List.filter_filter]
  refine List.filter_congr fun policy _ => ?_
  by_cases hcode : policy.code = code
  · rw [hcode, dropped, Bool.false_and]
  · simp [hcode]

/-! ## One registration -/

theorem register_eq_ok_iff {next : PolicySet} :
    set.register policy = .ok next ↔ policy.findings = [] ∧
      next = { set with policies := set.others policy.code ++ [policy] } := by
  simp only [register, bind_eq_ok_iff, Policy.check, Failure.ofFindings_eq_ok_iff, pure_eq_ok_iff]
  constructor
  · rintro ⟨_, sound, rfl⟩
    exact ⟨sound, rfl⟩
  · rintro ⟨sound, rfl⟩
    exact ⟨(), sound, rfl⟩

/-- In place nothing is changed before the check has passed. -/
theorem run_registerInPlace :
    (registerInPlace policy).run.run set =
      match set.register policy with
      | .ok next => (.ok (), next)
      | .error failure => (.error failure, set) := by
  unfold registerInPlace register
  cases policy.check <;> rfl

theorem run_registerInPlace_of_accepted (accepted : policy.findings = []) :
    (registerInPlace policy).run.run set =
      (.ok (), { set with policies := set.others policy.code ++ [policy] }) := by
  rw [run_registerInPlace, register_eq_ok_iff.2 ⟨accepted, rfl⟩]

theorem run_registerInPlace_of_refused (set : PolicySet) (refused : policy.findings ≠ []) :
    ∃ failure, failure.Carries policy.findings ∧
      (registerInPlace policy).run.run set = (.error failure, set) := by
  obtain ⟨failure, hfailure⟩ := Failure.exists_ofFindings_eq_error refused
  have hregister : set.register policy = .error failure :=
    bind_eq_error_iff.2 (.inl hfailure)
  refine ⟨failure, Failure.ofFindings_eq_error_iff.1 hfailure, ?_⟩
  rw [run_registerInPlace, hregister]

theorem after_of_accepted (accepted : policy.findings = []) :
    set.after [policy] = { set with policies := set.others policy.code ++ [policy] } := by
  simp only [after, registerAll, run_registerInPlace_of_accepted accepted]

theorem after_of_refused (refused : policy.findings ≠ []) : set.after [policy] = set := by
  obtain ⟨failure, -, hrun⟩ := run_registerInPlace_of_refused set refused
  simp only [after, registerAll, hrun]

/-! ## Runs -/

@[simp] theorem after_nil : set.after [] = set := rfl

theorem registerAll_cons (rest : List Policy) :
    (set.registerAll (policy :: rest)).1 =
      ((registerInPlace policy).run.run set).1 :: ((set.after [policy]).registerAll rest).1 := by
  simp only [registerAll, after]
  cases (registerInPlace policy).run.run set
  rfl

theorem after_cons (rest : List Policy) :
    set.after (policy :: rest) = (set.after [policy]).after rest := by
  simp only [registerAll, after]
  cases (registerInPlace policy).run.run set
  rfl

theorem after_append (run run' : List Policy) :
    set.after (run ++ run') = (set.after run).after run' := by
  induction run generalizing set with
  | nil => rfl
  | cons policy rest ih => rw [List.cons_append, after_cons, ih, ← after_cons]

/-- What a registration in a run comes to, as if it were made by itself. -/
theorem getElem?_registerAll {run : List Policy} {place : Nat} (h : run[place]? = some policy) :
    (set.registerAll run).1[place]? =
      some ((registerInPlace policy).run.run (set.after (run.take place))).1 := by
  induction run generalizing set place with
  | nil => simp at h
  | cons first rest ih =>
    cases place with
    | zero =>
      obtain rfl : first = policy := by simpa using h
      rw [registerAll_cons, List.getElem?_cons_zero, List.take_zero, after_nil]
    | succ place =>
      rw [List.getElem?_cons_succ] at h
      rw [registerAll_cons, List.getElem?_cons_succ, List.take_succ_cons,
        after_cons (rest.take place), ih h]

theorem after_take_succ {run : List Policy} {place : Nat} (h : run[place]? = some policy) :
    set.after (run.take (place + 1)) = (set.after (run.take place)).after [policy] := by
  rw [← after_append, List.take_add_one, h, Option.toList_some]

/-! ## What is kept -/

theorem fallback_after (run : List Policy) : (set.after run).fallback = set.fallback := by
  induction run generalizing set with
  | nil => rfl
  | cons policy rest ih =>
    rw [after_cons, ih]
    by_cases accepted : policy.findings = []
    · rw [after_of_accepted accepted]
    · rw [after_of_refused accepted]

/-- Policies of codes that a run does not register are kept, in their sequence. -/
theorem filter_after {run : List Policy} {keep : String → Bool}
    (h : ∀ code, Registers run code → keep code = false) :
    (set.after run).policies.filter (fun policy => keep policy.code) =
      set.policies.filter fun policy => keep policy.code := by
  induction run generalizing set with
  | nil => rfl
  | cons policy rest ih =>
    have hrest : ∀ code, Registers rest code → keep code = false := by
      rintro code ⟨other, hother, accepted⟩
      exact h code ⟨other, List.mem_cons_of_mem _ hother, accepted⟩
    rw [after_cons, ih hrest]
    by_cases accepted : policy.findings = []
    · have dropped : keep policy.code = false := h _ ⟨policy, by simp, accepted, rfl⟩
      rw [after_of_accepted accepted]
      simp [List.filter_append, filter_others dropped, dropped]
    · rw [after_of_refused accepted]

/-! ## What is written -/

theorem policyFor_after_of_accepted (accepted : policy.findings = []) (code : String) :
    (set.after [policy]).policyFor (some code) =
      if policy.code = code then policy else set.policyFor (some code) := by
  rw [after_of_accepted accepted]
  simp only [policyFor, Option.bind_some, List.find?_append]
  by_cases hcode : policy.code = code
  · subst hcode
    rw [find?_others_self]
    simp
  · rw [find?_others (Ne.symm hcode)]
    simp [hcode]

/-- **Each code has the last policy that was registered for it.** -/
theorem policyFor_after (run : List Policy) (code : String) :
    (set.after run).policyFor (some code) =
      (run.reverse.find? fun policy => policy.findings = [] ∧ policy.code = code).getD
        (set.policyFor (some code)) := by
  induction run using List.reverseRecOn with
  | nil => rfl
  | append_singleton run policy ih =>
    rw [after_append, List.reverse_append, List.reverse_singleton, List.singleton_append,
      List.find?_cons]
    by_cases accepted : policy.findings = []
    · rw [policyFor_after_of_accepted accepted, ih]
      by_cases hcode : policy.code = code <;> simp [accepted, hcode]
    · rw [after_of_refused accepted, ih]
      simp [accepted]

theorem policyFor_after_of_not_registers {run : List Policy} {code : String}
    (h : ¬Registers run code) :
    (set.after run).policyFor (some code) = set.policyFor (some code) := by
  have none :
      (run.reverse.find? fun policy => policy.findings = [] ∧ policy.code = code) = none := by
    rw [List.find?_eq_none]
    intro policy hpolicy found
    exact h ⟨policy, List.mem_reverse.1 hpolicy, by simpa using found⟩
  rw [policyFor_after, none, Option.getD_none]

theorem registers_concat_iff {run : List Policy} {code : String} :
    Registers (run ++ [policy]) code ↔
      Registers run code ∨ policy.findings = [] ∧ policy.code = code := by
  constructor
  · rintro ⟨other, hother, registered⟩
    rcases List.mem_append.1 hother with hother | hother
    · exact .inl ⟨other, hother, registered⟩
    · obtain rfl := List.mem_singleton.1 hother
      exact .inr registered
  · rintro (⟨other, hother, registered⟩ | registered)
    · exact ⟨other, List.mem_append_left _ hother, registered⟩
    · exact ⟨policy, by simp, registered⟩

theorem count_after_of_accepted (accepted : policy.findings = []) (code : String) :
    ((set.after [policy]).policies.map (·.code)).count code =
      if policy.code = code then 1 else (set.policies.map (·.code)).count code := by
  rw [after_of_accepted accepted, List.map_append, List.count_append, map_code_others]
  by_cases hcode : policy.code = code
  · subst hcode
    rw [List.count_eq_zero.2 (by simp)]
    simp
  · rw [List.count_filter (by simpa using Ne.symm hcode)]
    simp [hcode]

/-- A code that is registered has one policy from then on, however many it had. -/
theorem count_after {run : List Policy} {code : String} (h : Registers run code) :
    ((set.after run).policies.map (·.code)).count code = 1 := by
  induction run using List.reverseRecOn with
  | nil => simp [Registers] at h
  | append_singleton run policy ih =>
    rw [registers_concat_iff] at h
    rw [after_append]
    by_cases accepted : policy.findings = []
    · rw [count_after_of_accepted accepted]
      split_ifs with hcode
      · rfl
      · exact ih (h.resolve_right fun last => hcode last.2)
    · rw [after_of_refused accepted]
      exact ih (h.resolve_right fun last => accepted last.1)

/-! ## Validity -/

theorem IsConsistent.after_of_accepted (h : set.IsConsistent) (accepted : policy.findings = []) :
    (set.after [policy]).IsConsistent := by
  rw [PolicySet.after_of_accepted accepted]
  refine ⟨h.fallback, ?_, ?_⟩
  · intro other hother
    rcases List.mem_append.1 hother with hother | hother
    · exact h.policies other (List.mem_of_mem_filter hother)
    · obtain rfl := List.mem_singleton.1 hother
      exact accepted
  · rw [List.map_append, map_code_others]
    refine List.Nodup.append (h.codes.filter _) (List.nodup_singleton _) ?_
    simp

theorem IsConsistent.after (h : set.IsConsistent) (run : List Policy) :
    (set.after run).IsConsistent := by
  induction run generalizing set with
  | nil => exact h
  | cons policy rest ih =>
    rw [after_cons]
    by_cases accepted : policy.findings = []
    · exact ih (h.after_of_accepted accepted)
    · rw [after_of_refused accepted]
      exact ih h

/-! ## Compilation -/

/-- Of a policy set only the policy of the strategy counts. -/
theorem compile_congr {set' : PolicySet} {code : Option String}
    (h : set.policyFor code = set'.policyFor code) (requests : List Request)
    (topology : Resolution Topology) :
    set.compile requests topology code = set'.compile requests topology code := by
  have base : set.validator.expansionFindings = set'.validator.expansionFindings := rfl
  have findings (list : List AssembledRule) :
      set.validator.findings list code = set'.validator.findings list code := by
    simp only [validator, h]
  simp only [compile, Validator.compile, base, findings]

/-! ## The map -/

/-- **A policy set is a map from codes to policies, and the last registration of a code wins.** A
registration fails exactly if its policy has findings; then it carries them and changes nothing.
Whatever else a run leaves alone is as it was: the fallback, the policies of all codes that are not
registered, and what is compiled under these. -/
theorem last_registration_wins (set : PolicySet) (run : List Policy) :
    (∀ place policy, run[place]? = some policy →
        ∃ result, (set.registerAll run).1[place]? = some result ∧
          ((∃ failure, result = .error failure) ↔ policy.findings ≠ []) ∧
          ∀ failure, result = .error failure → failure.Carries policy.findings ∧
            set.after (run.take (place + 1)) = set.after (run.take place)) ∧
      (∀ code, (set.after run).policyFor (some code) =
        (run.reverse.find? fun policy => policy.findings = [] ∧ policy.code = code).getD
          (set.policyFor (some code))) ∧
      (set.after run).policyFor none = set.fallback ∧
      (∀ keep : String → Bool, (∀ code, Registers run code → keep code = false) →
        (set.after run).policies.filter (fun policy => keep policy.code) =
          set.policies.filter fun policy => keep policy.code) ∧
      (∀ code, Registers run code → ((set.after run).policies.map (·.code)).count code = 1) ∧
      (set.findings = [] → ∀ n, (set.after (run.take n)).findings = []) ∧
      ∀ code : Option String, (∀ registered ∈ code, ¬Registers run registered) →
        ∀ requests topology,
          (set.after run).compile requests topology code =
            set.compile requests topology code := by
  refine ⟨fun place policy h => ?_, policyFor_after run, fallback_after run,
    fun keep => filter_after, fun code => count_after, fun silent n => ?_,
    fun code unregistered requests topology => ?_⟩
  · rw [getElem?_registerAll h, after_take_succ h]
    refine ⟨_, rfl, ?_⟩
    by_cases accepted : policy.findings = []
    · rw [run_registerInPlace_of_accepted accepted]
      simp [accepted]
    · obtain ⟨failure, carries, hrun⟩ :=
        run_registerInPlace_of_refused (set.after (run.take place)) accepted
      rw [hrun, after_of_refused accepted]
      refine ⟨iff_of_true ⟨failure, rfl⟩ accepted, fun other hother => ⟨?_, rfl⟩⟩
      obtain rfl := Except.error.inj hother
      exact carries
  · rw [findings_eq_nil_iff_isConsistent] at silent ⊢
    exact silent.after _
  · refine compile_congr ?_ requests topology
    cases code with
    | none => exact fallback_after run
    | some code => exact policyFor_after_of_not_registers (unregistered code rfl)

/-- A set that lists a code twice. -/
def repeatedCode : PolicySet :=
  ⟨.fallback, [.closed "a", .closed "b", { Policy.closed "a" with description := some "again" }]⟩

/-- A registration that fails between two of the same code. -/
def refusedBetween : List Policy :=
  [{ Policy.closed "a" with allowsAllocation := true, requiresCompleteSet := true },
    { Policy.closed " " with requiredTypes := [.default] },
    { Policy.closed "a" with allowsAllocation := true }]

theorem last_registration_wins_repeatedCode :
    ((repeatedCode.after refusedBetween).policyFor (some "a")).requiresCompleteSet = false ∧
      ((repeatedCode.after refusedBetween).policies.map (·.code)).count "a" = 1 ∧
      repeatedCode.after (refusedBetween.take 2) = repeatedCode.after (refusedBetween.take 1) ∧
      (repeatedCode.after refusedBetween).compile [] (.found .vertical) (some "b") =
        repeatedCode.compile [] (.found .vertical) (some "b") := by
  obtain ⟨calls, policyFor, -, -, count, -, compile⟩ :=
    last_registration_wins repeatedCode refusedBetween
  obtain ⟨result, -, fails, refused⟩ := calls 1 _ rfl
  obtain ⟨failure, hfailure⟩ := fails.2 (by decide +kernel)
  refine ⟨?_, ?_, (refused failure hfailure).2, ?_⟩
  · rw [policyFor]
    decide +kernel
  · exact count "a" ⟨_, List.mem_cons_self, by decide +kernel, rfl⟩
  · refine compile (some "b") ?_ [] _
    rintro _ ⟨rfl⟩ ⟨policy, hpolicy, -, hcode⟩
    simp only [refusedBetween, List.mem_cons, List.not_mem_nil, or_false] at hpolicy
    rcases hpolicy with rfl | rfl | rfl <;> simp [Policy.closed] at hcode

end PolicySet

end PaymentAllocation
