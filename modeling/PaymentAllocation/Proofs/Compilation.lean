import PaymentAllocation.Compilation
import PaymentAllocation.Proofs.Defects

/-!
# Compilation with any validator

Compilation has one verdict (`Validator.verdict`): the findings about the base order and then those
about the assembled rules. If there are any, they are all that compilation yields. If there are
none, the requests are converted one by one, which nothing about the validator helps with: each of
them must be sound by itself, and the first that is not gives the failure.

* `compile_eq_ok_iff` and `compile_eq_error_iff` part a compilation into verdict and conversion.
* `finish_assemble_eq_ok_iff` and `finish_assemble_eq_error_iff` are about the conversion of
  requests in terms of what is written in them.
-/

namespace PaymentAllocation

/-! ## Expanded requests -/

theorem getElem?_expandFirst {requests : List Request} {topology : Resolution Topology}
    {index : Nat} :
    (Request.expandFirst topology requests).2[index]? =
      requests[index]?.map fun request =>
        if index = 0 then request.expanded topology else request := by
  cases requests with
  | nil => rfl
  | cons first rest => cases index <;> simp [Request.expandFirst, Request.expanded]

theorem length_expandFirst {requests : List Request} {topology : Resolution Topology} :
    (Request.expandFirst topology requests).2.length = requests.length := by
  cases requests <;> rfl

/-! ## Conversion of requests -/

theorem forall₂_assemble_iff {r : AssembledRule → Rule → Prop} {s : Request → Rule → Prop}
    (h : ∀ index request rule, r (.ofRequest index request) rule ↔ s request rule)
    {requests : List Request} {rules : List Rule} :
    List.Forall₂ r (AssembledRule.assemble requests) rules ↔ List.Forall₂ s requests rules := by
  -- `s` does not look at indices, so the list of requests may be taken with its places
  have zipped := List.forall₂_map_left_iff (R := s) (f := Prod.fst) (l := requests.zipIdx)
    (u := rules)
  rw [List.zipIdx_map_fst] at zipped
  rw [AssembledRule.assemble, List.forall₂_map_left_iff, zipped]
  simp only [h]

theorem assemble_take (requests : List Request) (n : Nat) :
    AssembledRule.assemble (requests.take n) = (AssembledRule.assemble requests).take n := by
  refine List.ext_getElem? fun i => ?_
  rw [AssembledRule.getElem?_assemble, List.getElem?_take, List.getElem?_take,
    AssembledRule.getElem?_assemble]
  split_ifs <;> rfl

/-- The conversion of requests succeeds if they ask for rules that name a slot and none twice. -/
theorem finish_assemble_eq_ok_iff {requests : List Request} {rules : List Rule} :
    AssembledRule.finish (AssembledRule.assemble requests) = .ok rules ↔
      List.Forall₂ (fun request rule => request.AsksFor rule ∧ rule.IsProper) requests rules :=
  AssembledRule.finish_eq_ok_iff.trans <| forall₂_assemble_iff fun _ _ _ =>
    and_congr_left' AssembledRule.denotes_ofRequest_iff

/-- Requests ask for one list of rules at most. -/
theorem rules_eq_of_denotes {requests : List Request} {rules rules' : List Rule}
    (h : List.Forall₂ (fun assembled rule => assembled.Denotes rule ∧ rule.IsProper)
      (AssembledRule.assemble requests) rules)
    (h' : List.Forall₂ (fun request rule => request.AsksFor rule ∧ rule.IsProper)
      requests rules') : rules = rules' := by
  have finished := AssembledRule.finish_eq_ok_iff.2 h
  rw [finish_assemble_eq_ok_iff.2 h'] at finished
  exact (Except.ok.inj finished).symm

theorem forall_mem_assemble_iff {requests : List Request} :
    (∀ assembled ∈ AssembledRule.assemble requests,
        ∃ rule, assembled.Denotes rule ∧ rule.IsProper) ↔
      ∀ request ∈ requests, request.IsSound := by
  simp only [Request.isSound_iff, exists_forall₂]
  exact exists_congr fun rules => forall₂_assemble_iff fun _ _ _ =>
    and_congr_left' AssembledRule.denotes_ofRequest_iff

/-- The conversion of requests fails with the defect of the first that is not sound. -/
theorem finish_assemble_eq_error_iff {requests : List Request} {failure : Failure} :
    AssembledRule.finish (AssembledRule.assemble requests) = .error failure ↔
      ∃ (index : Nat) (request : Request), requests[index]? = some request ∧
        (∀ earlier ∈ requests.take index, earlier.IsSound) ∧ request.Defect index failure := by
  rw [AssembledRule.finish_eq_error_iff]
  simp only [← assemble_take, forall_mem_assemble_iff, AssembledRule.getElem?_assemble,
    Option.map_eq_some_iff]
  constructor
  · intro h
    obtain ⟨index, _, ⟨request, here, rfl⟩, earlier, failed⟩ := h
    exact ⟨index, request, here, earlier, convert_ofRequest_eq_error_iff.1 failed⟩
  · intro h
    obtain ⟨index, request, here, earlier, defect⟩ := h
    exact ⟨index, _, ⟨request, here, rfl⟩, earlier, convert_ofRequest_eq_error_iff.2 defect⟩

/-! ## Verdict and conversion -/

namespace Validator

/-- The findings about a base order that is expanded, followed by those about the assembled
rules. -/
def verdict (validator : Validator) (requests : List Request) (topology : Resolution Topology)
    (code : Option String) : List Finding :=
  (match requests with
    | [] => []
    | first :: _ => if topology.isFound then validator.baseOrder first.entries else []) ++
    validator.findings (AssembledRule.assemble (Request.expandFirst topology requests).2) code

variable {validator : Validator} {requests : List Request} {topology : Resolution Topology}
  {code : Option String}

theorem compile_eq :
    validator.compile requests topology code = do
      Failure.ofFindings (validator.verdict requests topology code)
      let rules ← AssembledRule.finish
        (AssembledRule.assemble (Request.expandFirst topology requests).2)
      return ⟨rules, (Request.expandFirst topology requests).1⟩ := by
  cases requests <;> cases topology <;> rfl

theorem compile_eq_ok_iff {compiled : Compiled} :
    validator.compile requests topology code = .ok compiled ↔
      validator.verdict requests topology code = [] ∧
        List.Forall₂ (fun request rule => request.AsksFor rule ∧ rule.IsProper)
          (Request.expandFirst topology requests).2 compiled.rules ∧
        compiled.expansion = (Request.expandFirst topology requests).1 := by
  simp only [compile_eq, bind_eq_ok_iff, Failure.ofFindings_eq_ok_iff, finish_assemble_eq_ok_iff,
    pure_eq_ok_iff]
  constructor
  · intro h
    obtain ⟨_, silent, rules, asks, rfl⟩ := h
    exact ⟨silent, asks, rfl⟩
  · intro h
    obtain ⟨silent, asks, hexpansion⟩ := h
    exact ⟨(), silent, _, asks, by rw [← hexpansion]⟩

theorem compile_eq_error_iff {failure : Failure} :
    validator.compile requests topology code = .error failure ↔
      failure.Carries (validator.verdict requests topology code) ∨
        validator.verdict requests topology code = [] ∧
          ∃ (index : Nat) (request : Request),
            (Request.expandFirst topology requests).2[index]? = some request ∧
              (∀ earlier ∈ (Request.expandFirst topology requests).2.take index,
                earlier.IsSound) ∧
              request.Defect index failure := by
  simp only [compile_eq, bind_eq_error_iff, Failure.ofFindings_eq_ok_iff,
    Failure.ofFindings_eq_error_iff, finish_assemble_eq_error_iff, pure_ne_error, and_false,
    exists_false, or_false, exists_const]

theorem exists_compile_eq_ok_iff :
    (∃ compiled, validator.compile requests topology code = .ok compiled) ↔
      validator.verdict requests topology code = [] ∧
        ∀ request ∈ (Request.expandFirst topology requests).2, request.IsSound := by
  simp only [compile_eq_ok_iff, Request.isSound_iff, exists_forall₂]
  constructor
  · intro h
    obtain ⟨compiled, silent, asks, -⟩ := h
    exact ⟨silent, _, asks⟩
  · intro h
    obtain ⟨silent, rules, asks⟩ := h
    exact ⟨⟨rules, _⟩, silent, asks, rfl⟩

/-- **Compilation is all or nothing under any validator.** It succeeds if the validator has no
finding and all requests, the first one expanded, are sound; then there is one rule for each of
them, in sequence. Findings are all reported, and nothing else is. Without findings the first
request that is not sound decides the failure. -/
theorem compile_all_or_nothing (validator : Validator) (requests : List Request)
    (topology : Resolution Topology) (code : Option String) :
    ((∃ compiled, validator.compile requests topology code = .ok compiled) ↔
        validator.verdict requests topology code = [] ∧
          ∀ request ∈ (Request.expandFirst topology requests).2, request.IsSound) ∧
      (∀ compiled, validator.compile requests topology code = .ok compiled →
        List.Forall₂
          (fun request rule => request.AsksFor rule ∧ rule.slots ≠ [] ∧ rule.slots.Nodup)
          (Request.expandFirst topology requests).2 compiled.rules) ∧
      (validator.verdict requests topology code ≠ [] →
        ∃ failure, validator.compile requests topology code = .error failure ∧
          failure.findings = validator.verdict requests topology code) ∧
      (validator.verdict requests topology code = [] → ∀ failure,
        validator.compile requests topology code = .error failure ↔
          ∃ (index : Nat) (request : Request),
            (Request.expandFirst topology requests).2[index]? = some request ∧
              (∀ earlier ∈ (Request.expandFirst topology requests).2.take index,
                earlier.IsSound) ∧
              request.Defect index failure) := by
  refine ⟨exists_compile_eq_ok_iff, fun compiled h => ?_, fun findings => ?_,
    fun silent failure => ?_⟩
  · obtain ⟨-, asks, -⟩ := compile_eq_ok_iff.1 h
    exact asks.imp fun _ _ h => ⟨h.1, h.2.nonempty, h.2.nodup⟩
  · obtain ⟨failure, hfailure⟩ := Failure.exists_ofFindings_eq_error findings
    have carries := Failure.ofFindings_eq_error_iff.1 hfailure
    exact ⟨failure, compile_eq_error_iff.2 (.inl carries),
      Failure.findings_of_ofFindings hfailure⟩
  · rw [compile_eq_error_iff, or_iff_right fun carries => carries.ne_nil silent]
    simp only [silent, true_and]

end Validator

end PaymentAllocation
