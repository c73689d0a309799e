import PaymentAllocation.Proofs.Documents
import PaymentAllocation.Proofs.Failures
import PaymentAllocation.Proofs.JsonTexts
import PaymentAllocation.Proofs.PolicyFindings

/-!
# Round trips through JSON

Every JSON text of a command is read as the command, and what is written of a command is one, so it
makes no difference whether a caller compiles the command or its JSON (`Command.json_roundTrip`).

A policy set is read back exactly if it has no findings, and is otherwise refused with all of them.
Whatever a text says, and from wherever it was loaded, no set with a finding gets through
(`PolicySet.accept_eq_ok_iff`, `PolicySet.load_eq_iff`,
`PolicySet.only_consistent_sets_load`).
-/

namespace PaymentAllocation

/-! ## Commands -/

namespace Command

theorem ofJson_of_isTextOf {command : Command} {text : String}
    (h : Json.IsTextOf command.toDocument text) : ofJson text = .ok command := by
  simp [ofJson, Json.read?_of_isTextOf h, readsBack command]

/-- **A command is read back from its JSON**, and its JSON compiles to what the command compiles
to. What is written is JSON for the command, and any other JSON for it is read as the command. -/
theorem json_roundTrip (command : Command) :
    ofJson command.toJson = .ok command ∧
      (∀ set : PolicySet, set.compileJson command.toJson = set.compileCommand command) ∧
      Json.IsTextOf command.toDocument command.toJson ∧
      ∀ text, Json.IsTextOf command.toDocument text → ofJson text = .ok command := by
  have written : Json.IsTextOf command.toDocument command.toJson := Json.isTextOf_write _
  have read : ofJson command.toJson = .ok command := ofJson_of_isTextOf written
  refine ⟨read, fun set => ?_, written, fun text h => ofJson_of_isTextOf h⟩
  rw [PolicySet.compileJson, read]
  rfl

/-- A command with a quote and a line break in a name, and with settings that are missing. -/
def quoted : Command := ⟨some "a\"\n", none, [⟨none, none, [⟨.largest, "FEES"⟩]⟩]⟩

theorem json_roundTrip_quoted :
    ofJson (Json.writeIndented quoted.toDocument) = .ok quoted ∧
      ofJson quoted.toJson = .ok quoted := by
  obtain ⟨line, -, -, read⟩ := json_roundTrip quoted
  exact ⟨read _ (Json.isTextOf_writeIndented _), line⟩

/-- A quote and a line break are escaped, and settings that are missing are written as `null`. -/
example : toJson ⟨some "a\"\n", none, [⟨none, none, [⟨.largest, "FEES"⟩]⟩]⟩ =
    "\x7b\"transactionProcessingStrategyCode\":\"a\\\"\\n\"," ++
      "\"loanScheduleProcessingType\":null,\"paymentAllocation\":[" ++
      "\x7b\"transactionType\":null,\"futureInstallmentAllocationRule\":null," ++
      "\"paymentAllocationOrder\":[" ++
      "\x7b\"order\":9223372036854775807,\"paymentAllocationRule\":\"FEES\"\x7d]\x7d]\x7d" := by
  decide +kernel

end Command

/-! ## Policies -/

namespace PolicySet

variable {set : PolicySet}

/-- Whatever was read, only a set without findings is accepted. -/
theorem accept_eq_ok_iff {reading : Option PolicySet} :
    accept reading = .ok set ↔ reading = some set ∧ set.findings = [] := by
  cases reading with
  | none => simp [accept]
  | some other =>
    rw [accept, bind_eq_ok_iff]
    simp only [check, Failure.ofFindings_eq_ok_iff, pure_eq_ok_iff, Option.some.injEq]
    constructor
    · rintro ⟨_, silent, rfl⟩
      exact ⟨rfl, silent⟩
    · rintro ⟨rfl, silent⟩
      exact ⟨(), silent, rfl⟩

theorem accept_some_eq_error_iff {failure : Failure} :
    accept (some set) = .error failure ↔ failure.Carries set.findings := by
  simp only [accept, bind_eq_error_iff, pure_ne_error, and_false, exists_false, or_false, check,
    Failure.ofFindings_eq_error_iff]

theorem ofJson_toJson : ofJson set.toJson = accept (some set) := by
  have read : Json.read? set.toJson = some set.toDocument :=
    Json.read?_of_isTextOf (Json.isTextOf_write _)
  rw [ofJson, read, Option.bind_some, readsBack]

section Loading

variable {read : String → Except FileError String} {path text : String}
  {outcome : Except Failure PolicySet}

/-- What comes of loading policies from a file. Nothing is known of its text if it cannot be read,
and its text does not matter if its extension stands for no format. -/
inductive Loads (read : String → Except FileError String) (path : String) :
    Except Failure PolicySet → Prop
  | unreadable {error : FileError} (h : read path = .error error) :
    Loads read path (.error (.file error))
  | toml {text : String} (h : read path = .ok text)
    (extension : fileExtension? path = some "toml") :
    Loads read path (ofToml text)
  | json {text : String} (h : read path = .ok text)
    (extension : fileExtension? path = some "json") :
    Loads read path (ofJson text)
  | unsupported {text : String} (h : read path = .ok text)
    (toml : fileExtension? path ≠ some "toml") (json : fileExtension? path ≠ some "json") :
    Loads read path (.error (.policy (some ("Unsupported policy file extension: " ++ path))))

theorem load_of_unreadable {error : FileError} (h : read path = .error error) :
    load read path = .error (.file error) := by
  rw [load, h]
  rfl

/-- Text that was read is left to the reader of the format that the extension stands for. -/
theorem load_of_readable (h : read path = .ok text) :
    load read path = match fileExtension? path with
      | some "toml" => ofToml text
      | some "json" => ofJson text
      | _ => .error (.policy (some ("Unsupported policy file extension: " ++ path))) := by
  rw [load, h]
  rfl

theorem loads_load (read : String → Except FileError String) (path : String) :
    Loads read path (load read path) := by
  cases h : read path with
  | error error =>
    rw [load_of_unreadable h]
    exact .unreadable h
  | ok text =>
    rw [load_of_readable h]
    split
    next toml => exact .toml h toml
    next json => exact .json h json
    next toml json => exact .unsupported h toml json

/-- Policies are loaded in exactly these ways. -/
theorem load_eq_iff : load read path = outcome ↔ Loads read path outcome := by
  constructor
  · rintro rfl
    exact loads_load read path
  · intro loads
    cases loads with
    | unreadable h => exact load_of_unreadable h
    | toml h extension => simp only [load_of_readable h, extension]
    | json h extension => simp only [load_of_readable h, extension]
    | unsupported h toml json =>
      rw [load_of_readable h]
      split
      next extension => exact absurd extension toml
      next extension => exact absurd extension json
      next => rfl

/-- Policies that are loaded were read from the text of the file. -/
theorem Loads.exists_text (h : Loads read path (.ok set)) :
    ∃ text, read path = .ok text ∧ (ofToml text = .ok set ∨ ofJson text = .ok set) := by
  generalize hset : (.ok set : Except Failure PolicySet) = loaded at h
  cases h with
  | unreadable => cases hset
  | toml hread => exact ⟨_, hread, .inl rfl⟩
  | json hread => exact ⟨_, hread, .inr rfl⟩
  | unsupported => cases hset

end Loading

/-- **Only policy sets without findings can be loaded.** A set has none exactly if no policy in it
has one and the codes are different; its findings are those about the fallback and then, policy by
policy, those about the listed ones, with the index in front. A set without findings is read back
from its JSON, any other is refused with all its findings, and from no text and no file a set with
findings is ever accepted, whatever the readers make of it. -/
theorem only_consistent_sets_load (set : PolicySet) :
    (set.findings = [] ↔
        set.fallback.findings = [] ∧ (∀ policy ∈ set.policies, policy.findings = []) ∧
          (set.policies.map (·.code)).Nodup) ∧
      set.findings = set.fallback.findings ++
        set.policies.zipIdx.flatMap (fun (policy, index) => set.findingsAt index policy) ∧
      (set.findings = [] → ofJson set.toJson = .ok set) ∧
      (set.findings ≠ [] →
        ∃ failure, ofJson set.toJson = .error failure ∧ failure.Carries set.findings) ∧
      (∀ reading, accept reading = .ok set → set.findings = []) ∧
      (∀ text, ofJson text = .ok set → set.findings = []) ∧
      (∀ text, ofToml text = .ok set → set.findings = []) ∧
      ∀ read path, load read path = .ok set → set.findings = [] := by
  have gate : ∀ reading, accept reading = .ok set → set.findings = [] :=
    fun _ h => (accept_eq_ok_iff.1 h).2
  refine ⟨?_, findings_eq set, fun silent => ?_, fun findings => ?_, gate, fun _ => gate _,
    fun _ => gate _, fun read path h => ?_⟩
  · rw [findings_eq_nil_iff_isConsistent]
    constructor
    · intro consistent
      exact ⟨consistent.fallback, consistent.policies, consistent.codes⟩
    · rintro ⟨fallback, policies, codes⟩
      exact ⟨fallback, policies, codes⟩
  · rw [ofJson_toJson, accept_eq_ok_iff]
    exact ⟨rfl, silent⟩
  · obtain ⟨failure, hfailure⟩ := Failure.exists_ofFindings_eq_error findings
    have carries := Failure.ofFindings_eq_error_iff.1 hfailure
    exact ⟨failure, ofJson_toJson.trans (accept_some_eq_error_iff.2 carries), carries⟩
  · obtain ⟨text, -, toml | json⟩ := (load_eq_iff.1 h).exists_text
    · exact gate _ toml
    · exact gate _ json

/-- The second of two policies with one code is refused, and the standard policies are accepted. -/
theorem only_consistent_sets_load_repeatedCode :
    ofJson (PolicySet.mk .fallback [.closed "a", .closed "a"]).toJson =
        .error (.invalid ⟨"policies[1].code", "Duplicate strategy code",
          some "unique_strategy_code", some "a"⟩) ∧
      ofJson standard.toJson = .ok standard := by
  obtain ⟨-, -, -, refused, -⟩ :=
    only_consistent_sets_load (PolicySet.mk .fallback [.closed "a", .closed "a"])
  obtain ⟨-, -, accepted, -⟩ := only_consistent_sets_load standard
  have findings : (PolicySet.mk .fallback [.closed "a", .closed "a"]).findings =
      [⟨"policies[1].code", "Duplicate strategy code", some "unique_strategy_code", some "a"⟩] := by
    decide +kernel
  rw [findings] at refused
  obtain ⟨failure, hfailure, carries⟩ := refused (List.cons_ne_nil _ _)
  refine ⟨hfailure.trans ?_, accepted (by decide +kernel)⟩
  cases carries with
  | one => rfl
  | many several => simp at several

end PolicySet

end PaymentAllocation
