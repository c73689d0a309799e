import PaymentAllocation.CommandLine.Run
import PaymentAllocation.Proofs.CompiledRules
import PaymentAllocation.Proofs.Reports
import PaymentAllocation.Proofs.RoundTrips

/-!
# What a run that compiles prints as JSON

A run that compiles a command ends in one of three ways (`CommandLine.compileFile_cases`): it fails
and prints nothing, it prints the rules, or it prints the findings and fails. `ChoosesPolicies` says
which policies it compiles with, and what they come to if their file cannot be used.

What a run prints as JSON is one document, and a program that reads it gets the rules back as they
are, or the findings as rows of texts (`FindingRow`). No item of the one is an item of the other
(`FindingRow.ofDocument?_rule`, `Rule.ofDocument?_finding`), so that rules and findings are never
taken for each other (`CommandLine.compileFile_json`).
-/

namespace PaymentAllocation

open Document

/-! ## Rows -/

/-- A finding as it is printed: a rule or a value that is absent is empty. -/
structure FindingRow where
  field : String
  rule : String
  value : String
  message : String
  deriving DecidableEq, Repr

/-- The row that is printed of a finding. -/
def Finding.row (finding : Finding) : FindingRow :=
  ⟨finding.field, finding.rule.getD "", finding.value.getD "", finding.message⟩

namespace FindingRow

/-- A row as a record, in the order of its columns. -/
def toDocument (row : FindingRow) : Document :=
  record [("field", ofString row.field), ("rule", ofString row.rule),
    ("value", ofString row.value), ("message", ofString row.message)]

/-- Reads a row; no field may be missing. -/
def ofDocument? (document : Document) : Option FindingRow := do
  let [field, rule, value, message] ←
    fields? Json.dialect ["field", "rule", "value", "message"] document | none
  return ⟨← (← field).string?, ← (← rule).string?, ← (← value).string?, ← (← message).string?⟩

theorem readsBack : ReadsBack toDocument ofDocument? := by
  intro row
  rw [ofDocument?, toDocument, fields?_record]
  · simp [readsBack_ofString _]
  · rfl
  · decide

end FindingRow

/-- A rule has no field that a row must have. -/
theorem FindingRow.ofDocument?_rule (rule : Rule) : ofDocument? rule.toDocument = none := by
  rw [ofDocument?, Rule.toDocument, record_eq, fields?_table]
  · rfl
  · rfl
  · simp

theorem Rule.ofDocument?_finding (finding : Finding) : ofDocument? finding.toDocument = none := by
  rw [ofDocument?, Finding.toDocument, record_eq, fields?_table]
  · rfl
  · rfl
  · simp

/-! ## Lists in JSON -/

/-- Reads a list from JSON. -/
def listOfJson? {α : Type} (read : Document → Option α) (text : String) : Option (List α) :=
  (Json.read? text).bind (listOf? read)

section Lists

variable {α β : Type} {write : β → Document} {read : Document → Option α}

theorem listOfJson?_of_isTextOf {write : α → Document} (h : ReadsBack write read) {list : List α}
    {text : String} (htext : Json.IsTextOf (.list (list.map write)) text) :
    listOfJson? read text = some list := by
  rw [listOfJson?, Json.read?_of_isTextOf htext, Option.bind_some]
  exact h.listOf list

/-- Items that are not to be read make a list that is not to be read. -/
theorem eq_nil_of_listOfJson? (h : ∀ b, read (write b) = none) {list : List β} {text : String}
    (htext : Json.IsTextOf (.list (list.map write)) text) {items : List α}
    (hitems : listOfJson? read text = some items) : list = [] ∧ items = [] := by
  rw [listOfJson?, Json.read?_of_isTextOf htext, Option.bind_some] at hitems
  cases list with
  | nil =>
    have hnil : some [] = some items := hitems
    exact ⟨rfl, (Option.some.inj hnil).symm⟩
  | cons b rest => simp [listOf?, readAll, h b] at hitems

theorem listOfJson?_empty (read : Document → Option α) : listOfJson? read "" = none := rfl

end Lists

namespace CommandLine

/-! ## Sources of a run -/

/-- What comes of the policies that a run asks for: the standard ones if no file is named, else what
comes of loading the file. -/
inductive ChoosesPolicies (read : String → Except FileError String) :
    Option String → Except Failure PolicySet → Prop
  | standard : ChoosesPolicies read none (.ok .standard)
  | file {path : String} {outcome : Except Failure PolicySet}
    (h : PolicySet.Loads read path outcome) : ChoosesPolicies read (some path) outcome

section Sources

variable {read : String → Except FileError String} {path : String} {policyPath : Option String}
  {body : String} {set : PolicySet}

theorem readSources_of_unreadable {error : FileError} (h : read path = .error error) :
    readSources read path policyPath = .error (.unreadable path error) := by
  rw [readSources, h]
  rfl

theorem readSources_of_chosen (hbody : read path = .ok body)
    (hset : ChoosesPolicies read policyPath (.ok set)) :
    readSources read path policyPath = .ok (body, set) := by
  rw [readSources, hbody]
  cases hset with
  | standard => rfl
  | file loads =>
    simp only [PolicySet.load_eq_iff.2 loads]
    rfl

theorem readSources_of_refused (hbody : read path = .ok body) {policies : String}
    {failure : Failure} (h : PolicySet.Loads read policies (.error failure)) :
    readSources read path (some policies) = .error (.policies policies failure) := by
  rw [readSources, hbody]
  simp only [PolicySet.load_eq_iff.2 h]
  rfl

end Sources

/-! ## Failures of compilation -/

section CompileJson

variable {set : PolicySet} {body : String}

theorem findings_of_ofJson_eq_error {failure : Failure} (h : Command.ofJson body = .error failure) :
    failure.findings = [] := by
  rw [Command.ofJson] at h
  split at h
  · cases h
  · obtain rfl := Except.error.inj h
    rfl

/-- Whatever a command is refused for is findings, and there is at least one. -/
theorem findings_of_compileCommand_eq_error {command : Command} {failure : Failure}
    (h : set.compileCommand command = .error failure) : failure.findings ≠ [] := by
  have carries := PolicySet.carries_of_compile_eq_error h
  rw [carries.findings_eq]
  exact carries.ne_nil

theorem compileJson_of_ofJson {command : Command} (h : Command.ofJson body = .ok command) :
    set.compileJson body = set.compileCommand command := by
  rw [PolicySet.compileJson, h]
  rfl

/-- Each rule that comes out is valid on its own. -/
theorem findings_of_compileJson_eq_ok {compiled : Compiled}
    (h : set.compileJson body = .ok compiled) : ∀ rule ∈ compiled.rules, rule.findings = [] := by
  obtain ⟨command, -, accepted⟩ := bind_eq_ok_iff.1 h
  intro rule hrule
  exact Rule.findings_eq_nil_iff.2 (PolicySet.isProper_of_compile_eq_ok accepted rule hrule)

end CompileJson

/-! ## What is printed -/

theorem isTextOf_documentText (document : Document) :
    Json.IsTextOf document (documentText document) := by
  obtain ⟨before, cs, behind, hbefore, h, hbehind, htext⟩ := Json.isTextOf_writeIndented document
  refine ⟨before, cs, behind ++ ['\n'], hbefore, h, ?_, ?_⟩
  · exact List.forall_mem_append.2 ⟨hbehind, by simp [Json.isBlank]⟩
  · simp [documentText, line, htext]

/-- A run succeeds, and its output is one JSON text that is read as the rules, each of them valid on
its own. -/
structure Outcome.PrintsRules (outcome : Outcome) (rules : List Rule) : Prop where
  error : outcome.error = none
  text : Json.IsTextOf (.list (rules.map Rule.toDocument)) outcome.output
  read : listOfJson? Rule.ofDocument? outcome.output = some rules
  valid : ∀ rule ∈ rules, rule.findings = []

/-- A run fails with the number of findings, of which there is at least one, and its output is one
JSON text that is read as a row for each of them. -/
structure Outcome.PrintsFindings (outcome : Outcome) (findings : List Finding) : Prop where
  nonempty : 1 ≤ findings.length
  error : outcome.error = some (.rejected findings.length)
  text : Json.IsTextOf (.list (findings.map Finding.toDocument)) outcome.output
  read : listOfJson? FindingRow.ofDocument? outcome.output = some (findings.map Finding.row)

theorem printsRules_printCompiled {compiled : Compiled}
    (valid : ∀ rule ∈ compiled.rules, rule.findings = []) :
    (printCompiled compiled .json).PrintsRules compiled.rules where
  error := rfl
  text := isTextOf_documentText _
  read := listOfJson?_of_isTextOf Rule.readsBack (isTextOf_documentText _)
  valid := valid

theorem printsFindings_printFindings {findings : List Finding} (nonempty : findings ≠ []) :
    (printFindings findings .json).PrintsFindings findings where
  nonempty := List.length_pos_iff.2 nonempty
  error := rfl
  text := isTextOf_documentText _
  read := by
    have rows : findings.map Finding.toDocument =
        (findings.map Finding.row).map FindingRow.toDocument := by
      rw [List.map_map]
      rfl
    have text : Json.IsTextOf (.list (findings.map Finding.toDocument))
      (printFindings findings .json).output := isTextOf_documentText _
    rw [rows] at text
    exact listOfJson?_of_isTextOf FindingRow.readsBack text

/-! ## Runs -/

section Runs

variable {read : String → Except FileError String} {path : String} {policyPath : Option String}
  {body : String} {set : PolicySet}

theorem compileFile_of_readSources_eq_error {error : RunError}
    (h : readSources read path policyPath = .error error) (layout : Layout) :
    compileFile read layout path policyPath = .failure error := by
  rw [compileFile, h]

theorem compileFile_of_compileJson_eq_ok
    (h : readSources read path policyPath = .ok (body, set)) {compiled : Compiled}
    (accepted : set.compileJson body = .ok compiled) (layout : Layout) :
    compileFile read layout path policyPath = printCompiled compiled layout := by
  rw [compileFile, h]
  simp only [accepted]

theorem compileFile_of_compileJson_eq_error
    (h : readSources read path policyPath = .ok (body, set)) {failure : Failure}
    (refused : set.compileJson body = .error failure) (layout : Layout) :
    compileFile read layout path policyPath =
      if failure.findings = [] then .failure (.failed failure)
      else printFindings failure.findings layout := by
  rw [compileFile, h]
  simp only [refused, List.isEmpty_iff]

/-- A run fails and prints nothing, or it prints rules, or it prints findings and fails. -/
theorem compileFile_cases (read : String → Except FileError String) (path : String)
    (policyPath : Option String) :
    (∃ error, compileFile read .json path policyPath = .failure error) ∨
      (∃ rules, (compileFile read .json path policyPath).PrintsRules rules) ∨
      ∃ findings, (compileFile read .json path policyPath).PrintsFindings findings := by
  cases sources : readSources read path policyPath with
  | error error => exact .inl ⟨error, compileFile_of_readSources_eq_error sources .json⟩
  | ok pair =>
    obtain ⟨body, set⟩ := pair
    cases result : set.compileJson body with
    | ok compiled =>
      rw [compileFile_of_compileJson_eq_ok sources result]
      have valid := findings_of_compileJson_eq_ok result
      exact .inr (.inl ⟨_, printsRules_printCompiled valid⟩)
    | error failure =>
      rw [compileFile_of_compileJson_eq_error sources result]
      split_ifs with h
      · exact .inl ⟨_, rfl⟩
      · exact .inr (.inr ⟨_, printsFindings_printFindings h⟩)

end Runs

/-- **What a run that compiles prints as JSON.** It prints nothing and fails if a file cannot be
read, the policies cannot be used or the body is no command. If the command compiles, it prints the
rules and succeeds; if not, it prints the findings and fails with their number. No text with rules
is printed by a run that fails, and none with rows by one that succeeds. -/
theorem compileFile_json (read : String → Except FileError String) (path : String)
    (policyPath : Option String) :
    (∀ error, read path = .error error →
        compileFile read .json path policyPath = .failure (.unreadable path error)) ∧
      (∀ body policies error, read path = .ok body → policyPath = some policies →
        read policies = .error error →
          compileFile read .json path policyPath = .failure (.policies policies (.file error))) ∧
      (∀ body policies failure, read path = .ok body → policyPath = some policies →
        PolicySet.Loads read policies (.error failure) →
          compileFile read .json path policyPath = .failure (.policies policies failure)) ∧
      (∀ body set, read path = .ok body → ChoosesPolicies read policyPath (.ok set) →
        (∀ failure, Command.ofJson body = .error failure →
            compileFile read .json path policyPath = .failure (.failed failure)) ∧
          (∀ compiled, set.compileJson body = .ok compiled →
            (compileFile read .json path policyPath).PrintsRules compiled.rules) ∧
          ∀ command failure, Command.ofJson body = .ok command →
            set.compileCommand command = .error failure →
              (compileFile read .json path policyPath).PrintsFindings failure.findings) ∧
      ((compileFile read .json path policyPath).error ≠ none →
        listOfJson? Rule.ofDocument? (compileFile read .json path policyPath).output = none) ∧
      ((compileFile read .json path policyPath).error = none →
        ∀ rows, listOfJson? FindingRow.ofDocument?
            (compileFile read .json path policyPath).output = some rows → rows = []) := by
  refine ⟨fun error h => ?_, fun body policies error hbody hpolicies h => ?_,
    fun body policies failure hbody hpolicies h => ?_,
    fun body set hbody hset => ⟨fun failure h => ?_, fun compiled h => ?_,
      fun command failure hcommand h => ?_⟩, fun failed => ?_, fun succeeded rows hrows => ?_⟩
  · exact compileFile_of_readSources_eq_error (readSources_of_unreadable h) .json
  · subst hpolicies
    exact compileFile_of_readSources_eq_error (readSources_of_refused hbody (.unreadable h)) .json
  · subst hpolicies
    exact compileFile_of_readSources_eq_error (readSources_of_refused hbody h) .json
  · have refused : set.compileJson body = .error failure := by
      rw [PolicySet.compileJson, h]
      rfl
    rw [compileFile_of_compileJson_eq_error (readSources_of_chosen hbody hset) refused,
      if_pos (findings_of_ofJson_eq_error h)]
  · rw [compileFile_of_compileJson_eq_ok (readSources_of_chosen hbody hset) h]
    exact printsRules_printCompiled (findings_of_compileJson_eq_ok h)
  · have refused : set.compileJson body = .error failure :=
      (compileJson_of_ofJson hcommand).trans h
    have nonempty := findings_of_compileCommand_eq_error h
    rw [compileFile_of_compileJson_eq_error (readSources_of_chosen hbody hset) refused,
      if_neg nonempty]
    exact printsFindings_printFindings nonempty
  · obtain ⟨error, outcome⟩ | ⟨rules, printed⟩ | ⟨findings, printed⟩ :=
      compileFile_cases read path policyPath
    · rw [outcome]
      exact listOfJson?_empty _
    · exact absurd printed.error failed
    · -- the text would have to be an empty list, but there is a finding
      rw [Option.eq_none_iff_forall_ne_some]
      intro rules hrules
      have empty := (eq_nil_of_listOfJson? Rule.ofDocument?_finding printed.text hrules).1
      have nonempty := List.length_pos_iff.1 printed.nonempty
      exact nonempty empty
  · obtain ⟨error, outcome⟩ | ⟨rules, printed⟩ | ⟨findings, printed⟩ :=
      compileFile_cases read path policyPath
    · rw [outcome] at succeeded
      cases succeeded
    · exact (eq_nil_of_listOfJson? FindingRow.ofDocument?_rule printed.text hrows).2
    · rw [printed.error] at succeeded
      cases succeeded

/-- A command with a quote and a line break in a name, and without a future rule. -/
def misnamed : Command :=
  ⟨some "advanced-payment-allocation-strategy", none,
    [⟨some "DE\"FAULT\n", none, [⟨.ofNat 1, "PENALTY"⟩]⟩]⟩

/-- The file of the command, and one of policies that knows no strategy. There are no others. -/
def misnamedFiles (path : String) : Except FileError String :=
  if path = "command.json" then .ok misnamed.toJson
  else if path = "strategies.json" then .ok (PolicySet.mk .fallback []).toJson
  else .error .missing

/-- The command without a file of policies, with one that is missing, and with one that knows no
strategy. -/
theorem compileFile_json_misnamed :
    let standard := compileFile misnamedFiles .json "command.json" none
    let missing := compileFile misnamedFiles .json "command.json" (some "strategies.toml")
    let closed := compileFile misnamedFiles .json "command.json" (some "strategies.json")
    standard.error = some (.rejected 3) ∧
      listOfJson? FindingRow.ofDocument? standard.output =
        some [⟨"paymentAllocation[0].transactionType", "resolved_transaction_type",
            "DE\"FAULT\n", "Unknown transaction type"⟩,
          ⟨"paymentAllocation[0].futureInstallmentAllocationRule", "required", "",
            "Future installment allocation rule is required"⟩,
          ⟨"paymentAllocation", "required_transaction_type", "DEFAULT",
            "A rule for this transaction type is required by strategy " ++
              "'advanced-payment-allocation-strategy'"⟩] ∧
      listOfJson? Rule.ofDocument? standard.output = none ∧
      missing = .failure (.policies "strategies.toml" (.file .missing)) ∧
      closed.error = some (.rejected 1) ∧
      listOfJson? FindingRow.ofDocument? closed.output =
        some [⟨"paymentAllocation", "allocation_allowed", "advanced-payment-allocation-strategy",
          "Payment allocation is not supported by the repayment strategy"⟩] := by
  intro standard missing closed
  have written : Command.ofJson misnamed.toJson = .ok misnamed :=
    Command.ofJson_of_isTextOf (Json.isTextOf_write _)
  have rejected : PolicySet.standard.compileCommand misnamed = .error (.manyInvalid
      [⟨"paymentAllocation[0].transactionType", "Unknown transaction type",
          some "resolved_transaction_type", some "DE\"FAULT\n"⟩,
        ⟨"paymentAllocation[0].futureInstallmentAllocationRule",
          "Future installment allocation rule is required", some "required", none⟩,
        ⟨"paymentAllocation", "A rule for this transaction type is required by strategy " ++
            "'advanced-payment-allocation-strategy'",
          some "required_transaction_type", some "DEFAULT"⟩]) := by
    decide +kernel
  have disallowed : (PolicySet.mk .fallback []).compileCommand misnamed = .error (.invalid
      ⟨"paymentAllocation", "Payment allocation is not supported by the repayment strategy",
        some "allocation_allowed", some "advanced-payment-allocation-strategy"⟩) := by
    decide +kernel
  have accepted : PolicySet.ofJson (PolicySet.mk .fallback []).toJson =
      .ok (PolicySet.mk .fallback []) :=
    PolicySet.ofJson_toJson.trans (PolicySet.accept_eq_ok_iff.2 ⟨rfl, by decide⟩)
  have loads : PolicySet.Loads misnamedFiles "strategies.json"
      (.ok (PolicySet.mk .fallback [])) := by
    rw [← accepted]
    exact .json rfl (by decide +kernel)
  obtain ⟨-, -, -, compiles, failed, -⟩ := compileFile_json misnamedFiles "command.json" none
  have printed : standard.PrintsFindings _ :=
    (compiles _ _ rfl .standard).2.2 _ _ written rejected
  obtain ⟨-, unreadable, -⟩ :=
    compileFile_json misnamedFiles "command.json" (some "strategies.toml")
  obtain ⟨-, -, -, compilesClosed, -⟩ :=
    compileFile_json misnamedFiles "command.json" (some "strategies.json")
  have printedClosed : closed.PrintsFindings _ :=
    (compilesClosed _ _ rfl (.file loads)).2.2 _ _ written disallowed
  refine ⟨printed.error, printed.read, failed ?_, unreadable _ _ _ rfl rfl rfl,
    printedClosed.error, printedClosed.read⟩
  rw [printed.error]
  exact Option.some_ne_none _

end CommandLine

end PaymentAllocation
