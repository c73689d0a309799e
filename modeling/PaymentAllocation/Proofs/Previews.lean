import PaymentAllocation.Proofs.CompileRuns
import PaymentAllocation.Proofs.Expansions

/-!
# What a run that expands prints as JSON

A run that expands a base order shows what a compilation would do with it. It reads all arguments or
fails at the first that is no entry (`CommandLine.readEntries_eq_ok_iff`,
`CommandLine.readEntries_eq_error_iff`), and what it prints is read back as a `Preview`.

The compilation of a request replaces the entries of the first request by the same expansion, then
sorts and resolves them. Where it is accepted the order values are different, so that the entries
can only come in one sequence (`Entry.sorted_strict`), and the first rule that is compiled has the
names of the preview in that sequence (`PolicySet.exists_head_of_compile_eq_ok`).
-/

namespace PaymentAllocation

open Document

/-! ## Previews -/

/-- What is printed of an expansion. -/
structure Preview where
  entries : List Entry
  isExpanded : Bool
  /-- The name of the topology as it was given. -/
  topologyName : String
  suppressed : List String
  deriving DecidableEq, Repr

namespace Preview

/-- The preview that an expansion gives. -/
def ofExpansion (expansion : Expansion) : Preview :=
  ⟨expansion.entries, expansion.isExpanded, expansion.topology.text, expansion.suppressed⟩

/-- Reads a preview from what is printed of an expansion; no field may be missing. -/
def ofDocument? (document : Document) : Option Preview := do
  let [entries, isExpanded, topologyName, suppressed] ←
    fields? Json.dialect ["entries", "expanded", "processingType", "suppressed"] document | none
  return ⟨← listOf? Entry.ofDocument? (← entries), ← (← isExpanded).boolean?,
    ← (← topologyName).string?, ← listOf? string? (← suppressed)⟩

/-- Reads a preview from JSON. -/
def ofJson? (text : String) : Option Preview := (Json.read? text).bind ofDocument?

theorem ofDocument?_expansionDocument (expansion : Expansion) :
    ofDocument? (CommandLine.expansionDocument expansion) = some (ofExpansion expansion) := by
  rw [ofDocument?, CommandLine.expansionDocument, fields?_record]
  · simp [ofExpansion, readsBack_ofString _, readsBack_boolean _, Entry.readsBack.listOf _,
      readsBack_ofString.listOf _]
  · rfl
  · decide

end Preview

/-! ## Lengths of expansions -/

namespace Expansion

variable (base : List Entry)

/-- What is kept and what is suppressed are together three names for each entry. -/
theorem length_add_of_found (topology : Topology) :
    (of base (.found topology)).entries.length + (of base (.found topology)).suppressed.length =
      3 * base.length := by
  obtain ⟨raw, -, -, -, -, perm⟩ := records_of_found base topology
  have parts := perm.length_eq
  rw [List.length_append, List.length_map, List.length_map, raw.length_eq, List.length_map,
    (Entry.sorted_perm base).length_eq] at parts
  exact parts.symm

theorem length_add_of_notFound (text : String) :
    (of base (.notFound text)).entries.length + (of base (.notFound text)).suppressed.length =
      base.length := rfl

end Expansion

/-! ## The first rule -/

/-- Entries that are numbered have different order values. -/
theorem Entry.sorted_strict {entries : List Entry} {n : Nat}
    (h : (entries.map (·.order.value)).Perm (consecutive 1 n)) :
    (sorted entries).Pairwise fun a b => a.order.value < b.order.value := by
  have perm : ((sorted entries).map (·.order.value)).Perm (consecutive 1 n) :=
    ((sorted_perm entries).map _).trans h
  have different := List.pairwise_map.1 (perm.nodup_iff.2 (nodup_consecutive 1 n))
  exact ((sortBy_pairwise _ entries).and different).imp fun h => lt_of_le_of_ne h.1 h.2

/-- **The first rule has the names of the expansion by ascending order value.** -/
theorem PolicySet.exists_head_of_compile_eq_ok {set : PolicySet} {code : Option String}
    {first : Request} {rest : List Request} {topology : Resolution Topology} {compiled : Compiled}
    (h : set.compile (first :: rest) topology code = .ok compiled) :
    ∃ (rule : Rule) (sorted : List Entry), compiled.rules.head? = some rule ∧
      sorted.Perm (Expansion.of first.entries topology).entries ∧
      sorted.Pairwise (fun a b => a.order.value < b.order.value) ∧
      rule.slots.map Slot.name = sorted.map (·.name) := by
  have allows : (set.policyFor code).allowsAllocation = true := by
    by_contra disallows
    have silent := exists_compile_eq_ok_iff_verdict.1 ⟨_, h⟩
    cases eq_nil_of_verdict_eq_nil (eq_false_of_ne_true disallows) silent
  have passes := forall₂_passes_of_compile_eq_ok h allows
  obtain ⟨rule, rules, passed, -, hrules⟩ := List.forall₂_cons_left_iff.1 passes
  exact ⟨rule, Entry.sorted (first.expanded topology).entries, by rw [hrules, List.head?_cons],
    Entry.sorted_perm _, Entry.sorted_strict passed.orders, passed.asks.map_name_slots⟩

namespace CommandLine

/-! ## Arguments -/

variable {arguments : List String}

theorem readEntries_eq_ok_iff {base : List Entry} :
    readEntries arguments = .ok base ↔ arguments.map Entry.ofShorthand? = base.map some := by
  induction arguments generalizing base with
  | nil => cases base <;> simp [readEntries]
  | cons text rest ih =>
    rw [readEntries, List.map_cons]
    cases Entry.ofShorthand? text with
    | none => cases base <;> simp
    | some entry =>
      simp only [bind_eq_ok_iff, pure_eq_ok_iff, ih]
      constructor
      · rintro ⟨entries, hentries, rfl⟩
        rw [hentries, List.map_cons]
      · intro h
        obtain ⟨_, entries, rfl, heq, hentries⟩ := List.map_eq_cons_iff.1 h.symm
        obtain rfl := Option.some.inj heq
        exact ⟨entries, hentries.symm, rfl⟩

/-- The first argument that is no entry is the one that is reported. -/
theorem readEntries_eq_error_iff {error : RunError} :
    readEntries arguments = .error error ↔
      ∃ text, arguments.find? (Entry.ofShorthand? · = none) = some text ∧
        error = .invalidEntry text := by
  induction arguments with
  | nil => simp [readEntries]
  | cons text rest ih =>
    rw [readEntries, List.find?_cons]
    cases h : Entry.ofShorthand? text with
    | none => simp [eq_comm]
    | some entry =>
      simp only [bind_eq_error_iff, ih, pure_ne_error, and_false, exists_false, or_false,
        reduceCtorEq, decide_false]

/-! ## What is printed -/

/-- A run succeeds without remarks (lines of the log are none, see `Outcome.diagnostics`), and its
output is one JSON text that is read as the preview of an expansion. -/
structure Outcome.PrintsPreview (outcome : Outcome) (expansion : Expansion) : Prop where
  error : outcome.error = none
  diagnostics : outcome.diagnostics = ""
  text : Json.IsTextOf (expansionDocument expansion) outcome.output
  read : Preview.ofJson? outcome.output = some (Preview.ofExpansion expansion)

theorem printsPreview_printExpansion (expansion : Expansion) :
    (printExpansion expansion .json).PrintsPreview expansion where
  error := rfl
  diagnostics := rfl
  text := isTextOf_documentText _
  read := by
    have text : Json.IsTextOf (expansionDocument expansion)
      (printExpansion expansion .json).output := isTextOf_documentText _
    rw [Preview.ofJson?, Json.read?_of_isTextOf text, Option.bind_some,
      Preview.ofDocument?_expansionDocument]

theorem expandEntries_of_find?_eq_some {text : String}
    (h : arguments.find? (Entry.ofShorthand? · = none) = some text) (layout : Layout)
    (topology : String) :
    expandEntries layout topology arguments = .failure (.invalidEntry text) := by
  rw [expandEntries, readEntries_eq_error_iff.2 ⟨text, h, rfl⟩]

theorem expandEntries_of_map_eq {base : List Entry}
    (h : arguments.map Entry.ofShorthand? = base.map some) (layout : Layout) (topology : String) :
    expandEntries layout topology arguments =
      printExpansion (Expansion.of base (.resolve topology)) layout := by
  rw [expandEntries, readEntries_eq_ok_iff.2 h]

/-- **A preview is all or nothing, and the compilation does what it shows.** If some argument is no
entry, a run that expands prints nothing and fails with the first such argument. If all are, it
prints the expansion of these entries as one JSON text and nothing else. What is kept and what is
suppressed are three names for each argument if the topology is known, and else one. Whenever a
policy set compiles requests of which the first has these entries, the first rule has the names of
the preview by ascending order value. -/
theorem preview_is_compiled (topology : String) (arguments : List String) :
    ((∃ text ∈ arguments, Entry.ofShorthand? text = none) →
        ∃ text, arguments.find? (Entry.ofShorthand? · = none) = some text ∧
          expandEntries .json topology arguments = .failure (.invalidEntry text)) ∧
      ((∀ text ∈ arguments, Entry.ofShorthand? text ≠ none) →
        ∃ (base : List Entry) (expansion : Expansion),
          arguments.map Entry.ofShorthand? = base.map some ∧
          expansion = Expansion.of base (.resolve topology) ∧
          (expandEntries .json topology arguments).PrintsPreview expansion ∧
          ((∃ member : Topology, member.name = topology) →
            expansion.entries.length + expansion.suppressed.length = 3 * arguments.length) ∧
          ((∀ member : Topology, member.name ≠ topology) →
            expansion.entries.length + expansion.suppressed.length = arguments.length) ∧
          ∀ (set : PolicySet) (code : Option String) (first : Request) (rest : List Request)
            (compiled : Compiled), first.entries = base →
              set.compile (first :: rest) (.resolve topology) code = .ok compiled →
                ∃ (rule : Rule) (sorted : List Entry), compiled.rules.head? = some rule ∧
                  sorted.Perm expansion.entries ∧
                  sorted.Pairwise (fun a b => a.order.value < b.order.value) ∧
                  rule.slots.map Slot.name = sorted.map (·.name)) := by
  refine ⟨fun invalid => ?_, fun valid => ?_⟩
  · have found : (arguments.find? (Entry.ofShorthand? · = none)).isSome := by
      simpa using invalid
    obtain ⟨text, h⟩ := Option.isSome_iff_exists.1 found
    exact ⟨text, h, expandEntries_of_find?_eq_some h .json topology⟩
  · obtain ⟨base, hbase⟩ : ∃ base : List Entry,
        arguments.map Entry.ofShorthand? = base.map some := by
      cases result : readEntries arguments with
      | ok base => exact ⟨base, readEntries_eq_ok_iff.1 result⟩
      | error error =>
        obtain ⟨text, h, -⟩ := readEntries_eq_error_iff.1 result
        have unread : Entry.ofShorthand? text = none := by simpa using List.find?_some h
        exact absurd unread (valid text (List.mem_of_find?_eq_some h))
    have hlength : arguments.length = base.length := by
      simpa using congrArg List.length hbase
    refine ⟨base, _, hbase, rfl, ?_, fun known => ?_, fun unknown => ?_, ?_⟩
    · rw [expandEntries_of_map_eq hbase]
      exact printsPreview_printExpansion _
    · obtain ⟨member, named⟩ := known
      have found : (Resolution.resolve topology : Resolution Topology) = .found member :=
        Resolution.resolve_eq_found_iff.2 named
      rw [found, hlength]
      exact Expansion.length_add_of_found base member
    · have kept : (Resolution.resolve topology : Resolution Topology) = .notFound topology :=
        Resolution.resolve_eq_notFound_iff.2 ⟨rfl, unknown⟩
      rw [kept, hlength]
      exact Expansion.length_add_of_notFound base topology
    · rintro set code first rest compiled rfl h
      exact PolicySet.exists_head_of_compile_eq_ok h

theorem preview_is_compiled_repeatedBase :
    expandEntries .json "VERTICAL" ["1:PENALTY", "PENALTY", "x:FEES"] =
        .failure (.invalidEntry "PENALTY") ∧
      (∃ preview,
        Preview.ofJson? (expandEntries .json "SIDEWAYS" ["1:\"É\"", "1:\"É\""]).output =
            some preview ∧
          preview.isExpanded = false ∧
          preview.entries.length + preview.suppressed.length = 2) ∧
      ∃ preview compiled rule,
        Preview.ofJson? (expandEntries .json "VERTICAL"
            ["2:PRINCIPAL", " +1 : PENALTY", "3:PRINCIPAL"]).output = some preview ∧
          preview.suppressed =
            ["PAST_DUE_PRINCIPAL", "DUE_PRINCIPAL", "IN_ADVANCE_PRINCIPAL"] ∧
          preview.entries.length + preview.suppressed.length = 9 ∧
          PolicySet.standard.compile PolicySet.repeatedBase (.resolve "VERTICAL")
            (some "advanced-payment-allocation-strategy") = .ok compiled ∧
          compiled.rules.head? = some rule ∧
          (rule.slots.map Slot.name).Perm (preview.entries.map (·.name)) := by
  obtain ⟨refused, -⟩ := preview_is_compiled "VERTICAL" ["1:PENALTY", "PENALTY", "x:FEES"]
  obtain ⟨text, invalid, failed⟩ := refused ⟨"PENALTY", by decide, by decide⟩
  obtain rfl : "PENALTY" = text := Option.some.inj (Eq.trans (by decide) invalid)
  obtain ⟨-, passed⟩ := preview_is_compiled "SIDEWAYS" ["1:\"É\"", "1:\"É\""]
  obtain ⟨_, _, -, rfl, unexpanded, -, unknown, -⟩ := passed (by decide)
  obtain ⟨-, shown⟩ :=
    preview_is_compiled "VERTICAL" ["2:PRINCIPAL", " +1 : PENALTY", "3:PRINCIPAL"]
  obtain ⟨base, _, parsed, rfl, printed, known, -, compiles⟩ := shown (by decide)
  have entries : ([⟨.ofNat 2, "PRINCIPAL"⟩, ⟨.ofNat 1, "PENALTY"⟩, ⟨.ofNat 3, "PRINCIPAL"⟩] :
      List Entry) = base :=
    List.map_injective_iff.2 (Option.some_injective _) (Eq.trans (by decide) parsed)
  obtain rfl := entries
  have accepted : PolicySet.standard.compile PolicySet.repeatedBase (.resolve "VERTICAL")
      (some "advanced-payment-allocation-strategy") =
      .ok ⟨[⟨.default, .nextInstallment, Slot.blocks [.penalty, .principal]⟩,
        ⟨.repayment, .lastInstallment, [⟨.pastDue, .fees⟩, ⟨.due, .fees⟩]⟩],
        (Request.expandFirst (.resolve "VERTICAL") PolicySet.repeatedBase).1⟩ := by
    decide +kernel
  obtain ⟨rule, sorted, head, perm, -, names⟩ := compiles _ _ _ _ _ rfl accepted
  refine ⟨failed, ⟨_, unexpanded.read, rfl, unknown ?_⟩, _, _, rule, printed.read, by decide,
    known ⟨.vertical, by decide⟩, accepted, head, ?_⟩
  · intro member
    cases member <;> decide
  · rw [names]
    exact perm.map _

end CommandLine

end PaymentAllocation
