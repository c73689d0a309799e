import Mathlib.Data.List.Nodup
import Mathlib.Data.Option.Basic
import PaymentAllocation.Format.Schema

/-!
# Reading what was written

A type is read back from documents if the reader finds in what the writer made of a value exactly
that value (`Document.ReadsBack`). Texts, members of a vocabulary and lists are
(`Document.readsBack_ofMember`, `Document.ReadsBack.listOf`), and of a record all fields are found
in their order, in any format, because its keys are different (`Document.fields?_record`). From
these the commands, the rules and the policies are put together (`Command.readsBack`,
`Rule.readsBack`, `PolicySet.readsBack`).
-/

namespace PaymentAllocation

namespace Document

/-- The reader gets each value back from the document that is written of it. -/
def ReadsBack {α : Type} (write : α → Document) (read : Document → Option α) : Prop :=
  ∀ a, read (write a) = some a

/-! ## Records -/

theorem lookup_of_nodup {members : List (Option String × Document)} {key : Option String}
    {value : Document} (nodup : (members.map Prod.fst).Nodup) (h : (key, value) ∈ members) :
    members.lookup key = some value := by
  induction members with
  | nil => cases h
  | cons member rest ih =>
    obtain ⟨fresh, nodup⟩ := List.nodup_cons.1 nodup
    rcases List.mem_cons.1 h with rfl | h
    · exact List.lookup_cons_self
    · have different : key ≠ member.1 := by
        rintro rfl
        exact fresh (List.mem_map.2 ⟨_, h, rfl⟩)
      rw [List.lookup_cons, beq_eq_false_iff_ne.2 different]
      exact ih nodup h

/-- In a table whose keys are different texts, the fields are found by their names. -/
theorem fields?_table (dialect : Dialect) (names : List String)
    {members : List (Option String × Document)} (known : members.all (·.1.isSome))
    (nodup : (members.map Prod.fst).Nodup) :
    fields? dialect names (.table members) =
      some (names.map fun name => members.lookup (some name)) := by
  have once : names.all fun name =>
      members.countP (fun member => member.1 = some name) ≤ 1 := by
    rw [List.all_eq_true]
    intro name _
    have count := List.nodup_iff_count_le_one.1 nodup (some name)
    rw [List.count, List.countP_map] at count
    simpa [Function.comp_def, beq_eq_decide] using count
  rw [fields?, if_pos ⟨known, once⟩]

theorem record_eq (fields : List (String × Document)) :
    record fields = .table (fields.map fun field => (some field.1, field.2)) := rfl

/-- The fields of a record are found in their order, if their keys are different. -/
theorem fields?_record {dialect : Dialect} {names : List String}
    {fields : List (String × Document)} (hnames : fields.map Prod.fst = names)
    (nodup : names.Nodup) :
    fields? dialect names (record fields) = some (fields.map fun field => some field.2) := by
  subst hnames
  have keys : ((fields.map fun field => (some field.1, field.2)).map Prod.fst).Nodup := by
    simpa [Function.comp_def] using nodup.map (Option.some_injective String)
  rw [record_eq, fields?_table dialect _ (by simp) keys, List.map_map]
  refine congrArg some (List.map_congr_left fun field h => ?_)
  exact lookup_of_nodup keys (List.mem_map_of_mem h)

/-! ## Parts of records -/

theorem readsBack_ofString : ReadsBack ofString string? := fun _ => rfl

theorem readsBack_ofOption : ReadsBack ofOption optionalString? := by
  rintro (_ | text) <;> rfl

theorem readsBack_boolean : ReadsBack .boolean boolean? := fun _ => rfl

theorem readsBack_ofMember {α : Type} [Vocabulary α] (dialect : Dialect) :
    ReadsBack (ofMember : α → Document) (member? dialect) := by
  intro member
  have named : (member? dialect (ofMember member) : Option α) =
      Vocabulary.ofDocumentName? (Vocabulary.documentName member) := rfl
  rw [named, Vocabulary.ofDocumentName?_eq_lookup, Vocabulary.documentName_eq,
    Vocabulary.lookup_name]

theorem ReadsBack.readAll {α : Type} {write : α → Document} {read : Document → Option α}
    (h : ReadsBack write read) (list : List α) :
    Document.readAll read (list.map write) = some list := by
  induction list with
  | nil => rfl
  | cons a rest ih => simp [Document.readAll, h a, ih]

theorem ReadsBack.listOf {α : Type} {write : α → Document} {read : Document → Option α}
    (h : ReadsBack write read) : ReadsBack (fun list => .list (list.map write)) (listOf? read) :=
  h.readAll

end Document

open Document

/-! ## Names -/

theorem Resolution.readsBack {α : Type} [Vocabulary α] :
    ReadsBack (Resolution.toDocument : Resolution α → Document) Resolution.ofDocument? := by
  rintro (member | text)
  · have named : (Document.member? Json.dialect (ofMember member) : Option α) = some member :=
      readsBack_ofMember Json.dialect member
    exact congrArg (Option.map found) named
  · rfl

/-! ## Commands -/

theorem Entry.readsBack : ReadsBack Entry.toDocument Entry.ofDocument? := by
  intro entry
  rw [Entry.ofDocument?, Entry.toDocument, fields?_record]
  · simp [integer?, readsBack_ofString _, Order.ofInt?_eq_some_iff.2 rfl]
  · rfl
  · decide

theorem Request.readsBack : ReadsBack Request.toDocument Request.ofDocument? := by
  intro request
  rw [Request.ofDocument?, Request.toDocument, fields?_record]
  · simp [orElse?, readsBack_ofOption _, Entry.readsBack.listOf _]
  · rfl
  · decide

theorem Command.readsBack : ReadsBack Command.toDocument Command.ofDocument? := by
  intro command
  rw [Command.ofDocument?, Command.toDocument, fields?_record]
  · simp [orElse?, readsBack_ofOption _, Request.readsBack.listOf _]
  · rfl
  · decide

/-! ## Rules -/

theorem Rule.readsBack : ReadsBack Rule.toDocument Rule.ofDocument? := by
  intro rule
  rw [Rule.ofDocument?, Rule.toDocument, fields?_record]
  · simp [readsBack_ofMember Json.dialect _, (readsBack_ofMember Json.dialect).listOf _]
  · rfl
  · decide

/-! ## Policies -/

theorem Policy.readsBack (dialect : Dialect) :
    ReadsBack Policy.toDocument (Policy.ofDocument? dialect) := by
  intro policy
  rw [Policy.ofDocument?, Policy.toDocument, fields?_record]
  · simp [orElse?, readsBack_ofString _, readsBack_ofOption _, readsBack_boolean _,
      (readsBack_ofMember dialect).listOf _]
  · rfl
  · decide

theorem PolicySet.readsBack (dialect : Dialect) :
    ReadsBack PolicySet.toDocument (PolicySet.ofDocument? dialect) := by
  intro set
  rw [PolicySet.ofDocument?, PolicySet.toDocument, fields?_record]
  · simp [orElse?, Policy.readsBack dialect _, (Policy.readsBack dialect).listOf _]
  · rfl
  · decide

end PaymentAllocation
