import Mathlib.Data.List.DropRight
import PaymentAllocation.Proofs.JsonTokens

/-!
# JSON texts of a document

`Json.IsTextOf` says which texts are JSON for a document: the grammar of lists and tables, with
blanks between any two tokens and every spelling of a string. Integers have only one spelling; of
the numbers that are no integers, which are all one to a document, only `0.0` is counted.

* Every such text is read as the document (`Json.read?_of_isTextOf`). The recursion of the reader is
  bounded, and the bound is never met, since it is at least the length of the text.
* The writer keeps to the grammar, on one line and on indented lines (`Json.isTextOf_write`,
  `Json.isTextOf_writeIndented`), so each document is read back from what is written of it.
-/

namespace PaymentAllocation.Json

/-! ## Grammar -/

/-- Nothing but blanks. -/
def AreBlank (cs : List Char) : Prop := ∀ c ∈ cs, isBlank c = true

mutual

/-- The text of a document, without blanks before it or behind it. -/
inductive Spells : Document → List Char → Prop
  | null : Spells .null "null".toList
  | yes : Spells (.boolean true) "true".toList
  | no : Spells (.boolean false) "false".toList
  | integer (value : Int) : Spells (.integer value) (toString value).toList
  | scalar : Spells .scalar "0.0".toList
  | text {value : Option String} {cs : List Char} (h : SpellsString value cs) :
    Spells (.text value) cs
  | noItems {blanks : List Char} (h : AreBlank blanks) :
    Spells (.list []) ('[' :: (blanks ++ [']']))
  | list {items : List Document} {cs : List Char} (h : SpellsItems items cs) :
    Spells (.list items) ('[' :: cs)
  | noMembers {blanks : List Char} (h : AreBlank blanks) :
    Spells (.table []) ('\x7b' :: (blanks ++ ['\x7d']))
  | table {members : List (Option String × Document)} {cs : List Char}
    (h : SpellsMembers members cs) : Spells (.table members) ('\x7b' :: cs)

/-- The text of the items of a list, at least one, with the bracket behind them. -/
inductive SpellsItems : List Document → List Char → Prop
  | last {item : Document} {before cs behind : List Char} (hbefore : AreBlank before)
    (h : Spells item cs) (hbehind : AreBlank behind) :
    SpellsItems [item] (before ++ (cs ++ (behind ++ [']'])))
  | more {item : Document} {items : List Document} {before cs behind rest : List Char}
    (hbefore : AreBlank before) (h : Spells item cs) (hbehind : AreBlank behind)
    (hrest : SpellsItems items rest) :
    SpellsItems (item :: items) (before ++ (cs ++ (behind ++ ',' :: rest)))

/-- The text of the members of a table, at least one, with the brace behind them. -/
inductive SpellsMembers : List (Option String × Document) → List Char → Prop
  | last {key : Option String} {value : Document} {before name colon gap cs behind : List Char}
    (hbefore : AreBlank before) (hkey : SpellsString key name) (hcolon : AreBlank colon)
    (hgap : AreBlank gap) (h : Spells value cs) (hbehind : AreBlank behind) :
    SpellsMembers [(key, value)]
      (before ++ (name ++ (colon ++ ':' :: (gap ++ (cs ++ (behind ++ ['\x7d']))))))
  | more {key : Option String} {value : Document} {members : List (Option String × Document)}
    {before name colon gap cs behind rest : List Char} (hbefore : AreBlank before)
    (hkey : SpellsString key name) (hcolon : AreBlank colon) (hgap : AreBlank gap)
    (h : Spells value cs) (hbehind : AreBlank behind) (hrest : SpellsMembers members rest) :
    SpellsMembers ((key, value) :: members)
      (before ++ (name ++ (colon ++ ':' :: (gap ++ (cs ++ (behind ++ ',' :: rest))))))

end

/-- The text is JSON for the document, between blanks. -/
def IsTextOf (document : Document) (text : String) : Prop :=
  ∃ before cs behind, AreBlank before ∧ Spells document cs ∧ AreBlank behind ∧
    text.toList = before ++ (cs ++ behind)

/-! ## Blanks -/

@[simp] theorem areBlank_nil : AreBlank [] := by simp [AreBlank]

theorem skip_append {blanks : List Char} (h : AreBlank blanks) (cs : List Char) :
    skip (blanks ++ cs) = skip cs :=
  List.dropWhile_append_of_pos h

theorem skip_cons {c : Char} (h : isBlank c = false) (cs : List Char) :
    skip (c :: cs) = c :: cs := by
  rw [skip, List.dropWhile_cons_of_neg (by simp [h])]

theorem skip_skip (cs : List Char) : skip (skip cs) = skip cs :=
  List.dropWhile_idempotent isBlank cs

/-- Blanks before a value do not matter. -/
theorem value?_skip (fuel : Nat) (cs : List Char) : value? fuel (skip cs) = value? fuel cs := by
  cases fuel with
  | zero => simp [value?]
  | succ fuel => simp only [value?, skip_skip]

theorem items?_skip (fuel : Nat) (cs : List Char) : items? fuel (skip cs) = items? fuel cs := by
  cases fuel with
  | zero => simp [items?]
  | succ fuel => simp only [items?, value?_skip]

theorem members?_skip (fuel : Nat) (cs : List Char) :
    members? fuel (skip cs) = members? fuel cs := by
  cases fuel with
  | zero => simp [members?]
  | succ fuel => simp only [members?, skip_skip]

theorem eq_of_isBlank {c : Char} (h : isBlank c = true) :
    c = ' ' ∨ c = '\t' ∨ c = '\n' ∨ c = '\r' := by
  simpa [isBlank, or_assoc] using h

theorem isBlank_eq_false_of_number {c : Char} (h : c.isDigit = true ∨ c = '-') :
    isBlank c = false := by
  by_contra blank
  rcases eq_of_isBlank (by simpa using blank) with rfl | rfl | rfl | rfl <;>
    exact absurd h (by decide)

/-- Blanks end a number, and if there are none, what follows them must do so. -/
theorem EndsNumber.append {blanks rest : List Char} (ends : EndsNumber rest)
    (h : AreBlank blanks) : EndsNumber (blanks ++ rest) := by
  cases blanks with
  | nil => exact ends
  | cons c cs =>
    rw [List.cons_append, endsNumber_cons]
    rcases eq_of_isBlank (h c List.mem_cons_self) with rfl | rfl | rfl | rfl <;> decide

/-! ## Where a text begins -/

/-- A text begins with a character that is no blank and ends no list. -/
theorem Spells.exists_cons {document : Document} {cs : List Char} (h : Spells document cs) :
    ∃ c rest, cs = c :: rest ∧ isBlank c = false ∧ c ≠ ']' := by
  cases h with
  | integer value =>
    obtain ⟨c, rest, hcs, hc⟩ := exists_toList_toString value
    refine ⟨c, rest, hcs, isBlank_eq_false_of_number hc, ?_⟩
    rintro rfl
    exact absurd hc (by decide)
  | text h =>
    obtain ⟨body, hbody, -⟩ := h.exists_cons
    exact ⟨_, _, hbody, by decide, by decide⟩
  | _ => exact ⟨_, _, rfl, by decide, by decide⟩

theorem SpellsItems.exists_skip {items : List Document} {cs : List Char} (h : SpellsItems items cs)
    (rest : List Char) : ∃ c cs', skip (cs ++ rest) = c :: cs' ∧ c ≠ ']' := by
  cases h with
  | last hbefore h hbehind | more hbefore h hbehind _ =>
    obtain ⟨c, cs, rfl, blank, bracket⟩ := h.exists_cons
    rw [List.append_assoc, skip_append hbefore, List.cons_append, List.cons_append, skip_cons blank]
    exact ⟨_, _, rfl, bracket⟩

theorem SpellsMembers.exists_skip {members : List (Option String × Document)} {cs : List Char}
    (h : SpellsMembers members cs) (rest : List Char) :
    ∃ cs', skip (cs ++ rest) = '"' :: cs' := by
  cases h with
  | last hbefore hkey | more hbefore hkey =>
    obtain ⟨body, rfl, -⟩ := hkey.exists_cons
    rw [List.append_assoc, skip_append hbefore, List.cons_append, List.cons_append,
      skip_cons (by decide)]
    exact ⟨_, rfl⟩

/-! ## Reading -/

/-- A bound on the recursion lets the reader through every text of a value that is not longer, up
to whatever follows the text. -/
def ReadsValues (fuel : Nat) : Prop :=
  ∀ document cs rest, Spells document cs → cs.length ≤ fuel → EndsNumber rest →
    value? fuel (cs ++ rest) = some (document, rest)

/-- The same for the items of a list behind its opening bracket, up to the closing one. -/
def ReadsItems (fuel : Nat) : Prop :=
  ∀ items cs rest, SpellsItems items cs → cs.length ≤ fuel →
    items? fuel (cs ++ rest) = some (items, rest)

/-- The same for the members of a table behind its opening brace, up to the closing one. -/
def ReadsMembers (fuel : Nat) : Prop :=
  ∀ members cs rest, SpellsMembers members cs → cs.length ≤ fuel →
    members? fuel (cs ++ rest) = some (members, rest)

variable {fuel : Nat}

theorem value?_number {c : Char} (h : c.isDigit = true ∨ c = '-') (cs : List Char) :
    value? (fuel + 1) (c :: cs) = number? (c :: cs) := by
  unfold value?
  rw [skip_cons (isBlank_eq_false_of_number h)]
  -- digits and signs begin no other value
  split
  all_goals first
    | rfl
    | rename_i heq
      obtain ⟨rfl, -⟩ := List.cons.inj heq
      exact absurd h (by decide)

theorem value?_list (cs : List Char) :
    value? (fuel + 1) ('[' :: cs) =
      match skip cs with
      | ']' :: rest => some (.list [], rest)
      | rest => (items? fuel rest).map fun (items, rest) => (.list items, rest) := by
  unfold value?
  rw [skip_cons (by decide)]
  rfl

theorem value?_table (cs : List Char) :
    value? (fuel + 1) ('\x7b' :: cs) =
      match skip cs with
      | '\x7d' :: rest => some (.table [], rest)
      | rest => (members? fuel rest).map fun (members, rest) => (.table members, rest) := by
  unfold value?
  rw [skip_cons (by decide)]
  rfl

theorem ReadsValues.succ (readItems : ReadsItems fuel) (readMembers : ReadsMembers fuel) :
    ReadsValues (fuel + 1) := by
  intro document cs rest h hlength ends
  cases h with
  | null => simp [value?, skip, isBlank]
  | yes => simp [value?, skip, isBlank]
  | no => simp [value?, skip, isBlank]
  | integer value =>
    obtain ⟨c, cs, hcs, hc⟩ := exists_toList_toString value
    rw [hcs, List.cons_append, value?_number hc, ← List.cons_append, ← hcs,
      number?_toString value ends]
  | scalar =>
    have text : "0.0".toList ++ rest = '0' :: '.' :: '0' :: rest := rfl
    rw [text, value?_number (by decide), ← text, number?_scalar ends]
  | text h =>
    obtain ⟨body, rfl, read⟩ := h.exists_cons
    simp [value?, skip, isBlank, read]
  | noItems blank =>
    rw [List.cons_append, value?_list, List.append_assoc, skip_append blank]
    simp [skip, isBlank]
  | list h =>
    obtain ⟨c, cs', hskip, bracket⟩ := h.exists_skip rest
    have read := readItems _ _ rest h (by simpa using hlength)
    rw [← items?_skip, hskip] at read
    rw [List.cons_append, value?_list, hskip]
    simp [bracket, read]
  | noMembers blank =>
    rw [List.cons_append, value?_table, List.append_assoc, skip_append blank]
    simp [skip, isBlank]
  | table h =>
    obtain ⟨cs', hskip⟩ := h.exists_skip rest
    have read := readMembers _ _ rest h (by simpa using hlength)
    rw [← members?_skip, hskip] at read
    rw [List.cons_append, value?_table, hskip]
    simp [read]

/-- An item is read with the blanks around it, up to the character behind them. -/
theorem ReadsValues.padded (readValues : ReadsValues fuel) {document : Document}
    {before cs behind : List Char} (rest : List Char) (hbefore : AreBlank before)
    (h : Spells document cs) (hbehind : AreBlank behind) (hlength : cs.length ≤ fuel)
    (ends : EndsNumber rest) :
    value? fuel (before ++ (cs ++ (behind ++ rest))) = some (document, behind ++ rest) := by
  have read := readValues document cs (behind ++ rest) h hlength (ends.append hbehind)
  rw [← value?_skip, skip_append hbefore, value?_skip, read]

/-- What stands behind an item says whether the list goes on. -/
theorem ReadsValues.items?_item (readValues : ReadsValues fuel) {item : Document}
    {before cs behind : List Char} (ending : List Char) (hbefore : AreBlank before)
    (h : Spells item cs) (hbehind : AreBlank behind) (hlength : cs.length ≤ fuel) :
    skip ending = ending → EndsNumber ending →
      items? (fuel + 1) (before ++ (cs ++ (behind ++ ending))) =
        match ending with
        | ',' :: rest => (items? fuel rest).map fun (items, rest) => (item :: items, rest)
        | ']' :: rest => some ([item], rest)
        | _ => none := by
  intro solid ends
  have read := readValues.padded ending hbefore h hbehind hlength ends
  simp only [items?, read, Option.bind_eq_bind, Option.bind_some, skip_append hbehind, solid]
  split
  · exact Option.map_eq_bind.symm
  · rfl
  · simp

theorem ReadsItems.succ (readValues : ReadsValues fuel) (readItems : ReadsItems fuel) :
    ReadsItems (fuel + 1) := by
  intro items cs rest h hlength
  cases h with
  | last hbefore h hbehind =>
    simp only [List.length_append, List.length_cons] at hlength
    have bracket := readValues.items?_item (']' :: rest) hbefore h hbehind (by omega)
      (skip_cons (by decide) rest) (by simp)
    simpa using bracket
  | @more item items before cs behind tail hbefore h hbehind hrest =>
    simp only [List.length_append, List.length_cons] at hlength
    have comma := readValues.items?_item (',' :: (tail ++ rest)) hbefore h hbehind
      (by omega) (skip_cons (by decide) _) (by simp)
    have others := readItems items tail rest hrest (by omega)
    simpa [others] using comma

/-- What stands behind a member says whether the table goes on. -/
theorem ReadsValues.members?_member (readValues : ReadsValues fuel) {key : Option String}
    {value : Document} {before name colon gap cs behind : List Char} (ending : List Char)
    (hbefore : AreBlank before) (hkey : SpellsString key name) (hcolon : AreBlank colon)
    (hgap : AreBlank gap) (h : Spells value cs) (hbehind : AreBlank behind)
    (hlength : cs.length ≤ fuel) :
    skip ending = ending → EndsNumber ending →
      members? (fuel + 1)
          (before ++ (name ++ (colon ++ ':' :: (gap ++ (cs ++ (behind ++ ending)))))) =
        match ending with
        | ',' :: rest =>
          (members? fuel rest).map fun (members, rest) => ((key, value) :: members, rest)
        | '\x7d' :: rest => some ([(key, value)], rest)
        | _ => none := by
  intro solid ends
  have read := readValues.padded ending hgap h hbehind hlength ends
  obtain ⟨body, rfl, readKey⟩ := hkey.exists_cons
  have skipQuote (cs : List Char) : skip ('"' :: cs) = '"' :: cs := skip_cons (by decide) cs
  have skipColon (cs : List Char) : skip (':' :: cs) = ':' :: cs := skip_cons (by decide) cs
  simp only [members?, List.cons_append, skip_append hbefore, skipQuote, readKey,
    skip_append hcolon, skipColon, read, Option.bind_eq_bind, Option.bind_some,
    skip_append hbehind, solid]
  split
  · exact Option.map_eq_bind.symm
  · rfl
  · simp

theorem ReadsMembers.succ (readValues : ReadsValues fuel) (readMembers : ReadsMembers fuel) :
    ReadsMembers (fuel + 1) := by
  intro members cs rest h hlength
  cases h with
  | last hbefore hkey hcolon hgap h hbehind =>
    simp only [List.length_append, List.length_cons] at hlength
    have brace := readValues.members?_member ('\x7d' :: rest) hbefore hkey hcolon hgap
      h hbehind (by omega) (skip_cons (by decide) rest) (by simp)
    simpa using brace
  | @more _ _ members _ _ _ _ _ _ tail hbefore hkey hcolon hgap h hbehind hrest =>
    simp only [List.length_append, List.length_cons] at hlength
    have comma := readValues.members?_member (',' :: (tail ++ rest)) hbefore hkey hcolon
      hgap h hbehind (by omega) (skip_cons (by decide) _) (by simp)
    have others := readMembers members tail rest hrest (by omega)
    simpa [others] using comma

/-- The readers call each other with a bound that is smaller by one, and each part of a text is
shorter than the text. -/
theorem reads (fuel : Nat) : ReadsValues fuel ∧ ReadsItems fuel ∧ ReadsMembers fuel := by
  induction fuel with
  | zero =>
    refine ⟨?_, ?_, ?_⟩
    · intro document cs rest h hlength _
      obtain ⟨c, cs, rfl, -⟩ := h.exists_cons
      simp at hlength
    · intro items cs rest h hlength
      cases h <;> simp at hlength
    · intro members cs rest h hlength
      cases h <;> simp at hlength
  | succ fuel ih =>
    obtain ⟨values, items, members⟩ := ih
    exact ⟨.succ items members, .succ values items, .succ values members⟩

/-- **Each text of a document is read as the document.** -/
theorem read?_of_isTextOf {document : Document} {text : String} (h : IsTextOf document text) :
    read? text = some document := by
  obtain ⟨before, cs, behind, hbefore, h, hbehind, htext⟩ := h
  have values := (reads (2 * text.toList.length + 1)).1
  have read := values.padded [] hbefore h hbehind (by simp [htext]; omega) (by simp)
  rw [List.append_nil, ← htext] at read
  have nothing : skip behind = [] := List.dropWhile_eq_nil_iff.2 hbehind
  simp [read?, read, nothing]

/-! ## Writing -/

mutual

theorem spells_writeValue : ∀ document, Spells document (writeValue document)
  | .null => .null
  | .boolean true => .yes
  | .boolean false => .no
  | .integer value => .integer value
  | .scalar => .scalar
  | .text value => .text (spellsString_quote value)
  | .list [] => .noItems areBlank_nil
  | .list (item :: items) => by
    rw [writeValue]
    exact .list (spellsItems_writeItems items (spells_writeValue item))
  | .table [] => .noMembers areBlank_nil
  | .table ((key, value) :: members) => by
    have members := spellsMembers_writeMembers members key (spells_writeValue value)
    rw [writeValue]
    simpa using Spells.table members

theorem spellsItems_writeItems : ∀ items {item cs}, Spells item cs →
    SpellsItems (item :: items) (cs ++ writeItems items)
  | [], _, _, h => by
    simpa [writeItems] using SpellsItems.last areBlank_nil h areBlank_nil
  | next :: items, _, _, h => by
    have rest := spellsItems_writeItems items (spells_writeValue next)
    simpa [writeItems] using SpellsItems.more areBlank_nil h areBlank_nil rest

theorem spellsMembers_writeMembers : ∀ members key {value cs}, Spells value cs →
    SpellsMembers ((key, value) :: members) (quote key ++ ':' :: (cs ++ writeMembers members))
  | [], key, _, _, h => by
    simpa [writeMembers] using
      SpellsMembers.last areBlank_nil (spellsString_quote key) areBlank_nil areBlank_nil h
        areBlank_nil
  | (next, value) :: members, key, _, _, h => by
    have rest := spellsMembers_writeMembers members next (spells_writeValue value)
    simpa [writeMembers] using
      SpellsMembers.more areBlank_nil (spellsString_quote key) areBlank_nil areBlank_nil h
        areBlank_nil rest

end

theorem areBlank_newline (depth : Nat) : AreBlank (newline depth) := by
  simp [AreBlank, newline, isBlank]

theorem areBlank_space : AreBlank [' '] := by simp [AreBlank, isBlank]

mutual

theorem spells_layValue (depth : Nat) : ∀ document, Spells document (layValue depth document)
  | .null => .null
  | .boolean true => .yes
  | .boolean false => .no
  | .integer value => .integer value
  | .scalar => .scalar
  | .text value => .text (spellsString_quote value)
  | .list [] => .noItems areBlank_nil
  | .list (item :: items) => by
    have items := spellsItems_layItems depth items (spells_layValue (depth + 1) item)
    rw [layValue]
    simpa using Spells.list items
  | .table [] => .noMembers areBlank_nil
  | .table ((key, value) :: members) => by
    have members := spellsMembers_layMembers depth members key (spells_layValue (depth + 1) value)
    rw [layValue]
    simpa using Spells.table members

theorem spellsItems_layItems (depth : Nat) : ∀ items {item cs}, Spells item cs →
    SpellsItems (item :: items) (newline (depth + 1) ++ (cs ++ layItems depth items))
  | [], _, _, h => by
    rw [layItems]
    exact .last (areBlank_newline _) h (areBlank_newline _)
  | next :: items, _, _, h => by
    have rest := spellsItems_layItems depth items (spells_layValue (depth + 1) next)
    simpa [layItems] using SpellsItems.more (areBlank_newline (depth + 1)) h areBlank_nil rest

theorem spellsMembers_layMembers (depth : Nat) : ∀ members key {value cs}, Spells value cs →
    SpellsMembers ((key, value) :: members)
      (newline (depth + 1) ++ (quote key ++ ':' :: ' ' :: (cs ++ layMembers depth members)))
  | [], key, _, _, h => by
    simpa [layMembers] using
      SpellsMembers.last (areBlank_newline (depth + 1)) (spellsString_quote key) areBlank_nil
        areBlank_space h (areBlank_newline depth)
  | (next, value) :: members, key, _, _, h => by
    have rest := spellsMembers_layMembers depth members next (spells_layValue (depth + 1) value)
    simpa [layMembers] using
      SpellsMembers.more (areBlank_newline (depth + 1)) (spellsString_quote key) areBlank_nil
        areBlank_space h areBlank_nil rest

end

/-- What is written of a document is JSON for it. -/
theorem isTextOf_write (document : Document) : IsTextOf document (write document) :=
  ⟨[], _, [], areBlank_nil, spells_writeValue document, areBlank_nil, by simp [write]⟩

theorem isTextOf_writeIndented (document : Document) : IsTextOf document (writeIndented document) :=
  ⟨[], _, [], areBlank_nil, spells_layValue 0 document, areBlank_nil, by simp [writeIndented]⟩

end PaymentAllocation.Json
