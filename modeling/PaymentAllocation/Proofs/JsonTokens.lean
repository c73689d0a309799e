import Mathlib.Data.List.Basic
import PaymentAllocation.Format.Json.Reader
import PaymentAllocation.Format.Json.Writer
import PaymentAllocation.Proofs.Decimals

/-!
# Strings and numbers in JSON

`Json.SpellsString` says which strings stand for a text: each character may stand for itself, behind
a backslash by a letter, or by its number in one escape or in two (`Json.SpellsChar`). Each of them
is read as the text, whatever follows its closing quote (`Json.SpellsString.exists_cons`), and the
writer chooses one of them (`Json.spellsString_quote`).

An integer is read as the number that was written, if no character follows that could belong to it
(`Json.EndsNumber`, `Json.number?_toString`).
-/

namespace PaymentAllocation.Json

/-! ## Spellings of a string -/

/-- What stands for a character inside a string. -/
inductive SpellsChar : Char → List Char → Prop
  | self {c : Char} (quote : c ≠ '"') (backslash : c ≠ '\\') (control : ¬c < ' ') :
    SpellsChar c [c]
  | letter {letter c : Char} (h : escaped? letter = some c) : SpellsChar c ['\\', letter]
  /-- Four hexadecimal digits with the number of the character. -/
  | number {c i j k l : Char} (h : hex? [i, j, k, l] = some c.toNat) :
    SpellsChar c ['\\', 'u', i, j, k, l]
  /-- Two halves of a character whose number takes more than four digits. -/
  | halves {c i j k l i' j' k' l' : Char} {high low : Nat} (hhigh : hex? [i, j, k, l] = some high)
    (hlow : hex? [i', j', k', l'] = some low) (rangeHigh : 0xD800 ≤ high ∧ high < 0xDC00)
    (rangeLow : 0xDC00 ≤ low ∧ low < 0xE000)
    (h : c.toNat = 0x10000 + (high - 0xD800) * 0x400 + (low - 0xDC00)) :
    SpellsChar c ['\\', 'u', i, j, k, l, '\\', 'u', i', j', k', l']

/-- What stands for characters up to the closing quote. -/
inductive SpellsChars : List Char → List Char → Prop
  | nil : SpellsChars [] ['"']
  | cons {c : Char} {cs text rest : List Char} (h : SpellsChar c cs)
    (hrest : SpellsChars text rest) : SpellsChars (c :: text) (cs ++ rest)

/-- A string that stands for a text, or one with half of a character, which stands for none. -/
inductive SpellsString : Option String → List Char → Prop
  | text {text : String} {body : List Char} (h : SpellsChars text.toList body) :
    SpellsString (some text) ('"' :: body)
  | half : SpellsString none "\"\\ud800\"".toList

/-! ## Reading a string -/

section Strings

variable (rest : List Char)

theorem pieces?_self {c : Char} (quote : c ≠ '"') (backslash : c ≠ '\\') (control : ¬c < ' ') :
    pieces? (c :: rest) =
      (pieces? rest).map fun (pieces, rest) => (.char c :: pieces, rest) := by
  rw [pieces?]
  · rw [if_neg control]
    cases pieces? rest <;> rfl
  all_goals simp [quote, backslash]

theorem pieces?_letter {letter c : Char} (h : escaped? letter = some c) :
    pieces? ('\\' :: letter :: rest) =
      (pieces? rest).map fun (pieces, rest) => (.char c :: pieces, rest) := by
  have notUnit : letter ≠ 'u' := by
    rintro rfl
    simp [escaped?] at h
  rw [pieces?]
  · rw [h]
    cases pieces? rest <;> rfl
  · simp [notUnit]

theorem pieces?_unit {i j k l : Char} {unit : Nat} (h : hex? [i, j, k, l] = some unit) :
    pieces? ('\\' :: 'u' :: i :: j :: k :: l :: rest) =
      (pieces? rest).map fun (pieces, rest) => (.ofUnit unit :: pieces, rest) := by
  rw [pieces?, h]
  cases pieces? rest <;> rfl

end Strings

/-- The number of a character is never that of a half. -/
theorem ofUnit_toNat (c : Char) : Piece.ofUnit c.toNat = .char c := by
  have valid : c.toNat < 0xD800 ∨ 0xDFFF < c.toNat ∧ c.toNat < 0x110000 := c.valid
  rw [Piece.ofUnit, if_neg (by omega), if_neg (by omega), Char.ofNat_toNat]

theorem ofUnit_high {unit : Nat} (h : 0xD800 ≤ unit ∧ unit < 0xDC00) :
    Piece.ofUnit unit = .high unit := by
  rw [Piece.ofUnit, if_pos h]

theorem ofUnit_low {unit : Nat} (h : 0xDC00 ≤ unit ∧ unit < 0xE000) :
    Piece.ofUnit unit = .low unit := by
  rw [Piece.ofUnit, if_neg (by omega), if_pos h]

/-- However a character is spelled, it is read as pieces that are joined to that character. -/
theorem SpellsChar.exists_pieces {c : Char} {cs : List Char} (h : SpellsChar c cs) :
    ∃ pieces, (∀ rest, pieces? (cs ++ rest) =
        (pieces? rest).map fun (more, rest) => (pieces ++ more, rest)) ∧
      ∀ more, join? (pieces ++ more) = (join? more).map (c :: ·) := by
  cases h with
  | self quote backslash control =>
    exact ⟨[.char c], fun rest => pieces?_self rest quote backslash control, fun _ => rfl⟩
  | letter h => exact ⟨[.char c], fun rest => pieces?_letter rest h, fun _ => rfl⟩
  | number h =>
    refine ⟨[.char c], fun rest => ?_, fun _ => rfl⟩
    have read := pieces?_unit rest h
    rwa [ofUnit_toNat] at read
  | @halves _ i j k l i' j' k' l' high low hhigh hlow rangeHigh rangeLow h =>
    refine ⟨[.high high, .low low], fun rest => ?_, fun more => ?_⟩
    · have read := pieces?_unit ('\\' :: 'u' :: i' :: j' :: k' :: l' :: rest) hhigh
      rw [pieces?_unit rest hlow, ofUnit_high rangeHigh, ofUnit_low rangeLow,
        Option.map_map] at read
      exact read
    · rw [List.cons_append, List.cons_append, List.nil_append, join?, ← h, Char.ofNat_toNat]

theorem SpellsChars.exists_pieces {text body : List Char} (h : SpellsChars text body) :
    ∃ pieces, (∀ rest, pieces? (body ++ rest) = some (pieces, rest)) ∧
      join? pieces = some text := by
  induction h with
  | nil => exact ⟨[], fun _ => rfl, rfl⟩
  | cons h _ ih =>
    obtain ⟨first, read, join⟩ := h.exists_pieces
    obtain ⟨others, readOthers, joinOthers⟩ := ih
    refine ⟨first ++ others, fun rest => ?_, ?_⟩
    · rw [List.append_assoc, read, readOthers]
      rfl
    · rw [join, joinOthers]
      rfl

/-- A string is read as its text, with all that stands behind its closing quote left over. -/
theorem SpellsString.exists_cons {text : Option String} {cs : List Char}
    (h : SpellsString text cs) :
    ∃ body, cs = '"' :: body ∧ ∀ rest, string? (body ++ rest) = some (text, rest) := by
  cases h with
  | text h =>
    obtain ⟨pieces, read, join⟩ := h.exists_pieces
    exact ⟨_, rfl, fun rest => by simp [string?, read, join]⟩
  | half =>
    refine ⟨"\\ud800\"".toList, rfl, fun rest => ?_⟩
    have unit : hex? ['d', '8', '0', '0'] = some 0xD800 := by decide
    simp [string?, pieces?, unit, Piece.ofUnit, join?]

/-! ## Writing a string -/

theorem hexDigit?_hexDigit {n : Nat} (h : n < 16) : hexDigit? (hexDigit n) = some n := by
  have all : ∀ n < 16, hexDigit? (hexDigit n) = some n := by decide
  exact all n h

theorem hex?_hexDigits (high low : Nat) (hhigh : high < 16) (hlow : low < 16) :
    hex? ['0', '0', hexDigit high, hexDigit low] = some (16 * high + low) := by
  have zero : hexDigit? '0' = some 0 := by decide
  simp [hex?, zero, hexDigit?_hexDigit hhigh, hexDigit?_hexDigit hlow]

theorem spellsChar_escape (c : Char) : SpellsChar c (escape c) := by
  unfold escape
  split_ifs with quote backslash _ _ _ _ _ control
  · subst quote
    exact .letter rfl
  · subst backslash
    exact .letter rfl
  iterate 5
    subst c
    exact .letter rfl
  · have small : c.toNat < 32 := control
    have digits := hex?_hexDigits (c.toNat / 16) (c.toNat % 16) (by omega) (by omega)
    rw [Nat.div_add_mod] at digits
    exact .number digits
  · exact .self quote backslash control

theorem spellsString_quote (text : Option String) : SpellsString text (quote text) := by
  cases text with
  | none => exact .half
  | some text =>
    have chars (cs : List Char) : SpellsChars cs (cs.flatMap escape ++ ['"']) := by
      induction cs with
      | nil => exact .nil
      | cons c cs ih =>
        rw [List.flatMap_cons, List.append_assoc]
        exact .cons (spellsChar_escape c) ih
    exact .text (chars text.toList)

/-! ## Numbers -/

/-- No character follows that could belong to a number. -/
def EndsNumber (rest : List Char) : Prop :=
  ∀ c ∈ rest.head?, c.isDigit = false ∧ c ≠ '.' ∧ c ≠ 'e' ∧ c ≠ 'E'

@[simp] theorem endsNumber_nil : EndsNumber [] := by simp [EndsNumber]

@[simp] theorem endsNumber_cons {c : Char} {rest : List Char} :
    EndsNumber (c :: rest) ↔ c.isDigit = false ∧ c ≠ '.' ∧ c ≠ 'e' ∧ c ≠ 'E' := by
  simp [EndsNumber]

section Numbers

variable {rest : List Char}

theorem digits?_append (digits : List Char) (nonempty : digits ≠ [])
    (all : ∀ c ∈ digits, c.isDigit = true) (ends : ∀ c ∈ rest.head?, c.isDigit = false) :
    digits? (digits ++ rest) = some (digits, rest) := by
  have taken : rest.takeWhile Char.isDigit = [] := by
    cases rest with
    | nil => rfl
    | cons c rest => simp [ends c rfl]
  have dropped : rest.dropWhile Char.isDigit = rest := by
    cases rest with
    | nil => rfl
    | cons c rest => simp [ends c rfl]
  rw [digits?, List.takeWhile_append_of_pos all, List.dropWhile_append_of_pos all, taken, dropped,
    List.append_nil, if_neg (by simp [nonempty])]

theorem EndsNumber.fraction? (h : EndsNumber rest) : fraction? rest = some (false, rest) := by
  cases rest with
  | nil => rfl
  | cons c rest =>
    obtain ⟨-, dot, -⟩ := endsNumber_cons.1 h
    rw [Json.fraction?]
    simp [dot]

theorem EndsNumber.exponent? (h : EndsNumber rest) : exponent? rest = some (false, rest) := by
  cases rest with
  | nil => rfl
  | cons c rest =>
    obtain ⟨-, -, lower, upper⟩ := endsNumber_cons.1 h
    unfold Json.exponent?
    simp [lower, upper]

/-- No zero stands before the other digits of a number. -/
theorem head?_toDigits {n : Nat} (h : 0 < n) : (Nat.toDigits 10 n).head? ≠ some '0' := by
  induction n using Nat.strongRecOn with
  | ind n ih =>
    by_cases small : n < 10
    · have digits : ∀ n < 10, 0 < n → n.digitChar ≠ '0' := by decide
      rw [Nat.toDigits_of_lt_base small]
      simpa using digits n small h
    · have higher := ih (n / 10) (by omega) (by omega)
      rw [Nat.toDigits_of_base_le (by decide) (by omega), List.head?_append_of_ne_nil]
      · exact higher
      · exact Nat.toDigits_ne_nil

theorem unsigned?_toDigits (negative : Bool) (n : Nat) (ends : EndsNumber rest) :
    unsigned? negative (Nat.toDigits 10 n ++ rest) =
      if negative = true ∧ n = 0 then some (.scalar, rest)
      else some (.integer (if negative then -(n : Int) else n), rest) := by
  have digits := digits?_append (Nat.toDigits 10 n) Nat.toDigits_ne_nil
    (fun c hc => Nat.isDigit_of_mem_toDigits (by decide) (by decide) hc)
    (fun c hc => (ends c hc).1)
  have leading : ¬((Nat.toDigits 10 n).head? = some '0' ∧ (Nat.toDigits 10 n).length ≠ 1) := by
    rcases Nat.eq_zero_or_pos n with rfl | positive
    · simp
    · exact fun h => head?_toDigits positive h.1
  have value : Nat.ofDigitChars 10 (Nat.toDigits 10 n) 0 = n :=
    Nat.ofDigitChars_toDigits (by decide) (by decide)
  simp only [unsigned?, digits, Option.bind_eq_bind, Option.bind_some, ends.fraction?,
    ends.exponent?, if_neg leading, value]
  simp

theorem number?_of_isDigit {c : Char} (h : c.isDigit = true) (cs : List Char) :
    number? (c :: cs) = unsigned? false (c :: cs) := by
  rw [number?]
  intro cs heq
  obtain ⟨rfl, -⟩ := List.cons.inj heq
  exact absurd h (by decide)

theorem exists_toDigits (n : Nat) :
    ∃ c cs, Nat.toDigits 10 n = c :: cs ∧ c.isDigit = true := by
  obtain ⟨c, cs, hcs⟩ := List.exists_cons_of_ne_nil (Nat.toDigits_ne_nil (n := n) (b := 10))
  have hc : c ∈ Nat.toDigits 10 n := by simp [hcs]
  exact ⟨c, cs, hcs, Nat.isDigit_of_mem_toDigits (by decide) (by decide) hc⟩

/-- An integer begins with a digit or a sign. -/
theorem exists_toList_toString (n : Int) :
    ∃ c cs, (toString n).toList = c :: cs ∧ (c.isDigit = true ∨ c = '-') := by
  rcases Int.lt_or_le n 0 with negative | nonneg
  · exact ⟨_, _, Text.toList_toString_of_neg negative, .inr rfl⟩
  · obtain ⟨c, cs, hcs, digit⟩ := exists_toDigits n.toNat
    exact ⟨c, cs, (Text.toList_toString_of_nonneg nonneg).trans hcs, .inl digit⟩

/-- An integer is read back with all that follows it left over. -/
theorem number?_toString (n : Int) (ends : EndsNumber rest) :
    number? ((toString n).toList ++ rest) = some (.integer n, rest) := by
  rcases Int.lt_or_le n 0 with negative | nonneg
  · have hn : -((-n).toNat : Int) = n := by omega
    rw [Text.toList_toString_of_neg negative, List.cons_append, number?,
      unsigned?_toDigits _ _ ends, if_neg (by omega), if_pos rfl, hn]
  · have hn : (n.toNat : Int) = n := Int.toNat_of_nonneg nonneg
    obtain ⟨c, cs, hcs, digit⟩ := exists_toDigits n.toNat
    have read := unsigned?_toDigits false n.toNat ends
    rw [Text.toList_toString_of_nonneg nonneg, hcs, List.cons_append, number?_of_isDigit digit,
      ← List.cons_append, ← hcs, read]
    simp [hn]

theorem number?_scalar (ends : EndsNumber rest) :
    number? ("0.0".toList ++ rest) = some (.scalar, rest) := by
  have zero : digits? ('0' :: rest) = some (['0'], rest) :=
    digits?_append ['0'] (by simp) (by simp) fun c hc => (ends c hc).1
  have whole : digits? ('0' :: '.' :: '0' :: rest) = some (['0'], '.' :: '0' :: rest) :=
    digits?_append ['0'] (by simp) (by simp) (by simp)
  have text : "0.0".toList ++ rest = '0' :: '.' :: '0' :: rest := rfl
  rw [text, number?_of_isDigit (by decide)]
  simp [unsigned?, whole, Json.fraction?, zero, ends.exponent?]

end Numbers

end PaymentAllocation.Json
