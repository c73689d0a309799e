import Mathlib.Data.List.DropRight
import PaymentAllocation.Text.Blank
import PaymentAllocation.Text.Decimal

/-!
# Typed integers and the blanks around them

What the readers of typed text accept, said without them.

* `Text.IsDecimal` holds of the texts of an integer: ASCII digits, at least one of them and with any
  number of leading zeros, behind an optional sign. They are what `Text.integer?` reads
  (`integer?_eq_some_iff`), and the text that an integer is written as is one of them
  (`isDecimal_toString`).
* `Text.IsCore` holds of what is left of a text if the blanks at both of its ends are taken away. It
  is what `Text.trim` returns (`trim_eq_iff`).
-/

namespace PaymentAllocation.Text

/-! ## Digits -/

theorem digit?_eq_some_iff {c : Char} {n : Nat} :
    digit? c = some n ↔ c.isDigit = true ∧ c.toNat - '0'.toNat = n := by
  have digit : c.isDigit = true ↔ '0' ≤ c ∧ c ≤ '9' := by
    simp only [Char.isDigit, Bool.and_eq_true, decide_eq_true_eq]
    rfl
  rw [digit?, digit]
  split_ifs with h
  · simp [h]
  · simp [h]

theorem isBlank_eq_false_of_isDigit {c : Char} (h : c.isDigit = true) : isBlank c = false := by
  have digit : 48 ≤ c.toNat ∧ c.toNat ≤ 57 := by
    simp only [Char.isDigit, Bool.and_eq_true, decide_eq_true_eq] at h
    exact h
  have outside : ∀ range ∈ blankRanges, ¬(range.1 ≤ c.toNat ∧ c.toNat ≤ range.2) := by
    simp only [blankRanges, List.forall_mem_cons, List.not_mem_nil, false_imp_iff, implies_true,
      and_true]
    omega
  simpa [isBlank] using outside

theorem digitsFrom?_eq_some_iff {value n : Nat} {cs : List Char} :
    digitsFrom? value cs = some n ↔
      (∀ c ∈ cs, c.isDigit = true) ∧ Nat.ofDigitChars 10 cs value = n := by
  induction cs generalizing value with
  | nil => simp [digitsFrom?]
  | cons c cs ih =>
    simp only [digitsFrom?, Option.bind_eq_bind, Option.bind_eq_some_iff, digit?_eq_some_iff, ih,
      Nat.ofDigitChars_cons, List.forall_mem_cons]
    constructor
    · rintro ⟨d, ⟨digit, rfl⟩, digits, value⟩
      exact ⟨⟨digit, digits⟩, value⟩
    · rintro ⟨⟨digit, digits⟩, value⟩
      exact ⟨_, ⟨digit, rfl⟩, digits, value⟩

theorem natural?_eq_some_iff {n : Nat} {cs : List Char} :
    natural? cs = some n ↔
      cs ≠ [] ∧ (∀ c ∈ cs, c.isDigit = true) ∧ Nat.ofDigitChars 10 cs 0 = n := by
  cases cs with
  | nil => simp [natural?]
  | cons c cs =>
    have nonempty : c :: cs ≠ [] := List.cons_ne_nil c cs
    rw [natural?, digitsFrom?_eq_some_iff]
    · simp only [ne_eq, nonempty, not_false_eq_true, true_and]
    · exact nonempty

/-! ## Integers -/

/-- The text is that of the integer: decimal digits with an optional sign in front. -/
inductive IsDecimal : List Char → Int → Prop
  | unsigned {digits : List Char} (nonempty : digits ≠ []) (all : ∀ c ∈ digits, c.isDigit = true) :
    IsDecimal digits (Nat.ofDigitChars 10 digits 0)
  | plus {digits : List Char} (nonempty : digits ≠ []) (all : ∀ c ∈ digits, c.isDigit = true) :
    IsDecimal ('+' :: digits) (Nat.ofDigitChars 10 digits 0)
  | minus {digits : List Char} (nonempty : digits ≠ []) (all : ∀ c ∈ digits, c.isDigit = true) :
    IsDecimal ('-' :: digits) (-(Nat.ofDigitChars 10 digits 0 : Int))

theorem integer?_minus (cs : List Char) :
    integer? ('-' :: cs) = (natural? cs).map fun n : Nat => -(n : Int) := by
  rw [integer?]
  cases natural? cs <;> rfl

theorem integer?_eq_some_iff {n : Int} {cs : List Char} :
    integer? cs = some n ↔ IsDecimal cs n := by
  constructor
  · intro h
    unfold integer? at h
    split at h
    · change integer? ('-' :: _) = some n at h
      rw [integer?_minus] at h
      obtain ⟨m, hm, rfl⟩ := Option.map_eq_some_iff.1 h
      obtain ⟨nonempty, all, rfl⟩ := natural?_eq_some_iff.1 hm
      exact .minus nonempty all
    · obtain ⟨m, hm, rfl⟩ := Option.map_eq_some_iff.1 h
      obtain ⟨nonempty, all, rfl⟩ := natural?_eq_some_iff.1 hm
      exact .plus nonempty all
    · obtain ⟨m, hm, rfl⟩ := Option.map_eq_some_iff.1 h
      obtain ⟨nonempty, all, rfl⟩ := natural?_eq_some_iff.1 hm
      exact .unsigned nonempty all
  · intro h
    cases h with
    | unsigned nonempty all =>
      have digits := natural?_eq_some_iff.2 ⟨nonempty, all, rfl⟩
      -- no sign is a digit, so the digits are not read behind one
      unfold integer?
      split
      · exact absurd (all '-' (by simp)) (by decide)
      · exact absurd (all '+' (by simp)) (by decide)
      · rw [digits, Option.map_some]
        rfl
    | plus nonempty all =>
      rw [integer?, natural?_eq_some_iff.2 ⟨nonempty, all, rfl⟩, Option.map_some]
      rfl
    | minus nonempty all =>
      rw [integer?_minus, natural?_eq_some_iff.2 ⟨nonempty, all, rfl⟩, Option.map_some]

/-- Every character of an integer is a digit or a sign. -/
theorem IsDecimal.mem {cs : List Char} {n : Int} (h : IsDecimal cs n) {c : Char} (hc : c ∈ cs) :
    c.isDigit = true ∨ c = '+' ∨ c = '-' := by
  cases h with
  | unsigned _ all => exact .inl (all c hc)
  | plus _ all =>
    rcases List.mem_cons.1 hc with rfl | hc
    · exact .inr (.inl rfl)
    · exact .inl (all c hc)
  | minus _ all =>
    rcases List.mem_cons.1 hc with rfl | hc
    · exact .inr (.inr rfl)
    · exact .inl (all c hc)

/-- A text writes one integer. -/
theorem IsDecimal.unique {cs : List Char} {m n : Int} (h : IsDecimal cs m) (h' : IsDecimal cs n) :
    m = n :=
  Option.some.inj ((integer?_eq_some_iff.2 h).symm.trans (integer?_eq_some_iff.2 h'))

theorem IsDecimal.isBlank_eq_false {cs : List Char} {n : Int} (h : IsDecimal cs n) {c : Char}
    (hc : c ∈ cs) : isBlank c = false := by
  rcases h.mem hc with digit | rfl | rfl
  · exact isBlank_eq_false_of_isDigit digit
  · decide
  · decide

theorem toList_toString_of_nonneg {n : Int} (h : 0 ≤ n) :
    (toString n).toList = Nat.toDigits 10 n.toNat := by
  rw [Int.toString_eq_repr, Int.repr_eq_if, if_pos h, Nat.toList_repr]

theorem toList_toString_of_neg {n : Int} (h : n < 0) :
    (toString n).toList = '-' :: Nat.toDigits 10 (-n).toNat := by
  rw [Int.toString_eq_repr, Int.repr_eq_if, if_neg (by omega), String.toList_append,
    Nat.toList_repr]
  rfl

theorem isDecimal_toString (n : Int) : IsDecimal (toString n).toList n := by
  have digits (m : Nat) : ∀ c ∈ Nat.toDigits 10 m, c.isDigit = true := fun c hc =>
    Nat.isDigit_of_mem_toDigits (by decide) (by decide) hc
  have value (m : Nat) : Nat.ofDigitChars 10 (Nat.toDigits 10 m) 0 = m :=
    Nat.ofDigitChars_toDigits (by decide) (by decide)
  rcases Int.lt_or_le n 0 with negative | nonneg
  · have written := IsDecimal.minus Nat.toDigits_ne_nil (digits (-n).toNat)
    have hn : -((-n).toNat : Int) = n := by omega
    rw [value, hn] at written
    rwa [toList_toString_of_neg negative]
  · have written := IsDecimal.unsigned Nat.toDigits_ne_nil (digits n.toNat)
    rw [value, Int.toNat_of_nonneg nonneg] at written
    rwa [toList_toString_of_nonneg nonneg]

/-! ## Blanks at both ends -/

/-- The text is empty or begins and ends with a character that is no blank. -/
structure HasNoBlankEnds (cs : List Char) : Prop where
  first : ∀ c ∈ cs.head?, isBlank c = false
  last : ∀ c ∈ cs.getLast?, isBlank c = false

/-- `core` is what is left of a text if the blanks at both of its ends are taken away. -/
structure IsCore (cs core : List Char) : Prop where
  blanks : ∃ before after, cs = before ++ core ++ after ∧
    (∀ c ∈ before, isBlank c = true) ∧ ∀ c ∈ after, isBlank c = true
  ends : HasNoBlankEnds core

theorem HasNoBlankEnds.isCore {cs : List Char} (h : HasNoBlankEnds cs) : IsCore cs cs :=
  ⟨⟨[], [], by simp, by simp, by simp⟩, h⟩

theorem trim_eq_rdropWhile (cs : List Char) :
    trim cs = (cs.dropWhile isBlank).rdropWhile isBlank := rfl

/-- Blanks at the end are dropped after those at the beginning, which leaves the beginning alone. -/
theorem isCore_trim (cs : List Char) : IsCore cs (trim cs) := by
  have split : cs = cs.takeWhile isBlank ++ trim cs ++
      (cs.dropWhile isBlank).rtakeWhile isBlank := by
    rw [trim_eq_rdropWhile, List.append_assoc, List.rdropWhile_append_rtakeWhile,
      List.takeWhile_append_dropWhile]
  refine ⟨⟨_, _, split, fun c => List.mem_takeWhile_imp, fun c => List.mem_rtakeWhile_imp⟩, ?_, ?_⟩
  · intro c hc
    obtain ⟨rest, hrest⟩ := List.rdropWhile_prefix isBlank (l := cs.dropWhile isBlank)
    have first := List.head?_dropWhile_not isBlank cs
    rw [← hrest, ← trim_eq_rdropWhile, List.head?_append, hc] at first
    exact first
  · intro c hc
    have nonempty : trim cs ≠ [] := by
      rintro h
      simp [h] at hc
    have last := List.rdropWhile_last_not isBlank (cs.dropWhile isBlank) nonempty
    rw [List.getLast?_eq_some_getLast nonempty, Option.mem_some_iff] at hc
    rw [← hc]
    exact Bool.eq_false_iff.2 last

theorem HasNoBlankEnds.dropWhile_append {core : List Char} (h : HasNoBlankEnds core)
    (nonempty : core ≠ []) (after : List Char) :
    (core ++ after).dropWhile isBlank = core ++ after := by
  obtain ⟨c, rest, rfl⟩ := List.exists_cons_of_ne_nil nonempty
  rw [List.cons_append, List.dropWhile_cons_of_neg]
  simp [h.first c rfl]

theorem HasNoBlankEnds.reverse {core : List Char} (h : HasNoBlankEnds core) :
    HasNoBlankEnds core.reverse where
  first c hc := h.last c (by rwa [List.head?_reverse] at hc)
  last c hc := h.first c (by rwa [List.getLast?_reverse] at hc)

theorem IsCore.trim_eq {cs core : List Char} (h : IsCore cs core) : trim cs = core := by
  obtain ⟨⟨before, after, rfl, before_blank, after_blank⟩, ends⟩ := h
  rcases eq_or_ne core [] with rfl | nonempty
  · have blank : ∀ c ∈ before ++ after, isBlank c = true := by
      simp only [List.mem_append]
      exact fun c hc => hc.elim (before_blank c) (after_blank c)
    rw [trim, List.append_nil, List.dropWhile_eq_nil_iff.2 blank]
    rfl
  · have behind : ∀ c ∈ after.reverse, isBlank c = true := fun c hc =>
      after_blank c (List.mem_reverse.1 hc)
    have reversed := ends.reverse.dropWhile_append (by simpa using nonempty) []
    rw [List.append_nil] at reversed
    rw [trim, List.append_assoc, List.dropWhile_append_of_pos before_blank,
      ends.dropWhile_append nonempty, List.reverse_append, List.dropWhile_append_of_pos behind,
      reversed, List.reverse_reverse]

theorem trim_eq_iff {cs core : List Char} : trim cs = core ↔ IsCore cs core := by
  constructor
  · rintro rfl
    exact isCore_trim cs
  · exact IsCore.trim_eq

end PaymentAllocation.Text
