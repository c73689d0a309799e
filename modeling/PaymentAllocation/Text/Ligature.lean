import PaymentAllocation.Text.DisplayRanges

/-!
# Letters that join

Some letters are written as one with the letters after them and then take fewer columns than they
do apart. A line is read from its end, so a `Ligature` is the end of such a group.

* `Ligature.ofLetter?` is the group that a letter ends.
* `Ligature.spans` says which characters may stand inside a group without parting it.
* `Ligature.extend?` says what a letter before a group adds to its columns, and which group the two
  make, by the rules in `joins`.
-/

namespace PaymentAllocation.Text

/-- The character that joins what stands on its two sides. -/
def joiner : Char := '\u200d'

/-- The end of a group of letters that are written as one. -/
inductive Ligature
  /-- An Arabic alef. -/
  | alef
  /-- A Hebrew lamed. -/
  | lamed
  /-- A Khmer letter that has a form below the line. -/
  | subscript
  /-- A Buginese ya. -/
  | ya
  /-- A Buginese ya after the vowel sign i. -/
  | signAndYa
  /-- A Tifinagh consonant. -/
  | consonant
  /-- A Tifinagh consonant after the sign that joins consonants. -/
  | signAndConsonant
  /-- A Lisu tone that follows another tone. -/
  | tone
  /-- An Orkhon i. -/
  | orkhonI
  /-- A Kirat Rai vowel sign e. -/
  | vowelE
  /-- A Kirat Rai vowel sign ai. -/
  | vowelAi
  deriving DecidableEq, Repr

namespace Ligature

/-- The Tifinagh letters that join. -/
def tifinagh : List (Nat × Nat) := [(0x2D31, 0x2D65), (0x2D6F, 0x2D6F)]

/-- The letters that end a group, by group. -/
def endings : List (List (Nat × Nat) × Ligature) :=
  [([(0x622, 0x623), (0x625, 0x625), (0x627, 0x627), (0x671, 0x673), (0x675, 0x675),
      (0x773, 0x774), (0x870, 0x882)], alef),
    ([(0x5DC, 0x5DC)], lamed),
    ([(0x1780, 0x1782), (0x1784, 0x1787), (0x1789, 0x178C), (0x178E, 0x1793), (0x1795, 0x1798),
      (0x179B, 0x179D), (0x17A0, 0x17A0), (0x17A2, 0x17A2), (0x17A7, 0x17A7), (0x17AB, 0x17AC),
      (0x17AF, 0x17AF)], subscript),
    ([(0x1A10, 0x1A10)], ya),
    (tifinagh, consonant),
    ([(0xA4FC, 0xA4FD)], tone),
    ([(0x10C03, 0x10C03)], orkhonI),
    ([(0x16D67, 0x16D67)], vowelE),
    ([(0x16D68, 0x16D68)], vowelAi)]

/-- The group that a letter ends. -/
def ofLetter? (c : Char) : Option Ligature :=
  (endings.find? fun (letters, _) => isIn letters c).map Prod.snd

/-- Characters that part none but the groups that an alef ends. -/
def inner : List (Nat × Nat) :=
  [(0x34F, 0x34F), (0x17B4, 0x17B5), (0x180B, 0x180D), (0x180F, 0x180F), (0x200D, 0x200D),
    (0xFE00, 0xFE0F), (0xE0100, 0xE01EF)]

/-- Whether a character may stand inside a group. Marks do not keep a lam and an alef apart. -/
def spans : Ligature → Char → Bool
  | alef, c => isIn zeroRanges c && !isIn opaqueRanges c
  | _, c => isIn inner c

/-- How a letter joins a group after it. -/
structure Join where
  letters : List (Nat × Nat)
  group : Ligature
  /-- Whether the two have to stand on the two sides of a joiner. -/
  needsJoiner : Bool
  /-- The columns that the letter adds. -/
  columns : Int
  /-- The group that the two make, if another letter may join it. -/
  result : Option Ligature

/-- All the ways in which letters join. -/
def joins : List Join :=
  [⟨[(0x644, 0x644), (0x6B5, 0x6B8), (0x76A, 0x76A), (0x8A6, 0x8A6), (0x8C7, 0x8C7)],
      alef, false, 0, none⟩,
    ⟨[(0x5D0, 0x5D0)], lamed, true, 0, none⟩,
    ⟨[(0x17D2, 0x17D2)], subscript, false, -1, none⟩,
    ⟨[(0x1A17, 0x1A17)], ya, true, 0, some signAndYa⟩,
    ⟨[(0x1A15, 0x1A15)], signAndYa, false, 0, none⟩,
    ⟨[(0x2D7F, 0x2D7F)], consonant, false, 1, some signAndConsonant⟩,
    ⟨tifinagh, consonant, true, 0, none⟩,
    ⟨tifinagh, signAndConsonant, false, -1, none⟩,
    ⟨[(0xA4F8, 0xA4FB)], tone, false, 0, none⟩,
    ⟨[(0x10C32, 0x10C32)], orkhonI, true, 0, none⟩,
    ⟨[(0x16D63, 0x16D63)], vowelE, false, 0, none⟩,
    ⟨[(0x16D67, 0x16D67)], vowelE, false, 0, some vowelAi⟩,
    ⟨[(0x16D68, 0x16D68)], vowelE, false, 1, some vowelE⟩,
    ⟨[(0x16D69, 0x16D69)], vowelE, false, 0, none⟩,
    ⟨[(0x16D63, 0x16D63)], vowelAi, false, 0, none⟩]

/-- The columns that a letter adds to the group after it, and the group that the two make. The flag
says whether a joiner stands between. -/
def extend? (group : Ligature) (joined : Bool) (c : Char) : Option (Int × Option Ligature) :=
  (joins.find? fun join =>
      join.group = group && (joined || !join.needsJoiner) && isIn join.letters c).map
    fun join => (join.columns, join.result)

end Ligature

end PaymentAllocation.Text
