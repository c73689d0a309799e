import PaymentAllocation.Text.Ligature

/-!
# Emoji of several characters

Characters that make up one emoji take two columns together: an emoji with its skin tone, emoji
with joiners between them, the two letters of a flag, and a black flag with the tags of its region.
A line is read from its end, so an `EmojiEnd` is the end of such a sequence, and
`EmojiEnd.extend?` says what a character before it adds.
-/

namespace PaymentAllocation.Text

/-- Whether a character gives an emoji before it a tone of skin. -/
def isSkinTone (c : Char) : Bool := isIn [(0x1F3FB, 0x1F3FF)] c

/-- Whether a character is one of the letters that make up flags. -/
def isRegional (c : Char) : Bool := isIn [(0x1F1E6, 0x1F1FF)] c

/-- Whether a character is a letter in the tags of a flag. -/
def isTagLetter (c : Char) : Bool := isIn [(0xE0061, 0xE007A)] c

/-- Whether a character is a digit in the tags of a flag. -/
def isTagDigit (c : Char) : Bool := isIn [(0xE0030, 0xE0039)] c

/-- The flag that tags follow. -/
def blackFlag : Char := '🏴'

/-- The tag that ends the tags of a flag. -/
def tagEnd : Char := Char.ofNat 0xE007F

/-- The box around a key. -/
def keycap : Char := '\u20e3'

/-- The end of a sequence of characters that make up an emoji. -/
inductive EmojiEnd
  /-- A whole emoji. -/
  | whole
  /-- A skin tone. -/
  | skinTone
  /-- Letters of flags, and whether they are joined to an emoji. -/
  | regional (count : Nat) (joined : Bool)
  /-- A joiner and an emoji. -/
  | joined
  /-- The box around a key, joined to an emoji. -/
  | joinedKeycap
  /-- Letters and the end of the tags of a flag that is joined to an emoji. -/
  | tagLetters (count : Nat)
  /-- Digits, and then letters and the end, of the tags of such a flag. -/
  | tagDigits (count : Nat)
  deriving DecidableEq, Repr

namespace EmojiEnd

/-- The sequence that a character ends. -/
def ofChar? (c : Char) : Option EmojiEnd :=
  if isSkinTone c then some skinTone
  else if isRegional c then some (regional 1 false)
  else if isIn emojiRanges c then some whole
  else none

/-- The columns of letters of flags. Letters pair up from the first one on; if they are joined to an
emoji and none is left over, then the last flag is a part of that emoji and takes no columns. -/
def regionalColumns (count : Nat) (joined : Bool) : Int :=
  if joined ∧ count % 2 = 0 then count - 2 else count

/-- The columns that a character adds to the sequence after it, and the sequence that the two
make. -/
def extend? : EmojiEnd → Char → Option (Int × EmojiEnd)
  | whole, c => if c = joiner then some (0, joined) else none
  | skinTone, c =>
    if isIn modifiedRanges c then some (0, whole)
    else if c = joiner then some (0, joined)
    else none
  | regional count toEmoji, c =>
    if isRegional c then
      some (regionalColumns (count + 1) toEmoji - regionalColumns count toEmoji,
        regional (count + 1) toEmoji)
    else if c = joiner ∧ 2 ≤ count then some (0, joined)
    else none
  | joined, c =>
    if c = keycap then some (0, joinedKeycap)
    else if c = tagEnd then some (0, tagLetters 0)
    else match ofChar? c with
      | some (regional ..) => some (1, regional 1 true)
      | some emoji => some (0, emoji)
      | none => none
  | joinedKeycap, _ => none
  | tagLetters count, c =>
    if isTagLetter c ∧ count < 6 then some (0, tagLetters (count + 1))
    else if isTagDigit c ∧ count ≤ 4 then some (0, tagDigits 1)
    else if c = blackFlag ∧ 3 ≤ count then some (0, whole)
    else none
  | tagDigits count, c =>
    if isTagDigit c ∧ count < 3 then some (0, tagDigits (count + 1))
    else if c = blackFlag ∧ count = 3 then some (0, whole)
    else none

end EmojiEnd

end PaymentAllocation.Text
