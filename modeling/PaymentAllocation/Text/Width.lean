import PaymentAllocation.Text.Emoji

/-!
# Display width

How many columns a line takes (`width`). A character takes as many columns as `charWidth` says,
apart from three things that depend on what follows it (`Following`):

* a selector after a character chooses between its forms as text and as emoji (`Selector`);
* letters that join take fewer columns than they do apart (`Ligature`);
* characters that make up one emoji take two columns together (`EmojiEnd`).

So a line is read from its end: `step` gives the columns that a character adds to those after it.
-/

namespace PaymentAllocation.Text

/-- The columns that a character takes on its own. The Khmer sign beyyal stands for three. -/
def charWidth (c : Char) : Nat :=
  if c.toNat ≤ 0xA0 then 1
  else if c = '\u17d8' then 3
  else if isIn zeroRanges c then 0
  else if isIn wideRanges c then 2
  else 1

/-! ## Selectors -/

/-- The form that is chosen for the character before. -/
inductive Selector
  | text
  | emoji
  /-- Quotation marks as wide as an ideograph. -/
  | wide
  deriving DecidableEq, Repr

/-- The selector that a character is. -/
def Selector.ofChar? (c : Char) : Option Selector :=
  if c = '\ufe0e' then some text
  else if c = '\ufe0f' then some emoji
  else if c = '\ufe01' then some wide
  else none

/-- Whether a character takes one column where a selector asks for text. Ideographs in squares keep
their two. -/
def narrows (c : Char) : Bool :=
  isIn selectableRanges c && isIn emojiRanges c && !isIn [(0x1F200, 0x1F2FF)] c

/-- Whether a character is a quotation mark that a selector makes wide. -/
def widens (c : Char) : Bool := isIn [(0x2018, 0x2019), (0x201C, 0x201D)] c

/-! ## Lines -/

/-- The beginning of what follows a character, selectors apart. -/
inductive Following
  /-- Nothing that the width of a character before it depends on. -/
  | plain
  /-- A group of letters, and whether a joiner stands before it. -/
  | letters (group : Ligature) (joined : Bool)
  | emoji (sequence : EmojiEnd)
  deriving DecidableEq, Repr

namespace Following

/-- Whether letters that may join follow. -/
def isLetters : Following → Bool
  | letters .. => true
  | _ => false

/-- Whether a joiner follows that leads to an emoji. -/
def isJoined : Following → Bool
  | emoji .joined | emoji .joinedKeycap => true
  | _ => false

/-- What a character is on its own to the one before it. -/
def ofChar (c : Char) : Following :=
  match Ligature.ofLetter? c, EmojiEnd.ofChar? c with
  | some group, _ => letters group false
  | none, some sequence => emoji sequence
  | none, none => plain

/-- The columns that a character adds to what it makes up with the characters after it, if it does,
and what the two are to the character before. -/
def extend? : Following → Char → Option (Int × Following)
  | plain, _ => none
  | letters group joined, c =>
    if group.spans c then some (0, letters group (joined || c = joiner))
    else (group.extend? joined c).map fun (columns, result) =>
      (columns, (result.map (letters · false)).getD plain)
  | emoji sequence, c =>
    (sequence.extend? c).map fun (columns, result) => (columns, emoji result)

end Following

/-- What follows a character: perhaps a selector, and then the rest. -/
structure Context where
  selector : Option Selector
  following : Following
  deriving DecidableEq, Repr

namespace Context

/-- The end of a line. -/
def lineEnd : Context := ⟨none, .plain⟩

/-- What follows a character that the selector does not apply to. Letters join over a selector, and
nothing else does. -/
def unselected (next : Context) : Following :=
  if next.selector.isNone || next.following.isLetters then next.following else .plain

/-- A selector before what follows. The one for emoji leaves the character before it joined. -/
def select (selector : Selector) (following : Following) : Context :=
  let kept := following.isLetters || (selector = .emoji && following.isJoined)
  ⟨some selector, if kept then following else .plain⟩

end Context

/-- The columns that a character adds to those of what follows it, and what follows the character
before it. -/
def step (c : Char) (next : Context) : Int × Context :=
  if next.selector = some .emoji ∧ isIn selectableRanges c then
    (if next.following.isJoined then 0 else 2, ⟨none, .emoji .whole⟩)
  else if c.toNat ≤ 0xA0 then (1, .lineEnd)
  else match Selector.ofChar? c with
    | some selector => (0, .select selector next.unselected)
    | none =>
      if next.selector = some .text ∧ narrows c then (1, .lineEnd)
      else if next.selector = some .wide ∧ widens c then (2, .lineEnd)
      else match next.unselected.extend? c with
        | some (columns, following) => (columns, ⟨none, following⟩)
        | none => (charWidth c, ⟨none, .ofChar c⟩)

/-- The columns that a line takes. -/
def width (line : List Char) : Nat :=
  let (columns, _) := line.foldr (fun c (columns, next) =>
    let (more, here) := step c next
    (columns + more, here)) (0, Context.lineEnd)
  columns.toNat

example : width "café".toList = 4 := by decide +kernel

example : width "中文".toList = 4 := by decide +kernel

-- Three emoji that are joined into one.
example : width "👩‍👩‍👦".toList = 2 := by decide +kernel

end PaymentAllocation.Text
