import PaymentAllocation.Format.Json.Reader

/-!
# Strings, keys and comments of TOML

Strings stand between quotation marks, where escapes count, or between apostrophes, where they do
not. Three of either open a string of several lines; up to two more at its end belong to it. All
functions take the text after the opening mark and return the content with what follows it.
-/

namespace PaymentAllocation.Toml

/-! ## Blanks and lines -/

/-- The blanks on a line. -/
def isBlank (c : Char) : Bool := c = ' ' || c = '\t'

/-- The text after the blanks that it begins with. -/
def skip (cs : List Char) : List Char := cs.dropWhile isBlank

/-- The text after a line break. -/
def newline? : List Char → Option (List Char)
  | '\n' :: rest => some rest
  | '\r' :: '\n' :: rest => some rest
  | _ => none

/-- What may stand in a comment or in a string on one line: no control character but the tab. -/
def isPlain (c : Char) : Bool := c = '\t' || (' ' ≤ c && c ≠ '\x7f')

/-- The text after a comment, if there is one. -/
def skipComment : List Char → List Char
  | '#' :: rest => rest.dropWhile isPlain
  | cs => cs

/-- The text after the end of a line, where blanks and a comment may stand. -/
def lineEnd? (cs : List Char) : Option (List Char) :=
  match skipComment (skip cs) with
  | [] => some []
  | rest => newline? rest

/-! ## Escapes -/

/-- The character that an escape with one letter stands for. -/
def escaped? : Char → Option Char
  | '"' => some '"'
  | '\\' => some '\\'
  | 'b' => some '\x08'
  | 'f' => some '\x0c'
  | 'n' => some '\n'
  | 'r' => some '\r'
  | 't' => some '\t'
  | _ => none

/-- The character with the number that hexadecimal digits stand for; surrogates are none. -/
def scalar? (digits : List Char) : Option Char := do
  let n ← Json.hex? digits
  if n.isValidChar then some (Char.ofNat n) else none

/-! ## Strings on one line -/

/-- Puts a character before the content that was read. -/
private def prepend (c : Char) : List Char × List Char → List Char × List Char
  | (content, rest) => (c :: content, rest)

/-- A string between quotation marks. -/
def quoted? : List Char → Option (List Char × List Char)
  | [] => none
  | '"' :: rest => some ([], rest)
  | '\\' :: 'u' :: a :: b :: c :: d :: rest => do
    let c ← scalar? [a, b, c, d]
    (quoted? rest).map (prepend c)
  | '\\' :: 'U' :: a :: b :: c :: d :: e :: f :: g :: h :: rest => do
    let c ← scalar? [a, b, c, d, e, f, g, h]
    (quoted? rest).map (prepend c)
  | '\\' :: c :: rest => do
    let c ← escaped? c
    (quoted? rest).map (prepend c)
  | c :: rest => if isPlain c then (quoted? rest).map (prepend c) else none

/-- A string between apostrophes. -/
def literal? : List Char → Option (List Char × List Char)
  | [] => none
  | c :: rest =>
    if c = '\x27' then some ([], rest)
    else if isPlain c then (literal? rest).map (prepend c)
    else none

/-! ## Strings of several lines -/

/-- The end of a string whose three closing marks have been read: up to two further ones belong to
the content. -/
def closing (mark : Char) (rest : List Char) : List Char × List Char :=
  let extra := (rest.take 2).takeWhile (· = mark)
  (extra, rest.drop extra.length)

/-- What a backslash before a line break leaves out. -/
inductive Gap
  | none
  /-- Blanks up to the line break. -/
  | toLineBreak
  /-- Blanks and line breaks up to the next character of the content. -/
  | toContent
  deriving DecidableEq, Repr

/-- A string of several lines between quotation marks. -/
def quotedLines? : Gap → List Char → Option (List Char × List Char)
  | .toLineBreak, c :: rest =>
    if isBlank c then quotedLines? .toLineBreak rest
    else if c = '\n' then quotedLines? .toContent rest
    else match c, rest with
      | '\r', '\n' :: rest => quotedLines? .toContent rest
      | _, _ => none
  | gap, '\r' :: '\n' :: rest =>
    if gap = .toContent then quotedLines? .toContent rest
    else (quotedLines? .none rest).map (prepend '\n')
  | _, '"' :: '"' :: '"' :: rest => some (closing '"' rest)
  | _, '\\' :: 'u' :: a :: b :: c :: d :: rest => do
    let c ← scalar? [a, b, c, d]
    (quotedLines? .none rest).map (prepend c)
  | _, '\\' :: 'U' :: a :: b :: c :: d :: e :: f :: g :: h :: rest => do
    let c ← scalar? [a, b, c, d, e, f, g, h]
    (quotedLines? .none rest).map (prepend c)
  | _, '\\' :: '\r' :: '\n' :: rest => quotedLines? .toContent rest
  | _, '\\' :: c :: rest =>
    if c = '\n' then quotedLines? .toContent rest
    else if isBlank c then quotedLines? .toLineBreak rest
    else do
      let c ← escaped? c
      (quotedLines? .none rest).map (prepend c)
  | gap, c :: rest =>
    if gap = .toContent ∧ (isBlank c ∨ c = '\n') then quotedLines? .toContent rest
    else if isPlain c ∨ c = '\n' then (quotedLines? .none rest).map (prepend c)
    else none
  | _, [] => none

/-- A string of several lines between apostrophes. -/
def literalLines? : List Char → Option (List Char × List Char)
  | [] => none
  | '\x27' :: '\x27' :: '\x27' :: rest => some (closing '\x27' rest)
  | '\r' :: '\n' :: rest => (literalLines? rest).map (prepend '\n')
  | c :: rest =>
    if isPlain c ∨ c = '\n' then (literalLines? rest).map (prepend c) else none

/-- The text after a line break, or the same text if it does not begin with one. -/
def skipLineBreak (cs : List Char) : List Char := (newline? cs).getD cs

/-- A string of any kind with its opening mark. -/
def string? : List Char → Option (String × List Char)
  | '"' :: '"' :: '"' :: rest => named (quotedLines? .none (skipLineBreak rest))
  | '"' :: rest => named (quoted? rest)
  | '\x27' :: '\x27' :: '\x27' :: rest => named (literalLines? (skipLineBreak rest))
  | '\x27' :: rest => named (literal? rest)
  | _ => none
where
  named (reading : Option (List Char × List Char)) : Option (String × List Char) :=
    reading.map fun (content, rest) => (String.ofList content, rest)

/-! ## Keys -/

/-- The characters of a key that is not quoted. -/
def isKeyChar (c : Char) : Bool := c.isAlphanum || c = '-' || c = '_'

/-- A key without dots: quoted on one line, or bare. -/
def simpleKey? : List Char → Option (String × List Char)
  | '"' :: rest => (quoted? rest).map fun (content, rest) => (String.ofList content, rest)
  | '\x27' :: rest => (literal? rest).map fun (content, rest) => (String.ofList content, rest)
  | cs =>
    let bare := cs.takeWhile isKeyChar
    if bare.isEmpty then none else some (String.ofList bare, cs.dropWhile isKeyChar)

/-- The parts of a key between dots, with blanks around each. The first argument bounds their
number. -/
def keyParts? : Nat → List Char → Option (List String × List Char)
  | 0, _ => none
  | fuel + 1, cs => do
    let (part, rest) ← simpleKey? (skip cs)
    match skip rest with
    | '.' :: rest =>
      let (parts, rest) ← keyParts? fuel rest
      return (part :: parts, rest)
    | rest => return ([part], rest)

/-- How deep tables and lists may nest, and how many parts a key may have. -/
def depthLimit : Nat := 79

/-- A key, as the list of its parts. -/
def key? (cs : List Char) : Option (List String × List Char) := keyParts? depthLimit cs

end PaymentAllocation.Toml
