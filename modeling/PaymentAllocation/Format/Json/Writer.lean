import PaymentAllocation.Format.Document

/-!
# Writing JSON

A document as JSON, either on one line without blanks (`Json.write`) or with a line for each item
and member, indented by two blanks (`Json.writeIndented`). Only quotes, backslashes and control
characters are escaped. What cannot be known of a document is written so that it is read back as
the same: a scalar as `0.0`, and a string that is no text as half of a surrogate pair.
-/

namespace PaymentAllocation.Json

/-! ## Strings -/

/-- The hexadecimal digit of a number below 16, not in capitals. -/
def hexDigit (n : Nat) : Char := if n < 10 then Char.ofNat (48 + n) else Char.ofNat (87 + n)

/-- A character inside a string. -/
def escape (c : Char) : List Char :=
  if c = '"' then ['\\', '"']
  else if c = '\\' then ['\\', '\\']
  else if c = '\x08' then ['\\', 'b']
  else if c = '\x0c' then ['\\', 'f']
  else if c = '\n' then ['\\', 'n']
  else if c = '\r' then ['\\', 'r']
  else if c = '\t' then ['\\', 't']
  else if c < ' ' then ['\\', 'u', '0', '0', hexDigit (c.toNat / 16), hexDigit (c.toNat % 16)]
  else [c]

/-- A text between quotes. -/
def quote : Option String → List Char
  | some text => '"' :: text.toList.flatMap escape ++ ['"']
  | none => "\"\\ud800\"".toList

/-! ## Documents on one line -/

mutual

/-- A value on one line. -/
def writeValue : Document → List Char
  | .null => "null".toList
  | .boolean true => "true".toList
  | .boolean false => "false".toList
  | .integer value => (toString value).toList
  | .scalar => "0.0".toList
  | .text value => quote value
  | .list [] => ['[', ']']
  | .list (item :: items) => '[' :: writeValue item ++ writeItems items
  | .table [] => ['\x7b', '\x7d']
  | .table ((key, value) :: members) =>
    '\x7b' :: quote key ++ ':' :: writeValue value ++ writeMembers members

/-- The items after the first and the closing bracket. -/
def writeItems : List Document → List Char
  | [] => [']']
  | item :: items => ',' :: writeValue item ++ writeItems items

/-- The members after the first and the closing brace. -/
def writeMembers : List (Option String × Document) → List Char
  | [] => ['\x7d']
  | (key, value) :: members =>
    ',' :: quote key ++ ':' :: writeValue value ++ writeMembers members

end

/-- The document on one line. -/
def write (document : Document) : String := String.ofList (writeValue document)

/-! ## Documents on indented lines -/

/-- The beginning of a line at a depth. -/
def newline (depth : Nat) : List Char := '\n' :: List.replicate (2 * depth) ' '

mutual

/-- A document that begins on a line at a depth. -/
def layValue (depth : Nat) : Document → List Char
  | .null => "null".toList
  | .boolean true => "true".toList
  | .boolean false => "false".toList
  | .integer value => (toString value).toList
  | .scalar => "0.0".toList
  | .text value => quote value
  | .list [] => ['[', ']']
  | .list (item :: items) =>
    '[' :: newline (depth + 1) ++ layValue (depth + 1) item ++ layItems depth items
  | .table [] => ['\x7b', '\x7d']
  | .table ((key, value) :: members) =>
    '\x7b' :: newline (depth + 1) ++ quote key ++ ':' :: ' ' :: layValue (depth + 1) value ++
      layMembers depth members

/-- The items after the first and the closing bracket of a list at a depth. -/
def layItems (depth : Nat) : List Document → List Char
  | [] => newline depth ++ [']']
  | item :: items =>
    ',' :: newline (depth + 1) ++ layValue (depth + 1) item ++ layItems depth items

/-- The members after the first and the closing brace of a table at a depth. -/
def layMembers (depth : Nat) : List (Option String × Document) → List Char
  | [] => newline depth ++ ['\x7d']
  | (key, value) :: members =>
    ',' :: newline (depth + 1) ++ quote key ++ ':' :: ' ' :: layValue (depth + 1) value ++
      layMembers depth members

end

/-- The document on indented lines. -/
def writeIndented (document : Document) : String := String.ofList (layValue 0 document)

end PaymentAllocation.Json
