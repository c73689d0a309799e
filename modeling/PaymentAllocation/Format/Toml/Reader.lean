import PaymentAllocation.Format.Toml.Scalar
import PaymentAllocation.Format.Toml.Tree

/-!
# Reading TOML

`Toml.read?` reads a text of TOML 1.0, in front of which a byte order mark may stand, and refuses
everything else. Every statement takes a line: a header, or a key with its value. The table that
the last header opened is the one that keys go to.
-/

namespace PaymentAllocation.Toml

/-! ## Values -/

/-- The text after blanks, line breaks and comments inside a list. The first argument bounds the
number of lines. -/
def skipLines : Nat → List Char → List Char
  | 0, cs => cs
  | fuel + 1, cs =>
    match newline? (skipComment (skip cs)) with
    | some rest => skipLines fuel rest
    | none => skip cs

/-- The table of keys and values between braces. -/
def inlineTable? (pairs : List (List String × Document)) : Option Document := do
  let members ← pairs.foldlM
    (fun members (key, document) => assign? document true key members) []
  return .table (documents members)

mutual

/-- A value and the text after it. The first argument bounds the recursion, the second says how
many more lists and tables may be nested. -/
def value? : Nat → Nat → List Char → Option (Document × List Char)
  | 0, _, _ => none
  | fuel + 1, depth, cs =>
    match cs with
    | 't' :: 'r' :: 'u' :: 'e' :: rest => some (.boolean true, rest)
    | 'f' :: 'a' :: 'l' :: 's' :: 'e' :: rest => some (.boolean false, rest)
    | '[' :: rest =>
      if depth = 0 then none
      else (items? fuel (depth - 1) rest).map fun (items, rest) => (.list items, rest)
    | '\x7b' :: rest =>
      if depth = 0 then none
      else
        match skip rest with
        | '\x7d' :: rest => some (.table [], rest)
        | rest => do
          let (pairs, rest) ← pairs? fuel (depth - 1) rest
          return (← inlineTable? pairs, rest)
    | cs =>
      match string? cs with
      | some (text, rest) => some (.text (some text), rest)
      | none => dateOrNumber? cs

/-- The items of a list up to its closing bracket, before which a comma may stand. -/
def items? : Nat → Nat → List Char → Option (List Document × List Char)
  | 0, _, _ => none
  | fuel + 1, depth, cs =>
    match skipLines cs.length cs with
    | ']' :: rest => some ([], rest)
    | cs => do
      let (item, rest) ← value? fuel depth cs
      match skipLines rest.length rest with
      | ',' :: rest =>
        let (items, rest) ← items? fuel depth rest
        return (item :: items, rest)
      | ']' :: rest => return ([item], rest)
      | _ => none

/-- The keys and values of a table up to its closing brace, at least one. -/
def pairs? : Nat → Nat → List Char → Option (List (List String × Document) × List Char)
  | 0, _, _ => none
  | fuel + 1, depth, cs => do
    let (key, rest) ← key? cs
    let '=' :: rest := rest | none
    let (document, rest) ← value? fuel depth (skip rest)
    match skip rest with
    | ',' :: rest =>
      let (pairs, rest) ← pairs? fuel depth rest
      return ((key, document) :: pairs, rest)
    | '\x7d' :: rest => return ([(key, document)], rest)
    | _ => none

end

/-! ## Statements -/

/-- The tree built so far, and the path of the table that keys go to. -/
structure Building where
  members : Members
  header : List String

/-- Obeys the statement that a text begins with, and returns the text after it. -/
def statement? (building : Building) : List Char → Option (Building × List Char)
  | '[' :: '[' :: rest => do
    let (path, rest) ← key? rest
    let ']' :: ']' :: rest := rest | none
    return (⟨← openElement? path building.members, path⟩, ← lineEnd? rest)
  | '[' :: rest => do
    let (path, rest) ← key? rest
    let ']' :: rest := rest | none
    return (⟨← openTable? path building.members, path⟩, ← lineEnd? rest)
  | cs => do
    let (key, rest) ← key? cs
    let '=' :: rest := rest | none
    let rest := skip rest
    let (document, rest) ← value? (2 * rest.length + 1) depthLimit rest
    let members ← assignAt? building.header key document building.members
    return ({ building with members }, ← lineEnd? rest)

/-- Obeys all statements of a text. The first argument bounds the number of lines. -/
def statements? : Nat → Building → List Char → Option Members
  | 0, _, _ => none
  | fuel + 1, building, cs =>
    match skip cs with
    | [] => some building.members
    | cs =>
      if cs.head? = some '#' ∨ (newline? cs).isSome then do
        statements? fuel building (← lineEnd? cs)
      else do
        let (building, rest) ← statement? building cs
        statements? fuel building rest

/-- Reads a text as TOML. -/
def read? (text : String) : Option Document := do
  let cs := match text.toList with
    | '\ufeff' :: rest => rest
    | cs => cs
  let members ← statements? (cs.length + 1) ⟨[], []⟩ cs
  return .table (documents members)

/-- TOML has no `null`, so that nothing is an empty list or table; a record given as a list may be
longer than its fields. -/
def dialect : Dialect where
  isNothing
    | .list [] => true
    | .table [] => true
    | _ => false
  surplusItems := true

end PaymentAllocation.Toml
