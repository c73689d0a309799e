import PaymentAllocation.Format.Toml.Text

/-!
# Numbers, dates and times of TOML

Of these only integers keep their value; the others are checked and become a `Document.scalar`.
Integers must fit into 64 bits. A decimal number must not round to positive infinity. A date must
exist in the calendar, and a minute may have a leap second.
-/

namespace PaymentAllocation.Toml

/-! ## Digits -/

/-- Whether digits stand at both ends and on both sides of every underscore. `afterDigit` says
whether a digit stands before the text. -/
def isSpaced (afterDigit : Bool) : List Char → Bool
  | [] => afterDigit
  | '_' :: rest => afterDigit && isSpaced false rest
  | _ :: rest => isSpaced true rest

/-- A run of digits with underscores between them, the digits alone, and the text after it. -/
def digits? (isDigit : Char → Bool) (cs : List Char) :
    Option (List Char × List Char × List Char) :=
  let belongs := fun c => isDigit c || c = '_'
  let run := cs.takeWhile belongs
  if isSpaced false run then some (run, run.filter (· ≠ '_'), cs.dropWhile belongs) else none

/-- The number that digits stand for in a base. -/
def value (base : Nat) (digits : List Char) : Nat :=
  digits.foldl (fun n c => base * n + (Json.hexDigit? c).getD 0) 0

/-! ## Numbers -/

/-- An integer, if it fits into 64 bits. -/
def integer? (n : Int) : Option Document :=
  if -0x8000000000000000 ≤ n ∧ n < 0x8000000000000000 then some (.integer n) else none

/-- The smallest number that rounds to infinity: half a step above the largest finite one. -/
def infinityBound : Nat := Nat.pow 2 1024 - Nat.pow 2 970

/-- Whether `digits` · 10 ^ `exponent` rounds to infinity. Far from the bound the number of digits
decides. -/
def isInfinite (digits : List Char) (exponent : Int) : Bool :=
  let digits := digits.dropWhile (· = '0')
  let magnitude := digits.length + exponent
  if digits.isEmpty || magnitude < 308 then false
  else if magnitude > 310 then true
  else infinityBound * Nat.pow 10 (-exponent).toNat ≤
    value 10 digits * Nat.pow 10 exponent.toNat

/-- The digits of a fraction, if there is one, and the text after it. -/
def fraction? : List Char → Option (Option (List Char) × List Char)
  | '.' :: rest => (digits? Char.isDigit rest).map fun (_, digits, rest) => (some digits, rest)
  | cs => some (none, cs)

/-- The value of an exponent, if there is one, and the text after it. -/
def exponent? : List Char → Option (Option Int × List Char)
  | [] => some (none, [])
  | c :: rest =>
    if c = 'e' ∨ c = 'E' then do
      let (negative, rest) := match rest with
        | '-' :: rest => (true, rest)
        | '+' :: rest => (false, rest)
        | rest => (false, rest)
      let (_, digits, rest) ← digits? Char.isDigit rest
      let n : Int := value 10 digits
      return (some (if negative then -n else n), rest)
    else some (none, c :: rest)

/-- A decimal number without its sign. No zero stands before another digit. -/
def decimal? (negative : Bool) (cs : List Char) : Option (Document × List Char) := do
  let (run, digits, rest) ← digits? Char.isDigit cs
  if run.head? = some '0' ∧ run.length ≠ 1 then none
  let (fraction, rest) ← fraction? rest
  let (exponent, rest) ← exponent? rest
  match fraction, exponent with
  | none, none =>
    let n : Int := value 10 digits
    return (← integer? (if negative then -n else n), rest)
  | _, _ =>
    let places := fraction.getD []
    let exponent := exponent.getD 0 - places.length
    if !negative ∧ isInfinite (digits ++ places) exponent then none
    return (.scalar, rest)

/-- A number without its sign: infinity, no number, or a decimal one. -/
def unsigned? (negative : Bool) : List Char → Option (Document × List Char)
  | 'i' :: 'n' :: 'f' :: rest => some (.scalar, rest)
  | 'n' :: 'a' :: 'n' :: rest => some (.scalar, rest)
  | cs => decimal? negative cs

/-- An integer in another base than ten. -/
def based? (base : Nat) (cs : List Char) : Option (Document × List Char) := do
  let isDigit := fun c => (Json.hexDigit? c).any (· < base)
  let (_, digits, rest) ← digits? isDigit cs
  return (← integer? (value base digits), rest)

/-- A number, and the text after it. A sign may stand before decimal numbers only. -/
def number? : List Char → Option (Document × List Char)
  | '+' :: rest => unsigned? false rest
  | '-' :: rest => unsigned? true rest
  | '0' :: 'x' :: rest => based? 16 rest
  | '0' :: 'o' :: rest => based? 8 rest
  | '0' :: 'b' :: rest => based? 2 rest
  | cs => unsigned? false cs

/-! ## Dates and times -/

/-- The number of so many digits, in a range with both ends included, and the text after it. -/
def field? (width first last : Nat) (cs : List Char) : Option (Nat × List Char) :=
  let digits := cs.take width
  let n := value 10 digits
  if digits.length = width ∧ digits.all Char.isDigit ∧ first ≤ n ∧ n ≤ last then
    some (n, cs.drop width)
  else none

/-- The text after a character. -/
def after? (c : Char) : List Char → Option (List Char)
  | d :: rest => if c = d then some rest else none
  | [] => none

/-- The days of a month, with the leap years of the Gregorian calendar. -/
def daysInMonth (year month : Nat) : Nat :=
  if month = 2 then if year % 4 = 0 ∧ (year % 100 ≠ 0 ∨ year % 400 = 0) then 29 else 28
  else if month ∈ [4, 6, 9, 11] then 30
  else 31

/-- The text after a date. -/
def date? (cs : List Char) : Option (List Char) := do
  let (year, rest) ← field? 4 0 9999 cs
  let (month, rest) ← field? 2 1 12 (← after? '-' rest)
  let (_, rest) ← field? 2 1 (daysInMonth year month) (← after? '-' rest)
  return rest

/-- The text after a time of the day. -/
def time? (cs : List Char) : Option (List Char) := do
  let (_, rest) ← field? 2 0 23 cs
  let (_, rest) ← field? 2 0 59 (← after? ':' rest)
  let (_, rest) ← field? 2 0 60 (← after? ':' rest)
  match rest with
  | '.' :: c :: places => return if c.isDigit then places.dropWhile Char.isDigit else rest
  | _ => return rest

/-- The text after the offset of a time zone, if there is one. -/
def offset? : List Char → Option (List Char)
  | [] => some []
  | c :: rest =>
    if c = 'Z' ∨ c = 'z' then some rest
    else if c = '+' ∨ c = '-' then do
      let (_, rest) ← field? 2 0 23 rest
      let (_, rest) ← field? 2 0 59 (← after? ':' rest)
      return rest
    else some (c :: rest)

/-- The text after a date, a time, or a date with a time. -/
def dateTime? (cs : List Char) : Option (List Char) :=
  match date? cs with
  | none => time? cs
  | some rest =>
    match rest with
    | c :: clock =>
      if c = 'T' ∨ c = 't' ∨ c = ' ' then
        match time? clock with
        | some rest => offset? rest
        | none => some rest
      else some rest
    | [] => some rest

/-- A date, a time or a number. -/
def dateOrNumber? (cs : List Char) : Option (Document × List Char) :=
  match dateTime? cs with
  | some rest => some (.scalar, rest)
  | none => number? cs

end PaymentAllocation.Toml
