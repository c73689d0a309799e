import PaymentAllocation.Format.Document

/-!
# Tables under construction

The statements of a TOML text name tables by paths, and a table may be opened, filled and implied
by different statements. A `Node` remembers how it came about, because that decides what later
statements may do to it:

* a header `[a.b]` opens a table that no header opened and no dotted key made (`openTable?`);
* a header `[[a.b]]` adds a table to a list that only such headers made (`openElement?`);
* a key `a.b` goes into tables that dotted keys made (`assign?`);
* nothing is given twice.
-/

namespace PaymentAllocation.Toml

/-- How a table came about. -/
inductive Origin
  /-- By a header of its own. -/
  | header
  /-- By the header of a table inside it. -/
  | implied
  /-- By a dotted key. -/
  | dotted
  deriving DecidableEq, Repr

/-- A value, a table, or a list of tables that headers made. The last table of a list is the one
that later statements mean. -/
inductive Node
  | value (document : Document)
  | table (origin : Origin) (members : List (String × Node))
  | tables (elements : List (List (String × Node)))

/-- The members of a table with their keys. -/
abbrev Members : Type := List (String × Node)

/-- Replaces what stands under a key, or adds it. -/
def update? (key : String) (change : Option Node → Option Node) : Members → Option Members
  | [] => (change none).map fun node => [(key, node)]
  | (other, node) :: rest =>
    if other = key then (change (some node)).map fun node => (key, node) :: rest
    else (update? key change rest).map ((other, node) :: ·)

/-- Changes the last element of a list. -/
def changeLast? {α : Type} (change : α → Option α) : List α → Option (List α)
  | [] => none
  | [a] => (change a).map ([·])
  | a :: rest => (changeLast? change rest).map (a :: ·)

/-! ## Headers -/

/-- Changes what a path leads to. Tables on the way that do not exist are implied. -/
def atPath? (change : Option Node → Option Node) : List String → Members → Option Members
  | [], _ => none
  | [key], members => update? key change members
  | key :: path, members =>
    update? key (fun
      | none => (atPath? change path []).map (.table .implied)
      | some (.table origin inner) => (atPath? change path inner).map (.table origin)
      | some (.tables elements) => (changeLast? (atPath? change path) elements).map .tables
      | some (.value _) => none) members

/-- Opens the table of a header. -/
def openTable? : List String → Members → Option Members :=
  atPath? fun
    | none => some (.table .header [])
    | some (.table .implied members) => some (.table .header members)
    | _ => none

/-- Opens a new table at the end of a list. -/
def openElement? : List String → Members → Option Members :=
  atPath? fun
    | none => some (.tables [[]])
    | some (.tables elements) => some (.tables (elements ++ [[]]))
    | _ => none

/-! ## Keys -/

/-- Gives a value to a dotted key inside a table. `open_` says whether the table at hand takes
keys: the one that the statement stands in, or one that dotted keys made. -/
def assign? (document : Document) (open_ : Bool) : List String → Members → Option Members
  | [], _ => none
  | [key], members =>
    update? key (fun
      | none => if open_ then some (.value document) else none
      | some _ => none) members
  | key :: path, members =>
    update? key (fun
      | none => (assign? document true path []).map (.table .dotted)
      | some (.table .dotted inner) => (assign? document true path inner).map (.table .dotted)
      | some (.table .implied inner) => (assign? document false path inner).map (.table .implied)
      | some (.table .header _) => none
      | some (.tables elements) =>
        (changeLast? (assign? document false path) elements).map .tables
      | some (.value _) => none) members

/-- Gives a value to a key below the table that a header opened. -/
def assignAt? (header key : List String) (document : Document) (members : Members) :
    Option Members :=
  match header with
  | [] => assign? document true key members
  | _ =>
    atPath? (fun
      | some (.table origin inner) => (assign? document true key inner).map (.table origin)
      | some (.tables elements) => (changeLast? (assign? document true key) elements).map .tables
      | _ => none) header members

/-! ## The finished tree -/

mutual

/-- The document that has been built. -/
def Node.document : Node → Document
  | .value document => document
  | .table _ members => .table (documents members)
  | .tables elements => .list (elementDocuments elements)

/-- The members of a table as documents, in the order in which their keys came up. -/
def documents : List (String × Node) → List (Option String × Document)
  | [] => []
  | (key, node) :: rest => (some key, node.document) :: documents rest

/-- The tables of an array as documents. -/
def elementDocuments : List (List (String × Node)) → List Document
  | [] => []
  | members :: rest => .table (documents members) :: elementDocuments rest

end

end PaymentAllocation.Toml
