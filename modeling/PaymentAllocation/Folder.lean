/-!
# Files of a working directory

What reading a file can come to (`FileError`), and a working directory held in memory
(`Folder`), whose paths are resolved one component at a time (`Folder.walk`). Of what lies outside
of it, only the directories above it are known.
-/

namespace PaymentAllocation

/-- Why a file could not be read as text. -/
inductive FileError
  | missing
  /-- The path names a directory. -/
  | directory
  /-- The path goes on below a file. -/
  | notDirectory
  /-- The path, or a name in it, is longer than the system allows. -/
  | nameTooLong
  /-- The path holds the character that ends paths. -/
  | endedPath
  /-- The content is not UTF-8. -/
  | notText
  /-- Any other reason, in the words of the system. -/
  | other (reason : String)
  deriving DecidableEq, Repr

/-- The reason in the words of the system. -/
def FileError.message : FileError → String
  | missing => "No such file or directory (os error 2)"
  | directory => "Is a directory (os error 21)"
  | notDirectory => "Not a directory (os error 20)"
  | nameTooLong => "File name too long (os error 36)"
  | endedPath => "file name contained an unexpected NUL byte"
  | notText => "stream did not contain valid UTF-8"
  | other reason => reason

/-- The bytes of a file as text. -/
def decodeFile (bytes : ByteArray) : Except FileError String :=
  match String.fromUTF8? bytes with
  | some text => .ok text
  | none => .error .notText

/-- A directory: the path of each file below it, with its content. -/
structure Folder where
  files : List (List String × ByteArray)

namespace Folder

/-- The pieces of a text between separators. -/
def pieces (separator : Char) : List Char → List (List Char)
  | [] => [[]]
  | c :: cs =>
    match pieces separator cs with
    | [] => [[c]]
    | piece :: rest => if c = separator then [] :: piece :: rest else (c :: piece) :: rest

/-- The components of a path. -/
def components (path : String) : List String :=
  (pieces '/' path.toList).map String.ofList

/-- A directory that holds files under the given paths. -/
def ofFiles (files : List (String × ByteArray)) : Folder :=
  ⟨files.map fun (path, content) => (components path, content)⟩

/-- The bytes that a name may have. -/
def nameLimit : Nat := 255

/-- The bytes that a path may have. -/
def pathLimit : Nat := 4095

/-- Where a path leads. -/
inductive Place
  /-- A directory above the working directory. -/
  | above
  /-- The place below the working directory that the components lead to. -/
  | below (components : List String)
  deriving DecidableEq, Repr

/-- Whether a place is a directory: the working directory itself, one that lies above a file in it,
or one above it. -/
def isDirectory (folder : Folder) : Place → Bool
  | .above => true
  | .below place =>
    place.isEmpty || folder.files.any fun (path, _) => place.isPrefixOf path && place != path

/-- The content of the file at a place. -/
def content? (folder : Folder) : Place → Option ByteArray
  | .above => none
  | .below place => folder.files.lookup place

/-- The directory above a place. -/
def Place.parent : Place → Place
  | .above | .below [] => .above
  | .below place => .below place.dropLast

/-- The place that a name in a directory stands for. Above the working directory no names are
known. -/
def Place.child? (name : String) : Place → Option Place
  | .above => none
  | .below place => some (.below (place ++ [name]))

/-- Follows components from a place. -/
def walk (folder : Folder) (place : Place) : List String → Except FileError Place
  | [] => .ok place
  | component :: rest =>
    if folder.isDirectory place then
      if component = "" ∨ component = "." then walk folder place rest
      else if component = ".." then walk folder place.parent rest
      else if nameLimit < component.utf8ByteSize then .error .nameTooLong
      else match place.child? component with
        | some child => walk folder child rest
        | none => .error .missing
    else if (folder.content? place).isSome then .error .notDirectory
    else .error .missing

/-- The bytes of a file. A path that begins with a separator begins above the directory. -/
def bytes (folder : Folder) (path : String) : Except FileError ByteArray := do
  if '\x00' ∈ path.toList then throw .endedPath
  if path = "" then throw .missing
  if pathLimit < path.utf8ByteSize then throw .nameTooLong
  let start := if path.toList.head? = some '/' then .above else .below []
  let place ← folder.walk start (components path)
  match folder.content? place with
  | some content => return content
  | none => throw (if folder.isDirectory place then .directory else .missing)

/-- The text of a file. -/
def read (folder : Folder) (path : String) : Except FileError String := do
  decodeFile (← folder.bytes path)

end Folder

end PaymentAllocation
