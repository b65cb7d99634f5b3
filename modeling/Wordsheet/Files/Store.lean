import Wordsheet.Catalog
import Wordsheet.Files.Path
import Wordsheet.Text.Quoted

/-! # Stores of files

A store holds folders and files by their places, a place being the names from the
root on. A path is resolved name by name: what is passed through has to be a
folder, two dots go back to the folder above, and a relative path starts in the
working folder. Names and whole paths have a greatest length.

A folder is made in the folder that its path leads to, and the folders that are
missing on the way are made first; they stay even if a later one cannot be made.
-/

namespace Wordsheet

/-- A folder, or a file with its bytes. -/
structure Entry where
  place : List String
  content : Option (List UInt8)
  deriving DecidableEq, Repr

/-- The place of an entry as one text; names hold no slash. -/
def Entry.key (e : Entry) : String :=
  String.intercalate "/" e.place

/-- Folders and files, and the folder in which relative paths start. -/
structure Store where
  entries : Catalog Entry Entry.key
  working : List String

inductive FileError where
  | notFound
  | exists
  | notFolder
  | isFolder
  | nameTooLong
  deriving DecidableEq, Repr

namespace FileError

def number : FileError → Nat
  | .notFound => 2
  | .exists => 17
  | .notFolder => 20
  | .isFolder => 21
  | .nameTooLong => 36

def name : FileError → String
  | .notFound => "FileNotFoundError"
  | .exists => "FileExistsError"
  | .notFolder => "NotADirectoryError"
  | .isFolder => "IsADirectoryError"
  | .nameTooLong => "OSError"

def text : FileError → String
  | .notFound => "No such file or directory"
  | .exists => "File exists"
  | .notFolder => "Not a directory"
  | .isFolder => "Is a directory"
  | .nameTooLong => "File name too long"

def describe (e : FileError) : String :=
  s!"{e.name}({e.number}, {Text.quoted e.text})"

def message (e : FileError) (path : String) : String :=
  s!"[Errno {e.number}] {e.text}: {Text.quoted path}"

end FileError

/-- A path with which a store cannot do something, and why. -/
structure FileRefusal where
  path : Path
  cause : FileError
  deriving DecidableEq, Repr

def FileRefusal.message (r : FileRefusal) : String :=
  r.cause.message r.path.text

namespace Store

/-! ## Places -/

def empty (working : List String) : Store :=
  let folder (depth : Nat) : Entry := ⟨working.take (depth + 1), none⟩
  ⟨Catalog.ofList Entry.key ((List.range working.length).map folder), working⟩

def entryAt? (s : Store) (place : List String) : Option Entry :=
  s.entries.get? (Entry.key ⟨place, none⟩)

/-- Whether there is a folder at a place; the root is one. -/
def isFolderAt (s : Store) (place : List String) : Bool :=
  place.isEmpty || (s.entryAt? place).any (·.content.isNone)

def enter (s : Store) (here : List String) : Except FileError (List String) :=
  if s.isFolderAt here then .ok here
  else if (s.entryAt? here).isSome then .error .notFolder
  else .error .notFound

def longestName : Nat := 255

/-- The number of bytes that the text of a path does not reach. -/
def pathLimit : Nat := 4096

def resolve (s : Store) (here : List String) : List String → Except FileError (List String)
  | [] => .ok here
  | name :: rest => do
      let folder ← s.enter here
      if name == ".." then s.resolve folder.dropLast rest
      else if longestName < name.utf8ByteSize then throw .nameTooLong
      else s.resolve (folder ++ [name]) rest

def start (s : Store) (p : Path) : List String :=
  if p.anchor == "" then s.working else []

/-- The place of a path; there is none that holds a character which no name may hold. -/
def place (s : Store) (p : Path) : Except FileError (List String) :=
  if p.hasNul then .error .notFound
  else if p.text.utf8ByteSize < pathLimit then s.resolve (s.start p) p.names
  else .error .nameTooLong

/-! ## Questions -/

def isFolder (s : Store) (p : Path) : Bool :=
  match s.place p with
  | .ok place => s.isFolderAt place
  | .error _ => false

def read (s : Store) (p : Path) : Except FileError (List UInt8) := do
  let place ← s.place p
  if s.isFolderAt place then throw .isFolder
  match s.entryAt? place with
  | some ⟨_, some bytes⟩ => return bytes
  | _ => throw .notFound

def isFile (s : Store) (p : Path) : Bool :=
  match s.read p with
  | .ok _ => true
  | .error _ => false

def exists? (s : Store) (p : Path) : Bool :=
  s.isFolder p || s.isFile p

/-! ## Changes -/

def put (s : Store) (e : Entry) : Store :=
  { s with entries := s.entries.put e }

def write (s : Store) (p : Path) (bytes : List UInt8) : Except FileError Store := do
  let place ← s.place p
  if s.isFolderAt place then throw .isFolder
  return s.put ⟨place, some bytes⟩

/-- Adds bytes at the end of a file, which is made if it is not there. -/
def append (s : Store) (p : Path) (bytes : List UInt8) : Except FileError Store := do
  let place ← s.place p
  if s.isFolderAt place then throw .isFolder
  let old := ((s.entryAt? place).bind (·.content)).getD []
  return s.put ⟨place, some (old ++ bytes)⟩

def makeFolder (s : Store) (p : Path) : Except FileError Store := do
  let place ← s.place p
  if p.name == ".." || s.isFolderAt place || (s.entryAt? place).isSome then throw .exists
  else return s.put ⟨place, none⟩

/-- What is left of an error if a folder cannot be made: nothing if it is there. -/
def folderRefusal (s : Store) (p : Path) (cause : FileError) : Option FileRefusal :=
  if cause != .notFound && s.isFolder p then none else some ⟨p, cause⟩

/-- Makes a folder unless it is there, and before it those above it if one of them is missing. -/
def makeFolders (s : Store) (p : Path) : Store × Option FileRefusal :=
  match s.makeFolder p with
  | .ok s => (s, none)
  | .error .notFound =>
      if _top : p.names = [] then (s, some ⟨p, .notFound⟩)
      else
        match s.makeFolders p.parent with
        | (s, some refusal) => (s, some refusal)
        | (s, none) =>
            match s.makeFolder p with
            | .ok s => (s, none)
            | .error cause => (s, s.folderRefusal p cause)
  | .error cause => (s, s.folderRefusal p cause)
termination_by p.names.length
decreasing_by
  have := List.length_pos_iff.2 _top
  simp only [Path.parent, List.length_dropLast]
  omega

end Store

end Wordsheet
