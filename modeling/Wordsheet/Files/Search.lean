import Wordsheet.Files.Pattern
import Wordsheet.Files.Store

/-! # Files that a path stands for

Where files are to be read, a path to a folder stands for all files beneath it
that hold anything: those of the folder first, then those of the folders in it,
and so on, names in order. Another path that is a pattern stands for the files
that fit it and hold anything, and any other path for the file it leads to.
-/

namespace Wordsheet

inductive SearchError where
  | badPattern
  | mixedEndings
  deriving DecidableEq, Repr

namespace Store

/-! ## Below a folder -/

def placeLE (p q : List String) : Bool :=
  !decide (q < p)

/-- The places beneath a folder, what is in a folder right after the folder. -/
def placesBeneath (s : Store) (folder : List String) : List (List String) :=
  let places := s.entries.entries.map Entry.place
  (places.filter fun place => place != folder && folder.isPrefixOf place).mergeSort placeLE

def placesIn (s : Store) (folder : List String) : List (List String) :=
  (s.placesBeneath folder).filter fun place => place.length = folder.length + 1

def byDepth (places : List (List String)) : List (List String) :=
  places.mergeSort fun p q => p.length ≤ q.length

/-! ## By a pattern -/

/-- The folder above a folder and the folder itself, as far as their points fit signs that start
with a point. -/
def dottedPlaces (folder : List String) (signs : List Pattern.Sign) : List (List String) :=
  if signs.head? = some (.exactly '.') then
    (if Pattern.fits signs ['.', '.'] then [folder.dropLast] else [])
      ++ if Pattern.fits signs ['.'] then [folder] else []
  else []

def placesFitting (s : Store) (folder : List String) (signs : List Pattern.Sign) :
    List (List String) :=
  dottedPlaces folder signs
    ++ (s.placesIn folder).filter fun place => Pattern.fits signs (place.getLast?.getD "").toList

/-- The places to which steps lead from a place. Steps that end with any depth lead to folders
only, which are left out. -/
def find (s : Store) (here : List String) : List Pattern.Step → List (List String)
  | [] => [here]
  | .named name :: rest =>
      let next := if name == ".." then here.dropLast else here ++ [name]
      if s.isFolderAt here && (s.isFolderAt next || (s.entryAt? next).isSome) then s.find next rest
      else []
  | .fitting signs :: rest =>
      if s.isFolderAt here then (s.placesFitting here signs).flatMap fun place => s.find place rest
      else []
  -- two steps of any depth lead no further than one
  | .anyDepth :: .anyDepth :: rest => s.find here (.anyDepth :: rest)
  | [.anyDepth] => []
  | .anyDepth :: step :: rest =>
      ((s.placesBeneath here).filter fun place => step.fits (place.getLast?.getD "")).flatMap
        fun place => s.find place rest

/-! ## Files -/

/-- The bytes of the files at some places, folders and empty files left out. -/
def contents (s : Store) (places : List (List String)) : List (List UInt8) :=
  (places.filterMap fun place => (s.entryAt? place).bind (·.content)).filter (! ·.isEmpty)

def haveMixedEndings (s : Store) (places : List (List String)) : Bool :=
  let held := places.filter fun place => !(s.contents [place]).isEmpty
  let endings := held.map fun place => Path.endingOf (place.getLast?.getD "").toList
  endings.any fun ending => endings.head? != some ending

/-- The files that a path stands for, the path leading to something. -/
def filesFor (s : Store) (p : Path) : Except SearchError (List (List UInt8)) :=
  if s.isFolder p then
    let places := byDepth ((s.place p).toOption.elim [] s.placesBeneath)
    if !p.isPattern && s.haveMixedEndings places then .error .mixedEndings
    else .ok (s.contents places)
  else if p.isPattern then
    match p.steps? with
    | none => .error .badPattern
    | some steps => .ok (s.contents (s.find (s.start p) steps))
  else .ok (s.read p).toOption.toList

end Store

end Wordsheet
