import Wordsheet.Csv.Reader
import Wordsheet.Files.Search
import Wordsheet.Yaml.Basic

/-! # Tables in files

A table is taken from the files that a path stands for or put into one file. The
header of the row names comes from the settings and may be no text, in which
case no file fits and no table is put into one.
-/

namespace Wordsheet

inductive ImportError where
  | notFound (file : Path)
  /-- Nobody can tell whether there is anything. -/
  | unknown (refusal : FileRefusal)
  | search (cause : SearchError)
  | noData (file : Path)
  /-- The files are no frame for another reason than one being empty. -/
  | malformed (cause : Csv.ReadError)
  | header (header : Yaml) (found : List String)
  | frame (cause : FrameError)
  deriving Repr

inductive ExportError where
  | frame (cause : FrameError)
  | header (header : Yaml)
  | folder (refusal : FileRefusal)
  | nulInFolder
  | isFolder (file : Path)
  | file (refusal : FileRefusal)
  | nulInName (file : Path)
  deriving Repr

def Csv.ReadError.message : Csv.ReadError → String
  | .noFiles => "there are no files"
  | .noData => "empty CSV"
  | .repeatedName => "two columns have one name"
  | .tooManyFields => "a line has more fields than the heading"
  | .openQuote => "a field starts with a quote and ends with none"
  | .invalidText => "a field is not UTF-8"
  | .brokenLines => "there are not as many records as lines"
  | .unlikeHeadings => "the files have different headings"

def SearchError.message : SearchError → String
  | .badPattern => "the path is no pattern"
  | .mixedEndings => "the files in the folder have different endings"

def ImportError.message : ImportError → String
  | .notFound file => s!"No such file: {file.text}"
  | .unknown refusal => refusal.message
  | .search cause => cause.message
  | .noData file => s!"CSV file {file.text} is empty"
  | .malformed cause => cause.message
  | .header wanted found =>
      s!"Expected first column {wanted.describe}, found {Text.quotedList found}"
  | .frame cause => cause.message

def nulMessage : String :=
  "embedded null byte"

def headerMessage : Yaml → String
  | .list _ => "unhashable type: 'list'"
  | .mapping _ => "unhashable type: 'dict'"
  | .set _ => "unhashable type: 'set'"
  | .null => "argument 'name': 'NoneType' object is not an instance of 'str'"
  | _ => "Series name must be a string"

def ExportError.message : ExportError → String
  | .frame cause => cause.message
  | .header given => headerMessage given
  | .folder refusal => refusal.message
  | .nulInFolder => nulMessage
  | .isFolder path => s!"expected a file path; {Text.quoted path.text} is a directory"
  | .file refusal =>
      s!"{refusal.cause.text} (os error {refusal.cause.number}): {refusal.path.shownText}"
  | .nulInName path => s!"file name contained an unexpected NUL byte: {path.shownText}"

namespace Table

/-- What a table is called that is taken from a path: by a name if one is given, or the path. -/
def importName (file : Path) (name : Option String) : String :=
  match name with
  | none | some "" => file.stem
  | some name => name

def frameFrom (store : Store) (file : Path) : Except ImportError Frame := do
  let files ← (store.filesFor file).mapError .search
  match Frame.ofFiles files with
  | .ok frame => return frame
  | .error .noData => throw (.noData file)
  | .error cause => throw (.malformed cause)

def importFrom (store : Store) (file : Path) (name : Option String) (header : Yaml) :
    Except ImportError Table :=
  match store.read file with
  | .error .nameTooLong => .error (.unknown ⟨file, .nameTooLong⟩)
  | .error .notFound | .error .notFolder | .error .exists => .error (.notFound file)
  | .error .isFolder | .ok _ => do
      let frame ← frameFrom store file
      match header with
      | .text header => (frame.toTable (importName file name) header).mapError .frame
      | other => throw (.header other (frame.names.take 1))

def putFrame (frame : Frame) (store : Store) (file : Path) : Except ExportError Store :=
  if store.isFolder file then .error (.isFolder file)
  else if file.hasNul then .error (.nulInName file)
  else (store.write file frame.toCsv).mapError fun cause => .file ⟨file, cause⟩

/-- Puts a table into a file, whose folder is made. The store after it has the folders that were
made also if the table is not put there. -/
def exportTo (t : Table) (store : Store) (file : Path) (header : Yaml) :
    Store × Option ExportError :=
  match header with
  | .text header =>
      match t.toFrame header with
      | .error cause => (store, some (.frame cause))
      | .ok frame =>
          if file.parent.hasNul then (store, some .nulInFolder)
          else
            match store.makeFolders file.parent with
            | (store, some refusal) => (store, some (.folder refusal))
            | (store, none) =>
                match putFrame frame store file with
                | .ok store => (store, none)
                | .error cause => (store, some cause)
  | other => (store, some (.header other))

end Table

end Wordsheet
