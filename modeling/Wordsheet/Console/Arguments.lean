import Wordsheet.Files.Store

/-! # Arguments

The arguments of the program name one of four tasks and its options. Options may
stand before, between and after the other arguments; after two dashes nothing is
an option. An option with a value takes it from behind an equals sign or from
the next argument, whatever that is, and the last one of a repeated option
counts. Paths that have to exist are looked up before anything is done.
-/

namespace Wordsheet.Console

inductive Task where
  | version
  | usage
  | initialise (folder : String)
  | prompt (project : Option String)
  | script (file : String) (project : Option String) (keepGoing : Bool)
  | evaluate (expression : String) (table project : Option String)
  deriving DecidableEq, Repr

/-! ## Options -/

inductive OptionKind where
  | flag
  | valued
  deriving DecidableEq, Repr

/-- Arguments sorted into options and others, in order. -/
structure Sorted where
  options : List (String × String) := []
  others : List String := []
  deriving DecidableEq, Repr

def Sorted.option (s : Sorted) (name value : String) : Sorted :=
  { s with options := (name, value) :: s.options }

/-- Whether an argument is an option: a dash with something behind it. -/
def isOption (argument : String) : Bool :=
  match argument.toList with
  | '-' :: _ :: _ => true
  | _ => false

def cutAtEquals (argument : String) : String × Option String :=
  let cs := argument.toList
  match cs.dropWhile (· != '=') with
  | [] => (argument, none)
  | _ :: value => (String.ofList (cs.takeWhile (· != '=')), some (String.ofList value))

/-- Sorts arguments, given the options that there are; nothing if one is unknown, has a value it
does not take, or lacks one. With `mixed` options may follow other arguments. -/
def sort (known : List (String × OptionKind)) (mixed : Bool) : List String → Option Sorted
  | [] => some {}
  | "--" :: rest => some { others := rest }
  | argument :: rest =>
      if isOption argument then
        let (name, value) := cutAtEquals argument
        let kind : Option OptionKind := (known.find? fun option => option.1 == name).map (·.2)
        match kind, value, rest with
        | some .flag, none, rest => (sort known mixed rest).map (·.option name "")
        | some .valued, some value, rest => (sort known mixed rest).map (·.option name value)
        | some .valued, none, value :: rest => (sort known mixed rest).map (·.option name value)
        | _, _, _ => none
      else if mixed then
        (sort known mixed rest).map fun s => { s with others := argument :: s.others }
      else some { others := argument :: rest }

def Sorted.has (s : Sorted) (name : String) : Bool :=
  s.options.any (·.1 == name)

/-- The last value of an option. -/
def Sorted.value? (s : Sorted) (name : String) : Option String :=
  (s.options.reverse.find? (·.1 == name)).map (·.2)

/-! ## Tasks -/

def taskOptions : String → List (String × OptionKind)
  | "repl" => [("--help", .flag), ("--project", .valued)]
  | "run" => [("--help", .flag), ("--project", .valued), ("--keep-going", .flag)]
  | "eval" => [("--help", .flag), ("--project", .valued), ("--csv", .valued)]
  | _ => [("--help", .flag)]

def taskOf? (name : String) (arguments : Sorted) : Option Task :=
  match name, arguments.others with
  | "init", [folder] => some (.initialise folder)
  | "repl", [] => some (.prompt (arguments.value? "--project"))
  | "run", [file] =>
      some (.script file (arguments.value? "--project") (arguments.has "--keep-going"))
  | "eval", [expression] =>
      some (.evaluate expression (arguments.value? "--csv") (arguments.value? "--project"))
  | _, _ => none

def taskNames : List String :=
  ["init", "repl", "run", "eval"]

def task? (arguments : List String) : Option Task := do
  let general ← sort [("--help", .flag), ("--version", .flag)] false arguments
  match general.options with
  | ("--version", _) :: _ => return .version
  | _ :: _ => return .usage
  | [] =>
      match general.others with
      | [] => none
      | name :: rest =>
          if taskNames.contains name then
            let sorted ← sort (taskOptions name) true rest
            if sorted.has "--help" then return .usage else taskOf? name sorted
          else none

/-! ## Paths -/

def Task.paths : Task → List Path
  | .version | .usage => []
  | .initialise folder => [Path.ofText folder]
  | .prompt project => (project.map Path.ofText).toList
  | .script file project _ => Path.ofText file :: (project.map Path.ofText).toList
  | .evaluate _ table project =>
      (table.map Path.ofText).toList ++ (project.map Path.ofText).toList

def Task.hasNul (t : Task) : Bool :=
  t.paths.any Path.hasNul

/-- Whether a file that is named can be used; a dash is let pass. -/
def fileFits (s : Store) (file : String) : Bool :=
  file == "-" || (file != "" && s.isFile (Path.ofText file))

def folderFits (s : Store) (folder : String) : Bool :=
  folder != "" && s.isFolder (Path.ofText folder)

def Task.fits (s : Store) : Task → Bool
  | .version | .usage | .initialise _ => true
  | .prompt project => project.all (folderFits s)
  | .script file project _ => fileFits s file && project.all (folderFits s)
  | .evaluate _ table project => table.all (fileFits s) && project.all (folderFits s)

end Wordsheet.Console
