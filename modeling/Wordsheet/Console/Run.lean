import Wordsheet.Console.Arguments
import Wordsheet.Console.Desk

/-! # The program

What a run of the program leads to, given its arguments, its input and the files
there are: what it prints, the files afterwards, and its exit status, which is
zero if all went well, one if something did not, and two if the arguments mean
no task.
-/

namespace Wordsheet.Console

structure Transcript where
  printed : List Printed
  status : Nat
  store : Store
  /-- Why the run ended, if it did not say so itself. -/
  failure : Option Failure := none

def versionLine : String :=
  "nlsheet, version 0.3.0"

def usage : String :=
  "Usage: nlsheet init DIRECTORY\n"
    ++ "       nlsheet repl [--project DIRECTORY]\n"
    ++ "       nlsheet run SCRIPT [--project DIRECTORY] [--keep-going]\n"
    ++ "       nlsheet eval EXPRESSION [--csv FILE] [--project DIRECTORY]\n"
    ++ "       nlsheet --version"

def welcome : String :=
  "Welcome to nlsheet! Type 'help' for commands, 'exit' to quit."

def goodbye : String :=
  "Goodbye!"

def finished (store : Store) (printed : List Printed) : Transcript :=
  ⟨printed, 0, store, none⟩

def refused (store : Store) (printed : List Printed) (message : String) : Transcript :=
  ⟨printed ++ [printLine .errors s!"Error: {message}"], 1, store, none⟩

def failed (store : Store) (printed : List Printed) (cause : Failure) : Transcript :=
  ⟨printed, 1, store, some cause⟩

def atDesk (store : Store) (project : Option String) (run : Desk → Transcript) : Transcript :=
  match Desk.setUp store (project.map Path.ofText) with
  | .ok desk => run desk
  | .error (.refused message) => refused store [] s!"Invalid configuration: {message}"
  | .error (.failed cause) => failed store [] cause

/-! ## The tasks -/

def runInitialise (store : Store) (folder : String) : Transcript :=
  let folder := Path.ofText folder
  match Project.initialise store folder with
  | (store, none) =>
      finished store [printLine .output s!"Config at {(Project.settingsFile folder).text}"]
  | (store, some refusal) => failed store [] (.file refusal)

def Desk.ScriptRun.transcript (file : String) (r : Desk.ScriptRun) : Transcript :=
  let store := r.desk.session.store
  match r.ending with
  | .finished 0 => finished store r.printed
  | .finished count => refused store r.printed s!"{count} command(s) failed"
  | .stopped number line => refused store r.printed s!"{file}:{number}: command failed: {line}"
  | .aborted cause => failed store r.printed (.command cause)

def runScriptFile (store : Store) (now : Nat → Moment) (file : String) (project : Option String)
    (keepGoing : Bool) : Transcript :=
  atDesk store project fun desk =>
    match desk.session.store.readText (Path.ofText file) with
    | .error cause => failed desk.session.store [] (.text cause)
    | .ok text => (desk.runScript now keepGoing 0 (Desk.scriptLines text)).transcript file

/-- Runs the lines of an input at the prompt, each at the moment that goes with its place. -/
def runPromptInput (store : Store) (now : Nat → Moment) (project : Option String)
    (input : List Char) : Transcript :=
  atDesk store project fun desk =>
    let lines := inputLines [] (Text.joinReturns input)
    let r := desk.runPrompt true (lines.mapIdx fun place line => (now (place + 1), line))
    let store := r.desk.session.store
    let printed := printLine .output welcome :: r.printed
    match r.ending with
    | .open => finished store (printed ++ [⟨.output, "> "⟩, printLine .output goodbye])
    | .left => finished store (printed ++ [printLine .output goodbye])
    | .aborted cause => failed store printed (.command cause)
where
  /-- The lines of an input between line feeds; the current one begins with `line`, in reverse. -/
  inputLines (line : List Char) : List Char → List String
    | [] => if line.isEmpty then [] else [String.ofList line.reverse]
    | c :: rest =>
        if c == '\n' then String.ofList line.reverse :: inputLines [] rest
        else inputLines (c :: line) rest

/-- The table that references of a single formula are looked up in. -/
def referenceTable (desk : Desk) (file : Option String) : Except ImportError (Option Table) :=
  match file with
  | none => .ok none
  | some file =>
      (Table.importFrom desk.session.store (Path.ofText file) none
        desk.session.settings.rowHeader).map some

def runEvaluate (store : Store) (expression : String) (table project : Option String) :
    Transcript :=
  atDesk store project fun desk =>
    let store := desk.session.store
    match referenceTable desk table with
    | .error (.noData file) => refused store [] (ImportError.noData file).message
    | .error (.header wanted found) => refused store [] (ImportError.header wanted found).message
    | .error (.frame cause) => refused store [] cause.message
    | .error cause => failed store [] (.table cause)
    | .ok table =>
        let formula := (Session.afterMark? desk.session.settings.marker expression).getD expression
        match desk.session.engine.evaluate formula table with
        | .ok value => finished store [printLine .output (plainText value)]
        | .error (.error cause) => refused store [] s!"{cause.code}: {cause.message}"
        | .error (.fault cause) => failed store [] (.command (.fault cause))

/-- What a run of the program leads to. The lines that it runs, of a script or at the prompt, are
counted from one on, and each has its own moment. -/
def run (store : Store) (now : Nat → Moment) (arguments : List String) (input : List Char) :
    Transcript :=
  match task? arguments with
  | none => ⟨[], 2, store, none⟩
  | some task =>
      if task.hasNul then failed store [] .nulInPath
      else if !task.fits store then ⟨[], 2, store, none⟩
      else
        match task with
        | .version => finished store [printLine .output versionLine]
        | .usage => finished store [printLine .output usage]
        | .initialise folder => runInitialise store folder
        | .prompt project => runPromptInput store now project input
        | .script file project keepGoing => runScriptFile store now file project keepGoing
        | .evaluate expression table project => runEvaluate store expression table project

end Wordsheet.Console
