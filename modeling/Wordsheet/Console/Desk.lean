import Wordsheet.Console.Printed
import Wordsheet.EventLog.Recorder
import Wordsheet.Project
import Wordsheet.Session.Run

/-! # Desks

A desk is a session with a recorder for its notices. A line that is run on it
prints the reply: its message, on the errors if the command is refused, and its
output. A script is run line by line up to the first refused command, or to its
end if refused commands are only to be counted. At the prompt lines are run until
the user leaves.
-/

namespace Wordsheet.Console

structure Desk where
  session : Session
  recorder : Recorder

inductive Failure where
  | text (cause : TextError)
  | file (refusal : FileRefusal)
  /-- A path among the arguments holds a character that no path may hold. -/
  | nulInPath
  /-- The settings file spells a number or a date that there is not. -/
  | noValue (message : String)
  | table (cause : ImportError)
  | engine (cause : Settings.EngineError)
  | command (cause : Abort)
  deriving Repr

def Failure.message : Failure → String
  | .text cause => cause.message
  | .file refusal => refusal.message
  | .nulInPath => nulMessage
  | .noValue message => message
  | .table cause => cause.message
  | .engine cause => cause.message
  | .command cause => cause.message

/-- Why a desk cannot be set up: the settings are refused, or something fails. -/
inductive SetupError where
  | refused (message : String)
  | failed (cause : Failure)
  deriving Repr

namespace Desk

/-! ## Setting up -/

def configure (store : Store) (project : Option Path) :
    Except SetupError (Settings × Formula.Engine) := do
  let settings ← match Project.settings store project with
    | .ok settings => pure settings
    | .error (.settings cause) => throw (.refused cause.message)
    | .error (.text cause) => throw (.failed (.text cause))
    | .error (.noValue message) => throw (.failed (.noValue message))
  match settings.engine with
  | .ok engine => return (settings, engine)
  | .error (.constantNoNumber name value) =>
      throw (.refused (Settings.EngineError.constantNoNumber name value).message)
  | .error (.badName cause) => throw (.refused cause.message)
  | .error cause => throw (.failed (.engine cause))

/-- A desk for a project, or for the working folder if there is none. Events are recorded in a
project whose settings ask for it. -/
def setUp (store : Store) (project : Option Path) : Except SetupError Desk := do
  let (settings, engine) ← configure store project
  match project with
  | none => return ⟨Session.start settings engine ⟨"/", store.working⟩ store, {}⟩
  | some folder =>
      if settings.recordsEvents then
        match ({} : Recorder).openProject folder store with
        | .ok (recorder, store) => return ⟨Session.start settings engine folder store, recorder⟩
        | .error cause => throw (.failed (.file cause))
      else return ⟨Session.start settings engine folder store, {}⟩

/-! ## Single lines -/

structure Turn where
  desk : Desk
  printed : List Printed
  reply : Except Abort Reply

def echo (reply : Reply) : List Printed :=
  let message :=
    if reply.message == "" then []
    else [printLine (if reply.ok then .output else .errors) reply.message]
  let output :=
    match reply.output with
    | none | some "" => []
    | some output => [printLine .output output]
  message ++ output

def turn (d : Desk) (now : Moment) (line : String) : Turn :=
  let o := d.session.runLine line
  let (recorder, store, warning) := d.recorder.note o.session.store now o.notice
  let warned := warning.toList.map fun text => (⟨.errors, text ++ "\n"⟩ : Printed)
  let replied :=
    match o.reply with
    | .ok reply => echo reply
    | .error _ => []
  ⟨⟨{ o.session with store }, recorder⟩, warned ++ replied, o.reply⟩

/-! ## Scripts -/

/-- The commands of a script: its lines without the blanks around them and with their numbers from
one on, blank lines and comments left out. -/
def scriptLines (text : List Char) : List (Nat × String) :=
  ((Text.lines text).zipIdx 1).filterMap fun (line, number) =>
    match Text.trim line with
    | [] | '#' :: _ => none
    | line => some (number, String.ofList line)

inductive ScriptEnd where
  | finished (refused : Nat)
  | stopped (number : Nat) (line : String)
  | aborted (cause : Abort)
  deriving Repr

structure ScriptRun where
  desk : Desk
  printed : List Printed
  ending : ScriptEnd

/-- Runs numbered lines after some refused ones, each at the moment that goes with its number. -/
def runScript (now : Nat → Moment) (keepGoing : Bool) (d : Desk) (refused : Nat) :
    List (Nat × String) → ScriptRun
  | [] => ⟨d, [], .finished refused⟩
  | (number, line) :: rest =>
      let t := d.turn (now number) line
      match t.reply with
      | .error cause => ⟨t.desk, t.printed, .aborted cause⟩
      | .ok reply =>
          if !reply.ok && !keepGoing then ⟨t.desk, t.printed, .stopped number line⟩
          else
            let after := runScript now keepGoing t.desk
              (if reply.ok then refused else refused + 1) rest
            { after with printed := t.printed ++ after.printed }

/-! ## The prompt -/

def leaves (line : String) : Bool :=
  ["exit", "quit"].contains
    (Text.smallLetters (String.ofList (Text.trim line.toList)))

inductive PromptEnd where
  | open
  | left
  | aborted (cause : Abort)
  deriving Repr

structure PromptRun where
  desk : Desk
  printed : List Printed
  ending : PromptEnd

/-- Runs lines at the prompt, each at its own moment. Before each one the prompt is printed, and the
line itself if it is not seen otherwise. -/
def runPrompt (showLine : Bool) (d : Desk) : List (Moment × String) → PromptRun
  | [] => ⟨d, [], .open⟩
  | (now, line) :: rest =>
      let shown : List Printed := [⟨.output, if showLine then s!"> {line}\n" else ""⟩]
      let goOn (d : Desk) (printed : List Printed) : PromptRun :=
        let after := runPrompt showLine d rest
        { after with printed := printed ++ after.printed }
      if Text.isAllBlank line.toList then goOn d shown
      else if leaves line then ⟨d, shown, .left⟩
      else
        let t := d.turn now line
        match t.reply with
        | .error cause => ⟨t.desk, shown ++ t.printed, .aborted cause⟩
        | .ok _ => goOn t.desk (shown ++ t.printed)

end Desk

end Wordsheet.Console
