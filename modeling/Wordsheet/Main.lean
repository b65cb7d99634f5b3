import Std.Time.DateTime.Timestamp
import Wordsheet.Console.Run
import Wordsheet.EventLog.Clock

/-! # The command line

Runs the program on the files of the disk. What a task may read is put into a
store first; what the store holds afterwards and did not before is written back.
The event log is never read and only ever grows.
-/

namespace Wordsheet.Disk

/-! ## Reading -/

def placeText (place : List String) : String :=
  "/" ++ String.intercalate "/" place

def isFolder (place : List String) : IO Bool := do
  try
    (← IO.FS.realPath (placeText place)).isDir
  catch _ => return false

def loadPlace (s : Store) (place : List String) : IO Store := do
  if ← isFolder place then return s.put ⟨place, none⟩
  try
    let bytes ← IO.FS.readBinFile (placeText place)
    return s.put ⟨place, some bytes.toList⟩
  catch _ => return s

/-- The store with what names lead through on the disk. -/
def loadFrom (s : Store) (here : List String) : List String → IO Store
  | [] => return s
  | name :: rest => do
      if name == ".." then loadFrom s here.dropLast rest
      else
        let next := here ++ [name]
        loadFrom (← loadPlace s next) next rest

def load (s : Store) (p : Path) : IO Store :=
  loadFrom s (s.start p) p.names

def namesIn (folder : List String) : IO (List String) := do
  try
    let entries ← (← IO.FS.realPath (placeText folder)).readDir
    return (entries.map (·.fileName)).toList
  catch _ => return []

partial def loadBeneath (s : Store) (folder : List String) : IO Store := do
  let loadName (s : Store) (name : String) : IO Store := do
    let place := folder ++ [name]
    let s ← loadPlace s place
    if s.isFolderAt place then loadBeneath s place else return s
  (← namesIn folder).foldlM loadName s

def loadFitting (s : Store) (folder : List String) : List Pattern.Step → IO Store
  | [] => return s
  | .named name :: rest => do
      let next := if name == ".." then folder.dropLast else folder ++ [name]
      loadFitting (← loadPlace s next) next rest
  | .fitting signs :: rest => do
      let fit := (← namesIn folder).filter fun name => Pattern.fits signs name.toList
      let next := Store.dottedPlaces folder signs ++ fit.map fun name => folder ++ [name]
      next.foldlM (fun s place => do loadFitting (← loadPlace s place) place rest) s
  | .anyDepth :: _ => loadBeneath s folder

def loadFilesFor (s : Store) (p : Path) : IO Store := do
  let s ← load s p
  if s.isFolder p then loadBeneath s ((s.place p).toOption.getD [])
  else if p.isPattern then loadFitting s (s.start p) (p.steps?.getD [])
  else return s

def loadProject (s : Store) (project : Option String) : IO Store := do
  match project with
  | none => return s
  | some folder =>
      let folder := Path.ofText folder
      load (← load s (Project.settingsFile folder)) (folder.child "logs")

/-- The store with the files that a line may read or write. -/
def loadForLine (s : Store) (base : Path) (line : String) : IO Store :=
  match Command.parse? line with
  | some (.importTable file) => loadFilesFor s (base.join (Path.ofText file))
  | some (.exportTable file) => load s (base.join (Path.ofText file))
  | _ => return s

/-! ## Writing -/

/-- Writes an entry of a store that differs from what was there before. -/
def saveEntry (before : Store) (log : Option (List String)) (e : Entry) : IO Unit := do
  let old := (before.entryAt? e.place).map (·.content)
  if old == some e.content then return
  match e.content with
  | none => IO.FS.createDirAll (placeText e.place)
  | some bytes =>
      if log == some e.place then
        let known := ((old.bind id).getD []).length
        let handle ← IO.FS.Handle.mk (placeText e.place) .append
        handle.write ⟨(bytes.drop known).toArray⟩
      else IO.FS.writeBinFile (placeText e.place) ⟨bytes.toArray⟩

def save (before after : Store) (log : Option (List String)) : IO Unit :=
  after.entries.entries.forM (saveEntry before log)

def logPlace (s : Store) (project : Option String) : Option (List String) :=
  project.bind fun folder => (s.place (logFile (Path.ofText folder))).toOption

/-! ## Printing -/

def print (printed : List Console.Printed) : IO Unit :=
  printed.forM fun p =>
    match p.channel with
    | .output => do
        IO.print p.text
        (← IO.getStdout).flush
    | .errors => IO.eprint p.text

def now : IO Moment := do
  let nanoseconds := (← Std.Time.Timestamp.now).toNanosecondsSinceUnixEpoch.val
  let milliseconds ← IO.monoMsNow
  return ⟨EventLog.timeText (nanoseconds.toNat / 1000), Float.ofNat milliseconds / 1000.0⟩

/-! ## Tasks -/

def finish (before : Store) (project : Option String) (t : Console.Transcript) : IO UInt32 := do
  print t.printed
  save before t.store (logPlace t.store project)
  match t.failure with
  | some cause => IO.eprintln cause.message
  | none => pure ()
  return t.status.toUInt32

def deskForLine (desk : Console.Desk) (line : String) : IO Console.Desk := do
  let store ← loadForLine desk.session.store desk.session.base line
  return { desk with session := { desk.session with store } }

/-- Runs lines as they are typed until the user leaves. -/
partial def converse (project : Option String) (desk : Console.Desk) : IO UInt32 := do
  print [⟨.output, "> "⟩]
  let line ← (← IO.getStdin).getLine
  if line.isEmpty then
    print [Console.printLine .output Console.goodbye]
    return 0
  let line := String.ofList (line.toList.filter fun c => c != '\n' && c != '\r')
  let desk ← deskForLine desk line
  let r := desk.runPrompt false [(← now, line)]
  print r.printed
  save desk.session.store r.desk.session.store (logPlace desk.session.store project)
  match r.ending with
  | .open => converse project r.desk
  | .left =>
      print [Console.printLine .output Console.goodbye]
      return 0
  | .aborted cause =>
      IO.eprintln cause.message
      return 1

/-- Runs the lines of a script one by one after some refused ones. What they print and write is out
before the run ends, so that only its end is left to be told. -/
def runLines (project : Option String) (keepGoing : Bool) (desk : Console.Desk) (refused : Nat) :
    List (Nat × String) → IO Console.Desk.ScriptRun
  | [] => return ⟨desk, [], .finished refused⟩
  | line :: rest => do
      let desk ← deskForLine desk line.2
      let moment ← now
      let r := desk.runScript (fun _ => moment) keepGoing refused [line]
      print r.printed
      save desk.session.store r.desk.session.store (logPlace desk.session.store project)
      match r.ending with
      | .finished refused => runLines project keepGoing r.desk refused rest
      | _ => return { r with printed := [] }

def runScriptFile (file : String) (project : Option String) (keepGoing : Bool)
    (desk : Console.Desk) : IO UInt32 := do
  let store := desk.session.store
  match store.readText (Path.ofText file) with
  | .error cause => finish store project (Console.failed store [] (.text cause))
  | .ok text =>
      let r ← runLines project keepGoing desk 0 (Console.Desk.scriptLines text)
      finish r.desk.session.store project (r.transcript file)

def atDesk (s : Store) (project : Option String) (work : Console.Desk → IO UInt32) : IO UInt32 :=
  match Console.Desk.setUp s (project.map Path.ofText) with
  | .ok desk => do
      save s desk.session.store none
      work desk
  | .error (.refused message) => do
      IO.eprintln s!"Error: Invalid configuration: {message}"
      return 1
  | .error (.failed cause) => do
      IO.eprintln cause.message
      return 1

def prepare (s : Store) (task : Console.Task) : IO (Store × Option String) := do
  match task with
  | .version | .usage => return (s, none)
  | .initialise folder => return (← load s (Project.settingsFile (Path.ofText folder)), none)
  | .prompt project => return (← loadProject s project, project)
  | .evaluate _ table project => do
      let s ← loadProject s project
      match table with
      | none => return (s, project)
      | some file => return (← loadFilesFor s (Path.ofText file), project)
  | .script file project _ => return (← load (← loadProject s project) (Path.ofText file), project)

/-- Runs a task. Lines of a script or at the prompt are run one by one, each at its own moment. -/
def runTask (s : Store) (arguments : List String) (task : Console.Task) : IO UInt32 := do
  let (s, project) ← prepare s task
  let ready := !task.hasNul && task.fits s
  match ready, task with
  | true, .prompt _ =>
      atDesk s project fun desk => do
        print [Console.printLine .output Console.welcome]
        converse project desk
  | true, .script file _ keepGoing => atDesk s project (runScriptFile file project keepGoing)
  | _, _ =>
      let moment ← now
      let t := Console.run s (fun _ => moment) arguments []
      if t.status == 2 then misused else finish s project t
where
  /-- What happens if the arguments mean no task. -/
  misused : IO UInt32 := do
    IO.eprintln Console.usage
    return 2

end Wordsheet.Disk

def main (arguments : List String) : IO UInt32 := do
  let here := (Wordsheet.Path.ofText (← IO.currentDir).toString).names
  let store := Wordsheet.Store.empty here
  match Wordsheet.Console.task? arguments with
  | some task => Wordsheet.Disk.runTask store arguments task
  | none => do
      IO.eprintln Wordsheet.Console.usage
      return 2
