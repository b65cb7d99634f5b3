import Wordsheet.Files.Store
import Wordsheet.Settings
import Wordsheet.Text.Lines
import Wordsheet.Text.Utf8
import Wordsheet.Yaml.Reader

/-! # Projects

A project is a folder that may hold a settings file. Its settings are read from
there, and a new project is given a file with the default settings.
-/

namespace Wordsheet

inductive TextError where
  | file (refusal : FileRefusal)
  | malformed (cause : Text.Utf8.DecodeError)
  deriving DecidableEq, Repr

def TextError.message : TextError → String
  | .file refusal => refusal.message
  | .malformed cause => cause.message

/-- The text of a file, every kind of line end read as a line feed. -/
def Store.readText (s : Store) (p : Path) : Except TextError (List Char) := do
  let bytes ← (s.read p).mapError fun cause => .file ⟨p, cause⟩
  return Text.joinReturns (← (Text.Utf8.decode bytes).mapError .malformed)

inductive ProjectError where
  | text (cause : TextError)
  | settings (cause : SettingsError)
  /-- The settings file spells a number or a date that there is not. -/
  | noValue (message : String)
  deriving DecidableEq, Repr

namespace Project

def settingsFile (folder : Path) : Path :=
  folder.child "nlsheet.yaml"

/-- The settings of a project, or the defaults if there is none or it has no settings file. -/
def settings (s : Store) (folder : Option Path) : Except ProjectError Settings :=
  match folder with
  | none => .ok Settings.defaults
  | some folder =>
      let file := settingsFile folder
      if s.exists? file then do
        let text ← (s.readText file).mapError .text
        match Yaml.read text with
        | .ok document => (Settings.ofDocument file.text (some document)).mapError .settings
        | .error .malformed => (Settings.ofDocument file.text none).mapError .settings
        | .error (.noValue message) => .error (.noValue message)
      else .ok Settings.defaults

/-- Gives a project the default settings file unless it has one; its folder is made. The store after
it has the folders that were made also if no file is written. -/
def initialise (s : Store) (folder : Path) : Store × Option FileRefusal :=
  match s.makeFolders folder with
  | (s, some refusal) => (s, some refusal)
  | (s, none) =>
      let file := settingsFile folder
      if s.exists? file then (s, none)
      else
        match s.write file (Text.Utf8.encode Settings.defaultFile.toList) with
        | .ok s => (s, none)
        | .error cause => (s, some ⟨file, cause⟩)

end Project

end Wordsheet
