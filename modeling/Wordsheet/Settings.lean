import Wordsheet.Formula.Engine
import Wordsheet.Yaml.Basic

/-! # Settings

A project may have a settings file. Its top level is laid over the defaults, and
a block named `formulas` over that: the block's `marker`, `strict_tokens` and
`constants` stand for settings of their own. The settings say how a formula is
marked, what the engine knows at first and how it reads, what the column of row
names is called in a file, and whether events are recorded.
-/

namespace Wordsheet

structure Settings where
  fields : List (Yaml × Yaml)
  deriving Repr

inductive SettingsError where
  | unreadable (file : String)
  | noMapping (file : String) (kind : String)
  | constantsNoMapping
  deriving DecidableEq, Repr

def SettingsError.message : SettingsError → String
  | .unreadable file => s!"{file}: invalid YAML"
  | .noMapping file kind => s!"{file}: expected a mapping at the top level, got {kind}"
  | .constantsNoMapping => "'constants' must be a mapping of name to number"

namespace Settings

/-! ## Merging -/

def defaults : Settings :=
  ⟨[(.text "formula_marker", .text "="), (.text "strict_tokens", .bool false),
    (.text "constants", .mapping []), (.text "csv_row_header", .text "row"),
    (.text "logging_enabled", .bool true), (.text "logging_fsync", .bool false)]⟩

def get? (s : Settings) (name : String) : Option Yaml :=
  Yaml.fieldIn? s.fields name

def put (s : Settings) (name : String) (value : Yaml) : Settings :=
  ⟨Yaml.putField (.text name) value s.fields⟩

def overlay (s : Settings) (fields : List (Yaml × Yaml)) : Settings :=
  ⟨fields.foldl (fun merged field => Yaml.putField field.1 field.2 merged) s.fields⟩

/-- The names in the block of formula settings and the settings that they stand for. -/
def blockNames : List (String × String) :=
  [("marker", "formula_marker"), ("strict_tokens", "strict_tokens"), ("constants", "constants")]

/-- The block of formula settings taken apart: its entries are laid over the rest. -/
def flatten (fields : List (Yaml × Yaml)) : List (Yaml × Yaml) :=
  let rest := Yaml.eraseField fields "formulas"
  match Yaml.fieldIn? fields "formulas" with
  | some (.mapping block) =>
      blockNames.foldl (fun merged (short, name) =>
        match Yaml.fieldIn? block short with
        | some value => Yaml.putField (.text name) value merged
        | none => merged) rest
  | _ => rest

/-- The top level of a document: one that is nothing, zero or empty counts as an empty mapping. -/
def topLevel (file : String) (document : Yaml) : Except SettingsError (List (Yaml × Yaml)) :=
  -- what counts as false is not asked for its kind
  if !document.isTrue then .ok []
  else
    match document with
    | .mapping fields => .ok fields
    | other => .error (.noMapping file other.kindName)

/-- Settings in which the constants are a mapping, an empty one if they were nothing. -/
def withConstants (s : Settings) : Except SettingsError Settings :=
  match s.get? "constants" with
  | some (.mapping _) => .ok s
  | some .null | none => .ok (s.put "constants" (.mapping []))
  | some _ => .error .constantsNoMapping

def ofDocument (file : String) (document : Option Yaml) : Except SettingsError Settings := do
  match document with
  | none => throw (.unreadable file)
  | some document =>
      let fields ← topLevel file document
      (defaults.overlay (flatten fields)).withConstants

/-! ## Single settings -/

def marker (s : Settings) : String :=
  match s.get? "formula_marker" with
  | some value => if value.isTrue then value.asText else "="
  | none => "="

def isOn (s : Settings) (name : String) : Bool :=
  (s.get? name).any Yaml.isTrue

/-- What the column of row names is called in a file; it may be no text. -/
def rowHeader (s : Settings) : Yaml :=
  (s.get? "csv_row_header").getD (.text "row")

def recordsEvents (s : Settings) : Bool :=
  ((s.get? "logging_enabled").getD (.bool true)).isTrue

/-! ## The engine -/

inductive EngineError where
  | constantNoNumber (name value : Yaml)
  | constantTooLarge
  | badName (cause : Formula.Error)
  /-- The message of a refusal would show a whole number of too many digits. -/
  | tooManyDigits
  /-- The constants count as true but are no mapping. -/
  | noConstants (kind : String)
  deriving Repr

def EngineError.message : EngineError → String
  | .constantNoNumber name value =>
      s!"Constant {name.describe} must be a number, got {value.describe}"
  | .constantTooLarge => "int too large to convert to float"
  | .badName cause => cause.message
  | .tooManyDigits => Decimal.limitMessage none
  | .noConstants kind => s!"'{kind}' object has no attribute 'items'"

/-- A refusal whose message shows some values, or that one of them cannot be shown. -/
def EngineError.showing (shown : List Yaml) (cause : EngineError) : EngineError :=
  if shown.all Yaml.isShowable then cause else .tooManyDigits

def nearest (n : Int) : Float :=
  (⟨n < 0, n.natAbs, 0⟩ : Decimal).toFloat

/-- The double that the value of a constant is; a whole number may be too large for one. -/
def constantValue (name value : Yaml) : Except EngineError Float :=
  match value with
  | .float x => .ok x
  | .int n => if (nearest n).isInf then .error .constantTooLarge else .ok (nearest n)
  | _ => .error (EngineError.showing [name, value] (.constantNoNumber name value))

def registerConstant (e : Formula.Engine) (name value : Yaml) :
    Except EngineError Formula.Engine := do
  let x ← constantValue name value
  match name with
  | .text name => (e.register name x).mapError .badName
  | other => throw (EngineError.showing [other] (.badName (.invalidConstantName other.asText)))

def constants (s : Settings) : Except EngineError (List (Yaml × Yaml)) :=
  match s.get? "constants" with
  | none => .ok []
  | some (.mapping fields) => .ok fields
  | some other => if other.isTrue then .error (.noConstants other.fullKindName) else .ok []

def engine (s : Settings) : Except EngineError Formula.Engine := do
  let start := { Formula.Engine.standard with strict := s.isOn "strict_tokens" }
  (← s.constants).foldlM (fun e field => registerConstant e field.1 field.2) start

/-! ## The default file -/

def defaultFile : String :=
  "# nlsheet project configuration\n"
    ++ "formulas:\n"
    ++ "  marker: \"=\"\n"
    ++ "  strict_tokens: false\n"
    ++ "  constants: \x7b\x7d\n"
    ++ "# csv_row_header: row\n"
    ++ "# logging_enabled: true\n"
    ++ "# logging_fsync: false\n"

end Settings

end Wordsheet
