import Wordsheet.Decimal.Layout
import Wordsheet.Text.Quoted
import Wordsheet.Yaml.Binary
import Wordsheet.Yaml.Timestamp

/-! # Settings values

What a settings file can hold: nothing, truth values, whole numbers, doubles,
texts, dates, times, byte strings, lists, mappings and sets. Keys of a mapping are
values too; keys that are equal as numbers are one key, truth values counting as
zero and one.
-/

namespace Wordsheet

inductive Yaml where
  | null
  | bool (value : Bool)
  | int (value : Int)
  | float (value : Float)
  | text (value : String)
  | date (value : Date)
  | time (value : Timestamp)
  | bytes (value : List UInt8)
  | list (items : List Yaml)
  | mapping (fields : List (Yaml × Yaml))
  /-- A set, its items in the order in which they were given. -/
  | set (items : List Yaml)
  deriving Inhabited, Repr

namespace Yaml

/-! ## Keys -/

def asInt? : Yaml → Option Int
  | .bool value => some (if value then 1 else 0)
  | .int value => some value
  | .float value => Decimal.wholeValue? value
  | _ => none

/-- Whether two values are one key. Lists, mappings and sets are no keys. -/
def sameKey (a b : Yaml) : Bool :=
  match a, b with
  | .null, .null => true
  | .text a, .text b => a == b
  | .date a, .date b => a == b
  | .time a, .time b => a.sameInstant b
  | .bytes a, .bytes b => a == b
  | a, b =>
      match a.asInt?, b.asInt? with
      | some a, some b => a == b
      | none, none =>
          match a, b with
          | .float a, .float b => a == b
          | _, _ => false
      | _, _ => false

def isKey : Yaml → Bool
  | .list _ | .mapping _ | .set _ => false
  | _ => true

/-- Gives a key a value: in place if the key is there, else after the others. -/
def putField (key value : Yaml) : List (Yaml × Yaml) → List (Yaml × Yaml)
  | [] => [(key, value)]
  | field :: rest =>
      if field.1.sameKey key then (field.1, value) :: rest else field :: putField key value rest

/-- The fields in order, the last value of a repeated key in the place of the first. -/
def fieldsOf (given : List (Yaml × Yaml)) : List (Yaml × Yaml) :=
  given.foldl (fun fields field => putField field.1 field.2 fields) []

def fieldIn? (fields : List (Yaml × Yaml)) (name : String) : Option Yaml :=
  (fields.find? fun field => field.1.sameKey (.text name)).map (·.2)

def eraseField (fields : List (Yaml × Yaml)) (name : String) : List (Yaml × Yaml) :=
  fields.filter fun field => !field.1.sameKey (.text name)

/-! ## Values in messages -/

mutual

/-- A value as it is shown inside a message. In which order the items of a set are shown is not laid
down anywhere; here it is the order in which they were given. -/
def describe : Yaml → String
  | .null => "None"
  | .bool value => if value then "True" else "False"
  | .int value => toString value
  | .float value => fullText value
  | .text value => Text.quoted value
  | .date value => s!"datetime.date({value.year}, {value.month}, {value.day})"
  | .time value => value.describe
  | .bytes value => describeBytes value
  | .list items => "[" ++ String.intercalate ", " (describeItems items) ++ "]"
  | .mapping fields => "\x7b" ++ String.intercalate ", " (describeFields fields) ++ "\x7d"
  | .set [] => "set()"
  | .set items => "\x7b" ++ String.intercalate ", " (describeItems items) ++ "\x7d"

def describeItems : List Yaml → List String
  | [] => []
  | item :: rest => describe item :: describeItems rest

def describeFields : List (Yaml × Yaml) → List String
  | [] => []
  | (key, value) :: rest => (describe key ++ ": " ++ describe value) :: describeFields rest

end

mutual

/-- Whether a value can be shown: no whole number in it has too many digits. -/
def isShowable : Yaml → Bool
  | .int value => Decimal.isSpellable value
  | .list items | .set items => areShowable items
  | .mapping fields => areFieldsShowable fields
  | _ => true

def areShowable : List Yaml → Bool
  | [] => true
  | item :: rest => isShowable item && areShowable rest

def areFieldsShowable : List (Yaml × Yaml) → Bool
  | [] => true
  | (key, value) :: rest => isShowable key && isShowable value && areFieldsShowable rest

end

def asText : Yaml → String
  | .text value => value
  | .date value => value.text
  | .time value => value.text
  | other => other.describe

def kindName : Yaml → String
  | .null => "NoneType"
  | .bool _ => "bool"
  | .int _ => "int"
  | .float _ => "float"
  | .text _ => "str"
  | .date _ => "date"
  | .time _ => "datetime"
  | .bytes _ => "bytes"
  | .list _ => "list"
  | .mapping _ => "dict"
  | .set _ => "set"

/-- What the kind of a value is called where it lacks something: as its kind, but for dates and
times, which are called by where they come from. -/
def fullKindName (value : Yaml) : String :=
  match value with
  | .date _ | .time _ => "datetime." ++ value.kindName
  | _ => value.kindName

/-- Whether a value counts as true: nothing, zero and what is empty do not. -/
def isTrue : Yaml → Bool
  | .null => false
  | .bool value => value
  | .int value => value != 0
  | .float value => value != 0.0
  | .text value => value != ""
  | .date _ | .time _ => true
  | .bytes value => !value.isEmpty
  | .list items | .set items => !items.isEmpty
  | .mapping fields => !fields.isEmpty

end Yaml

end Wordsheet
