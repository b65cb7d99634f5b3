/-! # JSON values

Values of the event log: texts, whole numbers, doubles, truth values, nothing,
lists and objects whose fields keep the order in which they were first given.
-/

namespace Wordsheet

/-- A JSON value. Whole numbers and doubles are told apart. -/
inductive Json where
  | null
  | bool (value : Bool)
  | int (value : Int)
  | float (value : Float)
  | text (value : String)
  | list (items : List Json)
  | object (fields : List (String × Json))
  deriving Inhabited, Repr

namespace Json

/-- Gives a field a value: in place if the field is there, else after the others. -/
def putField (key : String) (value : Json) : List (String × Json) → List (String × Json)
  | [] => [(key, value)]
  | field :: rest =>
      if field.1 = key then (key, value) :: rest else field :: putField key value rest

/-- The fields in order, the last value of a repeated key in the place of the first. -/
def fieldsOf (given : List (String × Json)) : List (String × Json) :=
  given.foldl (fun fields field => putField field.1 field.2 fields) []

def field? (value : Json) (key : String) : Option Json :=
  match value with
  | .object fields => (fields.find? fun field => field.1 == key).map (·.2)
  | _ => none

end Json

end Wordsheet
