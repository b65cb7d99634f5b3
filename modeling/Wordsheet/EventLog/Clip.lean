import Wordsheet.Json.Basic

/-! # Clipping

Long texts in the context of an event are cut to a bounded length before they
are recorded, at any depth; nothing else of the context changes.
-/

namespace Wordsheet

def clipLength : Nat := 256

def clipMark : String := "...[truncated]"

def clipText (s : String) : String :=
  if s.length ≤ clipLength then s else String.ofList (s.toList.take clipLength) ++ clipMark

namespace Json

mutual

def clip : Json → Json
  | .text s => .text (clipText s)
  | .list items => .list (clipItems items)
  | .object fields => .object (clipFields fields)
  | other => other

def clipItems : List Json → List Json
  | [] => []
  | item :: rest => clip item :: clipItems rest

/-- Fields with every long text in their values cut; keys stay. -/
def clipFields : List (String × Json) → List (String × Json)
  | [] => []
  | (key, value) :: rest => (key, clip value) :: clipFields rest

end

theorem keys_clipFields (fields : List (String × Json)) :
    (clipFields fields).map (·.1) = fields.map (·.1) := by
  induction fields with
  | nil => simp [clipFields]
  | cons field rest ih => simp [clipFields, ih]

end Json

end Wordsheet
