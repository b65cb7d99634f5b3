import Wordsheet.EventLog.Clip

/-! # What clipping keeps

Clipping a context changes long texts and nothing else, at any depth: every place in it is a place
afterwards, with the same keys, the same number of items and the same value if it is no text. A long
text keeps its beginning, so that no text is longer than a bound, and as the beginning is as long as
the longest text that is kept, clipping again cuts in the same place.
-/

namespace Wordsheet

/-! ## Texts -/

section Texts

variable {s : String}

theorem clipText_of_le (h : s.length ≤ clipLength) : clipText s = s :=
  if_pos h

theorem toList_clipText_of_lt (h : clipLength < s.length) :
    (clipText s).toList = s.toList.take clipLength ++ clipMark.toList := by
  rw [clipText, if_neg (Nat.not_le.2 h), String.toList_append, String.toList_ofList]

theorem length_clipText_of_lt (h : clipLength < s.length) :
    (clipText s).length = clipLength + clipMark.length := by
  have long : clipLength ≤ s.toList.length := by
    rw [String.length_toList]
    exact Nat.le_of_lt h
  rw [← String.length_toList, toList_clipText_of_lt h, List.length_append, List.length_take,
    Nat.min_eq_left long, String.length_toList]

theorem length_clipText_le (s : String) : (clipText s).length ≤ clipLength + clipMark.length := by
  rcases Nat.lt_or_ge clipLength s.length with long | short
  · exact Nat.le_of_eq (length_clipText_of_lt long)
  · rw [clipText_of_le short]
    exact Nat.le_add_right_of_le short

/-- A text that was cut is too long, and is cut in front of the mark. -/
theorem clipText_clipText (s : String) : clipText (clipText s) = clipText s := by
  rcases Nat.lt_or_ge clipLength s.length with long | short
  · have again : clipLength < (clipText s).length := by
      rw [length_clipText_of_lt long]
      exact Nat.lt_add_of_pos_right (by decide)
    have first : (s.toList.take clipLength).length = clipLength := by
      rw [List.length_take, String.length_toList, Nat.min_eq_left (Nat.le_of_lt long)]
    refine String.toList_inj.1 ?_
    rw [toList_clipText_of_lt again, toList_clipText_of_lt long, List.take_left' first]
  · rw [clipText_of_le short, clipText_of_le short]

end Texts

namespace Json

/-! ## Places in a value -/

/-- A value seen from outside: without what its text says, and without what is inside it. -/
inductive Node where
  | null
  | bool (value : Bool)
  | int (value : Int)
  | float (value : Float)
  | text
  | list (length : Nat)
  | object (keys : List String)
  deriving DecidableEq, Repr

def node : Json → Node
  | .null => .null
  | .bool value => .bool value
  | .int value => .int value
  | .float value => .float value
  | .text _ => .text
  | .list items => .list items.length
  | .object fields => .object (fields.map (·.1))

def children : Json → List Json
  | .list items => items
  | .object fields => fields.map (·.2)
  | _ => []

/-- The value in a place, which is told by a number for each level on the way there. -/
def at? (v : Json) : List Nat → Option Json
  | [] => some v
  | i :: path => v.children[i]?.bind fun child => child.at? path

/-! ## Clipping values -/

section Values

variable {path : List Nat} {s : String}

theorem clipItems_eq_map (items : List Json) : clipItems items = items.map clip := by
  induction items with
  | nil => rfl
  | cons item rest ih => rw [clipItems, ih, List.map_cons]

theorem clipFields_eq_map (fields : List (String × Json)) :
    clipFields fields = fields.map fun field => (field.1, clip field.2) := by
  induction fields with
  | nil => rfl
  | cons field rest ih => rw [clipFields, ih, List.map_cons]

theorem node_clip (v : Json) : (clip v).node = v.node := by
  cases v with
  | list items => rw [clip, node, node, clipItems_eq_map, List.length_map]
  | object fields => rw [clip, node, node, keys_clipFields]
  | _ => rfl

theorem children_clip (v : Json) : (clip v).children = v.children.map clip := by
  cases v with
  | list items => rw [clip, children, children, clipItems_eq_map]
  | object fields =>
      rw [clip, children, children, clipFields_eq_map, List.map_map, List.map_map]
      rfl
  | _ => rfl

/-- In every place there is what was there, clipped. -/
theorem at?_clip (v : Json) (path : List Nat) : (clip v).at? path = (v.at? path).map clip := by
  induction path generalizing v with
  | nil => rfl
  | cons i path ih =>
      rw [at?, at?, children_clip, List.getElem?_map]
      cases v.children[i]? with
      | none => rfl
      | some child => exact ih child

theorem text_of_clip {v : Json} (h : clip v = .text s) : ∃ long, s = clipText long := by
  cases v with
  | text long => exact ⟨long, (Json.text.inj h).symm⟩
  | _ => cases h

mutual

/-- Clipping a clipped value changes nothing in it. -/
theorem clip_clip (v : Json) : clip (clip v) = clip v := by
  cases v with
  | text s => exact congrArg Json.text (clipText_clipText s)
  | list items => exact congrArg Json.list (clipItems_clipItems items)
  | object fields => exact congrArg Json.object (clipFields_clipFields fields)
  | null | bool | int | float => rfl

theorem clipItems_clipItems (items : List Json) :
    clipItems (clipItems items) = clipItems items := by
  cases items with
  | nil => rfl
  | cons item rest => rw [clipItems, clipItems, clip_clip item, clipItems_clipItems rest]

theorem clipFields_clipFields (fields : List (String × Json)) :
    clipFields (clipFields fields) = clipFields fields := by
  match fields with
  | [] => rfl
  | (key, value) :: rest =>
      rw [clipFields, clipFields, clip_clip value, clipFields_clipFields rest]

end

end Values

/-! ## Clipping contexts -/

/-- A clipped context has the places of the context, with the same keys, numbers of items and values
that are no texts. A text of at most 256 characters is there as it was, and a longer one as its
first 256 characters with the mark behind them, so that none has more than 270. Clipping a second
time changes nothing. -/
theorem clipFields_projection (context : List (String × Json)) :
    (∀ path, ((object (clipFields context)).at? path).map node =
      ((object context).at? path).map node) ∧
    (∀ path s, (object context).at? path = some (.text s) →
      ∃ clipped, (object (clipFields context)).at? path = some (.text clipped) ∧
        (s.length ≤ 256 → clipped = s) ∧
        (256 < s.length →
          clipped.toList = s.toList.take 256 ++ "...[truncated]".toList)) ∧
    (∀ path clipped, (object (clipFields context)).at? path = some (.text clipped) →
      clipped.length ≤ 270) ∧
    clipFields (clipFields context) = clipFields context := by
  have places (path : List Nat) :
      (object (clipFields context)).at? path = ((object context).at? path).map clip :=
    at?_clip (.object context) path
  refine ⟨fun path => ?_, fun path s h => ?_, fun path clipped h => ?_,
    clipFields_clipFields context⟩
  · rw [places, Option.map_map]
    exact congrArg (Option.map · _) (funext node_clip)
  · refine ⟨clipText s, ?_, clipText_of_le, toList_clipText_of_lt⟩
    rw [places, h]
    rfl
  · rw [places] at h
    obtain ⟨v, _, hv⟩ := Option.map_eq_some_iff.1 h
    obtain ⟨long, rfl⟩ := text_of_clip hv
    exact length_clipText_le long

theorem clipFields_projection_nested :
    let long := String.ofList (List.replicate 300 'x')
    let context : List (String × Json) := [("names", .list [.int 7, .text long])]
    (object context).at? [0, 1] = some (.text long) ∧ 256 < long.length ∧
      ∃ clipped, (object (clipFields context)).at? [0, 1] = some (.text clipped) ∧
        clipped.toList = List.replicate 256 'x' ++ "...[truncated]".toList ∧
        clipped.length ≤ 270 ∧ clipFields (clipFields context) = clipFields context := by
  intro long context
  have characters : long.toList = List.replicate 300 'x' := String.toList_ofList
  have length : 256 < long.length := by
    rw [← String.length_toList, characters, List.length_replicate]
    decide
  have here : (object context).at? [0, 1] = some (.text long) := rfl
  obtain ⟨_, texts, bounded, again⟩ := clipFields_projection context
  obtain ⟨clipped, there, _, cut⟩ := texts _ _ here
  refine ⟨here, length, clipped, there, ?_, bounded _ _ there, again⟩
  rw [cut length, characters, List.take_replicate]
  rfl

end Json

end Wordsheet
