import Wordsheet.Proofs.Files.Store
import Wordsheet.Proofs.Yaml.Keys

/-! # The layers of the settings

A setting has the value that the block of formula settings gives it, else the one of the top level
of the document, else the default; constants that are nothing are none. A document is refused if it
is neither nothing nor a mapping or if its constants are neither, except that every document that
counts as false is read as nothing.
-/

namespace Wordsheet.Settings

open Yaml

/-! ## What is documented -/

def topOf? : Yaml → Option (List (Yaml × Yaml))
  | .null => some []
  | .mapping fields => some fields
  | _ => none

/-- The block of formula settings; anything else under its name is no block. -/
def blockOf (fields : List (Yaml × Yaml)) : List (Yaml × Yaml) :=
  match fieldIn? fields "formulas" with
  | some (.mapping block) => block
  | _ => []

/-- The value that the block of formula settings has for a setting. -/
def inBlock? (fields : List (Yaml × Yaml)) (name : String) : Option Yaml :=
  if name = "formula_marker" then fieldIn? (blockOf fields) "marker"
  else if name = "strict_tokens" ∨ name = "constants" then fieldIn? (blockOf fields) name
  else none

/-- The value of a setting in the highest layer that has one. The name of the block is none. -/
def layered? (fields : List (Yaml × Yaml)) (name : String) : Option Yaml :=
  if name = "formulas" then none
  else ((inBlock? fields name).or (fieldIn? fields name)).or (defaults.get? name)

/-- Whether a value can stand for constants. -/
def holdsConstants : Yaml → Bool
  | .null | .mapping _ => true
  | _ => false

def orEmpty : Yaml → Yaml
  | .null => .mapping []
  | value => value

/-- The value of a setting that a document makes. -/
def settled? (fields : List (Yaml × Yaml)) (name : String) : Option Yaml :=
  if name = "constants" then (layered? fields name).map orEmpty else layered? fields name

/-- Why a document should be refused. -/
def refusal? (file : String) (document : Yaml) : Option SettingsError :=
  match topOf? document with
  | none => some (.noMapping file document.kindName)
  | some fields =>
      if (layered? fields "constants").any holdsConstants then none else some .constantsNoMapping

/-- What a document should lead to: settings in which the highest layer decides and no key stands
twice, unless it is to be refused. -/
structure Layered (file : String) (document : Yaml) (answer : Except SettingsError Settings) :
    Prop where
  refused : ∀ cause, answer = .error cause ↔ refusal? file document = some cause
  merged : ∀ s, answer = .ok s → ∃ fields, topOf? document = some fields ∧
    (∀ name, s.get? name = settled? fields name) ∧ unnamed s.fields = unnamed fields ∧
    Keyed s.fields

/-- Whether a document counts as false although it is neither nothing nor a mapping. -/
def isOverlooked (document : Yaml) : Bool :=
  !document.isTrue && (topOf? document).isNone

variable {file : String} {document : Yaml} {fields : List (Yaml × Yaml)}

/-! ## Taking the block apart -/

def layName (block fields : List (Yaml × Yaml)) (names : String × String) : List (Yaml × Yaml) :=
  match fieldIn? block names.1 with
  | some value => putField (.text names.2) value fields
  | none => fields

theorem flatten_eq (fields : List (Yaml × Yaml)) :
    flatten fields =
      blockNames.foldl (layName (blockOf fields)) (eraseField fields "formulas") := by
  rw [flatten]
  split
  · next block found =>
      rw [blockOf, found]
      rfl
  · next other =>
      have none : blockOf fields = [] := by
        rw [blockOf]
        split
        · next block found => exact absurd found (other block)
        · rfl
      rw [none]
      rfl

theorem fieldIn?_layName (block fields : List (Yaml × Yaml)) (names : String × String)
    (name : String) :
    fieldIn? (layName block fields names) name =
      if name = names.2 then (fieldIn? block names.1).or (fieldIn? fields name)
      else fieldIn? fields name := by
  have same : (text names.2).sameKey (.text name) = true ↔ name = names.2 := by
    rw [text_sameKey_iff, text.injEq]
  rw [layName]
  split
  · next value found =>
      rw [fieldIn?_putField, found, Option.some_or]
      simp only [same]
  · next absent => rw [absent, Option.none_or, ite_self]

theorem fieldIn?_flatten (fields : List (Yaml × Yaml)) (name : String) :
    fieldIn? (flatten fields) name =
      if name = "formulas" then none else (inBlock? fields name).or (fieldIn? fields name) := by
  rw [flatten_eq, blockNames]
  simp only [List.foldl_cons, List.foldl_nil, fieldIn?_layName, fieldIn?_eraseField, inBlock?]
  by_cases hm : name = "formula_marker"
  · simp [hm]
  · by_cases hs : name = "strict_tokens"
    · simp [hs]
    · by_cases hc : name = "constants"
      · simp [hc]
      · simp [hm, hs, hc]

theorem keyed_layName (keyed : Keyed fields) (block : List (Yaml × Yaml))
    (names : String × String) : Keyed (layName block fields names) := by
  rw [layName]
  split
  · exact keyed.putField _ _
  · exact keyed

theorem keyed_flatten (keyed : Keyed fields) : Keyed (flatten fields) := by
  rw [flatten_eq]
  exact keyed_layName (keyed_layName (keyed_layName (keyed.eraseField "formulas") ..) ..) ..

theorem unnamed_flatten (fields : List (Yaml × Yaml)) :
    unnamed (flatten fields) = unnamed fields := by
  have layed (block fields : List (Yaml × Yaml)) (names : String × String) :
      unnamed (layName block fields names) = unnamed fields := by
    rw [layName]
    split
    · exact unnamed_putField_text ..
    · rfl
  rw [flatten_eq, blockNames]
  simp only [List.foldl_cons, List.foldl_nil, layed, unnamed_eraseField]

/-! ## Laying the layers over each other -/

def merged (fields : List (Yaml × Yaml)) : Settings :=
  defaults.overlay (flatten fields)

theorem merged_get? (keyed : Keyed fields) (name : String) :
    (merged fields).get? name = layered? fields name := by
  have laid : (merged fields).get? name =
      (fieldIn? (flatten fields) name).or (defaults.get? name) :=
    fieldIn?_layFields (keyed_flatten keyed) defaults.fields name
  rw [laid, fieldIn?_flatten, layered?]
  split
  · next h =>
      rw [h]
      rfl
  · rfl

theorem unnamed_merged (keyed : Keyed fields) :
    unnamed (merged fields).fields = unnamed fields := by
  have start : unnamed defaults.fields = [] := rfl
  have laid : unnamed (layFields defaults.fields (flatten fields)) =
      unnamed defaults.fields ++ unnamed (flatten fields) :=
    unnamed_layFields (start ▸ keyed_flatten keyed)
  rw [start, List.nil_append, unnamed_flatten] at laid
  exact laid

theorem keyed_merged (fields : List (Yaml × Yaml)) : Keyed (merged fields).fields := by
  have start : Keyed defaults.fields := by
    simp [Keyed, defaults, sameKey]
  exact start.layFields (flatten fields)

theorem layered?_constants (fields : List (Yaml × Yaml)) :
    ∃ value, layered? fields "constants" = some value := by
  have default : defaults.get? "constants" = some (.mapping []) := rfl
  rw [layered?, if_neg (by decide), default]
  cases (inBlock? fields "constants").or (fieldIn? fields "constants") with
  | none => exact ⟨_, rfl⟩
  | some value => exact ⟨value, rfl⟩

/-- The settings of a document in which the constants hold what they may. -/
theorem merged_withConstants (keyed : Keyed fields)
    (holds : (layered? fields "constants").any holdsConstants = true) :
    ∃ s, (merged fields).withConstants = .ok s ∧ (∀ name, s.get? name = settled? fields name) ∧
      unnamed s.fields = unnamed fields ∧ Keyed s.fields := by
  obtain ⟨value, found⟩ := layered?_constants fields
  have stored := merged_get? keyed "constants"
  rw [found] at holds stored
  rw [withConstants, stored]
  cases value with
  | mapping constants =>
      refine ⟨merged fields, rfl, fun name => ?_, unnamed_merged keyed, keyed_merged fields⟩
      rw [merged_get? keyed, settled?]
      split
      · next h =>
          rw [h, found]
          rfl
      · rfl
  | null =>
      refine ⟨(merged fields).put "constants" (.mapping []), rfl, fun name => ?_, ?_,
        (keyed_merged fields).putField ..⟩
      · have put : ((merged fields).put "constants" (.mapping [])).get? name =
            if (text "constants").sameKey (.text name) then some (.mapping [])
            else (merged fields).get? name :=
          fieldIn?_putField ..
        rw [put, merged_get? keyed, settled?]
        by_cases h : name = "constants"
        · rw [h, found]
          rfl
        · have apart : (text "constants").sameKey (.text name) = false := by
            rw [← Bool.not_eq_true, text_sameKey_iff, text.injEq]
            exact h
          rw [apart, if_neg h]
          rfl
      · exact (unnamed_putField_text ..).trans (unnamed_merged keyed)
  | _ => cases holds

theorem merged_refused (keyed : Keyed fields)
    (holds : (layered? fields "constants").any holdsConstants = false) :
    (merged fields).withConstants = .error .constantsNoMapping := by
  obtain ⟨value, found⟩ := layered?_constants fields
  have stored := merged_get? keyed "constants"
  rw [found] at holds stored
  rw [withConstants, stored]
  cases value with
  | mapping | null => cases holds
  | _ => rfl

/-! ## Documents -/

theorem ofDocument_of_topLevel (h : topLevel file document = .ok fields) :
    ofDocument file (some document) = (merged fields).withConstants := by
  rw [ofDocument, h]
  rfl

theorem topLevel_of_topOf? (h : topOf? document = some fields) :
    topLevel file document = .ok fields := by
  cases document with
  | null =>
      cases h
      rfl
  | mapping given =>
      cases h
      cases fields <;> rfl
  | _ => cases h

theorem topLevel_of_isOverlooked (h : isOverlooked document = true) :
    topLevel file document = .ok [] := by
  rw [isOverlooked, Bool.and_eq_true] at h
  unfold topLevel
  rw [if_pos h.1]

theorem ofDocument_of_isOverlooked (h : isOverlooked document = true) :
    ofDocument file (some document) = .ok defaults := by
  rw [ofDocument_of_topLevel (topLevel_of_isOverlooked h)]
  rfl

theorem ofDocument_of_topOf?_eq_none (top : topOf? document = none)
    (counted : isOverlooked document = false) :
    ofDocument file (some document) = .error (.noMapping file document.kindName) := by
  have counts : document.isTrue = true := by
    simpa [isOverlooked, top] using counted
  have refused : topLevel file document = .error (.noMapping file document.kindName) := by
    unfold topLevel
    rw [counts]
    cases document with
    | null | mapping => cases top
    | _ => rfl
  rw [ofDocument, refused]
  rfl

theorem layered_of_counted (keyed : KeyedTop document) (counted : isOverlooked document = false) :
    Layered file document (ofDocument file (some document)) := by
  cases top : topOf? document with
  | none =>
      rw [ofDocument_of_topOf?_eq_none top counted]
      refine ⟨fun cause => ?_, nofun⟩
      rw [refusal?, top, Except.error.injEq, Option.some.injEq]
  | some fields =>
      have keyed : Keyed fields := by
        cases document with
        | null =>
            cases top
            exact List.Pairwise.nil
        | mapping given =>
            cases top
            exact keyed fields rfl
        | _ => cases top
      rw [ofDocument_of_topLevel (topLevel_of_topOf? top)]
      cases holds : (layered? fields "constants").any holdsConstants with
      | false =>
          rw [merged_refused keyed holds]
          refine ⟨fun cause => ?_, nofun⟩
          rw [refusal?, top, Except.error.injEq]
          simp [holds]
      | true =>
          obtain ⟨s, made, settled⟩ := merged_withConstants keyed holds
          rw [made]
          refine ⟨fun cause => ⟨nofun, fun h => ?_⟩, fun other same => ?_⟩
          · rw [refusal?, top] at h
            simp [holds] at h
          · cases same
            exact ⟨fields, top, settled⟩

theorem not_layered_of_isOverlooked (h : isOverlooked document = true) :
    ¬ Layered file document (ofDocument file (some document)) := by
  intro layered
  have top : topOf? document = none := by
    rw [isOverlooked, Bool.and_eq_true, Option.isNone_iff_eq_none] at h
    exact h.2
  have refused := (layered.refused (.noMapping file document.kindName)).2 (by rw [refusal?, top])
  exact nomatch (ofDocument_of_isOverlooked h).symm.trans refused

/-! ## Projects -/

def StandsIn (document : Yaml) (s : Store) (folder : Path) : Prop :=
  s.exists? (Project.settingsFile folder) = true ∧
    ∃ text, s.readText (Project.settingsFile folder) = .ok text ∧ Yaml.read text = .ok document

theorem settings_of_standsIn {s : Store} {folder : Path} (h : StandsIn document s folder) :
    Project.settings s (some folder) =
      (ofDocument (Project.settingsFile folder).text (some document)).mapError .settings := by
  obtain ⟨present, text, read, parsed⟩ := h
  rw [Project.settings, if_pos present, read]
  simp only [Except.mapError, bind, Except.bind, parsed]

/-- A document leads to what is documented exactly if it does not count as false without being
nothing or a mapping; then it is read as nothing. The settings of a project are made of the document
in its settings file, in which no key stands twice; without such a file they are the defaults, which
no document changes. -/
theorem layered_iff (file : String) (document : Yaml) :
    (KeyedTop document →
      (Layered file document (ofDocument file (some document)) ↔ isOverlooked document = false)) ∧
    (isOverlooked document = true → ofDocument file (some document) = .ok defaults) ∧
    (∀ s folder, StandsIn document s folder → KeyedTop document ∧
      Project.settings s (some folder) =
        (ofDocument (Project.settingsFile folder).text (some document)).mapError .settings) ∧
    ∀ s, Project.settings s none = .ok defaults ∧
      ∀ folder, s.exists? (Project.settingsFile folder) = false →
        Project.settings s (some folder) = .ok defaults := by
  refine ⟨fun keyed => ⟨fun layered => ?_, layered_of_counted keyed⟩, ofDocument_of_isOverlooked,
    fun s folder h => ⟨?_, settings_of_standsIn h⟩, fun s => ⟨rfl, fun folder absent => ?_⟩⟩
  · rw [← Bool.not_eq_true]
    exact fun overlooked => not_layered_of_isOverlooked overlooked layered
  · obtain ⟨_, _, _, parsed⟩ := h
    exact keyedTop_read parsed
  · rw [Project.settings, absent]
    rfl

/-- The constants of the block are nothing, so those of the top level, a list, do not count. -/
theorem layered_iff_block :
    let block : Yaml := .mapping [(.text "marker", .text "#"), (.text "constants", .null)]
    let document : Yaml :=
      .mapping [(.text "constants", .list [.int 1]), (.int 7, .null), (.text "formulas", block)]
    let braces := ['\x7b', '\x7d']
    let s := (Store.empty []).put ⟨["nlsheet.yaml"], some (Text.Utf8.encode braces)⟩
    Layered "" document (ofDocument "" (some document)) ∧
      ofDocument "" (some (.bool false)) = .ok defaults ∧
      StandsIn (.mapping []) s ⟨"/", []⟩ ∧ Project.settings s (some ⟨"/", []⟩) =
        (ofDocument "/nlsheet.yaml" (some (.mapping []))).mapError .settings := by
  intro block document braces s
  have keyed : KeyedTop document := keyedTop_mapping (by simp [Keyed, sameKey, asInt?])
  have stored : s.read (Project.settingsFile ⟨"/", []⟩) = .ok (Text.Utf8.encode braces) := rfl
  have read : s.readText (Project.settingsFile ⟨"/", []⟩) = .ok braces :=
    Store.readText_of_read stored
  have parsed : Yaml.read braces = .ok (.mapping []) := by with_unfolding_all rfl
  have present : StandsIn (.mapping []) s ⟨"/", []⟩ := ⟨rfl, braces, read, parsed⟩
  exact ⟨((layered_iff "" document).1 keyed).2 rfl, (layered_iff "" (.bool false)).2.1 rfl, present,
    ((layered_iff "" (.mapping [])).2.2.1 s ⟨"/", []⟩ present).2⟩

/-- An empty list is neither nothing nor a mapping, and yet it is not refused. -/
theorem not_layered_emptyList :
    ¬ ∀ file document, KeyedTop document →
      Layered file document (ofDocument file (some document)) := by
  intro all
  exact not_layered_of_isOverlooked rfl (all "" (.list []) (keyedTop_list []))

end Wordsheet.Settings
