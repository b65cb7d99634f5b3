import Mathlib.Tactic.SplitIfs
import Wordsheet.Yaml.Reader

/-! # Keys of mappings

A text is one key with itself and with nothing else, so that what stands under a text after a field
is put or removed is known without comparing numbers. A mapping has every key once; putting and
removing fields keep it so, and no document is read in which a key of the top level stands twice.
-/

namespace Wordsheet.Yaml

variable {a b key value : Yaml} {name : String} {fields given : List (Yaml × Yaml)}

/-! ## Texts as keys -/

theorem sameKey_text_iff : a.sameKey (.text name) = true ↔ a = .text name := by
  cases a with
  | float x => cases h : Decimal.wholeValue? x <;> simp [sameKey, asInt?, h]
  | _ => simp [sameKey, asInt?]

theorem text_sameKey_iff : (text name).sameKey a = true ↔ a = .text name := by
  cases a with
  | float x => cases h : Decimal.wholeValue? x <;> simp [sameKey, asInt?, h]
  | text other =>
      rw [sameKey, beq_iff_eq, text.injEq]
      exact eq_comm
  | _ => simp [sameKey, asInt?]

theorem sameKey_text_congr (same : a.sameKey b = true) (name : String) :
    a.sameKey (.text name) = b.sameKey (.text name) := by
  rw [Bool.eq_iff_iff, sameKey_text_iff, sameKey_text_iff]
  constructor
  · rintro rfl
    exact text_sameKey_iff.1 same
  · rintro rfl
    exact sameKey_text_iff.1 same

/-! ## What stands under a text -/

theorem fieldIn?_cons (field : Yaml × Yaml) (fields : List (Yaml × Yaml)) (name : String) :
    fieldIn? (field :: fields) name =
      if field.1.sameKey (.text name) then some field.2 else fieldIn? fields name := by
  rw [fieldIn?, List.find?_cons]
  cases field.1.sameKey (.text name) <;> rfl

theorem fieldIn?_eq_none (h : ∀ field ∈ fields, field.1.sameKey (.text name) = false) :
    fieldIn? fields name = none := by
  rw [fieldIn?, List.find?_eq_none.2 fun field hf => by simp [h field hf], Option.map_none]

theorem fieldIn?_putField (key value : Yaml) (fields : List (Yaml × Yaml)) (name : String) :
    fieldIn? (putField key value fields) name =
      if key.sameKey (.text name) then some value else fieldIn? fields name := by
  induction fields with
  | nil => rw [putField, fieldIn?_cons]
  | cons field rest ih =>
      rw [putField]
      split
      · next same =>
          rw [fieldIn?_cons, fieldIn?_cons, sameKey_text_congr same]
          split <;> rfl
      · next other =>
          rw [fieldIn?_cons, fieldIn?_cons, ih]
          by_cases hf : field.1 = .text name
          · have hk : key.sameKey (.text name) = false := by
              rw [← Bool.not_eq_true, sameKey_text_iff]
              rintro rfl
              exact other (sameKey_text_iff.2 hf)
            rw [hk]
            rfl
          · rw [← sameKey_text_iff] at hf
            simp only [hf, ↓reduceIte, Bool.false_eq_true]

theorem fieldIn?_eraseField (fields : List (Yaml × Yaml)) (erased name : String) :
    fieldIn? (eraseField fields erased) name =
      if name = erased then none else fieldIn? fields name := by
  split
  · next h =>
      refine fieldIn?_eq_none fun field hf => ?_
      rw [h]
      simpa using (List.mem_filter.1 hf).2
  · next h =>
      induction fields with
      | nil => rfl
      | cons field rest ih =>
          rw [eraseField] at ih
          rw [eraseField, List.filter_cons, fieldIn?_cons]
          split
          · rw [fieldIn?_cons, ih]
          · next kept =>
              -- the field that is removed has another key
              have hf : field.1 = .text erased := sameKey_text_iff.1 (by simpa using kept)
              have hn : field.1.sameKey (.text name) = false := by
                rw [← Bool.not_eq_true, sameKey_text_iff, hf]
                rintro ⟨⟩
                exact h rfl
              rw [ih, hn]
              rfl

/-! ## Every key once -/

/-- Whether no key stands twice. -/
def Keyed (fields : List (Yaml × Yaml)) : Prop :=
  fields.Pairwise fun a b => a.1.sameKey b.1 = false

theorem mem_putField {field : Yaml × Yaml} (h : field ∈ putField key value fields) :
    field.1 = key ∨ ∃ before ∈ fields, field.1 = before.1 := by
  induction fields with
  | nil =>
      rw [putField, List.mem_singleton] at h
      exact .inl (congrArg Prod.fst h)
  | cons first rest ih =>
      rw [putField] at h
      split at h
      · rcases List.mem_cons.1 h with rfl | h
        · exact .inr ⟨first, List.mem_cons_self, rfl⟩
        · exact .inr ⟨field, List.mem_cons_of_mem first h, rfl⟩
      · rcases List.mem_cons.1 h with rfl | h
        · exact .inr ⟨field, List.mem_cons_self, rfl⟩
        · rcases ih h with hk | ⟨before, hb, hk⟩
          · exact .inl hk
          · exact .inr ⟨before, List.mem_cons_of_mem first hb, hk⟩

theorem Keyed.putField (keyed : Keyed fields) (key value : Yaml) :
    Keyed (putField key value fields) := by
  induction fields with
  | nil => exact List.pairwise_singleton ..
  | cons field rest ih =>
      obtain ⟨apart, keyed⟩ := List.pairwise_cons.1 keyed
      rw [Yaml.putField]
      split
      · exact List.pairwise_cons.2 ⟨apart, keyed⟩
      · next other =>
          refine List.pairwise_cons.2 ⟨fun after ha => ?_, ih keyed⟩
          rcases mem_putField ha with hk | ⟨before, hb, hk⟩
          · rw [hk]
            simpa using other
          · rw [hk]
            exact apart before hb

theorem Keyed.eraseField (keyed : Keyed fields) (name : String) :
    Keyed (eraseField fields name) :=
  List.Pairwise.filter _ keyed

def layFields (fields given : List (Yaml × Yaml)) : List (Yaml × Yaml) :=
  given.foldl (fun merged field => putField field.1 field.2 merged) fields

theorem Keyed.layFields (keyed : Keyed fields) (given : List (Yaml × Yaml)) :
    Keyed (layFields fields given) := by
  induction given generalizing fields with
  | nil => exact keyed
  | cons field rest ih => exact ih (keyed.putField field.1 field.2)

theorem keyed_fieldsOf (given : List (Yaml × Yaml)) : Keyed (fieldsOf given) :=
  Keyed.layFields List.Pairwise.nil given

/-- Where no key stands twice, the fields on top decide. -/
theorem fieldIn?_layFields (keyed : Keyed given) (fields : List (Yaml × Yaml)) (name : String) :
    fieldIn? (layFields fields given) name = (fieldIn? given name).or (fieldIn? fields name) := by
  induction given generalizing fields with
  | nil => rfl
  | cons field rest ih =>
      obtain ⟨apart, keyed⟩ := List.pairwise_cons.1 keyed
      have step : layFields fields (field :: rest) =
          layFields (putField field.1 field.2 fields) rest := rfl
      rw [step, ih keyed, fieldIn?_putField, fieldIn?_cons]
      split
      · next h =>
          rw [sameKey_text_iff] at h
          have further : fieldIn? rest name = none := fieldIn?_eq_none fun other ho => by
            have hne := apart other ho
            rw [h, ← Bool.not_eq_true, text_sameKey_iff] at hne
            rwa [← Bool.not_eq_true, sameKey_text_iff]
          rw [further, Option.none_or, Option.some_or]
      · rfl

/-! ## Keys that are no texts -/

def isText : Yaml → Bool
  | .text _ => true
  | _ => false

def unnamed (fields : List (Yaml × Yaml)) : List (Yaml × Yaml) :=
  fields.filter fun field => !field.1.isText

theorem sameKey_eq_false_of_isText (ha : a.isText = true) (hb : b.isText = false) :
    a.sameKey b = false := by
  cases a with
  | text name =>
      rw [← Bool.not_eq_true, text_sameKey_iff]
      rintro rfl
      cases hb
  | _ => cases ha

theorem unnamed_putField_text (name : String) (value : Yaml) (fields : List (Yaml × Yaml)) :
    unnamed (putField (.text name) value fields) = unnamed fields := by
  induction fields with
  | nil => rfl
  | cons field rest ih =>
      rw [unnamed, unnamed] at ih
      rw [putField]
      split
      · next same =>
          have hf : field.1.isText = true := by rw [sameKey_text_iff.1 same, isText]
          simp [unnamed, hf]
      · rw [unnamed, unnamed, List.filter_cons, List.filter_cons, ih]

theorem putField_of_fresh (fresh : ∀ field ∈ fields, field.1.sameKey key = false)
    (value : Yaml) : putField key value fields = fields ++ [(key, value)] := by
  induction fields with
  | nil => rfl
  | cons field rest ih =>
      obtain ⟨hf, fresh⟩ := List.forall_mem_cons.1 fresh
      rw [putField, hf, ih fresh]
      rfl

theorem unnamed_putField_of_fresh (hk : key.isText = false)
    (fresh : ∀ field ∈ unnamed fields, field.1.sameKey key = false) (value : Yaml) :
    unnamed (putField key value fields) = unnamed fields ++ [(key, value)] := by
  have apart : ∀ field ∈ fields, field.1.sameKey key = false := by
    intro field hf
    cases ht : field.1.isText with
    | true => exact sameKey_eq_false_of_isText ht hk
    | false => exact fresh field (List.mem_filter.2 ⟨hf, by simp [ht]⟩)
  rw [putField_of_fresh apart]
  simp [unnamed, hk]

theorem unnamed_eraseField (fields : List (Yaml × Yaml)) (name : String) :
    unnamed (eraseField fields name) = unnamed fields := by
  rw [unnamed, unnamed, eraseField, List.filter_filter]
  refine List.filter_congr fun field _ => ?_
  cases hf : field.1.isText with
  | true => rfl
  | false =>
      have hn : field.1.sameKey (.text name) = false := by
        rw [← Bool.not_eq_true, sameKey_text_iff]
        intro h
        rw [h] at hf
        cases hf
      rw [hn]
      rfl

/-- Fields under keys that are no texts come behind those that are there already. -/
theorem unnamed_layFields (keyed : Keyed (unnamed fields ++ given)) :
    unnamed (layFields fields given) = unnamed fields ++ unnamed given := by
  induction given generalizing fields with
  | nil => exact (List.append_nil (unnamed fields)).symm
  | cons field rest ih =>
      obtain ⟨key, value⟩ := field
      have step : layFields fields ((key, value) :: rest) =
          layFields (putField key value fields) rest := rfl
      rw [step]
      cases hk : key.isText with
      | true =>
          obtain ⟨name, rfl⟩ : ∃ name, key = .text name := by
            cases key with
            | text name => exact ⟨name, rfl⟩
            | _ => cases hk
          have fewer : (unnamed fields ++ rest).Sublist
              (unnamed fields ++ (.text name, value) :: rest) :=
            (List.sublist_cons_self _ rest).append_left (unnamed fields)
          rw [ih, unnamed_putField_text]
          · rfl
          · rw [unnamed_putField_text]
            exact keyed.sublist fewer
      | false =>
          have fresh : ∀ before ∈ unnamed fields, before.1.sameKey key = false := fun before hb =>
            (List.pairwise_append.1 keyed).2.2 before hb _ List.mem_cons_self
          have put := unnamed_putField_of_fresh hk fresh value
          have kept : unnamed ((key, value) :: rest) = (key, value) :: unnamed rest := by
            simp [unnamed, hk]
          rw [ih, put, kept, List.append_assoc, List.singleton_append]
          rwa [put, List.append_assoc, List.singleton_append]

/-! ## Documents -/

/-- Whether no key of a document's top level stands twice. -/
def KeyedTop (document : Yaml) : Prop :=
  ∀ fields, document = .mapping fields → Keyed fields

variable {cs : List Char} {node : Node}

theorem keyedTop_of_ne (h : ∀ fields, value ≠ .mapping fields) : KeyedTop value :=
  fun fields same => absurd same (h fields)

theorem keyedTop_list (items : List Yaml) : KeyedTop (.list items) :=
  keyedTop_of_ne nofun

theorem keyedTop_mapping (keyed : Keyed fields) : KeyedTop (.mapping fields) := by
  rintro _ ⟨⟩
  exact keyed

theorem keyedTop_word? (h : word? cs = some value) : KeyedTop value := by
  rw [word?] at h
  split_ifs at h <;> cases h <;> exact keyedTop_of_ne nofun

theorem eq_of_unlessWrong {fault : Option String} {a : Yaml}
    (h : unlessWrong fault a = .ok value) : value = a := by
  cases fault with
  | none => exact (Except.ok.inj h).symm
  | some message => cases h

theorem keyedTop_ofPlain (h : ofPlain cs = .ok value) : KeyedTop value := by
  rw [ofPlain] at h
  split at h
  · cases h
  · split at h
    case h_1 found =>
      cases h
      exact keyedTop_word? found
    case h_2 | h_4 | h_5 =>
      rw [eq_of_unlessWrong h]
      exact keyedTop_of_ne nofun
    case h_3 | h_6 =>
      cases h
      exact keyedTop_of_ne nofun

theorem keyedTop_value (h : node.value = .ok value) : KeyedTop value := by
  cases node with
  | plain cs =>
      rw [Node.value] at h
      exact keyedTop_ofPlain h
  | quoted cs =>
      rw [Node.value] at h
      cases h
      exact keyedTop_of_ne nofun
  | binary cs =>
      rw [Node.value] at h
      split at h <;> cases h
      exact keyedTop_of_ne nofun
  | list items =>
      rw [Node.value] at h
      cases hi : Node.itemValues items <;> rw [hi] at h <;> cases h
      exact keyedTop_list _
  | mapping fields =>
      rw [Node.value] at h
      cases hf : Node.fieldValues fields <;> rw [hf] at h <;> cases h
      exact keyedTop_mapping (keyed_fieldsOf _)
  | set fields =>
      rw [Node.value] at h
      cases hf : Node.fieldValues fields <;> rw [hf] at h <;> cases h
      exact keyedTop_of_ne nofun

/-- Every document that is read has each key of its top level once. -/
theorem keyedTop_read (h : read cs = .ok value) : KeyedTop value := by
  rw [read] at h
  split at h
  · exact keyedTop_value h
  · cases h

end Wordsheet.Yaml
