import Wordsheet.Proofs.Json.Doubles

/-! # Writing and reading JSON are inverse

A value whose objects have distinct keys and whose whole numbers have not too many digits is read
from its own text with the fields of every object in order. Doubles that are not finite are read as
nothing, every other one as itself. The text is printable ASCII, so it is one line wherever it
stands.
-/

namespace Wordsheet.Json

open Text

/-! ## Values in order -/

/-- The values without doubles whose objects have distinct keys. -/
inductive Plain : Json → Prop where
  | null : Plain .null
  | bool (value : Bool) : Plain (.bool value)
  | int (value : Int) : Plain (.int value)
  | text (value : String) : Plain (.text value)
  | list {items : List Json} (all : ∀ item ∈ items, Plain item) : Plain (.list items)
  | object {fields : List (String × Json)} (distinct : (fields.map (·.1)).Nodup)
      (all : ∀ field ∈ fields, Plain field.2) : Plain (.object fields)

mutual

/-- A value with the fields of every object in the order of their keys. -/
def ordered : Json → Json
  | .list items => .list (orderedItems items)
  | .object fields => .object (sortedByKey (orderedFields fields))
  | other => other

def orderedItems : List Json → List Json
  | [] => []
  | item :: rest => ordered item :: orderedItems rest

def orderedFields : List (String × Json) → List (String × Json)
  | [] => []
  | (key, value) :: rest => (key, ordered value) :: orderedFields rest

end

/-- The values whose objects have distinct keys. -/
inductive Keyed : Json → Prop where
  | null : Keyed .null
  | bool (value : Bool) : Keyed (.bool value)
  | int (value : Int) : Keyed (.int value)
  | float (value : Float) : Keyed (.float value)
  | text (value : String) : Keyed (.text value)
  | list {items : List Json} (all : ∀ item ∈ items, Keyed item) : Keyed (.list items)
  | object {fields : List (String × Json)} (distinct : (fields.map (·.1)).Nodup)
      (all : ∀ field ∈ fields, Keyed field.2) : Keyed (.object fields)

theorem Keyed.empty : (Json.object []).Keyed :=
  .object List.nodup_nil (List.forall_mem_nil _)

mutual

/-- A value with nothing in the place of every double that is not finite. -/
def finite : Json → Json
  | .float value => if value.isFinite then .float value else .null
  | .list items => .list (finiteItems items)
  | .object fields => .object (finiteFields fields)
  | other => other

def finiteItems : List Json → List Json
  | [] => []
  | item :: rest => finite item :: finiteItems rest

def finiteFields : List (String × Json) → List (String × Json)
  | [] => []
  | (key, value) :: rest => (key, finite value) :: finiteFields rest

end

section Fields

variable {α β : Type}

theorem writeItems_eq_map (items : List Json) : writeItems items = items.map write := by
  induction items with
  | nil => rfl
  | cons item rest ih => exact congrArg (write item :: ·) ih

theorem orderedItems_eq_map (items : List Json) : orderedItems items = items.map ordered := by
  induction items with
  | nil => rfl
  | cons item rest ih => rw [orderedItems, ih, List.map_cons]

theorem writeFields_eq_map (fields : List (String × Json)) :
    writeFields fields = fields.map fun field => (field.1, write field.2) := by
  induction fields with
  | nil => rfl
  | cons field rest ih => exact congrArg ((field.1, write field.2) :: ·) ih

theorem orderedFields_eq_map (fields : List (String × Json)) :
    orderedFields fields = fields.map fun field => (field.1, ordered field.2) := by
  induction fields with
  | nil => rfl
  | cons field rest ih => rw [orderedFields, ih, List.map_cons]

theorem finiteItems_eq_map (items : List Json) : finiteItems items = items.map finite := by
  induction items with
  | nil => rfl
  | cons item rest ih => rw [finiteItems, ih, List.map_cons]

theorem finiteFields_eq_map (fields : List (String × Json)) :
    finiteFields fields = fields.map fun field => (field.1, finite field.2) := by
  induction fields with
  | nil => rfl
  | cons field rest ih => rw [finiteFields, ih, List.map_cons]

theorem sortedByKey_map (f : α → β) (fields : List (String × α)) :
    sortedByKey (fields.map fun field => (field.1, f field.2)) =
      (sortedByKey fields).map fun field => (field.1, f field.2) := by
  rw [sortedByKey, sortedByKey]
  exact (List.map_mergeSort (f := fun field : String × α => (field.1, f field.2))
    fun _ _ _ _ => rfl).symm

theorem perm_sortedByKey (fields : List (String × α)) : (sortedByKey fields).Perm fields :=
  List.mergeSort_perm ..

theorem find?_key_iff {key : String} {field : String × α} {fields : List (String × α)}
    (distinct : (fields.map (·.1)).Nodup) :
    fields.find? (·.1 == key) = some field ↔ field ∈ fields ∧ field.1 = key := by
  induction fields with
  | nil => simp
  | cons first rest ih =>
      obtain ⟨fresh, distinct⟩ := List.nodup_cons.1 distinct
      rw [List.find?_cons, List.mem_cons]
      by_cases hk : first.1 = key
      · have others : ∀ other ∈ rest, other.1 ≠ key := fun other ho same =>
          fresh (List.mem_map.2 ⟨other, ho, same.trans hk.symm⟩)
        simp only [hk, beq_self_eq_true, Option.some.injEq]
        constructor
        · rintro rfl
          exact ⟨.inl rfl, hk⟩
        · rintro ⟨rfl | hm, hf⟩
          · rfl
          · exact absurd hf (others field hm)
      · rw [beq_false_of_ne hk]
        refine (ih distinct).trans (and_congr_left fun hf => ?_)
        have apart : field ≠ first := fun same => hk (same ▸ hf)
        simp [apart]

theorem putField_of_fresh {key : String} {fields : List (String × Json)}
    (fresh : key ∉ fields.map (·.1)) (value : Json) :
    putField key value fields = fields ++ [(key, value)] := by
  induction fields with
  | nil => rfl
  | cons field rest ih =>
      simp only [List.map_cons, List.mem_cons, not_or] at fresh
      rw [putField, if_neg (Ne.symm fresh.1), ih fresh.2, List.cons_append]

theorem fieldsOf_of_nodup {fields : List (String × Json)} (distinct : (fields.map (·.1)).Nodup) :
    fieldsOf fields = fields := by
  have build (before after : List (String × Json))
      (h : ((before ++ after).map (·.1)).Nodup) :
      after.foldl (fun fields field => putField field.1 field.2 fields) before =
        before ++ after := by
    induction after generalizing before with
    | nil => rw [List.foldl_nil, List.append_nil]
    | cons field rest ih =>
        have fresh : field.1 ∉ before.map (·.1) := by
          rw [List.map_append, List.nodup_append] at h
          exact fun hm => h.2.2 _ hm _ (by simp) rfl
        rw [List.foldl_cons, putField_of_fresh fresh, ih _ (by simpa using h)]
        simp
  exact build [] fields distinct

end Fields

/-! ## Values -/

section Values

def Opens (cs : List Char) : Prop :=
  ∃ c rest, cs = c :: rest ∧ isSpace c = false ∧ c ≠ ']' ∧ c ≠ '\x7d'

theorem Opens.append {cs : List Char} (opens : Opens cs) (more : List Char) :
    Opens (cs ++ more) := by
  obtain ⟨c, rest, rfl, h⟩ := opens
  exact ⟨c, rest ++ more, rfl, h⟩

theorem skipSpaces_cons {c : Char} (h : isSpace c = false) (cs : List Char) :
    skipSpaces (c :: cs) = c :: cs :=
  List.dropWhile_cons_of_neg (by simp [h])

theorem Opens.skipSpaces {cs : List Char} (opens : Opens cs) : skipSpaces cs = cs := by
  obtain ⟨c, rest, rfl, h, _⟩ := opens
  exact skipSpaces_cons h rest

theorem opens_textText (s : String) : Opens (textText s) :=
  ⟨'"', _, rfl, rfl, by decide, by decide⟩

def OpensNumber (cs : List Char) : Prop :=
  ∃ c rest, cs = c :: rest ∧ (c = '-' ∨ isPlainDigit c = true)

theorem OpensNumber.append {cs : List Char} (opens : OpensNumber cs) (more : List Char) :
    OpensNumber (cs ++ more) := by
  obtain ⟨c, rest, rfl, h⟩ := opens
  exact ⟨c, rest ++ more, rfl, h⟩

theorem OpensNumber.opens {cs : List Char} (opens : OpensNumber cs) : Opens cs := by
  obtain ⟨c, rest, rfl, rfl | hc⟩ := opens
  · exact ⟨'-', rest, rfl, rfl, by decide, by decide⟩
  · have other (d : Char) (hd : isPlainDigit d = false) : c ≠ d :=
      (ne_of_isPlainDigit hc hd).symm
    refine ⟨c, rest, rfl, ?_, other _ (by decide), other _ (by decide)⟩
    simp [isSpace, other ' ' (by decide), other '\t' (by decide), other '\n' (by decide),
      other '\r' (by decide)]

theorem opensNumber_signText (negative : Bool) {ds : List Char} (nonempty : ds ≠ [])
    (plain : ∀ c ∈ ds, isPlainDigit c = true) (more : List Char) :
    OpensNumber (Decimal.signText negative ++ (ds ++ more)) := by
  obtain ⟨d, rest, rfl⟩ := List.exists_cons_of_ne_nil nonempty
  cases negative with
  | true => exact ⟨'-', _, rfl, .inl rfl⟩
  | false => exact ⟨d, _, rfl, .inr (plain d List.mem_cons_self)⟩

theorem opensNumber_intText (n : Int) : OpensNumber (intText n) := by
  have opens := opensNumber_signText (decide (n < 0)) (digits_ne_nil n.natAbs)
    (fun _ => isPlainDigit_of_mem_digits) []
  rwa [List.append_nil] at opens

theorem opensNumber_fullText {x : Float} (hfinite : x.isFinite = true) :
    OpensNumber (fullText x).toList := by
  obtain ⟨l, marked, hl, _⟩ := exists_literal hfinite
  rw [hl]
  exact opensNumber_signText l.negative marked.nonempty marked.whole _

theorem write_float_of_isFinite {x : Float} (hfinite : x.isFinite = true) :
    write (.float x) = (fullText x).toList := by
  rw [write_float, if_pos hfinite]

theorem write_float_of_not_isFinite {x : Float} (hfinite : ¬ x.isFinite = true) :
    write (.float x) = "null".toList := by
  rw [write_float, if_neg hfinite]

theorem opens_write (v : Json) : Opens (write v) := by
  cases v with
  | null => exact ⟨'n', _, rfl, rfl, by decide, by decide⟩
  | bool value => cases value <;> exact ⟨_, _, rfl, rfl, by decide, by decide⟩
  | int value => exact (opensNumber_intText value).opens
  | float value =>
      by_cases hfinite : value.isFinite = true
      · rw [write_float_of_isFinite hfinite]
        exact (opensNumber_fullText hfinite).opens
      · rw [write_float_of_not_isFinite hfinite]
        exact ⟨'n', _, rfl, rfl, by decide, by decide⟩
  | text value => exact opens_textText value
  | list => exact ⟨'[', _, rfl, rfl, by decide, by decide⟩
  | object => exact ⟨'\x7b', _, rfl, rfl, by decide, by decide⟩

theorem separated_cons (part : List Char) {rest : List (List Char)} (more : rest ≠ []) :
    separated (part :: rest) = part ++ ',' :: ' ' :: separated rest := by
  cases rest with
  | nil => exact absurd rfl more
  | cons next rest => rfl

theorem Opens.separated {part : List Char} (opens : Opens part) (rest : List (List Char)) :
    Opens (separated (part :: rest)) := by
  cases rest with
  | nil => exact opens
  | cons next rest => exact opens.append _

/-- Whether a value is read, in order, from its own text wherever that stands. -/
def ReadsBack (v : Json) : Prop :=
  ∀ depth rest, 2 * (write v).length ≤ depth → EndsNumber rest →
    readValue depth (write v ++ rest) = .ok (v.ordered, rest)

theorem skipSpaces_space (cs : List Char) : skipSpaces (' ' :: cs) = skipSpaces cs :=
  rfl

theorem readItems_last {depth : Nat} {cs rest : List Char} {item : Json}
    (h : readValue depth cs = .ok (item, ']' :: rest)) :
    readItems (depth + 1) cs = .ok ([item], rest) := by
  rw [readItems, h]
  rfl

theorem readItems_more {depth : Nat} {cs rest : List Char} {item : Json}
    (h : readValue depth cs = .ok (item, ',' :: rest)) :
    readItems (depth + 1) cs =
      (readItems depth (skipSpaces rest)).map fun p => (item :: p.1, p.2) := by
  rw [readItems, h]
  change (readItems depth (skipSpaces rest)).bind _ = _
  cases readItems depth (skipSpaces rest) <;> rfl

theorem readItems_separated {items : List Json} (nonempty : items ≠ [])
    (opens : ∀ item ∈ items, Opens (write item)) (reads : ∀ item ∈ items, item.ReadsBack)
    {depth : Nat} (enough : 2 * (separated (items.map write)).length < depth)
    (rest : List Char) :
    readItems depth (separated (items.map write) ++ ']' :: rest) =
      .ok (items.map ordered, rest) := by
  induction items generalizing depth with
  | nil => exact absurd rfl nonempty
  | cons item more ih =>
      obtain ⟨depth, rfl⟩ := Nat.exists_eq_succ_of_ne_zero (Nat.ne_zero_of_lt enough)
      obtain ⟨hitem, hmore⟩ := List.forall_mem_cons.1 reads
      cases more with
      | nil =>
          exact readItems_last (hitem depth (']' :: rest) (Nat.le_of_lt_succ enough)
            (endsNumber_cons (by decide) rest))
      | cons next more =>
          rw [List.map_cons, separated_cons _ (by simp)] at enough ⊢
          simp only [List.length_append, List.length_cons] at enough
          have hopens := (List.forall_mem_cons.1 opens).2
          have hnext : Opens (separated ((next :: more).map write)) :=
            (hopens next List.mem_cons_self).separated _
          -- the item and the rest are both shorter than the whole by what stands between them
          rw [List.append_assoc, List.cons_append, List.cons_append,
            readItems_more (hitem depth _ (by omega) (endsNumber_cons (by decide) _)),
            skipSpaces_space, (hnext.append _).skipSpaces,
            ih (List.cons_ne_nil _ _) hopens hmore (by omega)]
          rfl

theorem readFields_last {depth : Nat} {cs more rest : List Char} {key : String} {value : Json}
    (hkey : textAfterQuote? cs = some (key, ':' :: more))
    (h : readValue depth (skipSpaces more) = .ok (value, '\x7d' :: rest)) :
    readFields (depth + 1) ('"' :: cs) = .ok ([(key, value)], rest) := by
  simp only [readFields, hkey]
  change (readValue depth (skipSpaces more)).bind _ = _
  rw [h]
  rfl

theorem readFields_more {depth : Nat} {cs more rest : List Char} {key : String} {value : Json}
    (hkey : textAfterQuote? cs = some (key, ':' :: more))
    (h : readValue depth (skipSpaces more) = .ok (value, ',' :: rest)) :
    readFields (depth + 1) ('"' :: cs) =
      (readFields depth (skipSpaces rest)).map fun p => ((key, value) :: p.1, p.2) := by
  simp only [readFields, hkey]
  change (readValue depth (skipSpaces more)).bind _ = _
  rw [h]
  change (readFields depth (skipSpaces rest)).bind _ = _
  cases readFields depth (skipSpaces rest) <;> rfl

def fieldLine (field : String × Json) : List Char :=
  fieldText (field.1, write field.2)

theorem textAfterQuote?_fieldLine (field : String × Json) (rest : List Char) :
    ∃ cs, fieldLine field ++ rest = '"' :: cs ∧
      textAfterQuote? cs = some (field.1, ':' :: ' ' :: (write field.2 ++ rest)) := by
  refine ⟨field.1.toList.flatMap charText ++ '"' :: ':' :: ' ' :: (write field.2 ++ rest), ?_,
    textAfterQuote?_write ..⟩
  simp [fieldLine, fieldText, textText]

theorem opens_fieldLine (field : String × Json) : Opens (fieldLine field) :=
  (opens_textText field.1).append _

theorem length_write_lt_fieldLine (field : String × Json) :
    (write field.2).length < (fieldLine field).length := by
  simp [fieldLine, fieldText]
  omega

theorem readFields_separated {fields : List (String × Json)} (nonempty : fields ≠ [])
    (opens : ∀ field ∈ fields, Opens (write field.2))
    (reads : ∀ field ∈ fields, field.2.ReadsBack) {depth : Nat}
    (enough : 2 * (separated (fields.map fieldLine)).length < depth) (rest : List Char) :
    readFields depth (separated (fields.map fieldLine) ++ '\x7d' :: rest) =
      .ok (fields.map fun field => (field.1, field.2.ordered), rest) := by
  induction fields generalizing depth with
  | nil => exact absurd rfl nonempty
  | cons field more ih =>
      obtain ⟨depth, rfl⟩ := Nat.exists_eq_succ_of_ne_zero (Nat.ne_zero_of_lt enough)
      obtain ⟨hfield, hmore⟩ := List.forall_mem_cons.1 reads
      obtain ⟨hvalue, hopens⟩ := List.forall_mem_cons.1 opens
      have shorter := length_write_lt_fieldLine field
      cases more with
      | nil =>
          simp only [List.map_cons, List.map_nil, separated] at enough ⊢
          obtain ⟨cs, hcs, hkey⟩ := textAfterQuote?_fieldLine field ('\x7d' :: rest)
          rw [hcs]
          refine readFields_last hkey ?_
          rw [skipSpaces_space, (hvalue.append _).skipSpaces]
          exact hfield depth _ (by omega) (endsNumber_cons (by decide) rest)
      | cons next more =>
          rw [List.map_cons, separated_cons _ (by simp)] at enough ⊢
          simp only [List.length_append, List.length_cons] at enough
          have hnext : Opens (separated ((next :: more).map fieldLine)) :=
            (opens_fieldLine next).separated _
          rw [List.append_assoc, List.cons_append, List.cons_append]
          obtain ⟨cs, hcs, hkey⟩ := textAfterQuote?_fieldLine field
            (',' :: ' ' :: (separated ((next :: more).map fieldLine) ++ '\x7d' :: rest))
          have hread := hfield depth
            (',' :: ' ' :: (separated ((next :: more).map fieldLine) ++ '\x7d' :: rest)) (by omega)
            (endsNumber_cons (by decide) _)
          rw [← (hvalue.append _).skipSpaces, ← skipSpaces_space] at hread
          rw [hcs, readFields_more hkey hread, skipSpaces_space, (hnext.append _).skipSpaces,
            ih (List.cons_ne_nil _ _) hopens hmore (by omega)]
          rfl

theorem readValue_list {depth : Nat} {cs rest : List Char} {items : List Json} (opens : Opens cs)
    (h : readItems depth cs = .ok (items, rest)) :
    readValue (depth + 1) ('[' :: cs) = .ok (.list items, rest) := by
  obtain ⟨c, tail, rfl, space, noList, _⟩ := opens
  rw [readValue, skipSpaces_cons space]
  split
  · next closed => exact absurd (List.cons.inj closed).1 noList
  · rw [h]
    rfl

theorem readValue_object {depth : Nat} {cs rest : List Char} {fields : List (String × Json)}
    (opens : Opens cs) (h : readFields depth cs = .ok (fields, rest)) :
    readValue (depth + 1) ('\x7b' :: cs) = .ok (.object (fieldsOf fields), rest) := by
  obtain ⟨c, tail, rfl, space, _, noObject⟩ := opens
  rw [readValue, skipSpaces_cons space]
  split
  · next closed => exact absurd (List.cons.inj closed).1 noObject
  · rw [h]
    rfl

theorem OpensNumber.readValue {cs : List Char} (opens : OpensNumber cs) (depth : Nat) :
    readValue (depth + 1) cs = readScalar cs := by
  obtain ⟨c, rest, rfl, number⟩ := opens
  have other (d : Char) (hd : isPlainDigit d = false) (hs : d ≠ '-') (tail : List Char) :
      c :: rest ≠ d :: tail := by
    intro starts
    obtain rfl : c = d := (List.cons.inj starts).1
    rcases number with rfl | digit
    · exact hs rfl
    · exact nomatch digit.symm.trans hd
  exact readValue.eq_5 _ _ (other _ (by decide) (by decide)) (other _ (by decide) (by decide))
    (other _ (by decide) (by decide))

theorem write_list (items : List Json) :
    write (.list items) = '[' :: separated (items.map write) ++ [']'] := by
  change '[' :: separated (writeItems items) ++ [']'] = _
  rw [writeItems_eq_map]

theorem write_object (fields : List (String × Json)) :
    write (.object fields) =
      '\x7b' :: separated ((sortedByKey fields).map fieldLine) ++ ['\x7d'] := by
  change '\x7b' :: separated ((sortedByKey (writeFields fields)).map fieldText) ++ ['\x7d'] = _
  rw [writeFields_eq_map, sortedByKey_map, List.map_map]
  rfl

theorem ordered_object (fields : List (String × Json)) :
    ordered (.object fields) =
      .object ((sortedByKey fields).map fun field => (field.1, field.2.ordered)) := by
  rw [ordered, orderedFields_eq_map, sortedByKey_map]

/-- An object in order has the same fields, each with its value in order. -/
theorem field?_ordered {fields : List (String × Json)} (distinct : (fields.map (·.1)).Nodup)
    (key : String) :
    (ordered (.object fields)).field? key = ((Json.object fields).field? key).map ordered := by
  have sorted := perm_sortedByKey fields
  have found : (sortedByKey fields).find? (·.1 == key) = fields.find? (·.1 == key) := by
    refine Option.ext fun field => ?_
    rw [find?_key_iff distinct, find?_key_iff ((sorted.map (·.1)).nodup_iff.2 distinct),
      sorted.mem_iff]
  rw [ordered_object, field?, List.find?_map]
  change Option.map _ (Option.map _ ((sortedByKey fields).find? (·.1 == key))) = _
  rw [found, field?, Option.map_map, Option.map_map]
  rfl

theorem readsBack_null : Json.null.ReadsBack := by
  intro depth rest enough _
  have deep : 2 * 4 ≤ depth := enough
  obtain ⟨depth, rfl⟩ := Nat.exists_eq_succ_of_ne_zero (n := depth) (by omega)
  rfl

theorem readsBack_bool (value : Bool) : (Json.bool value).ReadsBack := by
  intro depth rest enough _
  have deep : 0 < depth := by
    cases value <;> exact Nat.lt_of_lt_of_le (by decide) enough
  obtain ⟨depth, rfl⟩ := Nat.exists_eq_succ_of_ne_zero (Nat.ne_zero_of_lt deep)
  cases value <;> rfl

/-- A number that is read as a scalar wherever it stands is read as a value. -/
theorem readsBack_of_opensNumber {v : Json} (opens : OpensNumber (write v))
    (read : ∀ rest, EndsNumber rest → readScalar (write v ++ rest) = .ok (v.ordered, rest)) :
    v.ReadsBack := by
  intro depth rest enough ends
  obtain ⟨depth, rfl⟩ : ∃ d, depth = d + 1 := by
    obtain ⟨c, cs, hv, _⟩ := opens
    rw [hv, List.length_cons] at enough
    exact Nat.exists_eq_succ_of_ne_zero (by omega)
  rw [(opens.append rest).readValue, read rest ends]

theorem readsBack_int {n : Int} (short : Decimal.isSpellable n = true) :
    (Json.int n).ReadsBack := by
  refine readsBack_of_opensNumber ?_ fun rest ends => ?_
  · exact opensNumber_intText n
  · exact readScalar_intText short ends

theorem readsBack_float {x : Float} (hfinite : x.isFinite = true) : (Json.float x).ReadsBack := by
  refine readsBack_of_opensNumber ?_ fun rest ends => ?_
  · rw [write_float_of_isFinite hfinite]
    exact opensNumber_fullText hfinite
  · rw [write_float_of_isFinite hfinite]
    exact readScalar_fullText hfinite ends

theorem readsBack_text (s : String) : (Json.text s).ReadsBack := by
  intro depth rest enough _
  rw [write_text, textText, List.length_append, List.length_cons] at enough
  obtain ⟨depth, rfl⟩ := Nat.exists_eq_succ_of_ne_zero (n := depth) (by omega)
  rw [write_text, textText, List.append_assoc, List.cons_append, List.singleton_append, readValue,
    textAfterQuote?_write]
  rfl

theorem readsBack_list {items : List Json} (opens : ∀ item ∈ items, Opens (write item))
    (reads : ∀ item ∈ items, item.ReadsBack) : (Json.list items).ReadsBack := by
  intro depth rest enough _
  rw [write_list, List.length_append, List.length_cons] at enough
  obtain ⟨depth, rfl⟩ := Nat.exists_eq_succ_of_ne_zero (n := depth) (by omega)
  rw [write_list, ordered, orderedItems_eq_map, List.append_assoc, List.cons_append,
    List.singleton_append]
  cases items with
  | nil => rfl
  | cons item more =>
      have hopens : Opens (separated ((item :: more).map write)) :=
        (opens item List.mem_cons_self).separated _
      exact readValue_list (hopens.append _)
        (readItems_separated (List.cons_ne_nil _ _) opens reads (by omega) rest)

theorem readsBack_object {fields : List (String × Json)}
    (distinct : (fields.map (·.1)).Nodup) (opens : ∀ field ∈ fields, Opens (write field.2))
    (reads : ∀ field ∈ fields, field.2.ReadsBack) : (Json.object fields).ReadsBack := by
  intro depth rest enough _
  rw [write_object, List.length_append, List.length_cons] at enough
  obtain ⟨depth, rfl⟩ := Nat.exists_eq_succ_of_ne_zero (n := depth) (by omega)
  rw [write_object, ordered_object, List.append_assoc, List.cons_append, List.singleton_append]
  -- sorting keeps the keys distinct, so the reader drops none of the fields
  have sorted := perm_sortedByKey fields
  have kept : (((sortedByKey fields).map fun field => (field.1, field.2.ordered)).map
      (·.1)).Nodup := by
    rw [List.map_map]
    exact (sorted.map (·.1)).nodup_iff.2 distinct
  cases hs : sortedByKey fields with
  | nil => rfl
  | cons field more =>
      rw [hs] at enough sorted kept
      have hopens : Opens (separated ((field :: more).map fieldLine)) :=
        (opens_fieldLine field).separated _
      have enough : 2 * (separated ((field :: more).map fieldLine)).length < depth := by omega
      have hread := readFields_separated (List.cons_ne_nil _ _)
        (fun f hf => opens f (sorted.mem_iff.1 hf)) (fun f hf => reads f (sorted.mem_iff.1 hf))
        enough rest
      refine (readValue_object (hopens.append _) hread).trans ?_
      rw [fieldsOf_of_nodup kept]

theorem finite_list (items : List Json) : finite (.list items) = .list (items.map finite) := by
  rw [finite, finiteItems_eq_map]

theorem finite_object (fields : List (String × Json)) :
    finite (.object fields) = .object (fields.map fun field => (field.1, field.2.finite)) := by
  rw [finite, finiteFields_eq_map]

theorem isWritable_list {items : List Json} :
    (Json.list items).isWritable = true ↔ ∀ item ∈ items, item.isWritable = true := by
  change areWritable items = true ↔ _
  induction items with
  | nil => exact ⟨nofun, fun _ => rfl⟩
  | cons item rest ih => rw [areWritable, Bool.and_eq_true, ih, List.forall_mem_cons]

theorem isWritable_object {fields : List (String × Json)} :
    (Json.object fields).isWritable = true ↔ ∀ field ∈ fields, field.2.isWritable = true := by
  change areFieldsWritable fields = true ↔ _
  induction fields with
  | nil => exact ⟨nofun, fun _ => rfl⟩
  | cons field rest ih => rw [areFieldsWritable, Bool.and_eq_true, ih, List.forall_mem_cons]

/-- A value that can be written is read from its own text, in order and with its doubles finite,
wherever that stands. -/
theorem readsBack {v : Json} (keyed : v.Keyed) (writable : v.isWritable = true) :
    v.finite.ReadsBack := by
  induction keyed with
  | null => exact readsBack_null
  | bool value => exact readsBack_bool value
  | int n => exact readsBack_int writable
  | float x =>
      rw [finite]
      split
      · next hfinite => exact readsBack_float hfinite
      · exact readsBack_null
  | text s => exact readsBack_text s
  | list all ih =>
      have back := fun item hi => ih item hi (isWritable_list.1 writable item hi)
      rw [finite_list]
      exact readsBack_list (fun item _ => opens_write item) (List.forall_mem_map.2 back)
  | object distinct all ih =>
      have back := fun field hf => ih field hf (isWritable_object.1 writable field hf)
      rw [finite_object]
      refine readsBack_object ?_ (fun field _ => opens_write field.2) (List.forall_mem_map.2 back)
      rwa [List.map_map]

/-- The text of a value is that of the value with its doubles finite. -/
theorem write_finite {v : Json} (keyed : v.Keyed) : write v.finite = write v := by
  induction keyed with
  | float x =>
      rw [finite]
      split
      · rfl
      · next hfinite => exact (write_float_of_not_isFinite hfinite).symm
  | @list items all ih =>
      have same : (items.map finite).map write = items.map write := by
        rw [List.map_map]
        exact List.map_congr_left ih
      rw [finite_list, write_list, write_list, same]
  | @object fields distinct all ih =>
      have same : (sortedByKey fields).map (fieldLine ∘ fun field => (field.1, field.2.finite)) =
          (sortedByKey fields).map fieldLine :=
        List.map_congr_left fun field hf => congrArg (fieldText ⟨field.1, ·⟩)
          (ih field ((perm_sortedByKey fields).mem_iff.1 hf))
      rw [finite_object, write_object, write_object, sortedByKey_map, List.map_map, same]
  | _ => rfl

/-- The text of a value that can be written is read as the value in order, with its doubles
finite. -/
theorem read_write {v : Json} (keyed : v.Keyed) (writable : v.isWritable = true) :
    read (write v) = .ok v.finite.ordered := by
  have deep : 2 * (write v.finite).length ≤ 2 * (write v).length + 1 := by
    rw [write_finite keyed]
    omega
  have hread := readsBack keyed writable (2 * (write v).length + 1) [] deep nofun
  rw [write_finite keyed, List.append_nil] at hread
  rw [read, (opens_write v).skipSpaces, hread]
  rfl

theorem Plain.keyed {v : Json} (plain : v.Plain) : v.Keyed := by
  induction plain with
  | null => exact .null
  | bool value => exact .bool value
  | int value => exact .int value
  | text value => exact .text value
  | list all ih => exact .list ih
  | object distinct all ih => exact .object distinct ih

theorem Plain.finite_eq {v : Json} (plain : v.Plain) : v.finite = v := by
  induction plain with
  | @list items all ih => rw [finite_list, List.map_congr_left ih, List.map_id']
  | @object fields distinct all ih =>
      have same : fields.map (fun field => (field.1, field.2.finite)) = fields.map id :=
        List.map_congr_left fun field hf => congrArg (Prod.mk field.1) (ih field hf)
      rw [finite_object, same, List.map_id]
  | _ => rfl

end Values

/-! ## Printable texts -/

section Printable

def isPlainChar (c : Char) : Bool :=
  32 ≤ c.toNat && c.toNat < 127

theorem all_unitText (unit : Nat) : (unitText unit).all isPlainChar = true := by
  have digit : ∀ n < 16, isPlainChar (Nat.digitChar n) = true := by decide
  have hex (n : Nat) : isPlainChar (Nat.digitChar (n % 16)) = true :=
    digit _ (Nat.mod_lt n (by decide))
  simp only [unitText, hexDigits, List.nil_append, List.cons_append, List.all_cons, hex]
  decide

theorem all_charText (c : Char) : (charText c).all isPlainChar = true := by
  rw [charText]
  split_ifs with marked feed back tab step page plain
  · rw [Bool.or_eq_true, beq_iff_eq, beq_iff_eq] at marked
    rcases marked with rfl | rfl <;> decide
  · decide
  · decide
  · decide
  · decide
  · decide
  · simpa [isPlainChar] using plain
  · rw [unitsText]
    split
    · exact all_unitText _
    · rw [List.all_append, all_unitText, all_unitText]
      rfl

theorem all_textText (s : String) : (textText s).all isPlainChar = true := by
  rw [textText, List.cons_append, List.all_cons, List.all_append, List.all_flatMap]
  simp [all_charText]
  decide

theorem isPlainChar_of_isPlainDigit {c : Char} (h : isPlainDigit c = true) :
    isPlainChar c = true := by
  simp only [isPlainDigit, Bool.and_eq_true, decide_eq_true_eq] at h
  have low : 48 ≤ c.toNat := h.1
  have high : c.toNat ≤ 57 := h.2
  simp [isPlainChar]
  omega

theorem all_intText (n : Int) : (intText n).all isPlainChar = true := by
  have digits : (Decimal.digits n.natAbs).all isPlainChar = true :=
    List.all_eq_true.2 fun _ hc => isPlainChar_of_isPlainDigit (isPlainDigit_of_mem_digits hc)
  rw [intText, List.all_append, digits, Bool.and_true]
  cases decide (n < 0) <;> decide

theorem all_separated {parts : List (List Char)}
    (h : ∀ part ∈ parts, part.all isPlainChar = true) :
    (separated parts).all isPlainChar = true := by
  induction parts with
  | nil => rfl
  | cons part rest ih =>
      obtain ⟨hpart, hrest⟩ := List.forall_mem_cons.1 h
      cases rest with
      | nil => exact hpart
      | cons next rest =>
          rw [separated_cons part (List.cons_ne_nil _ _), List.all_append, hpart, List.all_cons,
            List.all_cons, ih hrest]
          decide

theorem isPlainChar_of_isUsed {c : Char} (h : Literal.isUsed c = true) :
    isPlainChar c = true := by
  simp only [Literal.isUsed, Bool.or_eq_true, List.contains_cons, List.contains_nil, Bool.or_false,
    beq_iff_eq] at h
  rcases h with digit | rfl | rfl | rfl | rfl
  · exact isPlainChar_of_isPlainDigit digit
  all_goals decide

theorem all_fullText {x : Float} (hfinite : x.isFinite = true) :
    (fullText x).toList.all isPlainChar = true := by
  obtain ⟨l, marked, hl, _⟩ := exists_literal hfinite
  rw [hl]
  exact List.all_eq_true.2 fun c hc =>
    isPlainChar_of_isUsed (Literal.isUsed_of_mem marked.toProper hc)

theorem all_write {v : Json} (keyed : v.Keyed) : (write v).all isPlainChar = true := by
  induction keyed with
  | null => decide
  | bool value => cases value <;> decide
  | int n => exact all_intText n
  | float x =>
      by_cases hfinite : x.isFinite = true
      · rw [write_float_of_isFinite hfinite]
        exact all_fullText hfinite
      · rw [write_float_of_not_isFinite hfinite]
        decide
  | text s => exact all_textText s
  | @list items all ih =>
      rw [write_list, List.cons_append, List.all_cons, List.all_append,
        all_separated (List.forall_mem_map.2 ih)]
      decide
  | @object fields distinct all ih =>
      have lines : ∀ field ∈ sortedByKey fields, (fieldLine field).all isPlainChar = true := by
        intro field hf
        have hvalue := ih field ((perm_sortedByKey fields).mem_iff.1 hf)
        rw [fieldLine, fieldText, List.all_append, all_textText, List.all_cons, List.all_cons,
          hvalue]
        decide
      rw [write_object, List.cons_append, List.all_cons, List.all_append,
        all_separated (List.forall_mem_map.2 lines)]
      decide

end Printable

end Wordsheet.Json
