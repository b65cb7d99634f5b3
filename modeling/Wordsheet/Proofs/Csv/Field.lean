import Wordsheet.Csv.Reader
import Wordsheet.Proofs.Text.Utf8

/-! # Written fields

A written field is either bare, and then no byte in it has a meaning of its own, or stands between
quotes with its quotes in pairs. In front of a comma or a line feed it is cut off as a whole, and as
an entry it is read as the text that was written. Outside it the quotes before a byte are even.
-/

namespace Wordsheet.Csv

open Text

/-! ## Bytes of a field -/

def Plain (b : UInt8) : Prop :=
  b ≠ comma ∧ b ≠ quote ∧ b ≠ lineFeed ∧ b ≠ carriageReturn

/-- A field is written as it is, if it holds plain bytes only and at least one, or in quotes. -/
theorem writeField_eq (field : List UInt8) :
    (field ≠ [] ∧ (∀ b ∈ field, Plain b) ∧ writeField field = field) ∨
      writeField field = quote :: (doubleQuotes field ++ [quote]) := by
  rw [writeField]
  by_cases h : needsQuotes field = true
  · exact .inr (if_pos h)
  · have bare : needsQuotes field = false := Bool.not_eq_true _ ▸ h
    rw [needsQuotes, Bool.or_eq_false_iff, List.any_eq_false] at bare
    refine .inl ⟨by simpa using bare.1, fun b hb => ?_, if_neg h⟩
    have hp := bare.2 b hb
    simp only [Bool.or_eq_true, beq_iff_eq, not_or] at hp
    exact ⟨hp.1.1.1, hp.1.1.2, hp.1.2, hp.2⟩

/-- A bare field starts with no quote. -/
theorem isQuoted_plain {field : List UInt8} (nonempty : field ≠ []) (plain : ∀ b ∈ field, Plain b)
    (more : List UInt8) : isQuoted (field ++ more) = false := by
  obtain ⟨b, tail, rfl⟩ := List.exists_cons_of_ne_nil nonempty
  have hb : b ≠ quote := (plain b List.mem_cons_self).2.1
  simpa [isQuoted] using hb

theorem doubleQuotes_cons_quote (field : List UInt8) :
    doubleQuotes (quote :: field) = quote :: quote :: doubleQuotes field := rfl

theorem doubleQuotes_cons_of_ne {b : UInt8} (h : b ≠ quote) (field : List UInt8) :
    doubleQuotes (b :: field) = b :: doubleQuotes field := by
  simp [doubleQuotes, h]

theorem undoubleQuotes_cons_of_ne {b : UInt8} (h : b ≠ quote) (field : List UInt8) :
    undoubleQuotes (b :: field) = b :: undoubleQuotes field := by
  cases field <;> simp [undoubleQuotes, h]

theorem undoubleQuotes_doubleQuotes (field : List UInt8) :
    undoubleQuotes (doubleQuotes field) = field := by
  induction field with
  | nil => rfl
  | cons b field ih =>
      by_cases hb : b = quote
      · rw [hb, doubleQuotes_cons_quote, undoubleQuotes, if_pos (beq_self_eq_true _),
          if_pos (beq_self_eq_true _), ih]
      · rw [doubleQuotes_cons_of_ne hb, undoubleQuotes_cons_of_ne hb, ih]

/-! ## Cutting off a field -/

def Cut.behind (field : List UInt8) (c : Cut) : Cut :=
  { c with field := field ++ c.field }

theorem cutFrom_plain {field : List UInt8} (plain : ∀ b ∈ field, Plain b) (more : List UInt8) :
    cutFrom false false (field ++ more) = (cutFrom false false more).behind field := by
  induction field with
  | nil => rfl
  | cons b field ih =>
      obtain ⟨⟨hc, _, hl, _⟩, plain⟩ := List.forall_mem_cons.1 plain
      have hstep : cutFrom false false (b :: (field ++ more)) =
          (cutFrom false false (field ++ more)).behind [b] := by
        simp [cutFrom, hc, hl, Cut.behind]
      rw [List.cons_append, hstep, ih plain]
      rfl

theorem cutFrom_doubleQuotes (field more : List UInt8) :
    cutFrom true true (doubleQuotes field ++ more) =
      (cutFrom true true more).behind (doubleQuotes field) := by
  -- on the field and not on its bytes as written: between the quotes of a pair one is outside
  induction field with
  | nil => rfl
  | cons b field ih =>
      by_cases hb : b = quote
      · have hstep : cutFrom true true (quote :: quote :: (doubleQuotes field ++ more)) =
            (cutFrom true true (doubleQuotes field ++ more)).behind [quote, quote] := by
          simp [cutFrom, quote, comma, lineFeed, Cut.behind]
        rw [hb, doubleQuotes_cons_quote, List.cons_append, List.cons_append, hstep, ih]
        rfl
      · have hstep : cutFrom true true (b :: (doubleQuotes field ++ more)) =
            (cutFrom true true (doubleQuotes field ++ more)).behind [b] := by
          simp [cutFrom, beq_false_of_ne hb, Cut.behind]
        rw [doubleQuotes_cons_of_ne hb, List.cons_append, hstep, ih]
        rfl

/-- A written field is cut off whole where a field has to end. -/
theorem cut_writeField (field : List UInt8) {more rest : List UInt8} {ending : Ending}
    (stop : ∀ quotesCount, cutFrom quotesCount false more = ⟨[], ending, rest⟩) :
    cut (writeField field ++ more) = ⟨writeField field, ending, rest⟩ := by
  rcases writeField_eq field with ⟨nonempty, plain, hw⟩ | hw
  · rw [hw, cut, isQuoted_plain nonempty plain, cutFrom_plain plain, stop false, Cut.behind,
      List.append_nil]
  · have hopen : cutFrom true false (quote :: (doubleQuotes field ++ (quote :: more))) =
        (cutFrom true true (doubleQuotes field ++ (quote :: more))).behind [quote] := by
      simp [cutFrom, quote, comma, lineFeed, Cut.behind]
    have hclose : cutFrom true true (quote :: more) =
        (cutFrom true false more).behind [quote] := by
      simp [cutFrom, Cut.behind]
    have hcut : cut (quote :: (doubleQuotes field ++ (quote :: more))) =
        cutFrom true false (quote :: (doubleQuotes field ++ (quote :: more))) := rfl
    rw [hw, List.cons_append, List.append_assoc, List.singleton_append, hcut, hopen,
      cutFrom_doubleQuotes, hclose, stop true]
    simp [Cut.behind]

theorem cutFrom_comma (quotesCount : Bool) (rest : List UInt8) :
    cutFrom quotesCount false (comma :: rest) = ⟨[], .comma, rest⟩ := rfl

theorem cutFrom_lineFeed (quotesCount : Bool) (rest : List UInt8) :
    cutFrom quotesCount false (lineFeed :: rest) = ⟨[], .line, rest⟩ := rfl

/-! ## Reading a field -/

theorem getLast?_append_quote (bytes : List UInt8) :
    (quote :: (bytes ++ [quote])).getLast? = some quote := by
  rw [← List.cons_append, List.getLast?_append, List.getLast?_singleton, Option.some_or]

theorem getLast?_writeField (field : List UInt8) :
    (writeField field).getLast? ≠ some carriageReturn := by
  intro hlast
  rcases writeField_eq field with ⟨_, plain, hw⟩ | hw
  · rw [hw] at hlast
    exact (plain _ (List.mem_of_getLast? hlast)).2.2.2 rfl
  · rw [hw, getLast?_append_quote] at hlast
    cases hlast

theorem dropReturn_writeField (field : List UInt8) :
    dropReturn (writeField field) = writeField field := by
  rw [dropReturn, if_neg (by simpa using getLast?_writeField field)]

theorem writeField_ne_nil (field : List UInt8) : writeField field ≠ [] := by
  rcases writeField_eq field with ⟨nonempty, _, hw⟩ | hw
  · rwa [hw]
  · rw [hw]
    exact List.cons_ne_nil _ _

theorem stripEnds_quoted (bytes : List UInt8) :
    stripEnds (quote :: (bytes ++ [quote])) = bytes := by
  rw [stripEnds, List.tail_cons, List.dropLast_concat]

/-- A written field is read as the entry that was written. -/
theorem entry_writeField (s : String) :
    entry (writeField (Utf8.encode s.toList)) = .ok (some s) := by
  have hs : Utf8.decode (Utf8.encode s.toList) = .ok s.toList := Utf8.decode_encode s.toList
  have hempty : (writeField (Utf8.encode s.toList)).isEmpty = false := by
    simpa using writeField_ne_nil _
  rw [entry, dropReturn_writeField]
  simp only [hempty, Bool.false_eq_true, ↓reduceIte]
  rcases writeField_eq (Utf8.encode s.toList) with ⟨nonempty, plain, hw⟩ | hw
  · have hq := isQuoted_plain nonempty plain []
    rw [List.append_nil] at hq
    simp only [hw, hq, Bool.false_and, Bool.false_eq_true, ↓reduceIte, hs, String.ofList_toList]
    rfl
  · have hq : isQuoted (quote :: (doubleQuotes (Utf8.encode s.toList) ++ [quote])) = true := rfl
    have hc : isClosed (quote :: (doubleQuotes (Utf8.encode s.toList) ++ [quote])) = true := by
      rw [isClosed, List.tail_cons, List.getLast?_append, List.getLast?_singleton]
      rfl
    simp only [hw, hq, hc, Bool.not_true, Bool.and_false, Bool.false_eq_true, ↓reduceIte,
      stripEnds_quoted, undoubleQuotes_doubleQuotes, hs, String.ofList_toList]
    rfl

/-! ## Lines and quotes -/

/-- Whether one is inside quotes after some bytes, provided that no line ends in them. -/
def insideAfter? (inside : Bool) : List UInt8 → Option Bool
  | [] => some inside
  | b :: rest =>
      if !inside && b == lineFeed then none else insideAfter? (inside != (b == quote)) rest

theorem insideAfter?_append {inside middle : Bool} {bytes : List UInt8}
    (h : insideAfter? inside bytes = some middle) (more : List UInt8) :
    insideAfter? inside (bytes ++ more) = insideAfter? middle more := by
  induction bytes generalizing inside with
  | nil =>
      cases h
      rfl
  | cons b bytes ih =>
      rw [insideAfter?] at h
      rw [List.cons_append, insideAfter?]
      split at h
      · cases h
      · next hb => rw [if_neg hb, ih h]

theorem splitHeading_append {inside after : Bool} {bytes : List UInt8}
    (h : insideAfter? inside bytes = some after) (more : List UInt8) :
    splitHeading inside (bytes ++ more) =
      (bytes ++ (splitHeading after more).1, (splitHeading after more).2) := by
  induction bytes generalizing inside with
  | nil =>
      cases h
      rfl
  | cons b bytes ih =>
      rw [insideAfter?] at h
      rw [List.cons_append, splitHeading]
      split at h
      · cases h
      · next hb => rw [if_neg hb, ih h]; rfl

theorem countLineFeeds_append {inside after : Bool} {bytes : List UInt8}
    (h : insideAfter? inside bytes = some after) (more : List UInt8) :
    countLineFeeds inside (bytes ++ more) = countLineFeeds after more := by
  induction bytes generalizing inside with
  | nil =>
      cases h
      rfl
  | cons b bytes ih =>
      rw [insideAfter?] at h
      rw [List.cons_append, countLineFeeds]
      split at h
      · cases h
      · next hb => simp only [ih h, if_neg hb]

theorem insideAfter?_plain {field : List UInt8} (plain : ∀ b ∈ field, Plain b) :
    insideAfter? false field = some false := by
  induction field with
  | nil => rfl
  | cons b field ih =>
      obtain ⟨⟨_, hq, hl, _⟩, plain⟩ := List.forall_mem_cons.1 plain
      simpa [insideAfter?, beq_false_of_ne hq, beq_false_of_ne hl] using ih plain

theorem insideAfter?_doubleQuotes (field : List UInt8) :
    insideAfter? true (doubleQuotes field) = some true := by
  induction field with
  | nil => rfl
  | cons b field ih =>
      by_cases hb : b = quote
      · rw [hb, doubleQuotes_cons_quote]
        simpa [insideAfter?, quote, lineFeed] using ih
      · rw [doubleQuotes_cons_of_ne hb]
        simpa [insideAfter?, beq_false_of_ne hb] using ih

/-- No line ends in a written field, and its quotes are even. -/
theorem insideAfter?_writeField (field : List UInt8) :
    insideAfter? false (writeField field) = some false := by
  rcases writeField_eq field with ⟨_, plain, hw⟩ | hw
  · rw [hw, insideAfter?_plain plain]
  · have hclose : insideAfter? true [quote] = some false := rfl
    have hopen : insideAfter? false (quote :: (doubleQuotes field ++ [quote])) =
        insideAfter? true (doubleQuotes field ++ [quote]) := rfl
    rw [hw, hopen, insideAfter?_append (insideAfter?_doubleQuotes field), hclose]

end Wordsheet.Csv
