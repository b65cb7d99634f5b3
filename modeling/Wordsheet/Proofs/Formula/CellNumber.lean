import Wordsheet.Formula.CellNumber
import Wordsheet.Proofs.Formula.Spelling

/-! # Numbers in cells are numerals

What a cell may hold as a number is a numeral once blanks at its ends and commas are taken out, and
a numeral of the same value. So no text that is let through as a number fails to be read as one.
-/

namespace Wordsheet.Formula

open Text

variable {c : Char} {cs : List Char} {value : Decimal}

/-! ## Numerals without a sign -/

theorem unsigned?_cons (h : inNumber c = true) (cs : List Char) :
    Numeral.unsigned? (c :: cs) =
      let (whole, rest) := Numeral.splitDigits (c :: cs)
      let (fraction, rest) := Numeral.splitFraction rest
      if whole.isEmpty && fraction.isEmpty then none
      else
        (Numeral.power? rest).map fun power =>
          .finite (Numeral.ofDigits whole fraction power) := by
  have lower : c.toLower = c := by
    simp only [inNumber, Bool.or_eq_true, beq_iff_eq] at h
    rcases h with hd | rfl
    · exact toLower_of_isDigit hd
    · decide
  have hi : c ≠ 'i' := by
    rintro rfl
    exact absurd h (by decide)
  have hn : c ≠ 'n' := by
    rintro rfl
    exact absurd h (by decide)
  simp [Numeral.unsigned?, lower, hi, hn]

theorem unsigned?_digits {whole : List Char} (nonempty : whole ≠ [])
    (digits : ∀ c ∈ whole, isDigit c = true) :
    Numeral.unsigned? whole = some (.finite (Numeral.ofDigits whole [] 0)) := by
  have h := unsigned?_number nonempty digits (List.forall_mem_nil _)
  rwa [behindPoint_nil, List.append_nil] at h

/-- Digits are needed on one side of a point only. -/
theorem unsigned?_point {whole fraction : List Char} (wholeDigits : ∀ c ∈ whole, isDigit c = true)
    (fractionDigits : ∀ c ∈ fraction, isDigit c = true) (nonempty : whole ≠ [] ∨ fraction ≠ []) :
    Numeral.unsigned? (whole ++ '.' :: fraction) =
      some (.finite (Numeral.ofDigits whole fraction 0)) := by
  have hwhole : Numeral.splitDigits (whole ++ '.' :: fraction) = (whole, '.' :: fraction) :=
    splitDigits_append wholeDigits (by simp [isDigit_point])
  have hfraction : Numeral.splitFraction ('.' :: fraction) = (fraction, []) := by
    have hs : Numeral.splitDigits (fraction ++ []) = (fraction, []) :=
      splitDigits_append fractionDigits rfl
    rwa [List.append_nil] at hs
  have some_digit : (whole.isEmpty && fraction.isEmpty) = false := by
    rw [Bool.and_eq_false_iff, List.isEmpty_eq_false_iff, List.isEmpty_eq_false_iff]
    exact nonempty
  have hread (c : Char) (cs : List Char) (hc : inNumber c = true)
      (he : whole ++ '.' :: fraction = c :: cs) :
      Numeral.unsigned? (whole ++ '.' :: fraction) =
        some (.finite (Numeral.ofDigits whole fraction 0)) := by
    rw [he, unsigned?_cons hc, ← he, hwhole]
    simp [hfraction, some_digit, Numeral.power?]
  cases whole with
  | nil => exact hread '.' fraction (by decide) rfl
  | cons d ds => exact hread d _ (by simp [inNumber, wholeDigits d List.mem_cons_self]) rfl

/-! ## Numerals with a sign -/

def inSigned (c : Char) : Bool :=
  inNumber c || c == '+' || c == '-'

theorem parse?_of_inSigned (h : ∀ c ∈ cs, inSigned c = true) :
    Numeral.parse? (String.ofList cs) =
      (Numeral.unsigned? (Numeral.splitSign cs).2).map fun numeral =>
        if (Numeral.splitSign cs).1 then numeral.negate else numeral := by
  refine parse?_of_plain fun c hc => ?_
  have := h c hc
  simp only [inSigned, Bool.or_eq_true, beq_iff_eq] at this
  rcases this with (hn | rfl) | rfl
  · exact ⟨isMargin_of_inNumber hn, ne_underscore_of_inNumber hn⟩
  · decide
  · decide

/-! ## Cells -/

/-- The part of a cell before its point: digits once commas are taken out, and some if any. -/
theorem splitWholePart_spec (cs : List Char) :
    ∃ whole rest, splitWholePart cs = (whole, rest) ∧ whole ++ rest = cs ∧
      whole.filter (· != ',') = whole.filter isDigit ∧
      (whole ≠ [] → whole.filter isDigit ≠ []) := by
  cases cs with
  | nil => exact ⟨[], [], rfl, rfl, rfl, id⟩
  | cons c cs =>
      cases hc : isDigit c with
      | false => exact ⟨[], c :: cs, by simp [splitWholePart, hc], rfl, rfl, id⟩
      | true =>
          refine ⟨c :: cs.takeWhile continuesWhole, cs.dropWhile continuesWhole,
            by simp [splitWholePart, hc], by simp, ?_, by simp [hc]⟩
          refine List.filter_congr fun d hd => ?_
          have hcontinues : continuesWhole d = true := by
            rcases List.mem_cons.1 hd with rfl | hd
            · simp [continuesWhole, hc]
            · exact List.all_eq_true.1 List.all_takeWhile d hd
          simp only [continuesWhole, Bool.or_eq_true, beq_iff_eq] at hcontinues
          rcases hcontinues with hdigit | rfl
          · rw [hdigit, bne_iff_ne]
            rintro rfl
            exact absurd hdigit (by decide)
          · decide

theorem mem_filter_isDigit {whole : List Char} (h : c ∈ whole.filter isDigit) : isDigit c = true :=
  (List.mem_filter.1 h).2

/-- A number without a sign in a cell is a numeral without its commas. -/
theorem unsigned?_of_unsignedCellNumber? (h : unsignedCellNumber? cs = some value) :
    (∀ c ∈ cs.filter (· != ','), inNumber c = true) ∧
      Numeral.unsigned? (cs.filter (· != ',')) = some (.finite value) ∧ value.negative = false := by
  obtain ⟨whole, rest, hsplit, rfl, hwhole, hnonempty⟩ := splitWholePart_spec cs
  simp only [unsignedCellNumber?, hsplit] at h
  rw [List.filter_append, hwhole]
  cases rest with
  | nil =>
      dsimp only at h
      split at h
      · cases h
      · next hw =>
          cases h
          rw [List.filter_nil, List.append_nil]
          refine ⟨fun c hc => by simp [inNumber, mem_filter_isDigit hc], ?_, rfl⟩
          exact unsigned?_digits (hnonempty (by simpa using hw)) fun c => mem_filter_isDigit
  | cons point fraction =>
      dsimp only at h
      split at h
      · next hf =>
          cases h
          simp only [Bool.and_eq_true, beq_iff_eq, List.all_eq_true, Bool.not_eq_true'] at hf
          obtain ⟨⟨rfl, digits⟩, some_digit⟩ := hf
          have hkeep : ('.' :: fraction).filter (· != ',') = '.' :: fraction := by
            refine List.filter_eq_self.2 fun c hc => ?_
            rw [bne_iff_ne]
            rintro rfl
            rcases List.mem_cons.1 hc with hc | hc
            · exact absurd hc (by decide)
            · exact absurd (digits _ hc) (by decide)
          rw [hkeep]
          refine ⟨?_, ?_, rfl⟩
          · intro c hc
            rcases List.mem_append.1 hc with hc | hc
            · simp [inNumber, mem_filter_isDigit hc]
            · rcases List.mem_cons.1 hc with rfl | hc
              · decide
              · simp [inNumber, digits c hc]
          · refine unsigned?_point (fun c => mem_filter_isDigit) digits ?_
            rw [Bool.and_eq_false_iff] at some_digit
            exact some_digit.imp (fun hw => hnonempty (by simpa using hw)) (by simp)
      · cases h

/-- The sign of a text whose other characters are those of a number. -/
theorem splitSign_filter (h : ∀ c ∈ (Numeral.splitSign cs).2.filter (· != ','), inNumber c = true) :
    Numeral.splitSign (cs.filter (· != ',')) =
        ((Numeral.splitSign cs).1, (Numeral.splitSign cs).2.filter (· != ',')) ∧
      ∀ c ∈ cs.filter (· != ','), inSigned c = true := by
  have signed (ds : List Char) (hds : ∀ c ∈ ds, inNumber c = true) :
      ∀ c ∈ ds, inSigned c = true := fun c hc => by simp [inSigned, hds c hc]
  unfold Numeral.splitSign at h
  split at h
  · exact ⟨rfl, List.forall_mem_cons.2 ⟨by decide, signed _ h⟩⟩
  · exact ⟨rfl, List.forall_mem_cons.2 ⟨by decide, signed _ h⟩⟩
  · next hminus hplus =>
      have keeps (ds : List Char) (hds : ∀ c ∈ ds, inNumber c = true) :
          Numeral.splitSign ds = (false, ds) := by
        unfold Numeral.splitSign
        split
        · exact absurd (hds _ List.mem_cons_self) (by decide)
        · exact absurd (hds _ List.mem_cons_self) (by decide)
        · rfl
      have hcs : Numeral.splitSign cs = (false, cs) := by
        unfold Numeral.splitSign
        split
        · exact absurd rfl (hminus _)
        · exact absurd rfl (hplus _)
        · rfl
      rw [keeps _ h, hcs]
      exact ⟨rfl, signed _ h⟩

/-- A text that counts as a number in a cell is a numeral of the same value when it is trimmed and
its commas are taken out. -/
theorem parse?_of_cellDecimal? {content : String} (h : cellDecimal? content = some value) :
    Numeral.parse? (String.ofList ((trim content.toList).filter (· != ','))) =
      some (.finite value) := by
  simp only [cellDecimal?] at h
  obtain ⟨unsigned, hu, rfl⟩ := Option.map_eq_some_iff.1 h
  obtain ⟨hin, hread, hpositive⟩ := unsigned?_of_unsignedCellNumber? hu
  obtain ⟨hsign, hsigned⟩ := splitSign_filter hin
  rw [parse?_of_inSigned hsigned, hsign, hread, Option.map_some]
  obtain ⟨_, coefficient, exponent⟩ := unsigned
  cases hpositive
  cases (Numeral.splitSign (trim content.toList)).1 <;> rfl

end Wordsheet.Formula
