import Wordsheet.Decimal.Layout
import Wordsheet.Proofs.Decimal.Exact
import Wordsheet.Proofs.Formula.CellNumber

/-! # Doubles in cells

The plain layout writes digits around a point wherever the point stands, and
the digits denote the number that was laid out. Such a text is a number of the
grammar of cells, however large or small the double is; so a finite double that
is stored in a cell is read back from it.
-/

namespace Wordsheet.Decimal

open Text Formula

/-! ## Digits -/

theorem digitsValue_plain {cs : List Char} (h : ∀ c ∈ cs, c.isDigit = true) :
    digitsValue cs = Nat.ofDigitChars 10 cs 0 := by
  rw [digitsValue, Nat.ofDigitChars_eq_foldl]
  refine List.foldl_ext _ _ _ fun value c hc => ?_
  rw [digitValue, digitValue?_plain (h c hc)]
  rfl

theorem isDigit_of_mem_digits {c : Char} {n : Nat} (h : c ∈ digits n) : c.isDigit = true :=
  Nat.isDigit_of_mem_toDigits (by decide) (by decide) h

theorem shed_mul_pow (c j : Nat) (k : Int) : shed (c * 10 ^ j) k = shed c (k + j) := by
  by_cases hc : c = 0
  · subst hc
    simp [shed]
  · induction j generalizing k with
    | zero => simp
    | succ j ih =>
        have hpos : 0 < c * 10 ^ j := Nat.mul_pos (Nat.pos_of_ne_zero hc) (Nat.pow_pos (by decide))
        rw [Nat.pow_succ, ← Nat.mul_assoc, shed, if_neg (by omega), if_pos (Nat.mul_mod_left _ _),
          Nat.mul_div_cancel _ (by decide), ih, Nat.cast_succ, Int.add_assoc, Int.add_comm 1]

/-- The digits around the point spell the number, wherever the point stands. -/
theorem positional_spells {ds : List Char} (nonempty : 0 < ds.length)
    (plain : ∀ c ∈ ds, c.isDigit = true) (k : Int) :
    ∃ whole fraction, positional ds (ds.length + k) = (whole, fraction) ∧ whole ≠ [] ∧
      (∀ c ∈ whole ++ fraction, c.isDigit = true) ∧
      shed (digitsValue (whole ++ fraction)) (0 - fraction.length) =
        shed (Nat.ofDigitChars 10 ds 0) k := by
  have zeros (n : Nat) : ∀ c ∈ List.replicate n '0', c.isDigit = true := fun c hc => by
    rw [List.eq_of_mem_replicate hc]
    rfl
  rw [positional]
  split
  · next hpoint =>
    have hplain : ∀ c ∈ ['0'] ++ (List.replicate (ds.length + k).natAbs '0' ++ ds),
        c.isDigit = true :=
      List.forall_mem_append.2 ⟨zeros 1, List.forall_mem_append.2 ⟨zeros _, plain⟩⟩
    refine ⟨_, _, rfl, List.cons_ne_nil _ _, hplain, ?_⟩
    have hpower : (0 : Int) - (List.replicate (ds.length + k).natAbs '0' ++ ds).length = k := by
      rw [List.length_append, List.length_replicate]
      omega
    rw [hpower, digitsValue_plain hplain, Nat.ofDigitChars_append, Nat.ofDigitChars_append,
      show Nat.ofDigitChars 10 ['0'] 0 = 0 from rfl, Nat.ofDigitChars_replicate_zero, Nat.mul_zero]
  · next hpoint =>
    have hwhole : ds.take (ds.length + k).toNat ++
        List.replicate ((ds.length + k).toNat - ds.length) '0' ≠ [] := by
      rw [← List.length_pos_iff, List.length_append, List.length_take, List.length_replicate]
      omega
    have hplain : ∀ c ∈ ds.take (ds.length + k).toNat ++
        List.replicate ((ds.length + k).toNat - ds.length) '0' ++ ds.drop (ds.length + k).toNat,
        c.isDigit = true :=
      List.forall_mem_append.2 ⟨List.forall_mem_append.2
        ⟨fun c hc => plain c (List.mem_of_mem_take hc), zeros _⟩,
        fun c hc => plain c (List.mem_of_mem_drop hc)⟩
    refine ⟨_, _, rfl, hwhole, hplain, ?_⟩
    rw [digitsValue_plain hplain]
    rcases Int.lt_or_le 0 k with hk | hk
    · -- The point stands behind zeros that fill up the digits.
      have hsome : (ds.length + k).toNat - ds.length = k.toNat := by omega
      have hlong : ds.length ≤ (ds.length + k).toNat := by omega
      have hpower : (0 : Int) - ([] : List Char).length + k.toNat = k := by
        rw [List.length_nil]
        omega
      rw [List.drop_eq_nil_of_le hlong, List.take_of_length_le hlong, hsome, List.append_nil,
        Nat.ofDigitChars_append, Nat.ofDigitChars_replicate_zero, Nat.mul_comm, shed_mul_pow,
        hpower]
    · -- The point stands among the digits.
      have hnone : (ds.length + k).toNat - ds.length = 0 := by omega
      have hpower : (0 : Int) - (ds.drop (ds.length + k).toNat).length = k := by
        rw [List.length_drop]
        omega
      rw [hpower, hnone, List.replicate_zero, List.append_nil, List.take_append_drop]

/-- The digits of a number around its point spell the number. -/
theorem positional_digits (d : Decimal) :
    ∃ whole fraction, positional (digits d.coefficient) d.magnitude = (whole, fraction) ∧
      whole ≠ [] ∧ (∀ c ∈ whole, c.isDigit = true) ∧ (∀ c ∈ fraction, c.isDigit = true) ∧
      shed (digitsValue (whole ++ fraction)) (0 - fraction.length) =
        shed d.coefficient d.exponent := by
  have hvalue : Nat.ofDigitChars 10 (Nat.toDigits 10 d.coefficient) 0 = d.coefficient :=
    Nat.ofDigitChars_ten_toDigits
  obtain ⟨whole, fraction, hparts, nonempty, plain, hshed⟩ := positional_spells
    (Nat.length_toDigits_pos : 0 < (digits d.coefficient).length)
    (fun _ => isDigit_of_mem_digits) d.exponent
  rw [hvalue] at hshed
  obtain ⟨wholePlain, fractionPlain⟩ := List.forall_mem_append.1 plain
  exact ⟨whole, fraction, hparts, nonempty, wholePlain, fractionPlain, hshed⟩

/-- The text of a number is a sign and digits around a point, which spell the number. -/
theorem exists_plainText (d : Decimal) :
    ∃ whole fraction, d.plainText = signText d.negative ++ (whole ++ behindPoint fraction) ∧
      whole ≠ [] ∧ (∀ c ∈ whole, isDigit c = true) ∧ (∀ c ∈ fraction, isDigit c = true) ∧
      shed (digitsValue (whole ++ fraction)) (0 - fraction.length) =
        shed d.coefficient d.exponent := by
  obtain ⟨whole, fraction, hparts, nonempty, wholePlain, fractionPlain, hshed⟩ :=
    d.positional_digits
  refine ⟨whole, fraction, ?_, nonempty, fun c hc => isDigit_plain (wholePlain c hc),
    fun c hc => isDigit_plain (fractionPlain c hc), hshed⟩
  rw [Decimal.plainText, hparts]
  exact List.append_assoc _ _ _

end Wordsheet.Decimal

namespace Wordsheet.Formula

open Text

/-! ## Numbers in cells -/

theorem isBlank_of_inNumber {c : Char} (h : inNumber c = true) : isBlank c = false := by
  simp only [inNumber, Bool.or_eq_true, beq_iff_eq] at h
  rcases h with hd | rfl
  · exact isBlank_of_isDigit hd
  · decide

/-- Digits around a point are a number in a cell. -/
theorem unsignedCellNumber?_digits {whole fraction : List Char} (nonempty : whole ≠ [])
    (wholeDigits : ∀ c ∈ whole, isDigit c = true)
    (fractionDigits : ∀ c ∈ fraction, isDigit c = true) :
    unsignedCellNumber? (whole ++ behindPoint fraction) =
      some (Numeral.ofDigits whole fraction 0) := by
  obtain ⟨c, cs, rfl⟩ := List.exists_cons_of_ne_nil nonempty
  have hc := wholeDigits c List.mem_cons_self
  have continues : ∀ x ∈ cs, continuesWhole x = true := fun x hx => by
    rw [continuesWhole, wholeDigits x (List.mem_cons_of_mem _ hx), Bool.true_or]
  have hsplit (rest : List Char) (stops : ∀ x ∈ rest.head?, continuesWhole x = false) :
      splitWholePart (c :: cs ++ rest) = (c :: cs, rest) := by
    rw [List.cons_append, splitWholePart, if_pos hc, List.takeWhile_append_of_pos continues,
      List.dropWhile_append_of_pos continues]
    cases rest with
    | nil => simp
    | cons x rest => simp [stops x rfl]
  have hfilter : (c :: cs).filter isDigit = c :: cs := List.filter_eq_self.2 wholeDigits
  cases fraction with
  | nil =>
      rw [unsignedCellNumber?, behindPoint, if_pos List.isEmpty_nil, hsplit [] (by simp)]
      simp [hfilter]
  | cons f fs =>
      have hstop : continuesWhole '.' = false := by decide
      have hfraction : (f :: fs).all isDigit = true := List.all_eq_true.2 fractionDigits
      rw [unsignedCellNumber?, behindPoint, if_neg (by simp), hsplit _ (by simp [hstop])]
      simp [hfraction, hfilter]

theorem splitSign_signText {cs : List Char} (h : ∀ c ∈ cs.head?, isDigit c = true)
    (negative : Bool) : Numeral.splitSign (Decimal.signText negative ++ cs) = (negative, cs) := by
  cases negative with
  | true => rfl
  | false =>
      cases cs with
      | nil => rfl
      | cons c cs => exact splitSign_of_isDigit (h c rfl) cs

/-- The text of a number is the same number in a cell. -/
theorem cellDecimal?_plainText (d : Decimal) :
    ∃ d', cellDecimal? (String.ofList d.plainText) = some d' ∧ d'.canonical = d.canonical := by
  obtain ⟨whole, fraction, htext, nonempty, wholeDigits, fractionDigits, hshed⟩ :=
    d.exists_plainText
  have visible : ∀ c ∈ d.plainText, isBlank c = false := by
    rw [htext]
    refine List.forall_mem_append.2 ⟨fun c hc => ?_, fun c hc =>
      isBlank_of_inNumber (inNumber_of_mem wholeDigits fractionDigits c hc)⟩
    cases hn : d.negative <;> rw [hn] at hc <;> cases hc
    · rfl
    · next hc => cases hc
  have hsign : Numeral.splitSign d.plainText = (d.negative, whole ++ behindPoint fraction) := by
    rw [htext]
    refine splitSign_signText (fun c hc => ?_) _
    obtain ⟨w, ws, rfl⟩ := List.exists_cons_of_ne_nil nonempty
    cases hc
    exact wholeDigits c List.mem_cons_self
  have hread := unsignedCellNumber?_digits nonempty wholeDigits fractionDigits
  refine ⟨{ Numeral.ofDigits whole fraction 0 with negative := d.negative }, ?_, ?_⟩
  · simp only [cellDecimal?, String.toList_ofList, trim_eq_self visible, hsign, hread,
      Option.map_some]
  · simp only [Decimal.canonical, Numeral.ofDigits, hshed]

theorem cellNumber?_zero : cellNumber? "0" = some 0.0 := by
  have hdecimal : cellDecimal? "0" = some ⟨false, 0, 0⟩ := by decide
  have hfloat : (⟨false, 0, 0⟩ : Decimal).toFloat = 0.0 := by
    simp [Decimal.toFloat, Decimal.canonical, Decimal.shed]
  rw [cellNumber?, hdecimal, Option.map_some, hfloat]
  rfl

theorem plainText_zero : plainText 0.0 = "0" := by
  rw [plainText, if_neg (by decide), if_pos (by decide)]

/-- A finite double stored in a cell is read back from it; the two zeros are stored alike. -/
theorem cellNumber?_plainText {x : Float} (hfinite : x.isFinite = true) :
    ∃ y, cellNumber? (plainText x) = some y ∧ (y == x) = true ∧ (x ≠ -0.0 → y = x) ∧
      y.isFinite = true ∧ plainText y = plainText x := by
  rw [plainText, hfinite]
  simp only [Bool.not_true, Bool.false_eq_true, if_false]
  split
  · next hzero =>
    obtain rfl | rfl := Decimal.eq_zero_or hzero
    · exact ⟨0.0, cellNumber?_zero, hzero, fun _ => rfl, rfl, plainText_zero⟩
    · exact ⟨0.0, cellNumber?_zero, Decimal.zero_beq_negative, fun h => absurd rfl h, rfl,
        plainText_zero⟩
  · next hnonzero =>
    rw [Bool.not_eq_true] at hnonzero
    obtain ⟨d, hread, hcanonical⟩ := cellDecimal?_plainText (Decimal.shortest x)
    have hx : d.toFloat = x :=
      (Decimal.toFloat_congr hcanonical).trans (Decimal.shortest_toFloat hfinite hnonzero)
    refine ⟨x, ?_, Decimal.beq_self_finite hfinite, fun _ => rfl, hfinite, ?_⟩
    · rw [cellNumber?, hread, Option.map_some, hx, Option.filter_some_pos hfinite]
    · rw [plainText, hfinite, hnonzero]
      rfl

end Wordsheet.Formula
