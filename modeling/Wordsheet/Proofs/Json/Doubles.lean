import Wordsheet.Proofs.Decimal.Literal
import Wordsheet.Proofs.Json.Scalars

/-! # Reading doubles back

The full layout of a finite double is a number with a point or a power of ten and without zeros in
front. It is read as the double if what follows is no part of it.
-/

namespace Wordsheet

open Text Formula

/-! ## Literals of doubles -/

/-- A literal that starts with no zero but a single one, and has a point or a power of ten. -/
structure Literal.Marked (l : Literal) : Prop extends l.Proper where
  leading : l.whole = ['0'] ∨ l.whole.head? ≠ some '0'
  marked : l.fraction ≠ [] ∨ l.power ≠ none

namespace Json

variable {l : Literal} {rest : List Char}

theorem splitPoint_behindPoint {ds : List Char} (plain : ∀ c ∈ ds, c.isDigit = true)
    (ends : ∀ c ∈ rest.head?, isPlainDigit c = false ∧ c ≠ '.') :
    splitPoint (behindPoint ds ++ rest) = (ds, rest) := by
  cases ds with
  | nil =>
      refine splitPoint.eq_2 _ fun tail starts => ?_
      exact (ends '.' (by rw [show rest = '.' :: tail from starts]; rfl)).2 rfl
  | cons d ds =>
      obtain ⟨htake, hdrop⟩ := takeWhile_digits plain fun c hc => (ends c hc).1
      change splitPoint ('.' :: (d :: ds ++ rest)) = _
      rw [splitPoint, htake, hdrop]
      rfl

theorem splitPower_powerText (marked : l.Marked) (ends : EndsNumber rest) :
    splitPower (Literal.powerText l.power ++ rest) =
      (l.power.map fun power => Literal.exponent (some power), rest) := by
  cases hp : l.power with
  | none => exact splitPower_of_ends ends
  | some power =>
      obtain ⟨negative, ds⟩ := power
      obtain ⟨nonempty, plain⟩ := marked.power _ _ hp
      obtain ⟨htake, hdrop⟩ := takeWhile_digits plain fun c hc => (ends c hc).1
      cases negative <;>
        simp [Literal.powerText, Literal.exponent, splitPower, Numeral.splitSign, htake, hdrop,
          nonempty]

theorem readNumber_literal (marked : l.Marked) (ends : EndsNumber rest) :
    readNumber l.negative
        (l.whole ++ (behindPoint l.fraction ++ (Literal.powerText l.power ++ rest))) =
      .ok (.float l.decimal.toFloat, rest) := by
  have powerEnds : ∀ c ∈ (Literal.powerText l.power ++ rest).head?,
      isPlainDigit c = false ∧ c ≠ '.' := by
    cases l.power with
    | none => exact fun c hc => ⟨(ends c hc).1, (ends c hc).2.1⟩
    | some power =>
        rintro c ⟨⟩
        exact ⟨by decide, by decide⟩
  have pointEnds : ∀ c ∈ (behindPoint l.fraction ++ (Literal.powerText l.power ++ rest)).head?,
      isPlainDigit c = false := by
    cases l.fraction with
    | nil => exact fun c hc => (powerEnds c hc).1
    | cons f fs =>
        rintro c ⟨⟩
        decide
  have double : (l.fraction.isEmpty && (l.power.map fun power =>
      Literal.exponent (some power)).isNone) = false := by
    rcases marked.marked with fraction | power
    · simp [fraction]
    · obtain ⟨p, hp⟩ := Option.ne_none_iff_exists'.1 power
      simp [hp]
  have exponent : (l.power.map fun power => Literal.exponent (some power)).getD 0 =
      Literal.exponent l.power := by
    cases l.power <;> rfl
  have nonempty : l.whole.isEmpty = false := List.isEmpty_eq_false_iff.2 marked.nonempty
  simp only [readNumber, splitWhole_append marked.nonempty marked.whole marked.leading pointEnds,
    nonempty, splitPoint_behindPoint marked.fraction powerEnds, splitPower_powerText marked ends,
    double, exponent]
  rfl

theorem readScalar_literal (marked : l.Marked) (ends : EndsNumber rest) :
    readScalar (l.text ++ rest) = .ok (.float l.decimal.toFloat, rest) := by
  obtain ⟨d, ds, hwhole⟩ := List.exists_cons_of_ne_nil marked.nonempty
  have hd : isPlainDigit d = true := marked.whole d (hwhole ▸ List.mem_cons_self)
  have read := readNumber_literal marked ends
  rw [Literal.text, List.append_assoc, List.append_assoc, List.append_assoc]
  cases hn : l.negative with
  | true =>
      rw [hn, hwhole] at read
      rw [hwhole]
      exact (readScalar_minus hd _).trans read
  | false =>
      rw [hn, hwhole] at read
      rw [hwhole]
      exact (readScalar_digit hd _).trans read

end Json

namespace Decimal

variable {d : Decimal} {x : Float}

/-! ## Full layouts -/

theorem head?_positional {ds : List Char} (nonempty : ds ≠ []) (other : ds.head? ≠ some '0')
    (point : Int) :
    (positional ds point).1 = ['0'] ∨ (positional ds point).1.head? ≠ some '0' := by
  rw [positional]
  split
  · exact .inl rfl
  · next behind =>
      obtain ⟨c, cs, rfl⟩ := List.exists_cons_of_ne_nil nonempty
      obtain ⟨n, hn⟩ := Nat.exists_eq_succ_of_ne_zero (n := point.toNat) (by omega)
      rw [hn]
      exact .inr other

theorem exponent_eq_zero (canonical : d.canonical = d) (h : d.coefficient = 0) :
    d.exponent = 0 := by
  rw [← canonical, Decimal.canonical, h, shed]
  rfl

/-- The full layout of a number in canonical form is a literal of a double. -/
theorem marked_fullLiteral (canonical : d.canonical = d) : d.fullLiteral.Marked := by
  refine ⟨d.proper_fullLiteral, ?_, ?_⟩
  · by_cases zero : d.coefficient = 0
    · obtain ⟨negative, coefficient, exponent⟩ := d
      cases zero
      cases exponent_eq_zero canonical rfl
      cases negative <;> exact .inl (by decide)
    · have other := Json.head_digits zero
      rw [fullLiteral]
      dsimp only
      split
      · exact head?_positional (Json.digits_ne_nil _) other _
      · refine .inr ?_
        rwa [List.head?_take, if_neg (by decide)]
  · rw [fullLiteral]
    dsimp only
    split
    · refine .inl ?_
      dsimp only
      split
      · exact List.cons_ne_nil _ _
      · next nonempty => simpa using nonempty
    · exact .inr (Option.some_ne_none _)

/-- The shortest decimal of a double is read as the double, also where it is zero. -/
theorem shortest_toFloat_of_isFinite (hfinite : x.isFinite = true) : (shortest x).toFloat = x := by
  by_cases zero : (x == 0.0) = true
  · rw [shortest, if_pos zero, toFloat, canonical, shed]
    rcases eq_zero_or zero with rfl | rfl
    · rw [show signBit 0.0 = false by decide]
      rfl
    · rw [show signBit (-0.0) = true by decide]
      rfl
  · exact shortest_toFloat hfinite (Bool.eq_false_of_not_eq_true zero)

end Decimal

namespace Json

variable {x : Float} {rest : List Char}

/-- The full layout of a finite double is a literal of it. -/
theorem exists_literal (hfinite : x.isFinite = true) :
    ∃ l : Literal, l.Marked ∧ (fullText x).toList = l.text ∧ l.decimal.toFloat = x := by
  refine ⟨(Decimal.shortest x).fullLiteral, Decimal.marked_fullLiteral (by simp), ?_, ?_⟩
  · rw [fullText_eq hfinite, String.toList_ofList, Decimal.text_fullLiteral]
  · rw [Decimal.toFloat_congr (Decimal.canonical_fullLiteral _),
      Decimal.shortest_toFloat_of_isFinite hfinite]

theorem readScalar_fullText (hfinite : x.isFinite = true) (ends : EndsNumber rest) :
    readScalar ((fullText x).toList ++ rest) = .ok (.float x, rest) := by
  obtain ⟨l, marked, hl, value⟩ := exists_literal hfinite
  rw [hl, readScalar_literal marked ends, value]

end Json

end Wordsheet
