import Wordsheet.Proofs.Formula.Confinement

/-! # Formulas that are a reference

Two names with a point between them are one cell reference, to a strict lexer and to a lenient one,
and its value is the number in the cell.
-/

namespace Wordsheet.Formula

variable {row column : String}

/-! ## Lexing -/

/-- A name is split off at a character that may not stand in one. -/
theorem splitName?_append {s : String} (h : isName s = true) {rest : List Char}
    (stops : ∀ c ∈ rest.head?, continuesName c = false) :
    splitName? (s.toList ++ rest) = some (s.toList, rest) := by
  rw [isName] at h
  cases hs : s.toList with
  | nil =>
      rw [hs] at h
      cases h
  | cons c cs =>
      rw [hs] at h
      obtain ⟨starts, continues⟩ := Bool.and_eq_true_iff.1 h
      have continues := List.all_eq_true.1 continues
      rw [List.cons_append, splitName?, if_pos starts, List.takeWhile_append_of_pos continues,
        List.dropWhile_append_of_pos continues]
      cases rest with
      | nil => simp
      | cons x rest => simp [stops x rfl]

theorem pieces_of_token? {cs rest : List Char} {t : Token} (h : token? cs = some (t, rest)) :
    pieces cs = .token t :: pieces rest := by
  cases cs with
  | nil => cases h
  | cons c cs =>
      rw [pieces]
      split
      · next found =>
          rw [h] at found
          cases found
          rfl
      · next found =>
          rw [h] at found
          cases found

end Wordsheet.Formula
