import Mathlib.Data.List.Basic
import Mathlib.Tactic.IntervalCases
import Wordsheet.Json.Reader
import Wordsheet.Json.Writer
import Wordsheet.Proofs.Formula.PlainText

/-! # Reading texts and whole numbers back

A character inside a text is written as a letter behind a backslash, as itself or as its UTF-16
units, and read as its units in each case; the units of a text are read as its characters. The
digits of a whole number are read as the number if what follows is no part of it.
-/

namespace Wordsheet.Json

open Text

/-! ## Texts -/

section Texts

theorem hexValue?_digitChar : ∀ n < 16, hexValue? (Nat.digitChar n) = some n := by
  decide

theorem unit?_hexDigits {unit : Nat} (h : unit < 0x10000) :
    ∃ a b c d, hexDigits 4 unit = [a, b, c, d] ∧ unit? a b c d = some unit := by
  have digit (n : Nat) : hexValue? (Nat.digitChar (n % 16)) = some (n % 16) :=
    hexValue?_digitChar _ (Nat.mod_lt n (by decide))
  refine ⟨_, _, _, _, rfl, ?_⟩
  simp only [unit?, digit, Option.bind_eq_bind, Option.bind_some, Option.pure_def,
    Option.some.injEq]
  omega

theorem codes?_unitText {unit : Nat} (h : unit < 0x10000) (rest : List Char) :
    codes? (unitText unit ++ rest) = (codes? rest).map fun p => (unit :: p.1, p.2) := by
  obtain ⟨a, b, c, d, hexed, spelled⟩ := unit?_hexDigits h
  rw [unitText, hexed]
  simp only [List.cons_append, List.nil_append, codes?, spelled]
  cases codes? rest <;> rfl

def unitsOf (c : Char) : List Nat :=
  if c.toNat < 0x10000 then [c.toNat]
  else [0xd800 + (c.toNat - 0x10000) / 0x400, 0xdc00 + (c.toNat - 0x10000) % 0x400]

theorem toNat_lt (c : Char) : c.toNat < 0x110000 := by
  rcases c.valid with h | ⟨_, h⟩
  · exact Nat.lt_trans h (by decide)
  · exact h

theorem codes?_unitsText (c : Char) (rest : List Char) :
    codes? (unitsText c.toNat ++ rest) =
      (codes? rest).map fun p => (unitsOf c ++ p.1, p.2) := by
  have valid := toNat_lt c
  rw [unitsText, unitsOf]
  split
  · next h => exact codes?_unitText h rest
  · rw [List.append_assoc, codes?_unitText (by omega), codes?_unitText (by omega)]
    cases codes? rest <;> rfl

theorem codes?_escape {letter : Char} {code : Nat} (h : escape? letter = some code)
    (rest : List Char) :
    codes? ('\\' :: letter :: rest) = (codes? rest).map fun p => (code :: p.1, p.2) := by
  have notUnit : letter ≠ 'u' := by
    rintro rfl
    cases h
  rw [codes?.eq_4 _ _ (by simp [notUnit])]
  simp only [h]
  cases codes? rest <;> rfl

theorem codes?_plain {c : Char} (low : 32 ≤ c.toNat) (noQuote : c ≠ '"') (noSlash : c ≠ '\\')
    (rest : List Char) :
    codes? (c :: rest) = (codes? rest).map fun p => (c.toNat :: p.1, p.2) := by
  rw [codes?.eq_5 c rest noQuote (by simp [noSlash]) (by simp [noSlash]),
    if_neg (by simp [noSlash]; omega)]
  cases codes? rest <;> rfl

theorem codes?_charText (c : Char) (rest : List Char) :
    codes? (charText c ++ rest) = (codes? rest).map fun p => (unitsOf c ++ p.1, p.2) := by
  rw [charText]
  split_ifs with marked feed back tab step page plain
  · rw [Bool.or_eq_true, beq_iff_eq, beq_iff_eq] at marked
    rcases marked with rfl | rfl <;> exact codes?_escape rfl rest
  · cases eq_of_beq feed
    exact codes?_escape rfl rest
  · cases eq_of_beq back
    exact codes?_escape rfl rest
  · cases eq_of_beq tab
    exact codes?_escape rfl rest
  · cases eq_of_beq step
    exact codes?_escape rfl rest
  · cases eq_of_beq page
    exact codes?_escape rfl rest
  · simp only [Bool.or_eq_true, beq_iff_eq, not_or] at marked
    simp only [Bool.and_eq_true, decide_eq_true_eq] at plain
    rw [unitsOf, if_pos (by omega)]
    exact codes?_plain plain.1 marked.1 marked.2 rest
  · exact codes?_unitsText c rest

theorem codes?_flatMap (cs rest : List Char) :
    codes? (cs.flatMap charText ++ '"' :: rest) = some (cs.flatMap unitsOf, rest) := by
  induction cs with
  | nil => rw [List.flatMap_nil, List.nil_append, codes?, List.flatMap_nil]
  | cons c cs ih =>
      rw [List.flatMap_cons, List.append_assoc, codes?_charText, ih, List.flatMap_cons]
      rfl

theorem charsOf_cons {code : Nat} (noSurrogate : code < 0xd800 ∨ 0xe000 ≤ code)
    (codes : List Nat) : charsOf (code :: codes) = Char.ofNat code :: charsOf codes := by
  have single : (decide (0xd800 ≤ code) && decide (code < 0xe000)) = false := by
    simp
    omega
  cases codes with
  | nil => simp only [charsOf, single, Bool.false_eq_true, if_false]
  | cons low codes =>
      have pair : (decide (0xd800 ≤ code) && decide (code < 0xdc00) && decide (0xdc00 ≤ low) &&
          decide (low < 0xe000)) = false := by
        simp
        omega
      rw [charsOf, pair, single]
      rfl

theorem charsOf_pair {high low : Nat} (hlow : 0xd800 ≤ high) (hhigh : high < 0xdc00)
    (llow : 0xdc00 ≤ low) (lhigh : low < 0xe000) (codes : List Nat) :
    charsOf (high :: low :: codes) =
      Char.ofNat (0x10000 + (high - 0xd800) * 0x400 + (low - 0xdc00)) :: charsOf codes := by
  rw [charsOf, if_pos (by simp [hlow, hhigh, llow, lhigh])]

/-- The units of a character are read as the character, whatever follows. -/
theorem charsOf_unitsOf (c : Char) (codes : List Nat) :
    charsOf (unitsOf c ++ codes) = c :: charsOf codes := by
  have valid := toNat_lt c
  rw [unitsOf]
  split
  · have noSurrogate : c.toNat < 0xd800 ∨ 0xe000 ≤ c.toNat := by
      rcases c.valid with h | ⟨h, _⟩
      · exact .inl h
      · exact .inr h
    rw [List.singleton_append, charsOf_cons noSurrogate, Char.ofNat_toNat]
  · rw [List.cons_append, List.singleton_append,
      charsOf_pair (by omega) (by omega) (by omega) (by omega)]
    have joined : 0x10000 + (0xd800 + (c.toNat - 0x10000) / 0x400 - 0xd800) * 0x400 +
        (0xdc00 + (c.toNat - 0x10000) % 0x400 - 0xdc00) = c.toNat := by
      omega
    rw [joined, Char.ofNat_toNat]

theorem charsOf_flatMap (cs : List Char) : charsOf (cs.flatMap unitsOf) = cs := by
  induction cs with
  | nil => rfl
  | cons c cs ih => rw [List.flatMap_cons, charsOf_unitsOf, ih]

theorem textAfterQuote?_write (s : String) (rest : List Char) :
    textAfterQuote? (s.toList.flatMap charText ++ '"' :: rest) = some (s, rest) := by
  rw [textAfterQuote?, codes?_flatMap, Option.map_some]
  exact congrArg (fun cs => some (String.ofList cs, rest)) (charsOf_flatMap s.toList) |>.trans
    (by rw [String.ofList_toList])

end Texts

/-! ## Whole numbers -/

section Numbers

def EndsNumber (rest : List Char) : Prop :=
  ∀ c ∈ rest.head?, isPlainDigit c = false ∧ c ≠ '.' ∧ c ≠ 'e' ∧ c ≠ 'E'

theorem endsNumber_cons {c : Char} (h : isPlainDigit c = false ∧ c ≠ '.' ∧ c ≠ 'e' ∧ c ≠ 'E')
    (rest : List Char) : EndsNumber (c :: rest) := by
  intro d hd
  cases hd
  exact h

theorem isPlainDigit_of_mem_digits {c : Char} {n : Nat} (h : c ∈ Decimal.digits n) :
    isPlainDigit c = true :=
  Decimal.isDigit_of_mem_digits h

theorem digits_ne_nil (n : Nat) : Decimal.digits n ≠ [] :=
  Nat.toDigits_ne_nil

/-- No number but zero starts with a zero. -/
theorem head_digits {n : Nat} (h : n ≠ 0) : (Decimal.digits n).head? ≠ some '0' := by
  induction n using Nat.strongRecOn with
  | ind n ih =>
      by_cases small : n < 10
      · rw [Decimal.digits, Nat.toDigits_of_lt_base small]
        interval_cases n <;> first | exact absurd rfl h | decide
      · rw [Decimal.digits, Nat.toDigits_of_base_le (by decide) (by omega)]
        have := ih (n / 10) (by omega) (by omega)
        rw [Decimal.digits] at this
        rw [List.head?_append_of_ne_nil _ Nat.toDigits_ne_nil]
        exact this

theorem takeWhile_digits {ds rest : List Char} (plain : ∀ c ∈ ds, isPlainDigit c = true)
    (ends : ∀ c ∈ rest.head?, isPlainDigit c = false) :
    (ds ++ rest).takeWhile isPlainDigit = ds ∧ (ds ++ rest).dropWhile isPlainDigit = rest := by
  have stops : rest.takeWhile isPlainDigit = [] ∧ rest.dropWhile isPlainDigit = rest := by
    cases rest with
    | nil => exact ⟨rfl, rfl⟩
    | cons c rest =>
        have hc := ends c rfl
        exact ⟨List.takeWhile_cons_of_neg (by simp [hc]), List.dropWhile_cons_of_neg (by simp [hc])⟩
  rw [List.takeWhile_append_of_pos plain, List.dropWhile_append_of_pos plain, stops.1, stops.2,
    List.append_nil]
  exact ⟨rfl, rfl⟩

/-- Digits that start with no zero but a single one are the whole part of a number. -/
theorem splitWhole_append {ds rest : List Char} (nonempty : ds ≠ [])
    (plain : ∀ c ∈ ds, isPlainDigit c = true) (leading : ds = ['0'] ∨ ds.head? ≠ some '0')
    (ends : ∀ c ∈ rest.head?, isPlainDigit c = false) : splitWhole (ds ++ rest) = (ds, rest) := by
  rcases leading with rfl | other
  · rfl
  · have noZero (tail : List Char) : ds ++ rest ≠ '0' :: tail := fun starts => by
      have hd := congrArg List.head? starts
      rw [List.head?_append_of_ne_nil _ nonempty] at hd
      exact other hd
    obtain ⟨htake, hdrop⟩ := takeWhile_digits plain ends
    rw [splitWhole.eq_2 _ noZero, htake, hdrop]

theorem splitWhole_digits (n : Nat) {rest : List Char} (ends : EndsNumber rest) :
    splitWhole (Decimal.digits n ++ rest) = (Decimal.digits n, rest) := by
  refine splitWhole_append (digits_ne_nil n) (fun _ => isPlainDigit_of_mem_digits) ?_
    fun c hc => (ends c hc).1
  by_cases zero : n = 0
  · subst zero
    exact .inl rfl
  · exact .inr (head_digits zero)

theorem splitPoint_of_ends {rest : List Char} (ends : EndsNumber rest) :
    splitPoint rest = ([], rest) := by
  refine splitPoint.eq_2 rest fun tail starts => ?_
  exact (ends '.' (by rw [starts]; rfl)).2.1 rfl

theorem splitPower_of_ends {rest : List Char} (ends : EndsNumber rest) :
    splitPower rest = (none, rest) := by
  cases rest with
  | nil => rfl
  | cons mark rest =>
      obtain ⟨_, _, small, large⟩ := ends mark rfl
      rw [splitPower, if_neg (by simp [small, large])]

theorem digitsValue_digits (n : Nat) : digitsValue (Decimal.digits n) = n := by
  rw [Decimal.digitsValue_plain fun _ => Decimal.isDigit_of_mem_digits]
  exact Nat.ofDigitChars_toDigits (by decide) (by decide)

theorem readNumber_digits (negative : Bool) {n : Nat}
    (short : (Decimal.digits n).length ≤ Decimal.mostDigits) {rest : List Char}
    (ends : EndsNumber rest) :
    readNumber negative (Decimal.digits n ++ rest) =
      .ok (.int (if negative then -(n : Int) else n), rest) := by
  have nonempty : (Decimal.digits n).isEmpty = false :=
    List.isEmpty_eq_false_iff.2 (digits_ne_nil n)
  simp only [readNumber, splitWhole_digits n ends, nonempty, splitPoint_of_ends ends,
    splitPower_of_ends ends, digitsValue_digits, if_pos short]
  rfl

theorem exists_digits (n : Nat) :
    ∃ d ds, Decimal.digits n = d :: ds ∧ isPlainDigit d = true := by
  obtain ⟨d, ds, h⟩ := List.exists_cons_of_ne_nil (digits_ne_nil n)
  exact ⟨d, ds, h, isPlainDigit_of_mem_digits (h ▸ List.mem_cons_self)⟩

theorem ne_of_isPlainDigit {c d : Char} (hd : isPlainDigit d = true)
    (hc : isPlainDigit c = false) : c ≠ d := by
  rintro rfl
  exact nomatch hd.symm.trans hc

theorem readScalar_digit {d : Char} (hd : isPlainDigit d = true) (cs : List Char) :
    readScalar (d :: cs) = readNumber false (d :: cs) := by
  have letters : ∀ c ∈ ['n', 't', 'f', 'N', 'I', '-'], isPlainDigit c = false := by simp; decide
  have others : ∀ c ∈ ['n', 't', 'f', 'N', 'I', '-'], (c == d) = false := fun c hc =>
    beq_false_of_ne (ne_of_isPlainDigit hd (letters c hc))
  have sign : d ≠ '-' := (ne_of_isPlainDigit hd (by decide)).symm
  simp only [List.forall_mem_cons] at others
  simp [readScalar, dropWord?, others, sign]

theorem readScalar_minus {d : Char} (hd : isPlainDigit d = true) (cs : List Char) :
    readScalar ('-' :: d :: cs) = readNumber true (d :: cs) := by
  have noWord : ('I' == d) = false := beq_false_of_ne (ne_of_isPlainDigit hd (by decide))
  simp [readScalar, dropWord?, noWord]

theorem readScalar_intText {n : Int} (short : Decimal.isSpellable n = true) {rest : List Char}
    (ends : EndsNumber rest) : readScalar (intText n ++ rest) = .ok (.int n, rest) := by
  have short := of_decide_eq_true short
  obtain ⟨d, ds, hdigits, hd⟩ := exists_digits n.natAbs
  rw [intText]
  by_cases negative : n < 0
  · have spelled : readScalar ('-' :: (Decimal.digits n.natAbs ++ rest)) =
        readNumber true (Decimal.digits n.natAbs ++ rest) := by
      rw [hdigits]
      exact readScalar_minus hd _
    have value : -(n.natAbs : Int) = n := by omega
    rw [decide_eq_true negative, show Decimal.signText true = ['-'] from rfl,
      List.singleton_append, List.cons_append, spelled, readNumber_digits true short ends,
      if_pos rfl, value]
  · have spelled : readScalar (Decimal.digits n.natAbs ++ rest) =
        readNumber false (Decimal.digits n.natAbs ++ rest) := by
      rw [hdigits]
      exact readScalar_digit hd _
    have value : (n.natAbs : Int) = n := by omega
    rw [decide_eq_false negative, show Decimal.signText false = [] from rfl, List.nil_append,
      spelled, readNumber_digits false short ends, if_neg Bool.false_ne_true, value]

end Numbers

end Wordsheet.Json
