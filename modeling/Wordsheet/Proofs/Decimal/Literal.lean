import Wordsheet.Proofs.Formula.PlainText

/-! # Doubles as literals

The two layouts of a double are literals: digits around a point, with a sign in front and a power
of ten behind. Both denote one number. The plain layout has no power of ten and no digit too many
behind the point, and the point is there exactly if the number is not whole.
-/

namespace Wordsheet

open Text Formula Decimal

/-! ## Literals -/

def Decimal.number (d : Decimal) : ℚ :=
  if d.negative then -d.size else d.size

/-- A sign, digits before and after a point, and the sign and the digits of a power of ten. -/
structure Literal where
  negative : Bool
  whole : List Char
  fraction : List Char
  power : Option (Bool × List Char)

namespace Literal

def powerText : Option (Bool × List Char) → List Char
  | none => []
  | some (negative, ds) => 'e' :: (if negative then '-' else '+') :: ds

/-- The power of ten that a number is moved by. -/
def exponent : Option (Bool × List Char) → Int
  | none => 0
  | some (negative, ds) => if negative then -(digitsValue ds : Int) else digitsValue ds

def text (l : Literal) : List Char :=
  signText l.negative ++ (l.whole ++ (behindPoint l.fraction ++ powerText l.power))

def decimal (l : Literal) : Decimal :=
  ⟨l.negative, digitsValue (l.whole ++ l.fraction), exponent l.power - l.fraction.length⟩

/-- What makes a literal one: digits before the point, and wherever digits are meant. -/
structure Proper (l : Literal) : Prop where
  nonempty : l.whole ≠ []
  whole : ∀ c ∈ l.whole, c.isDigit = true
  fraction : ∀ c ∈ l.fraction, c.isDigit = true
  power : ∀ negative ds, l.power = some (negative, ds) → ds ≠ [] ∧ ∀ c ∈ ds, c.isDigit = true

def isUsed (c : Char) : Bool :=
  c.isDigit || ['-', '+', '.', 'e'].contains c

variable {l : Literal} {c : Char}

theorem isUsed_of_isDigit (h : c.isDigit = true) : isUsed c = true := by
  rw [isUsed, h, Bool.true_or]

theorem isMargin_of_isUsed (h : isUsed c = true) : Numeral.isMargin c = false ∧ c ≠ '_' := by
  simp only [isUsed, Bool.or_eq_true, List.contains_cons, List.contains_nil, Bool.or_false,
    beq_iff_eq] at h
  rcases h with digit | rfl | rfl | rfl | rfl
  · have number : inNumber c = true := by simp [inNumber, isDigit_plain digit]
    exact ⟨isMargin_of_inNumber number, ne_underscore_of_inNumber number⟩
  all_goals exact ⟨by decide, by decide⟩

theorem isUsed_of_mem (proper : l.Proper) (h : c ∈ l.text) : isUsed c = true := by
  simp only [text, List.mem_append] at h
  rcases h with sign | whole | fraction | power
  · cases hn : l.negative <;> rw [hn] at sign
    · cases sign
    · rw [List.mem_singleton.1 sign]
      rfl
  · exact isUsed_of_isDigit (proper.whole c whole)
  · unfold behindPoint at fraction
    split at fraction
    · cases fraction
    · rcases List.mem_cons.1 fraction with rfl | fraction
      · rfl
      · exact isUsed_of_isDigit (proper.fraction c fraction)
  · cases hp : l.power with
    | none =>
        rw [hp] at power
        cases power
    | some found =>
        obtain ⟨negative, ds⟩ := found
        rw [hp, powerText, List.mem_cons, List.mem_cons] at power
        rcases power with rfl | rfl | power
        · rfl
        · cases negative <;> rfl
        · exact isUsed_of_isDigit ((proper.power _ _ hp).2 c power)

theorem power?_powerText (proper : l.Proper) :
    Numeral.power? (powerText l.power) = some (exponent l.power) := by
  cases hp : l.power with
  | none => rfl
  | some found =>
      obtain ⟨negative, ds⟩ := found
      obtain ⟨nonempty, plain⟩ := proper.power _ _ hp
      have digits : ds.all isDigit = true :=
        List.all_eq_true.2 fun c hc => isDigit_plain (plain c hc)
      cases negative <;> simp [powerText, exponent, Numeral.power?, Numeral.splitSign, nonempty,
        digits]

theorem unsigned?_text (proper : l.Proper) :
    Numeral.unsigned? (l.whole ++ (behindPoint l.fraction ++ powerText l.power)) =
      some (.finite (Numeral.ofDigits l.whole l.fraction (exponent l.power))) := by
  have wholeDigits := fun c hc => isDigit_plain (proper.whole c hc)
  have fractionDigits := fun c hc => isDigit_plain (proper.fraction c hc)
  have tail : (powerText l.power).takeWhile isDigit = [] := by
    cases l.power with
    | none => rfl
    | some found => exact List.takeWhile_cons_of_neg (by decide)
  have rest : (behindPoint l.fraction ++ powerText l.power).takeWhile isDigit = [] := by
    cases hf : l.fraction with
    | nil => exact tail
    | cons f fs => simp [behindPoint, isDigit_point]
  have whole := splitDigits_append wholeDigits rest
  have fraction : Numeral.splitFraction (behindPoint l.fraction ++ powerText l.power) =
      (l.fraction, powerText l.power) := by
    cases hf : l.fraction with
    | nil => cases l.power <;> rfl
    | cons f fs =>
        have := splitDigits_append (hf ▸ fractionDigits) tail
        simpa [behindPoint, Numeral.splitFraction] using this
  obtain ⟨c, cs, hc⟩ := List.exists_cons_of_ne_nil proper.nonempty
  have head : inNumber c = true := by
    simp [inNumber, wholeDigits c (hc ▸ List.mem_cons_self)]
  have hread := unsigned?_cons head (cs ++ (behindPoint l.fraction ++ powerText l.power))
  rw [← List.cons_append, ← hc, whole] at hread
  simpa [fraction, proper.nonempty, power?_powerText proper] using hread

/-- A literal is read as the number that it is. -/
theorem parse?_text (proper : l.Proper) :
    Numeral.parse? (String.ofList l.text) = some (.finite l.decimal) := by
  have hsign : Numeral.splitSign l.text =
      (l.negative, l.whole ++ (behindPoint l.fraction ++ powerText l.power)) := by
    refine splitSign_signText (fun c hc => ?_) l.negative
    obtain ⟨w, ws, hw⟩ := List.exists_cons_of_ne_nil proper.nonempty
    rw [hw] at hc
    cases hc
    exact isDigit_plain (proper.whole c (hw ▸ List.mem_cons_self))
  rw [parse?_of_plain fun c hc => isMargin_of_isUsed (isUsed_of_mem proper hc), hsign,
    unsigned?_text proper, Option.map_some, decimal]
  cases l.negative <;> rfl

end Literal

/-! ## Layouts -/

namespace Decimal

variable {d d' : Decimal}

theorem number_canonical (d : Decimal) : d.canonical.number = d.number := by
  rw [number, number, canonical_size, canonical_negative]

theorem number_congr (h : d.canonical = d'.canonical) : d.number = d'.number := by
  rw [← number_canonical d, h, number_canonical]

def plainLiteral (d : Decimal) : Literal where
  negative := d.negative
  whole := (positional (digits d.coefficient) d.magnitude).1
  fraction := (positional (digits d.coefficient) d.magnitude).2
  power := none

def fullLiteral (d : Decimal) : Literal :=
  let ds := digits d.coefficient
  let power := d.magnitude - 1
  if -4 ≤ power && power < 16 then
    let (whole, fraction) := positional ds d.magnitude
    ⟨d.negative, whole, if fraction.isEmpty then ['0'] else fraction, none⟩
  else
    let places := digits power.natAbs
    ⟨d.negative, ds.take 1, ds.drop 1,
      some (power < 0, List.replicate (2 - places.length) '0' ++ places)⟩

theorem text_plainLiteral (d : Decimal) : d.plainLiteral.text = d.plainText := by
  simp [plainLiteral, Literal.text, Literal.powerText, Decimal.plainText, behindPoint]

theorem text_fullLiteral (d : Decimal) : d.fullLiteral.text = d.fullText := by
  rw [fullLiteral, Decimal.fullText]
  dsimp only
  split
  · cases (positional (digits d.coefficient) d.magnitude).2 <;>
      simp [Literal.text, Literal.powerText, behindPoint]
  · have point : (digits d.coefficient).tail = [] ↔ (digits d.coefficient).length ≤ 1 := by
      rw [← List.drop_one, List.drop_eq_nil_iff]
    simp [Literal.text, Literal.powerText, Decimal.powerText, behindPoint, point]

theorem proper_plainLiteral (d : Decimal) : d.plainLiteral.Proper := by
  obtain ⟨whole, fraction, hparts, nonempty, wholePlain, fractionPlain, _⟩ := d.positional_digits
  rw [plainLiteral, hparts]
  exact ⟨nonempty, wholePlain, fractionPlain, nofun⟩

/-- The plain layout spells the number. -/
theorem canonical_plainLiteral (d : Decimal) :
    d.plainLiteral.decimal.canonical = d.canonical := by
  obtain ⟨whole, fraction, hparts, _, _, _, hshed⟩ := d.positional_digits
  rw [plainLiteral, hparts]
  simp only [Literal.decimal, Literal.exponent, canonical, hshed]

theorem digitsValue_zeros (n m : Nat) :
    digitsValue (List.replicate n '0' ++ digits m) = m := by
  have plain : ∀ c ∈ List.replicate n '0' ++ digits m, c.isDigit = true := by
    refine List.forall_mem_append.2 ⟨fun c hc => ?_, fun c => isDigit_of_mem_digits⟩
    rw [List.eq_of_mem_replicate hc]
    rfl
  rw [digitsValue_plain plain, Nat.ofDigitChars_append, Nat.ofDigitChars_replicate_zero,
    Nat.mul_zero, digits, Nat.ofDigitChars_ten_toDigits]

/-- A zero behind the digits of a whole number moves the point. -/
theorem shed_digitsValue_zero (whole : List Char) :
    shed (digitsValue (whole ++ ['0'])) (-1) = shed (digitsValue whole) 0 := by
  have tenfold : digitsValue (whole ++ ['0']) = digitsValue whole * 10 ^ 1 := by
    rw [digitsValue, List.foldl_append, ← digitsValue, List.foldl_cons, List.foldl_nil,
      show digitValue '0' = 0 from rfl]
    omega
  rw [tenfold, shed_mul_pow]
  rfl

theorem proper_fullLiteral (d : Decimal) : d.fullLiteral.Proper := by
  rw [fullLiteral]
  dsimp only
  split
  · obtain ⟨whole, fraction, hparts, nonempty, wholePlain, fractionPlain, _⟩ :=
      d.positional_digits
    rw [hparts]
    refine ⟨nonempty, wholePlain, ?_, nofun⟩
    dsimp only
    split
    · exact List.forall_mem_singleton.2 rfl
    · exact fractionPlain
  · have nonempty : digits d.coefficient ≠ [] := List.length_pos_iff.1 Nat.length_toDigits_pos
    refine ⟨by simpa using nonempty, fun c hc => isDigit_of_mem_digits (List.mem_of_mem_take hc),
      fun c hc => isDigit_of_mem_digits (List.mem_of_mem_drop hc), ?_⟩
    intro negative ds hds
    cases hds
    refine ⟨?_, List.forall_mem_append.2 ⟨fun c hc => ?_, fun c => isDigit_of_mem_digits⟩⟩
    · exact List.append_ne_nil_of_right_ne_nil _ (List.length_pos_iff.1 Nat.length_toDigits_pos)
    · rw [List.eq_of_mem_replicate hc]
      rfl

/-- The full layout spells the number, with a power of ten and without. -/
theorem canonical_fullLiteral (d : Decimal) : d.fullLiteral.decimal.canonical = d.canonical := by
  rw [fullLiteral]
  dsimp only
  split
  · obtain ⟨whole, fraction, hparts, _, _, _, hshed⟩ := d.positional_digits
    rw [hparts]
    cases fraction with
    | nil =>
        rw [List.append_nil] at hshed
        simp only [Literal.decimal, Literal.exponent, canonical, ← hshed, List.isEmpty_nil, if_true]
        rw [show (0 : Int) - ['0'].length = -1 from rfl, shed_digitsValue_zero]
        rfl
    | cons f fs =>
        simp only [Literal.decimal, Literal.exponent, canonical, ← hshed]
        rfl
  · have positive : 0 < (digits d.coefficient).length := Nat.length_toDigits_pos
    have power : Literal.exponent (some (decide (d.magnitude - 1 < 0),
        List.replicate (2 - (digits (d.magnitude - 1).natAbs).length) '0' ++
          digits (d.magnitude - 1).natAbs)) = d.magnitude - 1 := by
      rw [Literal.exponent, digitsValue_zeros]
      simp only [decide_eq_true_eq]
      split <;> omega
    have whole : digitsValue ((digits d.coefficient).take 1 ++ (digits d.coefficient).drop 1) =
        d.coefficient := by
      rw [List.take_append_drop]
      exact digitsValue_zeros 0 d.coefficient
    rw [Literal.decimal, power, whole, List.length_drop, magnitude]
    congr 2
    omega

/-! ## Digits behind the point -/

/-- The digits behind the point end as all digits do, unless there are none. -/
theorem positional_snd {ds : List Char} (nonempty : 0 < ds.length) (k : Int) :
    0 ≤ k ∧ (positional ds (ds.length + k)).2 = [] ∨
      k < 0 ∧ (positional ds (ds.length + k)).2.getLast? = ds.getLast? := by
  rw [positional]
  split
  · have hne : ds ≠ [] := List.length_pos_iff.1 nonempty
    exact .inr ⟨by omega, List.getLast?_append_of_ne_nil _ hne⟩
  · rcases Int.lt_or_le k 0 with hk | hk
    · refine .inr ⟨hk, ?_⟩
      rw [List.getLast?_drop, if_neg (by omega)]
    · exact .inl ⟨hk, List.drop_eq_nil_of_le (by omega)⟩

theorem getLast?_digits (n : Nat) : (digits n).getLast? = some (Nat.digitChar (n % 10)) := by
  rw [digits, Nat.toDigits_eq_if (by decide)]
  split
  · next h => rw [Nat.mod_eq_of_lt h]; rfl
  · exact List.getLast?_concat

theorem digitChar_ne_zero {n : Nat} (h : n % 10 ≠ 0) : Nat.digitChar (n % 10) ≠ '0' := by
  have digits : ∀ r < 10, r ≠ 0 → Nat.digitChar r ≠ '0' := by decide
  exact digits _ (Nat.mod_lt n (by decide)) h

/-- A number with a last digit that is not zero is whole exactly if it has no digit behind the
point. -/
theorem exists_int_iff (h : d.coefficient % 10 ≠ 0) :
    (∃ n : ℤ, d.number = n) ↔ 0 ≤ d.exponent := by
  constructor
  · rintro ⟨n, hn⟩
    by_contra hk
    have hk : d.exponent < 0 := Int.not_le.1 hk
    obtain ⟨m, hm⟩ : ∃ m : ℤ, d.size = m := by
      rw [number] at hn
      split at hn
      · exact ⟨-n, by push_cast; rw [← hn, neg_neg]⟩
      · exact ⟨n, hn⟩
    have hc : (d.coefficient : ℚ) = m * 10 ^ d.exponent.natAbs := coefficient_eq hk hm
    have hc : (d.coefficient : ℤ) = m * 10 ^ d.exponent.natAbs := by exact_mod_cast hc
    have hten : (10 : ℤ) ∣ 10 ^ d.exponent.natAbs := dvd_pow_self 10 (by omega)
    have : (10 : ℤ) ∣ d.coefficient := hc ▸ hten.mul_left m
    omega
  · intro hk
    have hsize : d.size = (d.coefficient * 10 ^ d.exponent.natAbs : ℤ) := by
      rw [size, zpow_eq_pow_natAbs hk]
      push_cast
      rfl
    rw [number, hsize]
    split
    · exact ⟨-(d.coefficient * 10 ^ d.exponent.natAbs), by push_cast; rfl⟩
    · exact ⟨_, rfl⟩

theorem plainLiteral_trimmed (h : d.coefficient % 10 ≠ 0) :
    d.plainLiteral.fraction.getLast? ≠ some '0' ∧
      (d.plainLiteral.fraction = [] ↔ ∃ n : ℤ, d.number = n) := by
  rw [exists_int_iff h]
  rcases positional_snd (Nat.length_toDigits_pos : 0 < (digits d.coefficient).length) d.exponent
    with ⟨hk, hnone⟩ | ⟨hk, hlast⟩
  · have none : d.plainLiteral.fraction = [] := hnone
    rw [none]
    exact ⟨nofun, iff_of_true rfl hk⟩
  · have last : d.plainLiteral.fraction.getLast? = _ := hlast.trans (getLast?_digits _)
    rw [last]
    refine ⟨fun he => digitChar_ne_zero h (Option.some.inj he), iff_of_false ?_ (by omega)⟩
    intro none
    rw [none] at last
    cases last

/-! ## Shortest decimals -/

variable {x : Float}

theorem onGrid?_negative {unit : Int} (h : onGrid? x unit = some d) : d.negative = signBit x := by
  simp only [onGrid?] at h
  split at h
  · cases h; rfl
  · cases h; rfl
  · cases h
  · split at h <;> cases h <;> rfl

theorem shortest_negative (x : Float) : (shortest x).negative = signBit x := by
  rw [shortest]
  split
  · rfl
  · split
    · next d hd =>
      obtain ⟨unit, -, hunit⟩ := List.exists_of_findSome?_eq_some hd
      rw [canonical_negative, onGrid?_negative hunit]
    · rw [canonical_negative]

theorem beq_zero_of_coefficient (h : d.coefficient = 0) : (d.toFloat == 0.0) = true := by
  have hc : d.canonical.coefficient = 0 := by
    rw [canonical, h, shed]
    rfl
  rw [toFloat]
  simp only [hc, decide_true, Bool.true_or, if_true]
  split
  · exact beq_zero unpack_negative_zero
  · exact beq_zero unpack_zero

theorem shortest_coefficient (hfinite : x.isFinite = true) (hnonzero : (x == 0.0) = false) :
    (shortest x).coefficient % 10 ≠ 0 := by
  have hshed : (shed (shortest x).coefficient (shortest x).exponent).1 =
      (shortest x).coefficient := congrArg Decimal.coefficient (shortest_canonical x)
  rcases shed_fst (shortest x).coefficient (shortest x).exponent with hzero | hlast
  · have := beq_zero_of_coefficient (hshed ▸ hzero)
    rw [shortest_toFloat hfinite hnonzero, hnonzero] at this
    cases this
  · rwa [hshed] at hlast

theorem lt_zero_iff (hfinite : x.isFinite = true) (hnonzero : (x == 0.0) = false) :
    x < 0.0 ↔ signBit x = true := by
  open Float.Model in
  obtain ⟨s, m, e, pos, hx⟩ := exists_unpack hfinite hnonzero
  obtain ⟨hs, -, -⟩ := unpack_eq_finite hx
  change decide (UnpackedFloat.lt x.toModel.unpack (0.0 : Float).toModel.unpack = true) = true ↔ _
  rw [hx, unpack_zero, decide_eq_true_iff, hs]
  cases signBit x with
  | true => exact iff_of_true rfl rfl
  | false => exact iff_of_false nofun nofun

theorem not_isNaN_of_isFinite (hfinite : x.isFinite = true) :
    x.isNaN = false ∧ x.isInf = false := by
  change x.toModel.unpack.isFinite = true at hfinite
  change x.toModel.unpack.isNaN = false ∧ x.toModel.unpack.isInf = false
  cases hx : x.toModel.unpack with
  | notANumber | infinity =>
      rw [hx] at hfinite
      cases hfinite
  | zero | finite => exact ⟨rfl, rfl⟩

end Decimal

/-! ## Doubles -/

section Doubles

variable {x : Float}

theorem fullText_eq (hfinite : x.isFinite = true) :
    fullText x = String.ofList (shortest x).fullText := by
  obtain ⟨number, bounded⟩ := not_isNaN_of_isFinite hfinite
  rw [fullText, number, bounded]
  rfl

theorem plainText_eq (hfinite : x.isFinite = true) (hnonzero : (x == 0.0) = false) :
    plainText x = String.ofList (shortest x).plainText := by
  simp [plainText, hfinite, hnonzero]

theorem cellNumber?_of_nonzero (hfinite : x.isFinite = true) (hnonzero : (x == 0.0) = false) :
    cellNumber? (plainText x) = some x := by
  obtain ⟨y, hread, _, same, _⟩ := cellNumber?_plainText hfinite
  have notZero : x ≠ -0.0 := by
    rintro rfl
    rw [beq_zero unpack_negative_zero] at hnonzero
    cases hnonzero
  rw [hread, same notZero]

/-- A literal that starts with a sign is one of a number below zero. -/
theorem Literal.head?_text {l : Literal} (proper : l.Proper) :
    l.text.head? = some '-' ↔ l.negative = true := by
  obtain ⟨w, ws, hw⟩ := List.exists_cons_of_ne_nil proper.nonempty
  have digit := proper.whole w (hw ▸ List.mem_cons_self)
  rw [text, hw]
  cases l.negative with
  | true => exact iff_of_true rfl rfl
  | false =>
      refine iff_of_false (fun h => ?_) nofun
      cases h
      cases digit

/-- A literal without a power of ten, and without a point or zeros that could be left out. -/
structure Literal.Plain (l : Literal) : Prop extends l.Proper where
  unscaled : l.power = none
  trimmed : l.fraction.getLast? ≠ some '0'

/-- A finite double that is not zero is written in full as a literal. Its plain layout is a literal
of the same number, and plain: there is a sign exactly if the double is below zero and a point
exactly if the number is not whole. Such a text is a number in a cell and is read back as the
double, so no two doubles are laid out alike. -/
theorem plainText_exact (hfinite : x.isFinite = true) (hnonzero : (x == 0.0) = false) :
    ∃ full plain : Literal,
      full.Proper ∧ (fullText x).toList = full.text ∧
      Numeral.parse? (fullText x) = some (.finite full.decimal) ∧ full.decimal.toFloat = x ∧
      plain.Plain ∧ (plainText x).toList = plain.text ∧
      plain.decimal.number = full.decimal.number ∧
      ((plainText x).toList.head? = some '-' ↔ x < 0.0) ∧
      (plain.fraction = [] ↔ ∃ n : ℤ, full.decimal.number = n) ∧
      (∃ d, cellDecimal? (plainText x) = some d ∧ d.number = full.decimal.number) ∧
      cellNumber? (plainText x) = some x ∧
      ∀ y : Float, y.isFinite = true → (y == 0.0) = false → plainText y = plainText x → y = x := by
  have hfull : (fullText x).toList = (shortest x).fullLiteral.text := by
    rw [fullText_eq hfinite, String.toList_ofList, text_fullLiteral]
  have hplain : (plainText x).toList = (shortest x).plainLiteral.text := by
    rw [plainText_eq hfinite hnonzero, String.toList_ofList, text_plainLiteral]
  have last := shortest_coefficient hfinite hnonzero
  have properPlain := (shortest x).proper_plainLiteral
  have number := number_congr (shortest x).canonical_fullLiteral
  obtain ⟨trimmed, whole⟩ := plainLiteral_trimmed last
  have read := cellNumber?_of_nonzero hfinite hnonzero
  refine ⟨(shortest x).fullLiteral, (shortest x).plainLiteral, proper_fullLiteral _, hfull, ?_, ?_,
    ⟨properPlain, rfl, trimmed⟩, hplain, ?_, ?_, ?_, ?_, read, ?_⟩
  · rw [← Literal.parse?_text (proper_fullLiteral _), ← hfull, String.ofList_toList]
  · rw [toFloat_congr (shortest x).canonical_fullLiteral, shortest_toFloat hfinite hnonzero]
  · rw [number, number_congr (shortest x).canonical_plainLiteral]
  · rw [hplain, Literal.head?_text properPlain, lt_zero_iff hfinite hnonzero, ← shortest_negative]
    rfl
  · rw [number, whole]
  · obtain ⟨d, hd, hcanonical⟩ := cellDecimal?_plainText (shortest x)
    rw [plainText_eq hfinite hnonzero]
    exact ⟨d, hd, (number_congr hcanonical).trans number.symm⟩
  · intro y hfinite' hnonzero' same
    have read' := cellNumber?_of_nonzero hfinite' hnonzero'
    rw [same, read] at read'
    exact (Option.some.inj read').symm

theorem plainText_exact_power :
    let x : Float := -1e22
    ∃ full plain : Literal, (fullText x).toList = full.text ∧ (plainText x).toList = plain.text ∧
      plain.Plain ∧ plain.decimal.number = full.decimal.number ∧
      cellNumber? (plainText x) = some x := by
  intro x
  obtain ⟨full, plain, _, hfull, _, _, proper, hplain, number, _, _, _, read, _⟩ :=
    @plainText_exact x (by decide +kernel) (by decide +kernel)
  exact ⟨full, plain, hfull, hplain, proper, number, read⟩

end Doubles

end Wordsheet
