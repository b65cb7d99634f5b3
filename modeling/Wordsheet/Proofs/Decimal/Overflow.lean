import Wordsheet.Proofs.Decimal.Exact

/-! # Doubles that overflow

A number is rounded to the nearest of the doubles and of the power of two behind the largest of
them; where it is rounded to that power, or larger still, the double is infinite. A whole number is
therefore read as an infinite double exactly from the middle between the two on.
-/

namespace Wordsheet.Decimal

open Float.Model Float.Model.UnpackedFloat

/-! ## Packing -/

theorem isInf_pack_infinity (s : Sign) :
    (Float.Model.pack (.infinity s)).unpack.isInf = true := by
  cases s <;> rfl

theorem isInf_pack_zero (s : Sign) : (Float.Model.pack (.zero s)).unpack.isInf = false := by
  cases s <;> rfl

theorem isInf_pack_notANumber : (Float.Model.pack .notANumber).unpack.isInf = false := rfl

theorem isInf_packComponents (s : Sign) {e : Nat} (h : e + 1 < 2048) (m : BitVec 52) :
    (UnpackedFloat.unpack Format.binary64
      (packComponents Format.binary64 s (BitVec.ofNat 11 e) m)).isInf = false := by
  have hexp : BitVec.ofNat 11 e ≠ -1#11 := fun heq => by
    have := congrArg BitVec.toNat heq
    rw [BitVec.toNat_ofNat] at this
    change _ = 2047 at this
    omega
  rw [UnpackedFloat.unpack]
  simp only [unpackMantissa_packComponents, unpackExponent_packComponents, if_neg hexp]
  split
  · split <;> rfl
  · rfl

/-- A number overflows when it is packed if its exponent is larger than that of the doubles. -/
theorem isInf_pack_finite {s : Sign} {m : Nat} {e : Int} (pos : 0 < m) :
    (Float.Model.pack (.finite s m e pos)).unpack.isInf = true ↔ 971 < e := by
  change (UnpackedFloat.unpack Format.binary64 (UnpackedFloat.pack Format.binary64 _)).isInf =
    true ↔ _
  have hbias : e + Format.binary64.exponentBias + Format.binary64.mantissaBitsWithoutImplicit =
      e + 1075 := by
    rw [Int.add_assoc]
    rfl
  rw [UnpackedFloat.pack]
  simp only [hbias]
  split
  · next h =>
    change 2 ^ 11 ≤ _ at h
    refine iff_of_true (isInf_pack_infinity s) (by omega)
  · next h =>
    change ¬ 2 ^ 11 ≤ _ at h
    refine iff_of_false (Bool.not_eq_true _ ▸ ?_) (by omega)
    split
    · exact isInf_packComponents s (by omega) _
    · exact isInf_packComponents s (e := 0) (by omega) _

/-! ## Rounding -/

theorem mantissa_shiftRight (em : ExtendedMantissa) (k : Nat) :
    (em >>> k).mantissa = em.mantissa / 2 ^ k := by
  change (Nat.repeat ExtendedMantissa.shiftRightOne k em).mantissa = _
  induction k with
  | zero => rw [Nat.repeat, Nat.pow_zero, Nat.div_one]
  | succ k ih =>
      rw [Nat.repeat, ExtendedMantissa.shiftRightOne, ih, Nat.div_div_eq_div_mul, Nat.pow_succ]

theorem roundBit_shiftRight (em : ExtendedMantissa) (k : Nat) :
    (em >>> (k + 1)).roundBit = ((em >>> k).mantissa % 2 != 0) := rfl

theorem roundedMantissa_le (em : ExtendedMantissa) :
    em.mantissa ≤ em.roundedMantissa ∧ em.roundedMantissa ≤ em.mantissa + 1 := by
  obtain ⟨m, round, sticky⟩ := em
  cases round <;> cases sticky <;>
    simp only [ExtendedMantissa.roundedMantissa, ExtendedMantissa.accuracy,
      Accuracy.roundToNearestEven] <;> omega

/-- Rounding carries a mantissa over to the next power of two where all its digits and the next one
are ones. -/
theorem carry_iff (em : ExtendedMantissa) (short : em.mantissa < 2 ^ 53) :
    2 ^ 53 ≤ em.roundedMantissa ↔ em.mantissa = 2 ^ 53 - 1 ∧ em.roundBit = true := by
  obtain ⟨m, round, sticky⟩ := em
  simp only at short ⊢
  cases round <;> cases sticky <;>
    simp only [ExtendedMantissa.roundedMantissa, ExtendedMantissa.accuracy,
      Accuracy.roundToNearestEven, Bool.false_eq_true, and_false, and_true, iff_false] <;> omega

theorem shiftToTargetExponent_eq (m : Nat) (e : Int) :
    let k := (max ((m.log2 : Int) + e - 52) (-1074) - e).toNat
    shiftToTargetExponent Format.binary64 m e .exact =
      ((⟨m, false, false⟩ : ExtendedMantissa) >>> k, e + k) := by
  have target : Format.binary64.targetExponent (totalExponent m e) =
      max ((m.log2 : Int) + e - 52) (-1074) := by
    rw [targetExponent_eq_max, totalExponent]
    omega
  intro k
  rw [shiftToTargetExponent, target]
  rfl

theorem exists_shift {m : Nat} (full : 2 ^ 52 ≤ m) :
    ∃ k, m.log2 = 52 + k ∧ 2 ^ 52 ≤ m / 2 ^ k ∧ m / 2 ^ k < 2 ^ 53 := by
  have hlog : 52 ≤ m.log2 := (Nat.le_log2 (by omega)).2 full
  obtain ⟨k, hk⟩ : ∃ k, m.log2 = 52 + k := ⟨m.log2 - 52, by omega⟩
  refine ⟨k, hk, ?_, ?_⟩
  · rw [Nat.le_div_iff_mul_le (Nat.two_pow_pos k), ← Nat.pow_add, ← hk]
    exact Nat.log2_self_le (by omega)
  · rw [Nat.div_lt_iff_lt_mul (Nat.two_pow_pos k), ← Nat.pow_add,
      show 53 + k = m.log2 + 1 by omega]
    exact Nat.lt_log2_self

/-- Rounding keeps the exponent unless the mantissa is carried over. -/
theorem isInf_round_iff_carry {s : Sign} {m k : Nat} {e : Int}
    (shifted : shiftToTargetExponent Format.binary64 m e .exact =
      ((⟨m, false, false⟩ : ExtendedMantissa) >>> k, e + k))
    (low : -1074 ≤ e + k) (full : 2 ^ 52 ≤ m / 2 ^ k) (short : m / 2 ^ k < 2 ^ 53) :
    (Float.Model.pack (roundWithAccuracy Format.binary64 s m e .exact)).unpack.isInf = true ↔
      971 < e + k ∨ 970 < e + k ∧
        2 ^ 53 ≤ ((⟨m, false, false⟩ : ExtendedMantissa) >>> k).roundedMantissa := by
  have bounds := roundedMantissa_le ((⟨m, false, false⟩ : ExtendedMantissa) >>> k)
  rw [mantissa_shiftRight] at bounds
  rw [roundWithAccuracy, shifted]
  obtain ⟨q, hq⟩ : ∃ q, q = ((⟨m, false, false⟩ : ExtendedMantissa) >>> k).roundedMantissa :=
    ⟨_, rfl⟩
  simp only [← hq] at bounds ⊢
  have hlow : 52 ≤ q.log2 := (Nat.le_log2 (by omega)).2 (by omega)
  have hhigh : 53 ≤ q.log2 ↔ 2 ^ 53 ≤ q := Nat.le_log2 (by omega)
  have hself : 2 ^ q.log2 ≤ q := Nat.log2_self_le (by omega)
  have wide : q.log2 < 54 := (Nat.log2_lt (by omega)).2 (by omega)
  have hshift : (max ((q.log2 : Int) + (e + k) - 52) (-1074) - (e + k)).toNat = q.log2 - 52 := by
    omega
  have nonzero : q / 2 ^ (q.log2 - 52) ≠ 0 := by
    have hle : 2 ^ (q.log2 - 52) ≤ q :=
      (Nat.pow_le_pow_right (by decide) (Nat.sub_le _ _)).trans hself
    exact (Nat.div_pos hle (Nat.two_pow_pos _)).ne'
  simp only [shiftToTargetExponent_eq, hshift, mantissa_shiftRight, dif_neg nonzero,
    isInf_pack_finite]
  omega

/-! ## The bound -/

/-- From this number on, numbers are infinite doubles: it lies in the middle between the largest
double and the power of two behind it. -/
def overflow : Nat :=
  2 ^ 1024 - 2 ^ 970

theorem overflow_eq : overflow = (2 ^ 54 - 1) * 2 ^ 970 := by
  rw [overflow, Nat.sub_mul, ← Nat.pow_add, Nat.one_mul]

theorem two_pow_le_overflow : 2 ^ 1023 ≤ overflow := by
  rw [overflow_eq, show 1023 = 53 + 970 from rfl, Nat.pow_add]
  generalize 2 ^ 970 = x
  omega

theorem overflow_le_two_pow : overflow ≤ 2 ^ 1024 := by
  rw [overflow]
  exact Nat.sub_le ..

theorem overflow_le_ten_pow : overflow ≤ 10 ^ 400 := by
  have h : (2 ^ 1024 : ℚ) ≤ 10 ^ 400 :=
    (pow_le_pow_right₀ one_le_two (by decide)).trans two_pow_le_ten_pow
  exact overflow_le_two_pow.trans (mod_cast h)

/-- A number is at least two to the power of its leading digit, and less than twice that. -/
theorem value_bounds {m : Nat} (pos : 0 < m) (e : Int) :
    2 ^ ((m.log2 : Int) + e) ≤ (⟨m, e⟩ : Binary).value ∧
      (⟨m, e⟩ : Binary).value < 2 ^ ((m.log2 : Int) + e + 1) := by
  have hpow : (0 : ℚ) < 2 ^ e := zpow_pos two_pos e
  have hlow : (2 : ℚ) ^ m.log2 ≤ m := mod_cast Nat.log2_self_le pos.ne'
  have hhigh : (m : ℚ) < 2 ^ (m.log2 + 1) := mod_cast Nat.lt_log2_self
  constructor
  · rw [zpow_add₀ two_ne_zero, zpow_natCast]
    exact mul_le_mul_of_nonneg_right hlow hpow.le
  · rw [Int.add_right_comm, zpow_add₀ two_ne_zero]
    exact mul_lt_mul_of_pos_right hhigh hpow

/-- A mantissa that is rounded to the last power of two of the doubles is carried over exactly where
the number overflows. -/
theorem carry_iff_overflow {m k : Nat} {e : Int} (power : e + k = 971)
    (short : m / 2 ^ k < 2 ^ 53) :
    2 ^ 53 ≤ ((⟨m, false, false⟩ : ExtendedMantissa) >>> k).roundedMantissa ↔
      (overflow : ℚ) ≤ (⟨m, e⟩ : Binary).value := by
  rw [carry_iff _ (by rwa [mantissa_shiftRight]), mantissa_shiftRight]
  cases k with
  | zero =>
      -- nothing is shifted out, so there is nothing to round
      obtain rfl : e = (971 : Nat) := by omega
      refine iff_of_false (fun carried => Bool.false_ne_true carried.2) (not_le.2 ?_)
      have h : m * 2 ^ 971 < overflow := by
        rw [overflow_eq]
        omega
      rw [Binary.value, zpow_natCast]
      exact_mod_cast h
  | succ j =>
      rw [roundBit_shiftRight, mantissa_shiftRight]
      have hhalf : m / 2 ^ (j + 1) = m / 2 ^ j / 2 := by
        rw [Nat.div_div_eq_div_mul, Nat.pow_succ]
      have hcarry : (m / 2 ^ (j + 1) = 2 ^ 53 - 1 ∧ (m / 2 ^ j % 2 != 0) = true) ↔
          2 ^ 54 - 1 ≤ m / 2 ^ j := by
        rw [bne_iff_ne]
        omega
      have hpow : (0 : ℚ) < 2 ^ e := zpow_pos two_pos e
      have hover : (overflow : ℚ) = ((2 ^ 54 - 1) * 2 ^ j : Nat) * 2 ^ e := by
        have hexp : (970 : Nat) = (j : Int) + e := by omega
        rw [overflow_eq, Nat.cast_mul, Nat.cast_mul, mul_assoc, Nat.cast_pow, Nat.cast_pow,
          ← zpow_natCast, ← zpow_natCast, Nat.cast_two, ← zpow_add₀ two_ne_zero, hexp]
      rw [hcarry, Nat.le_div_iff_mul_le (Nat.two_pow_pos j), hover, Binary.value]
      exact ((mul_le_mul_iff_of_pos_right hpow).trans Nat.cast_le).symm

/-- Rounding a number gives an infinite double exactly if the number overflows. -/
theorem isInf_round_iff {s : Sign} {m : Nat} {e : Int} (full : 2 ^ 52 ≤ m)
    (one : 1 ≤ (⟨m, e⟩ : Binary).value) :
    (Float.Model.pack (roundWithAccuracy Format.binary64 s m e .exact)).unpack.isInf = true ↔
      (overflow : ℚ) ≤ (⟨m, e⟩ : Binary).value := by
  have pos : 0 < m := by omega
  obtain ⟨hlow, hhigh⟩ := value_bounds pos e
  have leading : 0 ≤ (m.log2 : Int) + e := by
    have h := one.trans_lt hhigh
    rw [← zpow_zero (2 : ℚ), zpow_lt_zpow_iff_right₀ one_lt_two] at h
    omega
  obtain ⟨k, hk, hfull, short⟩ := exists_shift full
  have shifted := shiftToTargetExponent_eq m e
  rw [show (max ((m.log2 : Int) + e - 52) (-1074) - e).toNat = k by omega] at shifted
  rw [isInf_round_iff_carry shifted (by omega) hfull short]
  rcases lt_trichotomy (e + k) 971 with small | last | large
  · refine iff_of_false (by omega) (not_le.2 (hhigh.trans_le ?_))
    calc (2 : ℚ) ^ ((m.log2 : Int) + e + 1)
      _ ≤ 2 ^ (1023 : Int) := zpow_le_zpow_right₀ one_le_two (by omega)
      _ = (2 ^ 1023 : Nat) := by rw [Nat.cast_pow]; rfl
      _ ≤ overflow := Nat.cast_le.2 two_pow_le_overflow
  · rw [← carry_iff_overflow last short]
    omega
  · refine iff_of_true (by omega) (le_trans ?_ hlow)
    calc (overflow : ℚ)
      _ ≤ (2 ^ 1024 : Nat) := Nat.cast_le.2 overflow_le_two_pow
      _ = 2 ^ (1024 : Int) := by rw [Nat.cast_pow]; rfl
      _ ≤ 2 ^ ((m.log2 : Int) + e) := zpow_le_zpow_right₀ one_le_two (by omega)

/-! ## Whole numbers -/

section Whole

variable {n c : Nat} {k : Int}

/-- A product that is a whole number is infinite exactly if the number overflows. -/
theorem isInf_mul {m₁ m₂ : Nat} {e₁ e₂ : Int} (pos₁ : 0 < m₁) (pos₂ : 0 < m₂)
    (full : 2 ^ 52 ≤ m₁) (pos : 0 < n)
    (hvalue : (⟨m₁, e₁⟩ : Binary).value * (⟨m₂, e₂⟩ : Binary).value = n) :
    (Float.Model.pack (UnpackedFloat.mul Format.binary64 (.finite .positive m₁ e₁ pos₁)
      (.finite .positive m₂ e₂ pos₂))).unpack.isInf = true ↔ overflow ≤ n := by
  have hproduct : (⟨m₁ * m₂, e₁ + e₂⟩ : Binary).value = n := by rw [value_mul, hvalue]
  have one : 1 ≤ (⟨m₁ * m₂, e₁ + e₂⟩ : Binary).value := by
    rw [hproduct]
    exact_mod_cast pos
  have rounded := isInf_round_iff (s := .positive * .positive)
    (full.trans (Nat.le_mul_of_pos_right _ pos₂)) one
  rwa [hproduct, Nat.cast_le] at rounded

/-- A whole number that is a coefficient times a power of ten is read as an infinite double exactly
if it overflows. -/
theorem isInf_ofScientific (hc : 0 < c) (hk : 0 ≤ k) (hvalue : (c : ℚ) * 10 ^ k = n) :
    (Float.ofScientific c (k < 0) k.natAbs).isInf = true ↔ overflow ≤ n := by
  rw [zpow_eq_pow_natAbs hk] at hvalue
  have hn : n = c * 10 ^ k.natAbs := mod_cast hvalue.symm
  have pos : 0 < n := hn ▸ Nat.mul_pos hc (Nat.pow_pos (by decide))
  rw [decide_eq_false (Int.not_lt.2 hk), Float.ofScientific]
  split
  · next h =>
    obtain ⟨m₁, e₁, pos₁, h₁, hv₁, full₁⟩ := unpack_toFloat hc h.1
    obtain ⟨m₂, e₂, pos₂, h₂, hv₂, -⟩ := unpack_powerOfTen
      (show k.natAbs < Float.exactlyRepresentablePowersOfTen.size from Nat.lt_succ_of_le h.2)
    change (Float.Model.pack (UnpackedFloat.mul _ _ _)).unpack.isInf = true ↔ _
    rw [h₁, h₂]
    exact isInf_mul pos₁ pos₂ full₁ pos (by rw [hv₁, hv₂, hvalue])
  · change (Float.Model.pack (UnpackedFloat.ofScientific Format.binary64 c k.natAbs)).unpack.isInf =
      true ↔ _
    rw [UnpackedFloat.ofScientific, dif_neg hc.ne']
    split
    · next huge =>
      change (k.natAbs : Int) > 2048 at huge
      refine iff_of_true (isInf_pack_infinity _) ?_
      calc overflow
        _ ≤ 2 ^ 1024 := overflow_le_two_pow
        _ ≤ 2 ^ k.natAbs := Nat.pow_le_pow_right two_pos (by omega)
        _ ≤ 10 ^ k.natAbs := Nat.pow_le_pow_left (by decide) _
        _ ≤ n := hn ▸ Nat.le_mul_of_pos_left _ hc
    · rw [if_neg (by omega), if_pos (Int.natCast_nonneg _)]
      refine isInf_mul _ _ (full_shiftLeft hc) pos ?_
      rw [Nat.shiftLeft_eq, value_mul_pow, value_pow, Int.toNat_natCast, hvalue]

theorem isInf_zero : (0.0 : Float).isInf = false := by
  decide

theorem isInf_infinity : infinity.isInf = true := by
  decide

theorem isInf_neg (x : Float) : (-x).isInf = x.isInf := by
  change (Float.Model.pack x.toModel.unpack.neg).unpack.isInf = x.toModel.unpack.isInf
  cases hx : x.toModel.unpack with
  | infinity s => exact isInf_pack_infinity _
  | zero s => exact isInf_pack_zero _
  | notANumber => exact isInf_pack_notANumber
  | finite s m e pos =>
      have canonical := (unpack_eq_finite hx).2.2
      refine Bool.eq_false_iff.2 fun h => ?_
      exact absurd ((isInf_pack_finite pos).1 h) (not_lt.2 canonical.high)

theorem shed_exponent_nonneg (hk : 0 ≤ k) : 0 ≤ (shed c k).2 := by
  fun_induction shed c k with
  | case1 => exact Int.le_refl 0
  | case2 c k _ _ ih => exact ih (by omega)
  | case3 => exact hk

/-- The double nearest to a whole number is infinite exactly if the number overflows. -/
theorem isInf_toFloat_whole (negative : Bool) (n : Nat) :
    (⟨negative, n, 0⟩ : Decimal).toFloat.isInf = true ↔ overflow ≤ n := by
  obtain ⟨d, hd⟩ : ∃ d : Decimal, d = ⟨negative, n, 0⟩ := ⟨_, rfl⟩
  have hsize : d.canonical.size = n := by
    rw [canonical_size, hd, size, zpow_zero, mul_one]
  have hpower : 0 ≤ d.canonical.exponent := by
    rw [hd]
    exact shed_exponent_nonneg (Int.le_refl 0)
  have hmagnitude : ¬ d.canonical.magnitude < -400 := by
    rw [magnitude]
    omega
  have signs (size : Float) :
      (if d.canonical.negative then -size else size).isInf = size.isInf := by
    split
    · exact isInf_neg size
    · rfl
  rw [← hd, toFloat]
  simp only [signs, hmagnitude, decide_false, Bool.or_false, decide_eq_true_eq]
  split
  · next hzero =>
    rw [size, hzero, Nat.cast_zero, zero_mul] at hsize
    refine iff_of_false (Bool.eq_false_iff.1 isInf_zero) ?_
    rw [Nat.cast_eq_zero.1 hsize.symm]
    exact Nat.not_le.2 ((Nat.two_pow_pos _).trans_le two_pow_le_overflow)
  · next hzero =>
    split
    · next large =>
      refine iff_of_true isInf_infinity (overflow_le_two_pow.trans ?_)
      have h := two_pow_le_size hzero large
      rw [hsize] at h
      exact_mod_cast h
    · exact isInf_ofScientific (Nat.pos_of_ne_zero hzero) hpower hsize

end Whole

end Wordsheet.Decimal
