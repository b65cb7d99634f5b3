import Mathlib.Data.Rat.Cast.Order
import Mathlib.Tactic.NormNum
import Mathlib.Tactic.Positivity
import Mathlib.Tactic.Ring
import Wordsheet.Proofs.Decimal.Binary

/-! # Decimals that are doubles

Rounding changes nothing that is a double already. A product or a quotient that
is a double is therefore computed exactly, and so is a coefficient times a power
of ten: a decimal number that a double equals is read as this double. The
shortest decimal of a double is thus read back as the double it was found for.
-/

namespace Wordsheet.Decimal

open Float.Model Float.Model.UnpackedFloat

/-! ### Rounding -/

/-- The exponent of the target of rounding, for doubles. -/
theorem targetExponent_eq_max (total : Int) :
    Format.binary64.targetExponent total = max (total - 53) (-1074) := rfl

theorem log2_mul_pow {m : Nat} (pos : 0 < m) (k : Nat) : (m * 2 ^ k).log2 = m.log2 + k := by
  have hpow : 0 < 2 ^ k := Nat.two_pow_pos k
  refine (Nat.log2_eq_iff (Nat.mul_pos pos hpow).ne').2 ⟨?_, ?_⟩
  · rw [Nat.pow_add]
    exact Nat.mul_le_mul_right _ (Nat.log2_self_le pos.ne')
  · rw [Nat.add_right_comm, Nat.pow_add]
    exact Nat.mul_lt_mul_of_pos_right Nat.lt_log2_self hpow

theorem totalExponent_mul_pow {m : Nat} (pos : 0 < m) (e : Int) (k : Nat) :
    totalExponent (m * 2 ^ k) (e - k) = totalExponent m e := by
  rw [totalExponent, totalExponent, log2_mul_pow pos]
  omega

theorem Binary.Canonical.targetExponent {m : Nat} {e : Int}
    (canonical : (⟨m, e⟩ : Binary).Canonical) :
    Format.binary64.targetExponent (totalExponent m e) = e := by
  obtain ⟨pos, short, full, low, high⟩ := canonical
  simp only at pos short full low high
  have hlow : 52 ≤ m.log2 ↔ 2 ^ 52 ≤ m := Nat.le_log2 (by omega)
  have hhigh : m.log2 < 53 := (Nat.log2_lt (by omega)).2 short
  rw [targetExponent_eq_max, totalExponent]
  omega

/-- Digits that are zero are shifted out without a trace. -/
theorem shiftRight_exact (m k : Nat) :
    (⟨m * 2 ^ k, false, false⟩ : ExtendedMantissa) >>> k = ⟨m, false, false⟩ := by
  change Nat.repeat ExtendedMantissa.shiftRightOne k ⟨m * 2 ^ k, false, false⟩ = _
  induction k generalizing m with
  | zero => simp [Nat.repeat]
  | succ k ih =>
      have hsplit : m * 2 ^ (k + 1) = m * 2 * 2 ^ k := by
        rw [Nat.pow_succ']
        exact (Nat.mul_assoc _ _ _).symm
      rw [Nat.repeat, hsplit, ih, ExtendedMantissa.shiftRightOne]
      simp

theorem shiftToTargetExponent_exact {m : Nat} {e : Int}
    (canonical : (⟨m, e⟩ : Binary).Canonical) (k : Nat) :
    shiftToTargetExponent Format.binary64 (m * 2 ^ k) (e - k) .exact =
      (⟨m, false, false⟩, e) := by
  have hk : (e - (e - (k : Int))).toNat = k := by omega
  rw [shiftToTargetExponent, totalExponent_mul_pow canonical.pos, canonical.targetExponent,
    shiftToExponent, hk, ExtendedMantissa.ofMantissaAndAccuracy, shiftRight_exact]
  simp

/-- Rounding a number that is a double changes nothing, however many digits it is given in. -/
theorem roundWithAccuracy_exact {m : Nat} {e : Int} (canonical : (⟨m, e⟩ : Binary).Canonical)
    (s : Sign) (k : Nat) :
    roundWithAccuracy Format.binary64 s (m * 2 ^ k) (e - k) .exact =
      .finite s m e canonical.pos := by
  have hfirst := shiftToTargetExponent_exact canonical k
  have hsecond := shiftToTargetExponent_exact canonical 0
  have hrounded : (⟨m, false, false⟩ : ExtendedMantissa).roundedMantissa = m := rfl
  have hpos : m ≠ 0 := canonical.pos.ne'
  simp only [Nat.pow_zero, Nat.mul_one, Int.cast_ofNat_Int, Int.sub_zero] at hsecond
  rw [roundWithAccuracy, hfirst]
  simp only [hrounded, hsecond, dif_neg hpos]

/-! ### The numbers that doubles are -/

def Binary.value (b : Binary) : ℚ :=
  b.mantissa * 2 ^ b.power

theorem value_eq_mul_zpow (m : Nat) {e t : Int} (h : t ≤ e) :
    (⟨m, e⟩ : Binary).value = (m * 2 ^ (e - t).toNat : Nat) * 2 ^ t := by
  have he : e = ((e - t).toNat : Int) + t := by omega
  rw [Binary.value]
  simp only
  conv_lhs => rw [he, zpow_add₀ two_ne_zero, zpow_natCast]
  push_cast
  ring

/-- Two values are compared by their mantissas when their powers are made the same. -/
theorem value_eq_iff {m m' : Nat} {e e' t : Int} (h : t ≤ e) (h' : t ≤ e') :
    (⟨m, e⟩ : Binary).value = (⟨m', e'⟩ : Binary).value ↔
      m * 2 ^ (e - t).toNat = m' * 2 ^ (e' - t).toNat := by
  have hpow : (2 : ℚ) ^ t ≠ 0 := zpow_ne_zero t two_ne_zero
  rw [value_eq_mul_zpow m h, value_eq_mul_zpow m' h', mul_left_inj' hpow, Nat.cast_inj]

theorem value_mul_pow (n k : Nat) : (⟨n * 2 ^ k, -k⟩ : Binary).value = n := by
  rw [Binary.value, zpow_neg, zpow_natCast]
  push_cast
  exact mul_inv_cancel_right₀ (pow_ne_zero k two_ne_zero) _

theorem value_pow (k : Nat) : (⟨10 ^ k, 0⟩ : Binary).value = (10 : ℚ) ^ k := by
  rw [Binary.value, zpow_zero, mul_one]
  exact Nat.cast_pow 10 k

theorem Binary.value_eq_quotient (b : Binary) : b.value = b.quotient.1 / b.quotient.2 := by
  rw [Binary.value, Binary.quotient]
  split
  · next h =>
    obtain ⟨k, hk⟩ : ∃ k : Nat, b.power = -k := ⟨b.power.natAbs, by omega⟩
    rw [hk, zpow_neg, zpow_natCast, Int.natAbs_neg, Int.natAbs_natCast]
    simp only [Nat.pow_eq]
    push_cast
    rw [div_eq_mul_inv]
  · next h =>
    obtain ⟨k, hk⟩ : ∃ k : Nat, b.power = k := ⟨b.power.natAbs, by omega⟩
    rw [hk, zpow_natCast, Int.toNat_natCast]
    simp only [Nat.pow_eq]
    push_cast
    rw [div_one]

theorem Binary.quotient_pos (b : Binary) : 0 < b.quotient.2 := by
  rw [Binary.quotient]
  split
  · exact Nat.two_pow_pos _
  · exact Nat.one_pos

theorem Binary.Canonical.value_lt {b : Binary} (canonical : b.Canonical) :
    b.value < 2 ^ 1024 := by
  have hshort : (b.mantissa : ℚ) < 2 ^ 53 := mod_cast canonical.short
  have hpow : (2 : ℚ) ^ b.power ≤ 2 ^ (971 : Int) :=
    zpow_le_zpow_right₀ one_le_two canonical.high
  calc b.value
    _ < 2 ^ 53 * 2 ^ b.power := mul_lt_mul_of_pos_right hshort (zpow_pos two_pos _)
    _ ≤ 2 ^ 53 * 2 ^ (971 : Int) := mul_le_mul_of_nonneg_left hpow (by positivity)
    _ = 2 ^ 1024 := by rw [zpow_ofNat, ← pow_add]

theorem Binary.Canonical.le_value {b : Binary} (canonical : b.Canonical) :
    2 ^ (-1074 : Int) ≤ b.value := by
  have hpos : (1 : ℚ) ≤ b.mantissa := mod_cast canonical.pos
  have hpow : (2 : ℚ) ^ (-1074 : Int) ≤ 2 ^ b.power :=
    zpow_le_zpow_right₀ one_le_two canonical.low
  calc (2 : ℚ) ^ (-1074 : Int)
    _ ≤ 2 ^ b.power := hpow
    _ ≤ b.value := le_mul_of_one_le_left (zpow_nonneg zero_le_two _) hpos

/-! ### Products and quotients -/

/-- The value of a product is the product of the values. -/
theorem value_mul (m₁ m₂ : Nat) (e₁ e₂ : Int) :
    (⟨m₁ * m₂, e₁ + e₂⟩ : Binary).value =
      (⟨m₁, e₁⟩ : Binary).value * (⟨m₂, e₂⟩ : Binary).value := by
  rw [Binary.value, Binary.value, Binary.value, zpow_add₀ two_ne_zero]
  push_cast
  ring

/-- A product that is a double is the product of the factors. -/
theorem mul_exact {m₁ m₂ m : Nat} {e₁ e₂ e : Int} (pos₁ : 0 < m₁) (pos₂ : 0 < m₂)
    (canonical : (⟨m, e⟩ : Binary).Canonical) (full : 2 ^ 52 ≤ m₁ * m₂)
    (hvalue : (⟨m₁, e₁⟩ : Binary).value * (⟨m₂, e₂⟩ : Binary).value = (⟨m, e⟩ : Binary).value) :
    UnpackedFloat.mul Format.binary64 (.finite .positive m₁ e₁ pos₁)
        (.finite .positive m₂ e₂ pos₂) = .finite .positive m e canonical.pos := by
  have hproduct : (⟨m₁ * m₂, e₁ + e₂⟩ : Binary).value = (⟨m, e⟩ : Binary).value := by
    rw [value_mul, hvalue]
  have hshort : m < 2 ^ 53 := canonical.short
  have hle : e₁ + e₂ ≤ e := by
    by_contra hlt
    have hm := (value_eq_iff (by omega) (Int.le_refl e)).1 hproduct
    have htwo : 2 ≤ 2 ^ (e₁ + e₂ - e).toNat := Nat.le_self_pow (by omega) 2
    have hge := Nat.mul_le_mul full htwo
    simp only [Int.sub_self, Int.toNat_zero, Nat.pow_zero, Nat.mul_one] at hm
    omega
  have hm := (value_eq_iff (Int.le_refl (e₁ + e₂)) hle).1 hproduct
  have hpower : e₁ + e₂ = e - ((e - (e₁ + e₂)).toNat : Int) := by omega
  simp only [Int.sub_self, Int.toNat_zero, Nat.pow_zero, Nat.mul_one] at hm
  have hround := roundWithAccuracy_exact canonical (.positive * .positive) (e - (e₁ + e₂)).toNat
  rwa [← hm, ← hpower] at hround

/-- A quotient that is a double is the quotient of dividend and divisor. -/
theorem div_exact {m₁ m₂ m : Nat} {e₁ e₂ e : Int} (pos₁ : 0 < m₁) (pos₂ : 0 < m₂)
    (canonical : (⟨m, e⟩ : Binary).Canonical)
    (hvalue : (⟨m₁, e₁⟩ : Binary).value = (⟨m, e⟩ : Binary).value * (⟨m₂, e₂⟩ : Binary).value) :
    UnpackedFloat.div Format.binary64 (.finite .positive m₁ e₁ pos₁)
        (.finite .positive m₂ e₂ pos₂) = .finite .positive m e canonical.pos := by
  have hquotient : (⟨m₁, e₁ - e₂⟩ : Binary).value = (⟨m * m₂, e⟩ : Binary).value := by
    have hpow : (2 : ℚ) ^ e₂ ≠ 0 := zpow_ne_zero e₂ two_ne_zero
    simp only [Binary.value] at hvalue ⊢
    rw [zpow_sub₀ two_ne_zero, ← mul_div_assoc, hvalue, div_eq_iff hpow]
    push_cast
    ring
  have hshort : m < 2 ^ 53 := canonical.short
  have hlow : -1074 ≤ e := canonical.low
  obtain ⟨t, ht⟩ : ∃ t, t = min (e₁ - e₂)
      (Format.binary64.targetExponent (totalExponent m₁ e₁ - totalExponent m₂ e₂)) := ⟨_, rfl⟩
  have hle : t ≤ e := by
    by_contra hlt
    rw [targetExponent_eq_max, totalExponent, totalExponent] at ht
    have hm := (value_eq_iff (by omega) (Int.le_refl e)).1 hquotient
    simp only [Int.sub_self, Int.toNat_zero, Nat.pow_zero, Nat.mul_one] at hm
    have hlow₁ : 2 ^ m₁.log2 ≤ m₁ := Nat.log2_self_le pos₁.ne'
    have hhigh₂ : m₂ < 2 ^ (m₂.log2 + 1) := Nat.lt_log2_self
    have hshorter := calc 2 ^ 53 * 2 ^ (m₂.log2 + 1)
        _ = 2 ^ (53 + (m₂.log2 + 1)) := (Nat.pow_add ..).symm
        _ ≤ 2 ^ (m₁.log2 + (e₁ - e₂ - e).toNat) := Nat.pow_le_pow_right (by omega) (by omega)
        _ = 2 ^ m₁.log2 * 2 ^ (e₁ - e₂ - e).toNat := Nat.pow_add ..
        _ ≤ m₁ * 2 ^ (e₁ - e₂ - e).toNat := Nat.mul_le_mul_right _ hlow₁
        _ = m * m₂ := hm
        _ < 2 ^ 53 * 2 ^ (m₂.log2 + 1) := Nat.mul_lt_mul'' hshort hhigh₂
    exact Nat.lt_irrefl _ hshorter
  have hm := (value_eq_iff (by omega) hle).1 hquotient
  have hpower : t = e - ((e - t).toNat : Int) := by omega
  have hround := roundWithAccuracy_exact canonical (.positive / .positive) (e - t).toNat
  have hdividend : m₁ <<< (e₁ - e₂ - t).toNat = m * 2 ^ (e - t).toNat * m₂ := by
    rw [Nat.shiftLeft_eq, hm, Nat.mul_right_comm]
  rw [UnpackedFloat.div]
  simp only [divCore, ← ht, hdividend, Nat.mul_div_cancel _ pos₂, Nat.mul_mod_left,
    accuracyOfFraction, if_true]
  rwa [← hpower] at hround

/-! ### Coefficients and powers of ten -/

/-- A whole number of at most fifty-three binary digits is a double. -/
theorem unpack_toFloat {n : Nat} (pos : 0 < n) (short : n < 2 ^ 53) :
    ∃ m e mpos, n.toUInt64.toFloat.toModel.unpack = .finite .positive m e mpos ∧
      (⟨m, e⟩ : Binary).value = n ∧ 2 ^ 52 ≤ m := by
  have hlog : n.log2 < 53 := (Nat.log2_lt pos.ne').2 short
  have hself : 2 ^ n.log2 ≤ n := Nat.log2_self_le pos.ne'
  have hself' : n < 2 ^ (n.log2 + 1) := Nat.lt_log2_self
  obtain ⟨k, hk⟩ : ∃ k, n.log2 + k = 52 := ⟨52 - n.log2, by omega⟩
  have hpow : 2 ^ n.log2 * 2 ^ k = 2 ^ 52 := by rw [← Nat.pow_add, hk]
  have hpow' : 2 ^ (n.log2 + 1) * 2 ^ k = 2 ^ 53 := by
    rw [← Nat.pow_add, Nat.add_right_comm, hk]
  have hfull : 2 ^ 52 ≤ n * 2 ^ k := hpow ▸ Nat.mul_le_mul_right _ hself
  have hshort : n * 2 ^ k < 2 ^ 53 :=
    hpow' ▸ Nat.mul_lt_mul_of_pos_right hself' (Nat.two_pow_pos k)
  have canonical : (⟨n * 2 ^ k, -k⟩ : Binary).Canonical :=
    ⟨by simp only; omega, hshort, .inl hfull, by simp only; omega, by simp only; omega⟩
  have hnat : n.toUInt64.toNat = n := UInt64.toNat_ofNat_of_lt' (by simp only [UInt64.size]; omega)
  have hcompare : compare (n : Int) 0 = .gt := by
    rw [Int.compare_eq_gt]
    omega
  have htarget : Format.binary64.targetExponent (totalExponent n 0) = -k := by
    rw [targetExponent_eq_max, totalExponent]
    omega
  have hshift : (0 - -(k : Int)).toNat = k := by omega
  have hround := roundWithAccuracy_exact canonical .positive 0
  have hofNat : UnpackedFloat.ofNat Format.binary64 n =
      .finite .positive (n * 2 ^ k) (-k) canonical.pos := by
    rw [UnpackedFloat.ofNat, UnpackedFloat.ofInt, UnpackedFloat.normalize, hcompare]
    simp only [Int.toNat_natCast, UnpackedFloat.round, htarget, decreaseExponent, hshift,
      Nat.shiftLeft_eq]
    simpa using hround
  refine ⟨n * 2 ^ k, -k, canonical.pos, ?_, value_mul_pow n k, hfull⟩
  change (Float.Model.pack (UnpackedFloat.ofNat Format.binary64 n.toUInt64.toNat)).unpack = _
  rw [hnat, hofNat, unpack_pack canonical]

/-- The powers of ten that are kept are doubles, and these powers. -/
theorem powersOfTen : ∀ i : Fin Float.exactlyRepresentablePowersOfTen.size,
    let x := Float.exactlyRepresentablePowersOfTen[i]
    x.isFinite = true ∧ (x == 0.0) = false ∧ signBit x = false ∧
      2 ^ 52 ≤ (Binary.ofFloat x).mantissa ∧
      (Binary.ofFloat x).quotient.1 = 10 ^ i.val * (Binary.ofFloat x).quotient.2 := by
  decide +kernel

theorem unpack_powerOfTen {i : Nat} (h : i < Float.exactlyRepresentablePowersOfTen.size) :
    ∃ m e mpos, Float.exactlyRepresentablePowersOfTen[i].toModel.unpack =
        .finite .positive m e mpos ∧
      (⟨m, e⟩ : Binary).value = (10 : ℚ) ^ i ∧ 2 ^ 52 ≤ m := by
  obtain ⟨hfinite, hnonzero, hsign, hfull, hquotient⟩ := powersOfTen ⟨i, h⟩
  simp only [Fin.getElem_fin] at hfinite hnonzero hsign hfull hquotient
  obtain ⟨s, m, e, mpos, hx⟩ := exists_unpack hfinite hnonzero
  obtain ⟨hs, hv, -⟩ := unpack_eq_finite hx
  rw [hsign] at hs
  have hdivisor : ((Binary.mk m e).quotient.2 : ℚ) ≠ 0 :=
    Nat.cast_ne_zero.2 (Binary.quotient_pos _).ne'
  rw [hv] at hquotient hfull
  refine ⟨m, e, mpos, hx.trans (by rw [hs]; rfl), ?_, hfull⟩
  rw [Binary.value_eq_quotient, hquotient, Nat.cast_mul, Nat.cast_pow,
    mul_div_cancel_right₀ _ hdivisor]
  rfl

/-- A coefficient moved to the other side of a power of ten. -/
theorem coefficient_eq {c : Nat} {k : Int} {v : ℚ} (hk : k < 0) (hvalue : (c : ℚ) * 10 ^ k = v) :
    (c : ℚ) = v * 10 ^ k.natAbs := by
  have hten : (10 : ℚ) ≠ 0 := by norm_num
  have hcancel : k + (k.natAbs : Int) = 0 := by omega
  rw [← hvalue, mul_assoc, ← zpow_natCast, ← zpow_add₀ hten, hcancel, zpow_zero, mul_one]

theorem zpow_eq_pow_natAbs {k : Int} (hk : 0 ≤ k) : (10 : ℚ) ^ k = 10 ^ k.natAbs := by
  rw [← zpow_natCast, Int.natAbs_of_nonneg hk]

section Exact

variable {x : Float} {m c : Nat} {e k : Int}

theorem exponent_le (canonical : (⟨m, e⟩ : Binary).Canonical) (hc : 0 < c)
    (hvalue : (c : ℚ) * 10 ^ k = (⟨m, e⟩ : Binary).value) : k < 1024 := by
  have hone : (1 : ℚ) ≤ c := mod_cast hc
  by_contra hlarge
  have hpow : (2 : ℚ) ^ 1024 ≤ 10 ^ k := by
    rw [zpow_eq_pow_natAbs (by omega)]
    calc (2 : ℚ) ^ 1024
      _ ≤ 2 ^ k.natAbs := pow_le_pow_right₀ one_le_two (by omega)
      _ ≤ 10 ^ k.natAbs := pow_le_pow_left₀ zero_le_two (by norm_num) _
  refine lt_irrefl ((2 : ℚ) ^ 1024) ?_
  calc (2 : ℚ) ^ 1024
    _ ≤ 10 ^ k := hpow
    _ ≤ c * 10 ^ k := le_mul_of_one_le_left (by positivity) hone
    _ = (⟨m, e⟩ : Binary).value := hvalue
    _ < 2 ^ 1024 := canonical.value_lt

theorem le_exponent (canonical : (⟨m, e⟩ : Binary).Canonical)
    (hvalue : (c : ℚ) * 10 ^ k = (⟨m, e⟩ : Binary).value) : -(1075 + c.log2 : Int) < k := by
  by_contra hsmall
  have hshort : (c : ℚ) < 2 ^ (c.log2 + 1) := mod_cast Nat.lt_log2_self
  have hpow : (2 : ℚ) ^ (c.log2 + 1) * 2 ^ 1074 ≤ 10 ^ k.natAbs := by
    rw [← pow_add]
    calc (2 : ℚ) ^ (c.log2 + 1 + 1074)
      _ ≤ 2 ^ k.natAbs := pow_le_pow_right₀ one_le_two (by omega)
      _ ≤ 10 ^ k.natAbs := pow_le_pow_left₀ zero_le_two (by norm_num) _
  refine lt_irrefl ((2 : ℚ) ^ (c.log2 + 1)) ?_
  calc (2 : ℚ) ^ (c.log2 + 1)
    _ = 2 ^ (-1074 : Int) * (2 ^ (c.log2 + 1) * 2 ^ 1074) := by
      rw [zpow_neg, zpow_ofNat, mul_comm ((2 : ℚ) ^ (c.log2 + 1)),
        inv_mul_cancel_left₀ (pow_ne_zero _ two_ne_zero)]
    _ ≤ (⟨m, e⟩ : Binary).value * 10 ^ k.natAbs :=
      mul_le_mul canonical.le_value hpow (by positivity) (by rw [← hvalue]; positivity)
    _ = c := (coefficient_eq (by omega) hvalue).symm
    _ < 2 ^ (c.log2 + 1) := hshort

theorem full_shiftLeft (hc : 0 < c) : 2 ^ 52 ≤ c <<< Format.binary64.mantissaBits := by
  have hbits : 2 ^ 52 ≤ 2 ^ Format.binary64.mantissaBits :=
    Nat.pow_le_pow_right (by decide) (by decide)
  rw [Nat.shiftLeft_eq]
  exact hbits.trans (Nat.le_mul_of_pos_left _ hc)

/-- Scaling a whole number by a power of ten gives the double that is the product. -/
theorem unpacked_ofScientific_exact (canonical : (⟨m, e⟩ : Binary).Canonical) (hc : 0 < c)
    (hvalue : (c : ℚ) * 10 ^ k = (⟨m, e⟩ : Binary).value) :
    UnpackedFloat.ofScientific Format.binary64 c k = .finite .positive m e canonical.pos := by
  have hlarge : ¬ 2 ^ Format.binary64.exponentBits < k := by
    have hle := exponent_le canonical hc hvalue
    change ¬ (2048 : Int) < k
    omega
  have hsmall : ¬ k < -((2 ^ Format.binary64.exponentBits : Int) + c.log2) := by
    have hle := le_exponent canonical hvalue
    change ¬ k < -((2048 : Int) + c.log2)
    omega
  rw [UnpackedFloat.ofScientific, dif_neg hc.ne', if_neg hlarge, if_neg hsmall]
  split
  · next hk =>
    have hpow : 0 < 10 ^ k.toNat := Nat.pow_pos (by decide)
    have hfull : 2 ^ 52 ≤ c <<< Format.binary64.mantissaBits * 10 ^ k.toNat :=
      (full_shiftLeft hc).trans (Nat.le_mul_of_pos_right _ hpow)
    refine mul_exact _ hpow canonical hfull ?_
    rw [Nat.shiftLeft_eq, value_mul_pow, value_pow, ← hvalue, zpow_eq_pow_natAbs hk,
      show k.toNat = k.natAbs by omega]
  · next hk =>
    refine div_exact hc (Nat.pow_pos (by decide)) canonical ?_
    rw [value_pow, show (-k).toNat = k.natAbs by omega, ← coefficient_eq (by omega) hvalue,
      Binary.value, zpow_zero, mul_one]

/-- A decimal number that is a double is read as this double. -/
theorem ofScientific_exact {pos : 0 < m}
    (hx : x.toModel.unpack = .finite .positive m e pos) (hc : 0 < c)
    (hvalue : (c : ℚ) * 10 ^ k = (⟨m, e⟩ : Binary).value) :
    Float.ofScientific c (k < 0) k.natAbs = x := by
  have canonical := (unpack_eq_finite hx).2.2
  rw [Float.ofScientific]
  split
  · next h =>
    obtain ⟨m₁, e₁, pos₁, h₁, hv₁, full₁⟩ := unpack_toFloat hc h.1
    obtain ⟨m₂, e₂, pos₂, h₂, hv₂, full₂⟩ := unpack_powerOfTen
      (show k.natAbs < Float.exactlyRepresentablePowersOfTen.size from Nat.lt_succ_of_le h.2)
    split
    · next hk =>
      change Float.ofModel (Float.Model.pack (UnpackedFloat.div _ _ _)) = x
      rw [decide_eq_true_eq] at hk
      have hquotient : (⟨m₁, e₁⟩ : Binary).value =
          (⟨m, e⟩ : Binary).value * (⟨m₂, e₂⟩ : Binary).value := by
        rw [hv₁, hv₂, ← coefficient_eq hk hvalue]
      rw [h₁, h₂, div_exact pos₁ pos₂ canonical hquotient, ofModel_pack_eq hx]
    · next hk =>
      change Float.ofModel (Float.Model.pack (UnpackedFloat.mul _ _ _)) = x
      rw [decide_eq_true_eq] at hk
      have hproduct : (⟨m₁, e₁⟩ : Binary).value * (⟨m₂, e₂⟩ : Binary).value =
          (⟨m, e⟩ : Binary).value := by
        rw [hv₁, hv₂, ← hvalue, zpow_eq_pow_natAbs (Int.not_lt.1 hk)]
      have hfull : 2 ^ 52 ≤ m₁ * m₂ := full₁.trans (Nat.le_mul_of_pos_right _ pos₂)
      rw [h₁, h₂, mul_exact pos₁ pos₂ canonical hfull hproduct, ofModel_pack_eq hx]
  · have hk :
        (if decide (k < 0) = true then Int.negOfNat k.natAbs else Int.ofNat k.natAbs) = k := by
      simp only [decide_eq_true_eq, Int.negOfNat_eq, Int.ofNat_eq_natCast]
      split <;> omega
    change Float.ofModel (Float.Model.pack (UnpackedFloat.ofScientific _ c _)) = x
    rw [hk, unpacked_ofScientific_exact canonical hc hvalue, ofModel_pack_eq hx]

end Exact

/-! ### Decimal numbers -/

def size (d : Decimal) : ℚ :=
  d.coefficient * 10 ^ d.exponent

theorem shed_size (c : Nat) (k : Int) :
    ((shed c k).1 : ℚ) * 10 ^ (shed c k).2 = c * 10 ^ k := by
  fun_induction shed c k with
  | case1 k => simp
  | case2 c k hc hten ih =>
      have hc : (c : ℚ) = (c / 10 : Nat) * 10 := mod_cast (by omega : c = c / 10 * 10)
      rw [ih, zpow_add_one₀ (by norm_num), hc, mul_assoc, mul_comm (10 : ℚ)]
  | case3 => rfl

@[simp] theorem canonical_size (d : Decimal) : d.canonical.size = d.size :=
  shed_size d.coefficient d.exponent

theorem size_lt (d : Decimal) : d.size < 10 ^ d.magnitude := by
  have hlt : d.coefficient < 10 ^ (digits d.coefficient).length :=
    (Nat.length_toDigits_le_iff (by decide) Nat.length_toDigits_pos).1 (Nat.le_refl _)
  have hcast : (d.coefficient : ℚ) < 10 ^ (digits d.coefficient).length := mod_cast hlt
  rw [size, magnitude, zpow_add₀ (by norm_num), zpow_natCast]
  exact mul_lt_mul_of_pos_right hcast (by positivity)

theorem le_size {d : Decimal} (h : d.coefficient ≠ 0) : 10 ^ (d.magnitude - 1) ≤ d.size := by
  obtain ⟨n, hn⟩ : ∃ n, (digits d.coefficient).length = n + 1 :=
    Nat.exists_eq_add_one.2 Nat.length_toDigits_pos
  have hle : 10 ^ n ≤ d.coefficient := by
    by_contra hlt
    have hn0 : 0 < n := by
      refine Nat.pos_of_ne_zero fun hzero => hlt ?_
      rw [hzero]
      exact Nat.pos_of_ne_zero h
    have hshort : (digits d.coefficient).length ≤ n :=
      (Nat.length_toDigits_le_iff (by decide) hn0).2 (Nat.lt_of_not_le hlt)
    omega
  have hcast : (10 : ℚ) ^ n ≤ d.coefficient := mod_cast hle
  rw [size, magnitude, hn, show ((n + 1 : Nat) : Int) + d.exponent - 1 = n + d.exponent by omega,
    zpow_add₀ (by norm_num), zpow_natCast]
  exact mul_le_mul_of_nonneg_right hcast (by positivity)

theorem two_pow_le_ten_pow : (2 : ℚ) ^ 1200 ≤ 10 ^ 400 := by
  rw [show 1200 = 3 * 400 from rfl, pow_mul]
  exact pow_le_pow_left₀ (by norm_num) (by norm_num) 400

section Exact

variable {d : Decimal} {b : Binary}

theorem coefficient_ne_zero (canonical : b.Canonical) (h : d.size = b.value) :
    d.coefficient ≠ 0 := fun hzero => by
  have hpos : (0 : ℚ) < b.value := lt_of_lt_of_le (by positivity) canonical.le_value
  rw [← h, size, hzero, Nat.cast_zero, zero_mul] at hpos
  exact lt_irrefl _ hpos

/-- No double is so small that it is taken for zero. -/
theorem le_magnitude (canonical : b.Canonical) (h : d.size = b.value) : -400 ≤ d.magnitude := by
  by_contra hsmall
  refine lt_irrefl b.value ?_
  calc b.value
    _ = d.size := h.symm
    _ < 10 ^ d.magnitude := size_lt d
    _ ≤ 10 ^ (-400 : Int) := zpow_le_zpow_right₀ (by norm_num) (by omega)
    _ = (10 ^ 400)⁻¹ := by rw [zpow_neg, zpow_ofNat]
    _ ≤ (2 ^ 1074)⁻¹ := inv_anti₀ (by positivity)
      ((pow_le_pow_right₀ one_le_two (by decide)).trans two_pow_le_ten_pow)
    _ = 2 ^ (-1074 : Int) := by rw [zpow_neg, zpow_ofNat]
    _ ≤ b.value := canonical.le_value

/-- A number that is taken for infinite lies above the doubles. -/
theorem two_pow_le_size (hpos : d.coefficient ≠ 0) (hlarge : 400 < d.magnitude) :
    2 ^ 1024 ≤ d.size := by
  calc (2 : ℚ) ^ 1024
    _ ≤ 2 ^ 1200 := pow_le_pow_right₀ one_le_two (by decide)
    _ ≤ 10 ^ 400 := two_pow_le_ten_pow
    _ = 10 ^ (400 : Int) := (zpow_ofNat ..).symm
    _ ≤ 10 ^ (d.magnitude - 1) := zpow_le_zpow_right₀ (by norm_num) (by omega)
    _ ≤ d.size := le_size hpos

/-- No finite double is so large that it is taken for infinite. -/
theorem magnitude_le (canonical : b.Canonical) (h : d.size = b.value) : d.magnitude ≤ 400 := by
  by_contra hlarge
  have hsize := two_pow_le_size (coefficient_ne_zero canonical h) (Int.not_le.1 hlarge)
  exact absurd canonical.value_lt (not_lt.2 (h ▸ hsize))

end Exact

/-- A decimal number that is a double is read as this double. -/
theorem toFloat_exact {x : Float} {s : Sign} {m : Nat} {e : Int} {pos : 0 < m} {d : Decimal}
    (hx : x.toModel.unpack = .finite s m e pos) (hsign : d.negative = signBit x)
    (hsize : d.size = (Binary.ofFloat x).value) : d.toFloat = x := by
  obtain ⟨hs, hv, canonical⟩ := unpack_eq_finite hx
  have hvalue : d.canonical.size = (⟨m, e⟩ : Binary).value := by rw [canonical_size, hsize, hv]
  have hpos := coefficient_ne_zero canonical hvalue
  have hlow : ¬ d.canonical.magnitude < -400 := Int.not_lt.2 (le_magnitude canonical hvalue)
  have hhigh : ¬ 400 < d.canonical.magnitude := Int.not_lt.2 (magnitude_le canonical hvalue)
  have hpositive := unpack_pack (s := .positive) canonical
  have hread := ofScientific_exact (x := .ofModel _) hpositive (Nat.pos_of_ne_zero hpos) hvalue
  rw [toFloat]
  simp only [hpos, hlow, hhigh, decide_false, Bool.or_self, Bool.false_eq_true, if_false, hread,
    canonical_negative, hsign]
  split
  · next hneg =>
    change Float.ofModel (Float.Model.pack (Float.Model.unpack (Float.Model.pack _)).neg) = x
    rw [hpositive]
    rw [hneg] at hs
    rw [hs] at hx
    exact ofModel_pack_eq hx
  · next hneg =>
    rw [Bool.eq_false_of_not_eq_true hneg] at hs
    rw [hs] at hx
    exact ofModel_pack_eq hx

/-! ### Shortest decimals -/

theorem toFloat_congr {d d' : Decimal} (h : d.canonical = d'.canonical) :
    d.toFloat = d'.toFloat := by
  rw [toFloat, toFloat, h]

@[simp] theorem canonical_toFloat (d : Decimal) : d.canonical.toFloat = d.toFloat :=
  toFloat_congr (canonical_canonical d)

@[simp] theorem shortest_canonical (x : Float) : (shortest x).canonical = shortest x := by
  rw [shortest]
  split
  · simp [canonical, shed]
  · split <;> exact canonical_canonical _

/-- A double is a decimal number with as many digits after the point as its power of two asks
for. -/
theorem exact_size {b : Binary} (canonical : b.Canonical) {p : Nat} (hp : 1074 ≤ p)
    (negative : Bool) :
    (⟨negative, b.quotient.1 * Nat.pow 10 p / b.quotient.2, -p⟩ : Decimal).size = b.value := by
  have hdivides : b.quotient.2 ∣ Nat.pow 10 p := by
    have hlow := canonical.low
    rw [Binary.quotient]
    split
    · exact (Nat.pow_dvd_pow 2 (by omega)).trans (pow_dvd_pow_of_dvd (by decide : 2 ∣ 10) p)
    · exact Nat.one_dvd _
  have hdivisor : (b.quotient.2 : ℚ) ≠ 0 := Nat.cast_ne_zero.2 (Binary.quotient_pos b).ne'
  have hten : (10 : ℚ) ^ p ≠ 0 := pow_ne_zero p (by norm_num)
  have hexact : b.quotient.1 * Nat.pow 10 p / b.quotient.2 * b.quotient.2 =
      b.quotient.1 * 10 ^ p := Nat.div_mul_cancel (hdivides.mul_left _)
  have hcast : ((b.quotient.1 * Nat.pow 10 p / b.quotient.2 : Nat) : ℚ) * b.quotient.2 =
      b.quotient.1 * 10 ^ p := mod_cast hexact
  rw [size, Binary.value_eq_quotient, zpow_neg, zpow_natCast, ← div_eq_mul_inv,
    div_eq_div_iff hten hdivisor, hcast]

theorem exact_toFloat {x : Float} {s : Sign} {m : Nat} {e : Int} {pos : 0 < m}
    (hx : x.toModel.unpack = .finite s m e pos) {p : Nat} (hp : 1074 ≤ p) :
    (⟨signBit x, (Binary.ofFloat x).quotient.1 * Nat.pow 10 p / (Binary.ofFloat x).quotient.2,
      -p⟩ : Decimal).toFloat = x := by
  obtain ⟨-, hv, canonical⟩ := unpack_eq_finite hx
  exact toFloat_exact hx rfl (exact_size (hv ▸ canonical) hp _)

/-- The shortest decimal of a double is read as this double. -/
theorem shortest_toFloat {x : Float} (hfinite : x.isFinite = true)
    (hnonzero : (x == 0.0) = false) : (shortest x).toFloat = x := by
  obtain ⟨s, m, e, pos, hx⟩ := exists_unpack hfinite hnonzero
  rw [shortest, hnonzero]
  simp only [Bool.false_eq_true, if_false]
  split
  · next d hd =>
    obtain ⟨unit, -, hunit⟩ := List.exists_of_findSome?_eq_some hd
    rw [canonical_toFloat]
    exact eq_of_beq_finite (onGrid?_readsBack hunit) hx
  · rw [canonical_toFloat]
    exact @exact_toFloat x _ _ _ _ hx 1100 (by decide)

end Wordsheet.Decimal
