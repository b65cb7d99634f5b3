import Mathlib
import Wordsheet.Decimal.Shortest

/-! # Doubles taken apart

A double that is neither zero nor infinite and is a number is a sign, a mantissa
and a power of two, in only one way. The unpacked form of the logical model of
doubles and the binary value that decimals are found from are the same three
things, so a double can be compared and built by them.
-/

namespace Wordsheet.Decimal

-- The lemmas on `Float.Model.unpack` are in no part of the library that can be imported by itself.
open Float.Model Float.Model.UnpackedFloat

/-! ### The word of a double -/

def wordOf (x : Float) : BitVec Format.binary64.numBits :=
  x.toModel.toBits.toBitVec

theorem toNat_unpackMantissa (b : BitVec Format.binary64.numBits) :
    (unpackMantissa b).toNat = b.toNat % Nat.pow 2 52 := by
  simp [unpackMantissa, BitVec.extractLsb_toNat]

theorem toNat_unpackExponent (b : BitVec Format.binary64.numBits) :
    (unpackExponent b).toNat = b.toNat / Nat.pow 2 52 % Nat.pow 2 11 := by
  simp [unpackExponent, BitVec.extractLsb_toNat, Nat.shiftRight_eq_div_pow]

theorem toNat_unpackSign (b : BitVec Format.binary64.numBits) :
    (unpackSign b).toNat = b.toNat / 2 ^ 63 := by
  have hb : b.toNat < 2 ^ 64 := b.isLt
  simp [unpackSign, BitVec.extractLsb_toNat, Nat.shiftRight_eq_div_pow]
  omega

/-! ### Signs and canonical values -/

def signOf (negative : Bool) : Sign :=
  if negative then .negative else .positive

/-- A mantissa that a double has in only one way: of fifty-three digits, or the power is the
lowest. -/
structure Binary.Canonical (b : Binary) : Prop where
  pos : 0 < b.mantissa
  short : b.mantissa < 2 ^ 53
  full : 2 ^ 52 ≤ b.mantissa ∨ b.power = -1074
  low : -1074 ≤ b.power
  high : b.power ≤ 971

/-! ### Unpacking and packing -/

theorem toNat_implicit (m : BitVec 52) : (1#1 ++ m).toNat = 2 ^ 52 + m.toNat := by
  rw [BitVec.toNat_append, ← Nat.shiftLeft_add_eq_or_of_lt m.isLt]
  rfl

theorem ofBitVec_unpackSign (x : Float) :
    Sign.ofBitVec (unpackSign (wordOf x)) = signOf (signBit x) := by
  have hs : (unpackSign (wordOf x)).toNat = x.toBits.toNat / 2 ^ 63 := toNat_unpackSign _
  have hb : x.toBits.toNat < 2 ^ 64 := (wordOf x).isLt
  unfold Sign.ofBitVec signOf signBit
  simp only [Nat.pow_eq, decide_eq_true_eq]
  split
  · next hzero =>
    have hnone : (unpackSign (wordOf x)).toNat = 0 := congrArg BitVec.toNat hzero
    rw [if_neg (by omega)]
  · next hone =>
    have hsome : (unpackSign (wordOf x)).toNat ≠ 0 := fun hnone =>
      hone (BitVec.eq_of_toNat_eq hnone)
    rw [if_pos (by omega)]

theorem ofFloat_eq (x : Float) :
    Binary.ofFloat x = if (unpackExponent (wordOf x)).toNat = 0 then
        ⟨(unpackMantissa (wordOf x)).toNat, -1074⟩
      else ⟨2 ^ 52 + (unpackMantissa (wordOf x)).toNat,
        ((unpackExponent (wordOf x)).toNat : Int) - 1075⟩ := by
  rw [toNat_unpackExponent, toNat_unpackMantissa]
  rfl

/-- A double that is neither zero nor infinite and is a number is its binary value. -/
theorem unpack_eq_finite {x : Float} {s : Sign} {m : Nat} {e : Int} {pos : 0 < m}
    (h : x.toModel.unpack = .finite s m e pos) :
    s = signOf (signBit x) ∧ Binary.ofFloat x = ⟨m, e⟩ ∧ (⟨m, e⟩ : Binary).Canonical := by
  change UnpackedFloat.unpack _ (wordOf x) = _ at h
  rw [UnpackedFloat.unpack, ofBitVec_unpackSign] at h
  rw [ofFloat_eq]
  generalize wordOf x = b at h ⊢
  have hm : (unpackMantissa b).toNat < 2 ^ 52 := (unpackMantissa b).isLt
  have he : (unpackExponent b).toNat < 2 ^ 11 := (unpackExponent b).isLt
  have hbias : (Format.binary64.exponentBias + Format.binary64.mantissaBitsWithoutImplicit : Int)
    = 1075 := rfl
  simp only [hbias] at h
  split at h
  · split at h <;> cases h
  · next hfinite =>
    have hfits : (unpackExponent b).toNat ≠ 2047 := fun hfull =>
      hfinite (BitVec.eq_of_toNat_eq hfull)
    split at h
    · next hzero =>
      have hexp : (unpackExponent b).toNat = 0 := congrArg BitVec.toNat hzero
      split at h
      · cases h
      · next hnonzero =>
        have hpos : (unpackMantissa b).toNat ≠ 0 := fun hnone =>
          hnonzero (BitVec.eq_of_toNat_eq hnone)
        rw [if_pos hexp]
        rw [hexp] at h
        cases h
        refine ⟨rfl, rfl, ?_, ?_, .inr rfl, ?_, ?_⟩ <;> simp only <;> omega
    · next hnormal =>
      have hexp : (unpackExponent b).toNat ≠ 0 := fun hnone =>
        hnormal (BitVec.eq_of_toNat_eq hnone)
      have himplicit := toNat_implicit (unpackMantissa b)
      rw [if_neg hexp]
      cases h
      rw [himplicit]
      refine ⟨rfl, rfl, ?_, ?_, .inl ?_, ?_, ?_⟩ <;> simp only <;> omega

theorem log2_add_one_eq {m : Nat} (h : m < 2 ^ 53) : m.log2 + 1 = 53 ↔ 2 ^ 52 ≤ m := by
  by_cases hm : m = 0
  · subst hm
    decide
  · have hlow : 52 ≤ m.log2 ↔ 2 ^ 52 ≤ m := Nat.le_log2 hm
    have hhigh : m.log2 < 53 ↔ m < 2 ^ 53 := Nat.log2_lt hm
    omega

/-- Packing a value as a double and taking it apart again gives the value. -/
theorem unpack_pack {s : Sign} {m : Nat} {e : Int} (canonical : (⟨m, e⟩ : Binary).Canonical) :
    (Float.Model.pack (.finite s m e canonical.pos)).unpack = .finite s m e canonical.pos := by
  obtain ⟨pos, short, full, low, high⟩ := canonical
  simp only at pos short full low high
  change UnpackedFloat.unpack Format.binary64 (UnpackedFloat.pack Format.binary64 _) = _
  have hbias : e + Format.binary64.exponentBias + Format.binary64.mantissaBitsWithoutImplicit =
      e + 1075 := by
    rw [Int.add_assoc]
    rfl
  have hfits : ¬ 2 ^ Format.binary64.exponentBits ≤ (e + 1075).toNat + 1 := by
    change ¬ 2 ^ 11 ≤ _
    omega
  have hlog : m.log2 + 1 = Format.binary64.mantissaBits ↔ 2 ^ 52 ≤ m := log2_add_one_eq short
  rw [UnpackedFloat.pack]
  simp only [hbias, if_neg hfits, hlog]
  split
  · next hfull =>
    have hexp : (BitVec.ofNat 11 (e + 1075).toNat).toNat = (e + 1075).toNat := by
      rw [BitVec.toNat_ofNat]
      omega
    have hmantissa : (1#1 ++ BitVec.ofNat 52 m).toNat = m := by
      rw [toNat_implicit, BitVec.toNat_ofNat]
      omega
    have hfinite : BitVec.ofNat 11 (e + 1075).toNat ≠ -1#11 := fun h => by
      rw [h] at hexp
      change 2047 = _ at hexp
      omega
    have hnormal : BitVec.ofNat 11 (e + 1075).toNat ≠ 0#11 := fun h => by
      rw [h] at hexp
      change 0 = _ at hexp
      omega
    rw [UnpackedFloat.unpack]
    simp only [unpackMantissa_packComponents, unpackExponent_packComponents,
      unpackSign_packComponents, Sign.ofBitVec_toBitVec, if_neg hfinite, if_neg hnormal, hexp,
      hmantissa]
    congr 1
    change _ - (1075 : Int) = e
    omega
  · next hless =>
    have hmantissa : (BitVec.ofNat 52 m).toNat = m := by
      rw [BitVec.toNat_ofNat]
      omega
    have hfinite : 0#11 ≠ -1#11 := by decide
    have hnonzero : BitVec.ofNat 52 m ≠ 0#52 := fun h => by
      rw [h] at hmantissa
      change 0 = _ at hmantissa
      omega
    rw [UnpackedFloat.unpack]
    simp only [unpackMantissa_packComponents, unpackExponent_packComponents,
      unpackSign_packComponents, Sign.ofBitVec_toBitVec, if_neg hfinite, if_true, dif_neg hnonzero,
      hmantissa]
    congr 1
    change -1074 = e
    omega

theorem eq_of_unpack {x y : Float} (h : x.toModel.unpack = y.toModel.unpack) : x = y :=
  Float.toBits_inj.1 <| UInt64.toBitVec_inj.1 <|
    (unpack_inj_of_valid x.toModel.valid y.toModel.valid).1 h

/-- A double is its value packed. -/
theorem ofModel_pack_eq {x : Float} {s : Sign} {m : Nat} {e : Int} {pos : 0 < m}
    (h : x.toModel.unpack = .finite s m e pos) :
    Float.ofModel (Float.Model.pack (.finite s m e pos)) = x :=
  eq_of_unpack ((unpack_pack (unpack_eq_finite h).2.2).trans h.symm)

/-! ### Zeros and equal doubles -/

theorem unpack_zero : (0.0 : Float).toModel.unpack = .zero .positive := by
  with_unfolding_all rfl

theorem unpack_negative_zero : (-0.0 : Float).toModel.unpack = .zero .negative := by
  with_unfolding_all rfl

theorem beq_zero {s : Sign} {x : Float} (h : x.toModel.unpack = .zero s) : (x == 0.0) = true := by
  change UnpackedFloat.beq x.toModel.unpack (0.0 : Float).toModel.unpack = true
  rw [h, unpack_zero]
  rfl

theorem beq_iff (x y : Float) :
    (x == y) = true ↔ x.toModel.unpack ≠ .notANumber ∧ y.toModel.unpack ≠ .notANumber ∧
      (x.toModel.unpack = y.toModel.unpack ∨
        (x.toModel.unpack = .zero .positive ∧ y.toModel.unpack = .zero .negative) ∨
        (x.toModel.unpack = .zero .negative ∧ y.toModel.unpack = .zero .positive)) :=
  beq_iff_ne_notANumber_and_eq _ _

/-- There are two zeros. -/
theorem eq_zero_or {x : Float} (h : (x == 0.0) = true) : x = 0.0 ∨ x = -0.0 := by
  obtain ⟨-, -, same | ⟨positive, -⟩ | ⟨negative, -⟩⟩ := (beq_iff x 0.0).1 h
  · exact .inl (eq_of_unpack same)
  · exact .inl (eq_of_unpack (positive.trans unpack_zero.symm))
  · exact .inr (eq_of_unpack (negative.trans unpack_negative_zero.symm))

theorem zero_beq_negative : ((0.0 : Float) == -0.0) = true := by
  with_unfolding_all rfl

/-- A finite double that is not zero is a sign, a mantissa and a power of two. -/
theorem exists_unpack {x : Float} (hfinite : x.isFinite = true) (hnonzero : (x == 0.0) = false) :
    ∃ s m e pos, x.toModel.unpack = .finite s m e pos := by
  change x.toModel.unpack.isFinite = true at hfinite
  cases hx : x.toModel.unpack with
  | infinity s =>
      rw [hx] at hfinite
      cases hfinite
  | notANumber =>
      rw [hx] at hfinite
      cases hfinite
  | zero s =>
      rw [beq_zero hx] at hnonzero
      cases hnonzero
  | finite s m e pos => exact ⟨s, m, e, pos, rfl⟩

/-- Equal doubles are the same one, unless they are zero. -/
theorem eq_of_beq_finite {x y : Float} {s : Sign} {m : Nat} {e : Int} {pos : 0 < m}
    (h : (x == y) = true) (hy : y.toModel.unpack = .finite s m e pos) : x = y := by
  obtain ⟨-, -, same | ⟨-, zero⟩ | ⟨-, zero⟩⟩ := (beq_iff x y).1 h
  · exact eq_of_unpack same
  · cases hy.symm.trans zero
  · cases hy.symm.trans zero

/-- A finite double equals itself. -/
theorem beq_self_finite {x : Float} (h : x.isFinite = true) : (x == x) = true := by
  have number : x.toModel.unpack ≠ .notANumber := fun hx => by
    change x.toModel.unpack.isFinite = true at h
    rw [hx] at h
    cases h
  exact (beq_iff x x).2 ⟨number, number, .inl rfl⟩

end Wordsheet.Decimal
