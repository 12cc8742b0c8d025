import FieldRules.Decimal.Nearest
import Mathlib

namespace FieldRules.Decimal

open Float.Model Float.Model.UnpackedFloat

/-- A quotient is rounded to an even integer or beyond if and only if it is at most a half below. -/
theorem le_roundDiv_iff {num den k : Nat} (hden : 0 < den) (hk : k % 2 = 0) :
    k ≤ roundDiv num den ↔ 2 * (k * den) ≤ 2 * num + den := by
  have hnum : num = num / den * den + num % den := (Nat.div_add_mod' num den).symm
  have hr : num % den < den := Nat.mod_lt num hden
  unfold roundDiv
  simp only [Bool.or_eq_true, Bool.and_eq_true, decide_eq_true_eq, beq_iff_eq]
  generalize num / den = q at *
  generalize num % den = r at *
  subst hnum
  obtain hle | rfl | hlt : k ≤ q ∨ k = q + 1 ∨ q + 2 ≤ k := by omega
  · have hmul := Nat.mul_le_mul_right den hle
    split <;> omega
  · rw [Nat.add_mul]
    split <;> omega
  · have hmul := Nat.mul_le_mul_right den hlt
    rw [Nat.add_mul] at hmul
    split <;> omega

theorem roundDiv_le {num den k : Nat} (hden : 0 < den) (h : num ≤ k * den) :
    roundDiv num den ≤ k := by
  have hnum : num = num / den * den + num % den := (Nat.div_add_mod' num den).symm
  have hr : num % den < den := Nat.mod_lt num hden
  unfold roundDiv
  simp only [Bool.or_eq_true, Bool.and_eq_true, decide_eq_true_eq, beq_iff_eq]
  generalize num / den = q at *
  generalize num % den = r at *
  subst hnum
  obtain hlt | rfl | hgt : q < k ∨ q = k ∨ k + 1 ≤ q := by omega
  · split <;> omega
  · split <;> omega
  · have hmul := Nat.mul_le_mul_right den hgt
    rw [Nat.add_mul] at hmul
    omega

theorem floorLog2_one {n : Nat} (hn : n ≠ 0) : floorLog2 n 1 = n.log2 := by
  have hle := Nat.log2_self_le hn
  have hlog : (1 : Nat).log2 = 0 := by decide
  simp [floorLog2, hlog, hle]

theorem nearestBits_one {n : Nat} (hn : n ≠ 0) :
    nearestBits n 1 = min ((n.log2 + 1022) * 2 ^ 52 +
      roundDiv (n * 2 ^ (52 - n.log2)) (2 ^ (n.log2 - 52))) infinityBits := by
  have hspacing : max ((n.log2 : Int) - 52) (-1074) = n.log2 - 52 := by omega
  have hdown : (-((n.log2 : Int) - 52)).toNat = 52 - n.log2 := by omega
  have hup : ((n.log2 : Int) - 52).toNat = n.log2 - 52 := by omega
  have hexponent : ((n.log2 : Int) - 52 + 1074).toNat = n.log2 + 1022 := by omega
  rw [nearestBits, if_neg hn]
  simp only [floorLog2_one hn, hspacing, hdown, hup, hexponent, Nat.one_mul]

/-- At its spacing an integer has 53 binary digits. -/
theorem scaled_bounds {n : Nat} (hn : n ≠ 0) :
    2 ^ 52 * 2 ^ (n.log2 - 52) ≤ n * 2 ^ (52 - n.log2) ∧
      n * 2 ^ (52 - n.log2) ≤ 2 ^ 53 * 2 ^ (n.log2 - 52) := by
  have hshift : 2 ^ 52 * 2 ^ (n.log2 - 52) = 2 ^ n.log2 * 2 ^ (52 - n.log2) := by
    rw [← pow_add, ← pow_add]
    congr 1
    omega
  have hshift' : 2 ^ 53 * 2 ^ (n.log2 - 52) = 2 ^ (n.log2 + 1) * 2 ^ (52 - n.log2) := by
    rw [← pow_add, ← pow_add]
    congr 1
    omega
  rw [hshift, hshift']
  exact ⟨Nat.mul_le_mul_right _ (Nat.log2_self_le hn),
    Nat.mul_le_mul_right _ (Nat.lt_log2_self (n := n)).le⟩

theorem mantissa_bounds {n : Nat} (hn : n ≠ 0) :
    2 ^ 52 ≤ roundDiv (n * 2 ^ (52 - n.log2)) (2 ^ (n.log2 - 52)) ∧
      roundDiv (n * 2 ^ (52 - n.log2)) (2 ^ (n.log2 - 52)) ≤ 2 ^ 53 := by
  obtain ⟨hlower, hupper⟩ := scaled_bounds hn
  have hden : 0 < 2 ^ (n.log2 - 52) := Nat.two_pow_pos _
  exact ⟨(le_roundDiv_iff hden (by norm_num)).2 (by omega), roundDiv_le hden hupper⟩

/-- Rounding carries into the next power of two from the middle between it and the integer below at
this spacing. -/
theorem carry_iff {n k : Nat} (h : n.log2 = 53 + k) :
    2 ^ 53 ≤ roundDiv (n * 2 ^ (52 - n.log2)) (2 ^ (n.log2 - 52)) ↔ 2 ^ 54 * 2 ^ k ≤ n + 2 ^ k := by
  have hnum : 52 - n.log2 = 0 := by omega
  have hden : n.log2 - 52 = k + 1 := by omega
  rw [hnum, hden, le_roundDiv_iff (Nat.two_pow_pos _) (by norm_num), pow_succ 2 k]
  omega

/-- The binary64 nearest to a positive integer is finite if the integer is below the middle between
the largest finite one and the next power of two. -/
theorem nearestBits_one_lt_iff {n : Nat} (hn : n ≠ 0) :
    nearestBits n 1 < infinityBits ↔ n < 2 ^ 1024 - 2 ^ 970 := by
  obtain ⟨k, hk⟩ : ∃ k, k = 970 := ⟨970, rfl⟩
  have hmiddle : (2 : Nat) ^ 1024 - 2 ^ 970 = 2 ^ 54 * 2 ^ k - 2 ^ k := by rw [hk, ← pow_add]
  obtain ⟨hlower, hupper⟩ := mantissa_bounds hn
  rw [nearestBits_one hn, infinityBits, hmiddle]
  obtain hsmall | hlast | hlarge :
      n.log2 < 53 + k ∨ n.log2 = 53 + k ∨ 54 + k ≤ n.log2 := by omega
  · have hbelow := (Nat.log2_lt hn).1 hsmall
    rw [pow_add] at hbelow
    omega
  · have hcarry := carry_iff hlast
    omega
  · have habove := (Nat.le_log2 hn).1 hlarge
    rw [pow_add] at habove
    omega

theorem nearestBits_le (num den : Nat) : nearestBits num den ≤ infinityBits := by
  unfold nearestBits
  split
  · exact Nat.zero_le _
  · exact Nat.min_le_right _ _

theorem isFinite_unpack (b : BitVec Format.binary64.numBits) :
    (UnpackedFloat.unpack Format.binary64 b).isFinite = true ↔ unpackExponent b ≠ -1#_ := by
  unfold UnpackedFloat.unpack
  dsimp only
  split
  · split <;> simp_all [UnpackedFloat.isFinite]
  · split
    · split <;> simp_all [UnpackedFloat.isFinite]
    · simp_all [UnpackedFloat.isFinite]

/-- The bits of a magnitude that is at most infinite, with either sign. -/
def signedBits (negative : Bool) (magnitude : Nat) : UInt64 :=
  UInt64.ofNat (if negative then 2 ^ 63 + magnitude else magnitude)

section Bits

variable {magnitude : Nat} (h : magnitude ≤ infinityBits) (negative : Bool)
include h

theorem toNat_signedBits :
    (signedBits negative magnitude).toBitVec.toNat = negative.toNat * 2 ^ 63 + magnitude := by
  rw [infinityBits] at h
  cases negative <;> simp [signedBits] <;> omega

theorem toNat_unpackExponent :
    (@unpackExponent Format.binary64 (signedBits negative magnitude).toBitVec).toNat =
      magnitude / 2 ^ 52 := by
  rw [unpackExponent_def, BitVec.extractLsb'_toNat, toNat_signedBits h negative,
    Nat.shiftRight_eq_div_pow]
  rw [infinityBits] at h
  cases negative <;> simp <;> omega

theorem unpackExponent_signedBits_iff :
    @unpackExponent Format.binary64 (signedBits negative magnitude).toBitVec = -1#_ ↔
      magnitude = infinityBits := by
  have hones : (-BitVec.ofNat Format.binary64.exponentBits 1).toNat = 2047 := by decide
  rw [← BitVec.toNat_inj, toNat_unpackExponent h negative, hones]
  rw [infinityBits] at h ⊢
  omega

theorem isNaNBits_signedBits :
    @isNaNBits Format.binary64 (signedBits negative magnitude).toBitVec = false := by
  rw [isNaNBits, decide_eq_false_iff_not, unpackExponent_signedBits_iff h negative]
  rintro ⟨rfl, hmantissa⟩
  apply hmantissa
  cases negative <;> decide

/-- The bits of a magnitude that is at most infinite, with either sign, are those of a finite number
if the magnitude is less than infinite. -/
theorem isFinite_signedBits :
    (Float.ofBits (signedBits negative magnitude)).isFinite = true ↔ magnitude < infinityBits := by
  have hunpack : (Float.ofBits (signedBits negative magnitude)).isFinite =
      (UnpackedFloat.unpack Format.binary64
        (signedBits negative magnitude).toBitVec).isFinite := by
    show (UnpackedFloat.unpack Format.binary64 (UnpackedFloat.pack Format.binary64
      (UnpackedFloat.unpack Format.binary64 _))).isFinite = _
    rw [pack_unpack, isNaNBits_signedBits h negative]
    rfl
  rw [hunpack, isFinite_unpack, ne_eq, unpackExponent_signedBits_iff h negative]
  omega

end Bits

/-- The binary64 nearest to an integer is finite if the integer is below that middle. -/
theorem isFinite_toFloat_iff (negative : Bool) (n : Nat) :
    (toFloat negative n 0).isFinite = true ↔ n < 2 ^ 1024 - 2 ^ 970 := by
  have hmiddle : (0 : Nat) < 2 ^ 1024 - 2 ^ 970 :=
    Nat.sub_pos_of_lt (pow_lt_pow_right₀ Nat.one_lt_two (by decide))
  by_cases hn : n = 0
  · subst hn
    have hzero := isFinite_signedBits (Nat.zero_le infinityBits) negative
    exact ⟨fun _ => hmiddle, fun _ => hzero.2 (by decide)⟩
  · have hmagnitude : toFloat negative n 0 =
        Float.ofBits (signedBits negative (nearestBits n 1)) := by
      have hexponent : ¬(n.log2 : Int) < -400 := by omega
      simp [toFloat, signedBits, hn, hexponent]
    rw [hmagnitude, isFinite_signedBits (nearestBits_le n 1) negative, nearestBits_one_lt_iff hn]

end FieldRules.Decimal
