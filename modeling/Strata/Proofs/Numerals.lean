import Strata.Component.Wire
import Strata.Proofs.Standing

/-!
# Integers of 64 bits are legible

A numeral is read through a significand of 64 bits and a power of ten, and what it then rounds to
has to be held by a double. An integer of 64 bits keeps all its digits in the significand, is scaled
by no power, and rounding adds less to it than it would take to leave the range. So ordinals, at the
limits of their range too, come back as they were written.
-/

namespace Strata

namespace Numeral

/-! ## The significand -/

theorem le_ofDigitChars (digits : List Char) (value : Nat) :
    value ≤ Nat.ofDigitChars 10 digits value := by
  induction digits generalizing value with
  | nil => exact Nat.le_refl value
  | cons c digits ih =>
      rw [Nat.ofDigitChars_cons]
      have hmore := ih (10 * value + (c.toNat - '0'.toNat))
      omega

/-- Digits all enter the significand if the number that they stand for does. -/
theorem fill_eq {digits : List Char} {value : Nat}
    (h : Nat.ofDigitChars 10 digits value < 0x10000000000000000) :
    fill value (digits.map fun c => c.toNat - 48) = (Nat.ofDigitChars 10 digits value, []) := by
  induction digits generalizing value with
  | nil => rfl
  | cons c digits ih =>
      rw [Nat.ofDigitChars_cons, Nat.mul_comm] at h ⊢
      have hfits : value * 10 + (c.toNat - 48) < 0x10000000000000000 :=
        Nat.lt_of_le_of_lt (le_ofDigitChars digits _) h
      rw [List.map_cons, fill, if_pos hfits]
      exact ih h

theorem scaled_ofInt {i : Int} (h : i.natAbs < 0x10000000000000000) :
    (ofInt i).scaled = (i.natAbs, 0) := by
  have hdigits : fill 0 (digits i.natAbs) = (i.natAbs, []) := by
    rw [digits, fill_eq (Nat.ofDigitChars_ten_toDigits ▸ h), Nat.ofDigitChars_ten_toDigits]
  simp [scaled, ofInt, hdigits, fill]

/-! ## Rounding -/

theorem round53_le {n : Nat} (h : n < 0x10000000000000000) : round53 n ≤ n + 0x800 := by
  have hunit : 1 <<< (n.log2 + 1 - 53) ≤ 0x800 := by
    have hlog : n.log2 < 64 := by
      by_cases hzero : n = 0
      · subst hzero
        decide
      · exact (Nat.log2_lt hzero).2 h
    have hpow : Nat.pow 2 (n.log2 + 1 - 53) ≤ Nat.pow 2 11 :=
      Nat.pow_le_pow_right (by decide) (by omega)
    rw [Nat.one_shiftLeft]
    exact hpow
  rw [round53]
  generalize 1 <<< (n.log2 + 1 - 53) = unit at hunit
  have hdown : n / unit * unit ≤ n := Nat.div_mul_le_self n unit
  split
  · rw [Nat.add_mul, Nat.one_mul]
    omega
  · omega

theorem readable_ofInt {i : Int} (h : i.natAbs < 0x10000000000000000) :
    (ofInt i).readable = true := by
  have hround := round53_le h
  have hone : round53 (Nat.pow 10 0) = 1 := by decide
  have hlimit : 0x10000000000000000 + 0x800 < beyondDouble := by decide
  simp only [readable, scaled_ofInt h, Int.lt_irrefl, if_false, Int.toNat_zero, hone, Nat.mul_one]
  rw [if_neg (by decide)]
  exact decide_eq_true (by omega)

/-! ## The integer again -/

theorem integer?_ofInt {i : Int} (hlow : -0x8000000000000000 ≤ i) (hhigh : i < 0x8000000000000000) :
    (ofInt i).integer? = some i := by
  have hplain : ((ofInt i).fraction.isEmpty && (ofInt i).exponent.isNone) = true := rfl
  have hwhole : (ofInt i).whole = i.natAbs := rfl
  by_cases hsign : i < 0
  · have hnegative : (ofInt i).negative = true := decide_eq_true hsign
    have hrange : 0 < i.natAbs ∧ i.natAbs ≤ 0x8000000000000000 := by omega
    have hvalue : -(i.natAbs : Int) = i := by omega
    rw [integer?, if_pos hplain, if_pos hnegative, hwhole, if_pos hrange, hvalue]
  · have hnegative : ¬ (ofInt i).negative = true := fun h => hsign (of_decide_eq_true h)
    have hrange : i.natAbs < 0x10000000000000000 := by omega
    have hvalue : (i.natAbs : Int) = i := by omega
    rw [integer?, if_pos hplain, if_neg hnegative, hwhole, if_pos hrange, hvalue]

end Numeral

namespace Ordinal

theorem natAbs_toInt_lt (ordinal : Ordinal) : ordinal.toInt.natAbs < 0x10000000000000000 := by
  have hlow := ordinal.le_toInt
  have hhigh := ordinal.toInt_lt
  omega

theorem isLegible_encode (ordinal : Ordinal) : (encode ordinal).isLegible = true :=
  Numeral.readable_ofInt (natAbs_toInt_lt ordinal)

theorem integer64_ofJson_encode (ordinal : Ordinal) :
    Wire.integer64 (.ofJson (encode ordinal)) = .ok ordinal := by
  have hlow := ordinal.le_toInt
  have hhigh := ordinal.toInt_lt
  rw [encode, Json.int, Source.ofJson, if_pos (Numeral.readable_ofInt (natAbs_toInt_lt ordinal)),
    Wire.integer64, Numeral.integer?_ofInt (by omega) (by omega)]
  dsimp only
  rw [if_pos (by omega), Int64.ofInt_toInt]

end Ordinal

end Strata
