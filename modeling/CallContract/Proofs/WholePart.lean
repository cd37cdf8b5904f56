import CallContract.Binary64.Order
import CallContract.Proofs.ExactRounding

/-!
# The whole part of a float

Clearing the bits of a rank that stand for a fraction leaves exactly the whole
part of the magnitude.  A number that is not past the integers therefore has its
whole part among them, and it is less than one away from it.
-/

namespace CallContract

theorem toInt_wholeInteger {number : Int} (hlow : -2 ^ 63 ≤ number) (hhigh : number < 2 ^ 63) :
    (wholeInteger number).toInt = number := by
  have hmin : Int64.minValue.toInt = -2 ^ 63 := by decide
  have hmax : Int64.maxValue.toInt = 2 ^ 63 - 1 := by decide
  unfold wholeInteger
  rw [if_neg (by omega), if_neg (by omega)]
  exact Int64.toInt_ofInt_of_le hlow hhigh

namespace Binary64

variable {rank : Nat}

theorem unitsPerOne_pos : 0 < unitsPerOne :=
  Nat.lt_of_lt_of_le (by decide) fractions_le_unitsPerOne

/-- Below the exponent of one there is nothing but a fraction. -/
theorem magnitude_lt_unitsPerOne (h : rank / fractions < 1023) : magnitude rank < unitsPerOne := by
  obtain ⟨exponent, hexponent⟩ : ∃ exponent, 1074 = exponent := ⟨_, rfl⟩
  have hfractions : fractions = 2 ^ 52 := rfl
  by_cases hsmall : rank < fractions
  · rw [magnitude_of_lt hsmall]
    exact hsmall.trans_le fractions_le_unitsPerOne
  · obtain ⟨shift, significand, rfl, hlow, hhigh⟩ := exists_significand (Nat.not_lt.mp hsmall)
    have hshift : shift + 53 ≤ exponent := by
      have hcount : fractions = 0x10000000000000 := rfl
      have hrank := (Nat.div_lt_iff_lt_mul (by decide)).mp h
      rw [hcount] at hrank hlow
      omega
    rw [magnitude_of_significand hlow (Nat.le_of_lt hhigh), unitsPerOne_eq hexponent]
    calc
      significand * 2 ^ shift < 2 * fractions * 2 ^ shift :=
        Nat.mul_lt_mul_of_pos_right hhigh (Nat.two_pow_pos shift)
      _ = 2 ^ (shift + 53) := by
        rw [hfractions]
        ring
      _ ≤ 2 ^ exponent := Nat.pow_le_pow_right Nat.two_pos hshift

/-- The bits of a significand that stand behind the point are what is left of it by
the division. -/
theorem magnitude_of_cleared
    {shift significand behind : Nat}
    (hlow : fractions ≤ significand) (hhigh : significand < 2 * fractions)
    (hbehind : behind ≤ 52) (hunit : unitsPerOne = 2 ^ behind * 2 ^ shift) :
    magnitude (shift * fractions + significand - (shift * fractions + significand) % 2 ^ behind) =
      significand * 2 ^ shift / unitsPerOne * unitsPerOne := by
  have hwhole : fractions = 2 ^ (52 - behind) * 2 ^ behind := by
    rw [← Nat.pow_add, Nat.sub_add_cancel hbehind]
    rfl
  have hcleared : (shift * fractions + significand) % 2 ^ behind = significand % 2 ^ behind := by
    rw [hwhole, ← Nat.mul_assoc, Nat.mul_add_mod_self_right]
  have hkept : significand - significand % 2 ^ behind =
      significand / 2 ^ behind * 2 ^ behind := by
    have hsplit := Nat.div_add_mod significand (2 ^ behind)
    rw [Nat.mul_comm] at hsplit
    omega
  have hkeptLow : fractions ≤ significand / 2 ^ behind * 2 ^ behind := by
    rw [hwhole]
    apply Nat.mul_le_mul_right
    rw [Nat.le_div_iff_mul_le (Nat.two_pow_pos behind), ← hwhole]
    exact hlow
  have hkeptHigh : significand / 2 ^ behind * 2 ^ behind ≤ 2 * fractions :=
    (Nat.div_mul_le_self _ _).trans (Nat.le_of_lt hhigh)
  have hrest : significand % 2 ^ behind ≤ significand := Nat.mod_le _ _
  rw [hcleared, Nat.add_sub_assoc hrest, hkept, magnitude_of_significand hkeptLow hkeptHigh,
    hunit, Nat.mul_div_mul_right _ _ (Nat.two_pow_pos shift), Nat.mul_assoc]

/-- The whole part of a magnitude, at the cleared rank. -/
theorem magnitude_wholeRank (rank : Nat) :
    magnitude (wholeRank rank) = magnitude rank / unitsPerOne * unitsPerOne := by
  obtain ⟨exponent, hexponent⟩ : ∃ exponent, 1074 = exponent := ⟨_, rfl⟩
  simp only [wholeRank]
  split
  next hsmall =>
    rw [Nat.div_eq_of_lt (magnitude_lt_unitsPerOne hsmall), Nat.zero_mul]
    rfl
  next hlarge =>
    have hnormal : fractions ≤ rank :=
      (Nat.one_le_div_iff (by decide)).mp (by omega)
    obtain ⟨shift, significand, rfl, hlow, hhigh⟩ := exists_significand hnormal
    have hquotient : (shift * fractions + significand) / fractions = shift + 1 := by
      rw [Nat.div_eq_iff (by decide)]
      have hnext : (shift + 1) * fractions = shift * fractions + fractions := Nat.succ_mul _ _
      omega
    rw [hquotient] at hlarge ⊢
    rw [magnitude_of_significand hlow (Nat.le_of_lt hhigh)]
    by_cases habove : exponent ≤ shift
    · -- the last bit of the significand stands at or before the point
      have hnone : 1075 - (shift + 1) = 0 := by omega
      have hmultiple : significand * 2 ^ shift =
          significand * 2 ^ (shift - exponent) * unitsPerOne := by
        rw [unitsPerOne_eq hexponent, Nat.mul_assoc, ← Nat.pow_add, Nat.sub_add_cancel habove]
      have hpower : Nat.pow 2 0 = 1 := rfl
      rw [hnone, hpower, Nat.mod_one, Nat.sub_zero,
        magnitude_of_significand hlow (Nat.le_of_lt hhigh), hmultiple,
        Nat.mul_div_cancel _ unitsPerOne_pos]
    · have hsplit : exponent = (1075 - (shift + 1)) + shift := by omega
      apply magnitude_of_cleared hlow hhigh (by omega)
      rw [unitsPerOne_eq hexponent, ← Nat.pow_add, ← hsplit]

/-! ### Whole parts with a sign -/

/-- A number is less than one away from its whole part. -/
theorem signed_whole_bounds (negative : Bool) (units : Nat) :
    signed negative (units / unitsPerOne) * unitsPerOne - unitsPerOne < signed negative units ∧
      signed negative units <
        signed negative (units / unitsPerOne) * unitsPerOne + unitsPerOne := by
  have hsplit := Nat.div_add_mod' units unitsPerOne
  have hrest := Nat.mod_lt units unitsPerOne_pos
  have hcast : ((units / unitsPerOne * unitsPerOne : Nat) : Int) =
      (units / unitsPerOne : Nat) * (unitsPerOne : Nat) := Nat.cast_mul _ _
  cases negative with
  | false =>
      simp only [signed, Bool.false_eq_true, if_false]
      omega
  | true =>
      simp only [signed, if_true, Int.neg_mul]
      omega

/-- The whole part of a number between two opposite integers is not outside them. -/
theorem signed_whole_range
    {negative : Bool} {units limit : Nat}
    (hlow : -(limit : Int) * unitsPerOne ≤ signed negative units)
    (hhigh : signed negative units < (limit : Int) * unitsPerOne) :
    -(limit : Int) ≤ signed negative (units / unitsPerOne) ∧
      signed negative (units / unitsPerOne) < limit := by
  have hlimit : ((limit * unitsPerOne : Nat) : Int) = (limit : Int) * unitsPerOne :=
    Nat.cast_mul _ _
  have hpositive : limit ≠ 0 := by
    rintro rfl
    rw [Int.neg_mul] at hlow
    omega
  rw [Int.neg_mul, ← hlimit] at hlow
  rw [← hlimit] at hhigh
  cases negative with
  | false =>
      simp only [signed, Bool.false_eq_true, if_false] at hhigh ⊢
      have hbelow := (Nat.div_lt_iff_lt_mul unitsPerOne_pos).mpr (Int.ofNat_lt.mp hhigh)
      generalize units / unitsPerOne = whole at hbelow ⊢
      omega
  | true =>
      simp only [signed, if_true] at hlow ⊢
      have hwithin : units / unitsPerOne ≤ limit := Nat.div_le_of_le_mul (by
        rw [Nat.mul_comm]
        omega)
      generalize units / unitsPerOne = whole at hwithin ⊢
      omega

theorem place?_truncate (negative : Bool) (rank : Fin 0x7FF0000000000000) :
    (finite negative rank).truncate.place? =
      some (integerPlace (signed negative (magnitude rank / unitsPerOne))) := by
  simp only [truncate, place?, magnitude_wholeRank, integerPlace, Option.some.injEq,
    Place.units.injEq]
  cases negative with
  | false => simp only [signed, Bool.false_eq_true, if_false, Int.natCast_mul]
  | true => simp only [signed, if_true, Int.natCast_mul, Int.neg_mul]

theorem toInt_toInteger_truncate
    {negative : Bool} {rank : Fin 0x7FF0000000000000}
    (hlow : -2 ^ 63 ≤ signed negative (magnitude rank / unitsPerOne))
    (hhigh : signed negative (magnitude rank / unitsPerOne) < 2 ^ 63) :
    (finite negative rank).truncate.toInteger.toInt =
      signed negative (magnitude rank / unitsPerOne) := by
  have hwhole : magnitude (wholeRank rank) / unitsPerOne = magnitude rank / unitsPerOne := by
    rw [magnitude_wholeRank, Nat.mul_div_cancel _ unitsPerOne_pos]
  simp only [truncate, toInteger, hwhole]
  exact toInt_wholeInteger hlow hhigh

end Binary64

end CallContract
