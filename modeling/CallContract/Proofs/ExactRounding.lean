import CallContract.Binary64.Layout
import Mathlib.Tactic.Ring

/-!
# Exact results of rounding

A magnitude is a significand shifted to its place, and rounding finds the
significand and the shift again.  Rounding looks at a quotient only, and what
is rounded from a whole number is a whole number.
-/

namespace CallContract.Binary64

variable {rank shift significand numerator denominator : Nat}

/-! ### Significands -/

theorem magnitude_of_lt (h : rank < fractions) : magnitude rank = rank :=
  if_pos h

/-- The significand that carries into the next shift has the right magnitude, too. -/
theorem magnitude_of_significand
    (hlow : fractions ≤ significand) (hhigh : significand ≤ 2 * fractions) :
    magnitude (shift * fractions + significand) = significand * 2 ^ shift := by
  have hpositive : 0 < fractions := by decide
  have hlarge : ¬ shift * fractions + significand < fractions := by omega
  unfold magnitude
  rw [if_neg hlarge]
  rcases Nat.eq_or_lt_of_le hhigh with hcarry | hbelow
  · have hrank : shift * fractions + significand = (shift + 2) * fractions := by
      rw [hcarry]
      ring
    rw [hrank, Nat.mul_mod_left, Nat.mul_div_cancel _ hpositive, hcarry]
    change (fractions + 0) * 2 ^ (shift + 1) = 2 * fractions * 2 ^ shift
    ring
  · have hrank : shift * fractions + significand =
        (significand - fractions) + (shift + 1) * fractions := by
      have hsplit : significand = (significand - fractions) + fractions := by omega
      calc
        shift * fractions + significand =
            shift * fractions + ((significand - fractions) + fractions) := by rw [← hsplit]
        _ = (significand - fractions) + (shift + 1) * fractions := by ring
    have hrest : significand - fractions < fractions := by omega
    rw [hrank, Nat.add_mul_mod_self_right, Nat.mod_eq_of_lt hrest,
      Nat.add_mul_div_right _ _ hpositive, Nat.div_eq_of_lt hrest]
    have hback : fractions + (significand - fractions) = significand := by omega
    have hshift : 0 + (shift + 1) - 1 = shift := by omega
    rw [hback, hshift]
    rfl

theorem exists_significand (h : fractions ≤ rank) :
    ∃ shift significand, rank = shift * fractions + significand ∧
      fractions ≤ significand ∧ significand < 2 * fractions := by
  have hpositive : 0 < fractions := by decide
  have hquotient : 0 < rank / fractions := Nat.div_pos h hpositive
  have hrest : rank % fractions < fractions := Nat.mod_lt rank hpositive
  refine ⟨rank / fractions - 1, fractions + rank % fractions, ?_, by omega, by omega⟩
  have hsplit : rank / fractions = (rank / fractions - 1) + 1 := by omega
  calc
    rank = fractions * (rank / fractions) + rank % fractions :=
      (Nat.div_add_mod rank fractions).symm
    _ = fractions * ((rank / fractions - 1) + 1) + rank % fractions := by rw [← hsplit]
    _ = (rank / fractions - 1) * fractions + (fractions + rank % fractions) := by ring

/-! ### Quotients -/

theorem divideNearestEven_bounds (numerator denominator : Nat) :
    numerator / denominator ≤ divideNearestEven numerator denominator ∧
      divideNearestEven numerator denominator ≤ numerator / denominator + 1 := by
  have hcases : divideNearestEven numerator denominator = numerator / denominator ∨
      divideNearestEven numerator denominator = numerator / denominator + 1 ∨
      divideNearestEven numerator denominator =
        numerator / denominator + numerator / denominator % 2 := by
    simp only [divideNearestEven]
    split
    next => exact .inl rfl
    next =>
      split
      next => exact .inr (.inl rfl)
      next => exact .inr (.inr rfl)
  omega

theorem divideNearestEven_of_multiple (quotient : Nat) (h : 0 < denominator) :
    divideNearestEven (quotient * denominator) denominator = quotient := by
  unfold divideNearestEven
  rw [Nat.mul_mod_left, Nat.mul_zero, if_pos h, Nat.mul_div_cancel _ h]

theorem divideNearestEven_scale (numerator denominator : Nat) {scale : Nat} (h : 0 < scale) :
    divideNearestEven (numerator * scale) (denominator * scale) =
      divideNearestEven numerator denominator := by
  have hrest : numerator * scale % (denominator * scale) =
      numerator % denominator * scale := Nat.mul_mod_mul_right _ _ _
  have htwice : 2 * (numerator % denominator * scale) =
      2 * (numerator % denominator) * scale := by ring
  unfold divideNearestEven
  simp only [Nat.mul_div_mul_right _ _ h, hrest, htwice, Nat.mul_lt_mul_right h]

theorem roundUnits_eq
    (negative : Bool) (h : Nat.log2 (numerator / denominator) - 52 = shift) :
    roundUnits negative numerator denominator =
      ofRank negative
        (shift * fractions + divideNearestEven numerator (denominator * 2 ^ shift)) := by
  subst h
  rfl

/-- Rounding depends on the quotient only. -/
theorem roundUnits_scale (negative : Bool) (numerator denominator : Nat) {scale : Nat}
    (h : 0 < scale) :
    roundUnits negative (numerator * scale) (denominator * scale) =
      roundUnits negative numerator denominator := by
  unfold roundUnits
  rw [Nat.mul_div_mul_right _ _ h]
  have hplace : ∀ power : Nat, denominator * scale * power = denominator * power * scale := by
    intro power
    ring
  simp only [hplace, divideNearestEven_scale _ _ h]

/-! ### Whole numbers of units -/

theorem unitsPerOne_eq {exponent : Nat} (h : 1074 = exponent) : unitsPerOne = 2 ^ exponent := by
  delta unitsPerOne
  rw [h]
  exact Nat.pow_eq

theorem fractions_le_unitsPerOne : fractions ≤ unitsPerOne := by
  obtain ⟨exponent, hexponent⟩ : ∃ exponent, 1074 = exponent := ⟨_, rfl⟩
  rw [unitsPerOne_eq hexponent]
  have hbits : 52 ≤ exponent := by omega
  exact Nat.pow_le_pow_right Nat.two_pos hbits

/-- The significand of a large number of units has 53 bits, or just carries. -/
theorem roundUnits_of_large {units : Nat} (negative : Bool) (h : fractions ≤ units) :
    ∃ shift significand, roundUnits negative units 1 =
        ofRank negative (shift * fractions + significand) ∧
      significand = divideNearestEven units (2 ^ shift) ∧ shift = Nat.log2 units - 52 ∧
        fractions ≤ units / 2 ^ shift ∧ units / 2 ^ shift < 2 * fractions := by
  have hpositive : 0 < units := Nat.lt_of_lt_of_le (by decide) h
  have hnonzero : units ≠ 0 := Nat.ne_of_gt hpositive
  obtain ⟨hlow, hhigh⟩ := (Nat.log2_eq_iff hnonzero).mp rfl
  have hlog : 52 ≤ Nat.log2 units := (Nat.le_log2 hnonzero).mpr h
  obtain ⟨shift, hshift⟩ : ∃ shift, Nat.log2 units = shift + 52 :=
    ⟨Nat.log2 units - 52, by omega⟩
  have hfractions : fractions = 2 ^ 52 := rfl
  have hpower : 0 < 2 ^ shift := Nat.two_pow_pos shift
  refine ⟨shift, divideNearestEven units (2 ^ shift), ?_, rfl, by omega, ?_, ?_⟩
  · have hfound : Nat.log2 (units / 1) - 52 = shift := by
      rw [Nat.div_one, hshift, Nat.add_sub_cancel]
    rw [roundUnits_eq negative hfound, Nat.one_mul]
  · rw [Nat.le_div_iff_mul_le hpower, hfractions, ← Nat.pow_add, Nat.add_comm, ← hshift]
    exact hlow
  · rw [Nat.div_lt_iff_lt_mul hpower]
    calc
      units < 2 ^ (Nat.log2 units + 1) := hhigh
      _ = 2 * fractions * 2 ^ shift := by
        rw [hshift, hfractions]
        ring

theorem roundUnits_of_small {units : Nat} (negative : Bool) (h : units < fractions) :
    roundUnits negative units 1 = ofRank negative units := by
  have hlog : Nat.log2 (units / 1) - 52 = 0 := by
    rw [Nat.div_one]
    by_cases hzero : units = 0
    · rw [hzero]
      rfl
    · have hbelow : Nat.log2 units < 52 := (Nat.log2_lt hzero).mpr h
      omega
  have hsame : divideNearestEven units (1 * 2 ^ 0) = units := by
    have hone := divideNearestEven_of_multiple units Nat.one_pos
    rw [Nat.mul_one] at hone
    exact hone
  rw [roundUnits_eq negative hlog, hsame, Nat.zero_mul, Nat.zero_add]

/-- Every magnitude is its own rounding. -/
theorem roundUnits_magnitude (negative : Bool) (rank : Nat) :
    roundUnits negative (magnitude rank) 1 = ofRank negative rank := by
  by_cases hsmall : rank < fractions
  · rw [magnitude_of_lt hsmall, roundUnits_of_small negative hsmall]
  obtain ⟨shift, significand, rfl, hlow, hhigh⟩ := exists_significand (Nat.not_lt.mp hsmall)
  have hpower : 0 < 2 ^ shift := Nat.two_pow_pos shift
  rw [magnitude_of_significand hlow (Nat.le_of_lt hhigh)]
  have hlarge : fractions ≤ significand * 2 ^ shift :=
    hlow.trans (Nat.le_mul_of_pos_right significand hpower)
  have hlog : Nat.log2 (significand * 2 ^ shift) = shift + 52 := by
    have hfractions : fractions = 2 ^ 52 := rfl
    rw [Nat.log2_eq_iff (Nat.ne_of_gt (Nat.lt_of_lt_of_le (by decide) hlarge))]
    constructor
    · calc
        2 ^ (shift + 52) = fractions * 2 ^ shift := by rw [hfractions, ← Nat.pow_add, Nat.add_comm]
        _ ≤ significand * 2 ^ shift := Nat.mul_le_mul_right _ hlow
    · calc
        significand * 2 ^ shift < 2 * fractions * 2 ^ shift :=
          Nat.mul_lt_mul_of_pos_right hhigh hpower
        _ = 2 ^ (shift + 52 + 1) := by
          rw [hfractions]
          ring
  obtain ⟨found, _, hround, rfl, hfound, -, -⟩ := roundUnits_of_large negative hlarge
  rw [hlog, Nat.add_sub_cancel] at hfound
  subst hfound
  rw [hround, divideNearestEven_of_multiple significand hpower]

theorem magnitude_injective {other : Nat}
    (hrank : rank < 0x7FF0000000000000) (h : magnitude rank = magnitude other) :
    rank = other := by
  have hround := roundUnits_magnitude false rank
  rw [h, roundUnits_magnitude false other] at hround
  unfold ofRank at hround
  rw [dif_pos hrank] at hround
  split at hround
  next =>
    cases hround
    rfl
  next => cases hround

/-! ### Sizes of magnitudes -/

theorem magnitude_lt
    (hrank : rank < 0x7FF0000000000000) {exponent : Nat} (h : 1024 = exponent) :
    magnitude rank < 2 ^ exponent * unitsPerOne := by
  obtain ⟨bits, hbits⟩ : ∃ bits, 1074 = bits := ⟨_, rfl⟩
  rw [unitsPerOne_eq hbits, ← Nat.pow_add]
  have hfractions : fractions = 2 ^ 52 := rfl
  by_cases hsmall : rank < fractions
  · rw [magnitude_of_lt hsmall]
    apply hsmall.trans_le
    rw [hfractions]
    exact Nat.pow_le_pow_right Nat.two_pos (by omega)
  · obtain ⟨shift, significand, rfl, hlow, hhigh⟩ := exists_significand (Nat.not_lt.mp hsmall)
    have hshift : shift ≤ 2045 := by
      have hcount : fractions = 0x10000000000000 := rfl
      rw [hcount] at hrank hlow
      omega
    rw [magnitude_of_significand hlow (Nat.le_of_lt hhigh)]
    calc
      significand * 2 ^ shift < 2 * fractions * 2 ^ shift :=
        Nat.mul_lt_mul_of_pos_right hhigh (Nat.two_pow_pos shift)
      _ = 2 ^ (53 + shift) := by
        rw [hfractions]
        ring
      _ ≤ 2 ^ (exponent + bits) := Nat.pow_le_pow_right Nat.two_pos (by omega)

/-- Numbers with a fraction are small, since the significands of larger ones end
before the point. -/
theorem magnitude_lt_of_not_whole (h : magnitude rank % unitsPerOne ≠ 0) :
    magnitude rank < 2 ^ 53 * unitsPerOne := by
  obtain ⟨exponent, hexponent⟩ : ∃ exponent, 1074 = exponent := ⟨_, rfl⟩
  have hunit := unitsPerOne_eq hexponent
  have hfractions : fractions = 2 ^ 52 := rfl
  have hpositive : 0 < unitsPerOne := Nat.lt_of_lt_of_le (by decide) fractions_le_unitsPerOne
  by_cases hsmall : rank < fractions
  · rw [magnitude_of_lt hsmall]
    calc
      rank < fractions := hsmall
      _ ≤ unitsPerOne := fractions_le_unitsPerOne
      _ ≤ 2 ^ 53 * unitsPerOne := Nat.le_mul_of_pos_left _ (by decide)
  · obtain ⟨shift, significand, rfl, hlow, hhigh⟩ := exists_significand (Nat.not_lt.mp hsmall)
    rw [magnitude_of_significand hlow (Nat.le_of_lt hhigh)] at h ⊢
    have hbelow : shift < exponent := by
      by_contra habove
      have hsplit : shift = exponent + (shift - exponent) := by omega
      apply h
      rw [hsplit, Nat.pow_add, ← hunit, Nat.mul_left_comm]
      exact Nat.mul_mod_right _ _
    have hpower : 2 ^ shift ≤ 2 ^ exponent :=
      Nat.pow_le_pow_right Nat.two_pos (Nat.le_of_lt hbelow)
    calc
      significand * 2 ^ shift < 2 * fractions * 2 ^ shift :=
        Nat.mul_lt_mul_of_pos_right hhigh (Nat.two_pow_pos shift)
      _ ≤ 2 * fractions * 2 ^ exponent := Nat.mul_le_mul_left _ hpower
      _ = 2 ^ 53 * unitsPerOne := by
        rw [hunit, hfractions]
        ring

/-- A whole number is rounded to a whole number, because its significand either
reaches below the point or is exact. -/
theorem magnitude_of_roundRatio_whole
    (negative : Bool) {count : Nat} (hcount : 0 < count)
    (h : roundRatio negative count 1 = ofRank negative rank)
    (hrank : rank < 0x7FF0000000000000) :
    magnitude rank % unitsPerOne = 0 := by
  obtain ⟨exponent, hexponent⟩ : ∃ exponent, 1074 = exponent := ⟨_, rfl⟩
  have hunit := unitsPerOne_eq hexponent
  have hlarge : fractions ≤ count * unitsPerOne :=
    fractions_le_unitsPerOne.trans (Nat.le_mul_of_pos_left _ hcount)
  obtain ⟨shift, significand, hround, hsignificand, -, hlow, hhigh⟩ :=
    roundUnits_of_large negative hlarge
  have hbounds := divideNearestEven_bounds (count * unitsPerOne) (2 ^ shift)
  rw [← hsignificand] at hbounds
  have hsame : shift * fractions + significand = rank := by
    have hboth : ofRank negative (shift * fractions + significand) = ofRank negative rank :=
      hround.symm.trans h
    unfold ofRank at hboth
    rw [dif_pos hrank] at hboth
    split at hboth
    next =>
      cases hboth
      rfl
    next => cases hboth
  rw [← hsame, magnitude_of_significand (by omega) (by omega)]
  rcases Nat.le_total exponent shift with habove | hbelow
  · have hsplit : shift = exponent + (shift - exponent) := by omega
    rw [hsplit, Nat.pow_add, ← hunit, Nat.mul_left_comm]
    exact Nat.mul_mod_right _ _
  · have hpower : 0 < 2 ^ shift := Nat.two_pow_pos shift
    have hexact : count * unitsPerOne = count * 2 ^ (exponent - shift) * 2 ^ shift := by
      rw [hunit, Nat.mul_assoc, ← Nat.pow_add, Nat.sub_add_cancel hbelow]
    rw [hsignificand, hexact, divideNearestEven_of_multiple _ hpower, ← hexact]
    exact Nat.mul_mod_left _ _

end CallContract.Binary64
