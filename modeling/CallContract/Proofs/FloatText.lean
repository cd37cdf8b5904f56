import CallContract.Proofs.ExactRounding

/-!
# Texts of floating-point numbers denote them

The text of a finite number consists of digits with a point among them, and it
denotes the number: the shortest digits because they were tried, the exact
expansion behind them because rounding is exact, and the digits of a whole
number because they are all written.
-/

namespace CallContract.Binary64

/-! ### Digits -/

theorem readDigits_digitChars (n : Nat) : readDigits (digitChars n) = n :=
  Nat.ofDigitChars_toDigits (by decide) (by decide)

theorem isDigit_of_mem_digitChars {n : Nat} {c : Char} (h : c ∈ digitChars n) :
    c.isDigit = true :=
  Nat.isDigit_of_mem_toDigits (by decide) (by decide) h

theorem digitChars_ne_nil (n : Nat) : digitChars n ≠ [] :=
  List.ne_nil_of_length_pos Nat.length_toDigits_pos

theorem readDigits_append_zero (digits : List Char) :
    readDigits (digits ++ ['0']) = 10 * readDigits digits := by
  unfold readDigits
  rw [List.foldl_append]
  rfl

theorem readDigits_replicate_zero (count : Nat) (digits : List Char) :
    readDigits (List.replicate count '0' ++ digits) = readDigits digits := by
  induction count with
  | zero => rfl
  | succ count ih =>
      rw [List.replicate_succ, List.cons_append]
      exact ih

theorem decimalLength_le_iff {n size : Nat} (h : 0 < size) :
    decimalLength n ≤ size ↔ n < 10 ^ size :=
  Nat.length_toDigits_le_iff (by decide) h

theorem decimalLength_ten_mul {n : Nat} (h : 0 < n) :
    decimalLength (10 * n) = decimalLength n + 1 := by
  have hlarge : 10 ≤ 10 * n := Nat.le_mul_of_pos_right 10 h
  unfold decimalLength
  rw [Nat.toDigits_of_base_le (by decide) hlarge, List.length_append,
    Nat.mul_div_cancel_left n (by decide)]
  rfl

/-! ### Equal decimals -/

variable {rank : Nat} {negative : Bool} {decimal : Decimal}

theorem ofRank_of_lt (negative : Bool) (h : rank < 0x7FF0000000000000) :
    ofRank negative rank = .finite negative ⟨rank, h⟩ :=
  dif_pos h

theorem ofDecimal_of_zero (negative : Bool) (exponent : Int) :
    ofDecimal negative ⟨0, exponent⟩ = zero negative :=
  if_pos rfl

theorem roundRatio_ten_mul (negative : Bool) (digits : Nat) (exponent : Int) :
    roundRatio negative (10 * digits * Nat.pow 10 exponent.toNat)
        (Nat.pow 10 (-exponent).toNat) =
      roundRatio negative (digits * Nat.pow 10 (exponent + 1).toNat)
        (Nat.pow 10 (-(exponent + 1)).toNat) := by
  simp only [Nat.pow_eq]
  rcases lt_or_ge exponent 0 with hnegative | hnatural
  · have hnone : exponent.toNat = 0 := by omega
    have hnext : (exponent + 1).toNat = 0 := by omega
    have hplaces : (-exponent).toNat = (-(exponent + 1)).toNat + 1 := by omega
    have hnumerator : 10 * digits * 10 ^ 0 * unitsPerOne =
        digits * 10 ^ 0 * unitsPerOne * 10 := by ring
    rw [hnone, hnext, hplaces]
    unfold roundRatio
    rw [hnumerator, Nat.pow_succ, roundUnits_scale negative _ _ (by decide)]
  · have hplaces : (-exponent).toNat = 0 := by omega
    have hnext : (-(exponent + 1)).toNat = 0 := by omega
    have hzeros : (exponent + 1).toNat = exponent.toNat + 1 := by omega
    have hnumerator : 10 * digits * 10 ^ exponent.toNat =
        digits * 10 ^ (exponent.toNat + 1) := by ring
    rw [hplaces, hnext, hzeros, hnumerator]

/-- A zero at the end of the digits may be moved into the exponent. -/
theorem ofDecimal_ten_mul (negative : Bool) (digits : Nat) (exponent : Int) :
    ofDecimal negative ⟨10 * digits, exponent⟩ =
      ofDecimal negative ⟨digits, exponent + 1⟩ := by
  by_cases hzero : digits = 0
  · rw [hzero, Nat.mul_zero, ofDecimal_of_zero, ofDecimal_of_zero]
  have hlength := decimalLength_ten_mul (Nat.pos_of_ne_zero hzero)
  have hsize : (decimalLength (10 * digits) : Int) + exponent =
      decimalLength digits + (exponent + 1) := by
    rw [hlength]
    omega
  have hdigits : 10 * digits ≠ 0 := by omega
  simp only [ofDecimal, if_neg hdigits, if_neg hzero, hsize, roundRatio_ten_mul]

theorem ofDecimal_dropTrailingZeros (negative : Bool) (limit : Nat) (decimal : Decimal) :
    ofDecimal negative (dropTrailingZeros limit decimal) = ofDecimal negative decimal := by
  induction limit generalizing decimal with
  | zero => rfl
  | succ limit ih =>
      obtain ⟨digits, exponent⟩ := decimal
      rw [dropTrailingZeros]
      split
      next hzero =>
        have hdigits : digits = 10 * (digits / 10) :=
          (Nat.mul_div_cancel' (Nat.dvd_of_mod_eq_zero hzero)).symm
        rw [ih, ← ofDecimal_ten_mul, ← hdigits]
      next => rfl

/-- The sign of a number does not depend on its digits. -/
theorem ofDecimal_signed
    {hrank : rank < 0x7FF0000000000000}
    (h : ofDecimal false decimal = .finite false ⟨rank, hrank⟩) (negative : Bool) :
    ofDecimal negative decimal = .finite negative ⟨rank, hrank⟩ := by
  have hround : ∀ numerator denominator,
      roundRatio false numerator denominator = .finite false ⟨rank, hrank⟩ →
        roundRatio negative numerator denominator = .finite negative ⟨rank, hrank⟩ := by
    intro numerator denominator hround
    simp only [roundRatio, roundUnits, ofRank] at hround ⊢
    split at hround
    next hbound =>
      cases hround
      rw [dif_pos hbound]
    next => cases hround
  unfold ofDecimal at h ⊢
  split at h
  next hzero =>
    cases h
    rw [if_pos hzero]
    rfl
  next hdigits =>
    rw [if_neg hdigits]
    split at h
    next => cases h
    next hsmall =>
      rw [if_neg hsmall]
      split at h
      next htiny =>
        cases h
        rw [if_pos htiny]
        rfl
      next htiny =>
        rw [if_neg htiny]
        exact hround _ _ h

/-- A decimal without places behind the point denotes a whole number. -/
theorem magnitude_of_ofDecimal_whole
    {hrank : rank < 0x7FF0000000000000} (hexponent : 0 ≤ decimal.exponent)
    (h : ofDecimal negative decimal = .finite negative ⟨rank, hrank⟩) :
    magnitude rank % unitsPerOne = 0 := by
  have hzero : zero negative = .finite negative ⟨rank, hrank⟩ →
      magnitude rank % unitsPerOne = 0 := by
    intro hsame
    have hrankZero : (0 : Fin 0x7FF0000000000000) = ⟨rank, hrank⟩ :=
      (Binary64.finite.inj hsame).2
    have hvalue : 0 = rank := congrArg Fin.val hrankZero
    rw [← hvalue, magnitude_of_lt (by decide), Nat.zero_mod]
  unfold ofDecimal at h
  split at h
  next => exact hzero h
  next hdigits =>
    split at h
    next => cases h
    next =>
      split at h
      next => exact hzero h
      next =>
        have hplaces : (-decimal.exponent).toNat = 0 := by omega
        rw [hplaces] at h
        have hcount : 0 < decimal.digits * Nat.pow 10 decimal.exponent.toNat :=
          Nat.mul_pos (Nat.pos_of_ne_zero hdigits) (Nat.pow_pos (by decide))
        apply magnitude_of_roundRatio_whole negative hcount _ hrank
        rw [ofRank_of_lt negative hrank]
        exact h

/-! ### The shortest digits -/

theorem readsBack_of_neighbourReadingBack?
    {rule : HalfwayRule} {units count : Nat}
    (h : neighbourReadingBack? rule units count = some decimal) :
    readsBack units decimal = true := by
  simp only [neighbourReadingBack?] at h
  split at h
  next hlow hhigh =>
    rw [← Option.some.inj h]
    split
    next => exact hhigh
    next => exact hlow
  next hlow _ =>
    rw [← Option.some.inj h]
    exact hlow
  next _ hhigh =>
    rw [← Option.some.inj h]
    exact hhigh
  next => cases h

theorem ofDecimal_of_readsBack
    (hrank : rank < 0x7FF0000000000000) (h : readsBack (magnitude rank) decimal = true)
    (negative : Bool) : ofDecimal negative decimal = .finite negative ⟨rank, hrank⟩ := by
  apply ofDecimal_signed
  unfold readsBack at h
  split at h
  next found hfound =>
    rw [hfound]
    obtain ⟨other, hother⟩ := found
    obtain rfl := magnitude_injective hother (eq_of_beq h)
    rfl
  next => cases h

theorem ten_pow_le_five_pow {size exponent : Nat} (h : 743 = size) (hexponent : 1074 = exponent) :
    10 ^ size ≤ 5 ^ exponent := by
  -- sixteen twos are less than seven fives
  have htwos : ∀ times : Nat, 2 ^ (16 * times) ≤ 5 ^ (7 * times) := by
    intro times
    rw [Nat.pow_mul, Nat.pow_mul]
    exact Nat.pow_le_pow_left (by decide) times
  obtain ⟨times, htimes⟩ : ∃ times, 47 = times := ⟨_, rfl⟩
  calc
    10 ^ size = 2 ^ size * 5 ^ size := Nat.mul_pow 2 5 size
    _ ≤ 2 ^ (16 * times) * 5 ^ size :=
      Nat.mul_le_mul_right _ (Nat.pow_le_pow_right Nat.two_pos (by omega))
    _ ≤ 5 ^ (7 * times) * 5 ^ size := Nat.mul_le_mul_right _ (htwos times)
    _ = 5 ^ (7 * times + size) := (Nat.pow_add 5 _ _).symm
    _ ≤ 5 ^ exponent := Nat.pow_le_pow_right (by decide) (by omega)

theorem exactDecimal_eq (units : Nat) {exponent : Nat} (h : 1074 = exponent) :
    exactDecimal units = ⟨units * 5 ^ exponent, -exponent⟩ := by
  have hplaces : (-1074 : Int) = -(exponent : Int) := by omega
  delta exactDecimal
  rw [h, hplaces, Nat.pow_eq]

/-- The exact expansion of a number with a fraction is neither too large nor too
small to be read. -/
theorem ofDecimal_exactDecimal
    (hrank : rank < 0x7FF0000000000000) (hpositive : 0 < magnitude rank)
    (hsmall : magnitude rank < 2 ^ 53 * unitsPerOne) (negative : Bool) :
    ofDecimal negative (exactDecimal (magnitude rank)) = .finite negative ⟨rank, hrank⟩ := by
  obtain ⟨exponent, hexponent⟩ : ∃ exponent, 1074 = exponent := ⟨_, rfl⟩
  obtain ⟨size, hsize⟩ : ∃ size, 743 = size := ⟨_, rfl⟩
  have hunit := unitsPerOne_eq hexponent
  have hfive : 0 < 5 ^ exponent := Nat.pow_pos (by decide)
  have hlower : ¬ decimalLength (magnitude rank * 5 ^ exponent) ≤ size := by
    rw [decimalLength_le_iff (by omega), Nat.not_lt]
    exact (ten_pow_le_five_pow hsize hexponent).trans (Nat.le_mul_of_pos_left _ hpositive)
  have hupper : decimalLength (magnitude rank * 5 ^ exponent) ≤ 16 + exponent := by
    rw [decimalLength_le_iff (by omega)]
    calc
      magnitude rank * 5 ^ exponent < 2 ^ 53 * unitsPerOne * 5 ^ exponent :=
        Nat.mul_lt_mul_of_pos_right hsmall hfive
      _ = 2 ^ 53 * 10 ^ exponent := by
        rw [hunit, Nat.mul_assoc, ← Nat.mul_pow]
      _ ≤ 10 ^ 16 * 10 ^ exponent := Nat.mul_le_mul_right _ (by decide)
      _ = 10 ^ (16 + exponent) := (Nat.pow_add 10 16 exponent).symm
  have hdigits : magnitude rank * 5 ^ exponent ≠ 0 :=
    Nat.ne_of_gt (Nat.mul_pos hpositive hfive)
  have hnotLarge : ¬ (310 : Int) <
      decimalLength (magnitude rank * 5 ^ exponent) + -(exponent : Int) := by omega
  have hnotTiny : ¬ (decimalLength (magnitude rank * 5 ^ exponent) : Int) +
      -(exponent : Int) < -330 := by omega
  have hwhole : (-(exponent : Int)).toNat = 0 := by omega
  have hplaces : (-(-(exponent : Int))).toNat = exponent := by omega
  rw [exactDecimal_eq _ hexponent]
  simp only [ofDecimal, if_neg hdigits, if_neg hnotLarge, if_neg hnotTiny, hwhole, hplaces,
    Nat.pow_eq]
  have hnumerator : magnitude rank * 5 ^ exponent * 10 ^ 0 * unitsPerOne =
      magnitude rank * 10 ^ exponent := by
    rw [hunit, Nat.pow_zero, Nat.mul_one, Nat.mul_assoc, ← Nat.mul_pow]
  have hscale : 0 < 10 ^ exponent := Nat.pow_pos (by decide)
  have hround := roundUnits_scale negative (magnitude rank) 1 hscale
  rw [Nat.one_mul, roundUnits_magnitude, ofRank_of_lt negative hrank] at hround
  unfold roundRatio
  rw [hnumerator, hround]

theorem ofDecimal_shortestDecimal
    (rule : HalfwayRule) (hrank : rank < 0x7FF0000000000000)
    (hfraction : magnitude rank % unitsPerOne ≠ 0) (negative : Bool) :
    ofDecimal negative (shortestDecimal rule (magnitude rank)) =
      .finite negative ⟨rank, hrank⟩ := by
  unfold shortestDecimal
  split
  next decimal hfound =>
    obtain ⟨count, -, hneighbour⟩ := List.exists_of_findSome?_eq_some hfound
    rw [ofDecimal_dropTrailingZeros]
    exact ofDecimal_of_readsBack hrank (readsBack_of_neighbourReadingBack? hneighbour) negative
  next =>
    have hpositive : 0 < magnitude rank := by
      apply Nat.pos_of_ne_zero
      intro hzero
      rw [hzero, Nat.zero_mod] at hfraction
      exact hfraction rfl
    exact ofDecimal_exactDecimal hrank hpositive (magnitude_lt_of_not_whole hfraction) negative

/-! ### Layout -/

/-- The digits of a number, with a point among them. -/
def WritesDecimal (chars : List Char) (negative : Bool) (number : Binary64) : Prop :=
  ∃ whole fraction, chars = whole ++ '.' :: fraction ∧
    whole ≠ [] ∧ fraction ≠ [] ∧ (∀ c ∈ whole ++ fraction, c.isDigit = true) ∧
      ofDecimal negative ⟨readDigits (whole ++ fraction), -fraction.length⟩ = number

theorem writesDecimal_positional
    (hexponent : decimal.exponent < 0) {number : Binary64}
    (h : ofDecimal negative decimal = number) (wholeFraction : Bool) :
    WritesDecimal (positional wholeFraction decimal) negative number := by
  obtain ⟨digits, exponent⟩ := decimal
  obtain ⟨places, hplaces⟩ : ∃ places : Nat, exponent = -places := ⟨(-exponent).toNat, by
    have hnegative : exponent < 0 := hexponent
    omega⟩
  subst hplaces
  have hpositive : 0 < places := by
    have hnegative : -(places : Int) < 0 := hexponent
    omega
  let padded := List.replicate (places + 1 - (digitChars digits).length) '0' ++ digitChars digits
  have hlength : places + 1 ≤ padded.length := by
    rw [List.length_append, List.length_replicate]
    omega
  have hcut : (padded.drop (padded.length - places)).length = places := by
    rw [List.length_drop]
    omega
  have hread : readDigits padded = digits := by
    rw [readDigits_replicate_zero, readDigits_digitChars]
  have htext : positional wholeFraction ⟨digits, -places⟩ =
      padded.take (padded.length - places) ++ '.' :: padded.drop (padded.length - places) := by
    have hback : (-(-(places : Int))).toNat = places := by omega
    have hbehind : ¬ (0 : Int) ≤ -places := by omega
    simp only [positional, if_neg hbehind, hback]
    rfl
  refine ⟨padded.take (padded.length - places), padded.drop (padded.length - places), htext,
    ?_, ?_, ?_, ?_⟩
  · apply List.ne_nil_of_length_pos
    rw [List.length_take]
    omega
  · apply List.ne_nil_of_length_pos
    rw [hcut]
    exact hpositive
  · intro c hc
    rw [List.take_append_drop] at hc
    rcases List.mem_append.mp hc with hzero | hdigit
    · rw [List.eq_of_mem_replicate hzero]
      rfl
    · exact isDigit_of_mem_digitChars hdigit
  · rw [List.take_append_drop, hread, hcut]
    exact h

theorem ofDecimal_whole
    (hrank : rank < 0x7FF0000000000000) (hwhole : magnitude rank % unitsPerOne = 0)
    (negative : Bool) :
    ofDecimal negative ⟨magnitude rank / unitsPerOne, 0⟩ = .finite negative ⟨rank, hrank⟩ := by
  have hunits : magnitude rank / unitsPerOne * unitsPerOne = magnitude rank :=
    Nat.div_mul_cancel (Nat.dvd_of_mod_eq_zero hwhole)
  by_cases hzero : magnitude rank / unitsPerOne = 0
  · rw [hzero, Nat.zero_mul] at hunits
    have hrankZero : rank = 0 := by
      apply magnitude_injective hrank
      rw [← hunits, magnitude_of_lt (by decide)]
    subst hrankZero
    rw [hzero, ofDecimal_of_zero]
    rfl
  obtain ⟨bits, hbits⟩ : ∃ bits, 1024 = bits := ⟨_, rfl⟩
  have hpositive : 0 < unitsPerOne := Nat.lt_of_lt_of_le (by decide) fractions_le_unitsPerOne
  have hpower : ∀ times : Nat, 2 ^ (93 * times + 1) ≤ 10 ^ (28 * times + 1) := by
    intro times
    rw [Nat.pow_succ, Nat.pow_succ, Nat.pow_mul, Nat.pow_mul]
    exact Nat.mul_le_mul (Nat.pow_le_pow_left (by decide) times) (by decide)
  obtain ⟨times, htimes⟩ : ∃ times, 11 = times := ⟨_, rfl⟩
  have hsplit : bits = 93 * times + 1 := by omega
  have hsize : decimalLength (magnitude rank / unitsPerOne) ≤ 28 * times + 1 := by
    rw [decimalLength_le_iff (by omega)]
    calc
      magnitude rank / unitsPerOne < 2 ^ bits := by
        rw [Nat.div_lt_iff_lt_mul hpositive]
        exact magnitude_lt hrank hbits
      _ = 2 ^ (93 * times + 1) := by rw [hsplit]
      _ ≤ 10 ^ (28 * times + 1) := hpower times
  have hnotLarge : ¬ (310 : Int) <
      decimalLength (magnitude rank / unitsPerOne) + (0 : Int) := by omega
  have hnotTiny : ¬ (decimalLength (magnitude rank / unitsPerOne) : Int) + (0 : Int) < -330 := by
    omega
  have hround := roundUnits_magnitude negative rank
  rw [ofRank_of_lt negative hrank] at hround
  simp only [ofDecimal, if_neg hzero, if_neg hnotLarge, if_neg hnotTiny]
  have hnumerator : magnitude rank / unitsPerOne * Nat.pow 10 (0 : Int).toNat * unitsPerOne =
      magnitude rank := by
    change magnitude rank / unitsPerOne * 1 * unitsPerOne = magnitude rank
    rw [Nat.mul_one, hunits]
  unfold roundRatio
  rw [hnumerator]
  exact hround

/-- The text of a finite number is its sign and a decimal that denotes it. -/
theorem valueText_writesDecimal (negative : Bool) (rank : Fin 0x7FF0000000000000) :
    ∃ chars, valueText (.finite negative rank) = signChars negative ++ chars ∧
      WritesDecimal chars negative (.finite negative rank) := by
  obtain ⟨rank, hrank⟩ := rank
  by_cases hwhole : magnitude rank % unitsPerOne = 0
  · refine ⟨digitChars (magnitude rank / unitsPerOne) ++ ['.', '0'], ?_, ?_⟩
    · simp only [valueText, if_pos hwhole, writeWhole, List.append_assoc]
    · refine ⟨digitChars (magnitude rank / unitsPerOne), ['0'], rfl, digitChars_ne_nil _,
        by simp, ?_, ?_⟩
      · intro c hc
        rcases List.mem_append.mp hc with hdigit | hzero
        · exact isDigit_of_mem_digitChars hdigit
        · rw [List.mem_singleton.mp hzero]
          rfl
      · rw [readDigits_append_zero, readDigits_digitChars, ofDecimal_ten_mul]
        exact ofDecimal_whole hrank hwhole negative
  · have hread := ofDecimal_shortestDecimal .larger hrank hwhole negative
    have hexponent : (shortestDecimal .larger (magnitude rank)).exponent < 0 := by
      by_contra hnatural
      exact hwhole (magnitude_of_ofDecimal_whole (Int.not_lt.mp hnatural) hread)
    have hnonzero : magnitude rank ≠ 0 := by
      intro hzero
      rw [hzero, Nat.zero_mod] at hwhole
      exact hwhole rfl
    refine ⟨positional false (shortestDecimal .larger (magnitude rank)), ?_,
      writesDecimal_positional hexponent hread false⟩
    simp only [valueText, if_neg hwhole, Layout.write, Layout.writeMagnitude, if_neg hnonzero,
      Layout.plain]

end CallContract.Binary64
