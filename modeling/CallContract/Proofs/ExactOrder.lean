import CallContract.Proofs.WholePart
import CallContract.Value.Order
import Mathlib.Algebra.Order.Field.Rat
import Mathlib.Algebra.Order.Ring.Cast
import Mathlib.Data.String.Basic
import Mathlib.Order.WithBot

/-!
# Numbers are compared as exact numbers

A float denotes a rational number by its sign, its exponent and its fraction, or
one of the infinities, and an integer denotes itself.  Values are compared by
what they denote, although no integer is ever made a float: the guards, the whole
part and the fraction decide as the exact numbers would.  So the order of values
is one linear order of numbers and one of texts, side by side.
-/

namespace CallContract

/-- The rational numbers between the two infinities. -/
abbrev ExactNumber : Type :=
  WithBot (WithTop ℚ)

def ExactNumber.ofRat (number : ℚ) : ExactNumber :=
  ((number : WithTop ℚ) : WithBot (WithTop ℚ))

theorem ExactNumber.cmp_ofRat (a b : ℚ) : cmp (ofRat a) (ofRat b) = cmp a b :=
  StrictMono.cmp_map_eq (fun _ _ h => WithBot.coe_lt_coe.mpr (WithTop.coe_lt_coe.mpr h)) a b

namespace Binary64

/-! ### What a float denotes -/

/-- The magnitude of the bits below the sign: 52 of them are the fraction, the others
the exponent.  The significand starts with a one before the point, except at the
smallest exponent. -/
def exactMagnitude (bits : Nat) : ℚ :=
  let exponent : Nat := bits / 2 ^ 52
  let fraction : Nat := bits % 2 ^ 52
  if exponent = 0 then fraction * 2 ^ (-1074 : ℤ)
  else (2 ^ 52 + fraction) * 2 ^ ((exponent : ℤ) - 1075)

/-- The number that a float denotes; `nan` denotes none. -/
def number? : Binary64 → Option ExactNumber
  | .nan => none
  | .infinite negative => some (if negative then ⊥ else ⊤)
  | .finite negative rank =>
      some (.ofRat (if negative then -exactMagnitude rank else exactMagnitude rank))

theorem exactMagnitude_eq (rank : Nat) :
    exactMagnitude rank = (magnitude rank : ℚ) / (unitsPerOne : ℚ) := by
  obtain ⟨exponent, hexponent⟩ : ∃ exponent, 1074 = exponent := ⟨_, rfl⟩
  have hunit : (unitsPerOne : ℚ) = 2 ^ exponent := by
    rw [unitsPerOne_eq hexponent, Nat.cast_pow, Nat.cast_ofNat]
  have hfractions : fractions = 2 ^ 52 := rfl
  simp only [exactMagnitude, magnitude, hunit, hfractions]
  by_cases hsmall : rank < 2 ^ 52
  · rw [if_pos (Nat.div_eq_of_lt hsmall), if_pos hsmall, Nat.mod_eq_of_lt hsmall]
    have hpower : (-1074 : ℤ) = -(exponent : ℤ) := by omega
    rw [hpower, zpow_neg, zpow_natCast, div_eq_mul_inv]
  · have hquotient : 0 < rank / 2 ^ 52 :=
      Nat.div_pos (Nat.not_lt.mp hsmall) (Nat.two_pow_pos 52)
    have hpower : ((rank / 2 ^ 52 : Nat) : ℤ) - 1075 =
        ((rank / 2 ^ 52 - 1 : Nat) : ℤ) - (exponent : ℤ) := by omega
    have htwo : (2 : ℚ) ≠ 0 := two_ne_zero
    have hshift : Nat.pow 2 (rank / 2 ^ 52 - 1) = 2 ^ (rank / 2 ^ 52 - 1) := rfl
    rw [if_neg (Nat.ne_of_gt hquotient), if_neg hsmall, hpower, zpow_sub₀ htwo, zpow_natCast,
      zpow_natCast, hshift]
    simp only [Nat.cast_mul, Nat.cast_add, Nat.cast_pow, Nat.cast_ofNat, mul_div_assoc]

/-- The number at a place. -/
def Place.number : Place → ExactNumber
  | .below => ⊥
  | .units count => .ofRat (count / unitsPerOne)
  | .above => ⊤

theorem unitsPerOne_cast_pos : (0 : ℚ) < unitsPerOne :=
  Nat.cast_pos.mpr unitsPerOne_pos

theorem Place.number_integerPlace (n : Int) : (integerPlace n).number = .ofRat n := by
  simp only [integerPlace, Place.number]
  push_cast
  rw [mul_div_cancel_right₀ _ (ne_of_gt unitsPerOne_cast_pos)]

theorem number?_eq (x : Binary64) : x.number? = x.place?.map Place.number := by
  cases x with
  | nan => rfl
  | infinite negative => cases negative <;> rfl
  | finite negative rank =>
      simp only [number?, place?, Option.map_some, Place.number, exactMagnitude_eq]
      cases negative with
      | false => simp only [signed, Bool.false_eq_true, if_false, Int.cast_natCast]
      | true => simp only [signed, if_true, Int.cast_neg, Int.cast_natCast, neg_div]

/-- Places are compared as the numbers there. -/
theorem Place.compare_eq_cmp (a b : Place) : a.compare b = cmp a.number b.number := by
  have hbelow : ∀ number, (⊥ : ExactNumber) < .ofRat number := fun _ => WithBot.bot_lt_coe _
  have habove : ∀ number, .ofRat number < (⊤ : ExactNumber) := fun _ =>
    WithBot.coe_lt_coe.mpr (WithTop.coe_lt_top _)
  have hends : (⊥ : ExactNumber) < ⊤ := bot_lt_top
  cases a with
  | below =>
      cases b with
      | below => exact (cmp_self_eq_eq _).symm
      | units count => exact ((cmp_eq_lt_iff _ _).mpr (hbelow _)).symm
      | above => exact ((cmp_eq_lt_iff _ _).mpr hends).symm
  | units count =>
      cases b with
      | below => exact ((cmp_eq_gt_iff _ _).mpr (hbelow _)).symm
      | units other =>
          rw [Place.compare, Place.number, Place.number, ExactNumber.cmp_ofRat, ← cmp_eq_compare]
          have hmono : StrictMono fun count : Int => (count : ℚ) / (unitsPerOne : ℚ) :=
            fun _ _ h => div_lt_div_of_pos_right (Int.cast_lt.mpr h) unitsPerOne_cast_pos
          exact (hmono.cmp_map_eq count other).symm
      | above => exact ((cmp_eq_lt_iff _ _).mpr (habove _)).symm
  | above =>
      cases b with
      | below => exact ((cmp_eq_gt_iff _ _).mpr hends).symm
      | units count => exact ((cmp_eq_gt_iff _ _).mpr (habove _)).symm
      | above => exact (cmp_self_eq_eq _).symm

/-- Floats are compared as the numbers that they denote. -/
theorem compare?_eq (x y : Binary64) :
    x.compare? y = x.number?.bind fun number => y.number?.map (cmp number) := by
  rw [number?_eq, number?_eq]
  unfold compare?
  cases x.place? with
  | none => rfl
  | some place =>
      cases y.place? with
      | none => rfl
      | some other => exact congrArg some (place.compare_eq_cmp other)

/-! ### An integer and a float -/

/-- The order of integers of 64 bits is that of the integers they are. -/
theorem compare_toInt (a b : Int64) : Ord.compare a b = Ord.compare a.toInt b.toInt := by
  cases h : Ord.compare a.toInt b.toInt with
  | lt => exact Std.compare_eq_lt.mpr (Int64.lt_iff_toInt_lt.mpr (Std.compare_eq_lt.mp h))
  | eq => exact Std.compare_eq_iff_eq.mpr (Int64.toInt_inj.mp (Std.compare_eq_iff_eq.mp h))
  | gt => exact Std.compare_eq_gt.mpr (Int64.lt_iff_toInt_lt.mpr (Std.compare_eq_gt.mp h))

theorem place?_integerLimit : integerLimit.place? = some (integerPlace (2 ^ 63)) := by
  decide +kernel

theorem place?_neg_integerLimit : integerLimit.neg.place? = some (integerPlace (-2 ^ 63)) := by
  decide +kernel

/-- Unless integers differ, the fraction makes the difference to one of them. -/
theorem compare_whole
    (integer : Int) (negative : Bool) (units : Nat) :
    (match Ord.compare integer (signed negative (units / unitsPerOne)) with
      | .eq => Ord.compare (signed negative (units / unitsPerOne) * unitsPerOne)
          (signed negative units)
      | unequal => unequal) =
      Ord.compare (integer * unitsPerOne) (signed negative units) := by
  obtain ⟨hlow, hhigh⟩ := signed_whole_bounds negative units
  generalize signed negative (units / unitsPerOne) = whole at hlow hhigh ⊢
  generalize signed negative units = exact at hlow hhigh ⊢
  have hunit : (0 : Int) ≤ unitsPerOne := Int.natCast_nonneg _
  cases h : Ord.compare integer whole with
  | lt =>
      have hnext : integer + 1 ≤ whole := Std.compare_eq_lt.mp h
      have hscaled := Int.mul_le_mul_of_nonneg_right hnext hunit
      rw [Int.add_mul, Int.one_mul] at hscaled
      exact (Std.compare_eq_lt.mpr (by omega)).symm
  | eq => rw [Std.compare_eq_iff_eq.mp h]
  | gt =>
      have hnext : whole + 1 ≤ integer := Std.compare_eq_gt.mp h
      have hscaled := Int.mul_le_mul_of_nonneg_right hnext hunit
      rw [Int.add_mul, Int.one_mul] at hscaled
      exact (Std.compare_eq_gt.mpr (by omega)).symm

/-- An integer is compared with the place of a float as with any other. -/
theorem compareInteger?_eq_place (integer : Int64) (number : Binary64) :
    compareInteger? integer number =
      number.place?.map (integerPlace integer.toInt).compare := by
  cases number with
  | nan => rfl
  | infinite negative => cases negative <;> rfl
  | finite negative rank =>
      have hunit : (0 : Int) < unitsPerOne := Int.natCast_pos.mpr unitsPerOne_pos
      have hplace : (finite negative rank).place? =
          some (.units (signed negative (magnitude rank))) := rfl
      simp only [compareInteger?, isNan, Bool.false_eq_true, if_false, compare?, hplace,
        place?_integerLimit, place?_neg_integerLimit, place?_truncate, Option.any_some,
        Option.map_some, integerPlace, Place.compare]
      split
      next hpast =>
        -- every integer is below the limit
        have hlimit := Std.isGE_compare.mp hpast
        have hbelow := Int.mul_lt_mul_of_pos_right integer.toInt_lt hunit
        rw [Std.compare_eq_lt.mpr (hbelow.trans_le hlimit)]
      next hwithin =>
        split
        next hpast =>
          have hlimit := Std.compare_eq_lt.mp (Ordering.isLT_iff_eq_lt.mp hpast)
          have habove := Int.mul_le_mul_of_nonneg_right integer.le_toInt hunit.le
          rw [Std.compare_eq_gt.mpr (hlimit.trans_le habove)]
        next hwithinToo =>
          have hhigh := Int.not_le.mp (mt Std.isGE_compare.mpr hwithin)
          have hlow := Int.not_lt.mp fun h =>
            hwithinToo (Ordering.isLT_iff_eq_lt.mpr (Std.compare_eq_lt.mpr h))
          obtain ⟨limit, hlimit⟩ : ∃ limit : Nat, (limit : Int) = 2 ^ 63 := ⟨2 ^ 63, rfl⟩
          rw [← hlimit] at hlow hhigh
          obtain ⟨hlowWhole, hhighWhole⟩ := signed_whole_range hlow hhigh
          rw [hlimit] at hlowWhole hhighWhole
          rw [compare_toInt, toInt_toInteger_truncate hlowWhole hhighWhole,
            ← compare_whole integer.toInt]
          cases Ord.compare integer.toInt (signed negative (magnitude rank / unitsPerOne)) <;> rfl

theorem compareInteger?_eq (integer : Int64) (number : Binary64) :
    compareInteger? integer number = number.number?.map (cmp (.ofRat integer.toInt)) := by
  rw [compareInteger?_eq_place, number?_eq, Option.map_map]
  congr 1
  funext place
  rw [Place.compare_eq_cmp, Place.number_integerPlace]
  rfl

theorem number?_eq_none_iff {x : Binary64} : x.number? = none ↔ x = .nan := by
  cases x <;> simp [number?]

end Binary64

/-! ### Values -/

/-- Along a chain of a linear order one strict step makes it strict. -/
theorem cmp_of_chain
    {α : Type} [LinearOrder α] {x y z : α}
    (hfirst : cmp x y ≠ .gt) (hsecond : cmp y z ≠ .gt) :
    cmp x z = if cmp x y = .lt ∨ cmp y z = .lt then .lt else .eq := by
  rw [Ne, cmp_eq_gt_iff, not_lt] at hfirst hsecond
  by_cases hstrict : cmp x y = .lt ∨ cmp y z = .lt
  · rw [if_pos hstrict, cmp_eq_lt_iff]
    cases hstrict with
    | inl h => exact ((cmp_eq_lt_iff x y).mp h).trans_le hsecond
    | inr h => exact hfirst.trans_lt ((cmp_eq_lt_iff y z).mp h)
  · rw [if_neg hstrict, cmp_eq_eq_iff]
    rw [not_or, cmp_eq_lt_iff, cmp_eq_lt_iff, not_lt, not_lt] at hstrict
    exact (hfirst.antisymm hstrict.1).trans (hsecond.antisymm hstrict.2)

namespace Value

/-- The number that a value denotes. -/
def number? : Value → Option ExactNumber
  | .int integer => some (.ofRat integer.toInt)
  | .float number => number.number?
  | _ => none

/-- What the comparison of two values comes to: the order of two numbers, or that
of two texts. -/
inductive Compared : Value → Value → Ordering → Prop
  | numbers {a b : Value} {x y : ExactNumber}
      (ha : a.number? = some x) (hb : b.number? = some y) : Compared a b (cmp x y)
  | texts (s t : String) : Compared (.text s) (.text t) (cmp s t)

variable {a b c : Value} {first second : Ordering}

theorem compare?_of_numbers {x y : ExactNumber}
    (ha : a.number? = some x) (hb : b.number? = some y) : a.compare? b = some (cmp x y) := by
  cases a with
  | int m =>
      cases ha
      cases b with
      | int n =>
          cases hb
          rw [compare?, Binary64.compare_toInt, ← cmp_eq_compare, ExactNumber.cmp_ofRat]
          exact congrArg some (Int.cast_strictMono.cmp_map_eq m.toInt n.toInt).symm
      | float y =>
          change y.number? = some _ at hb
          rw [compare?, Binary64.compareInteger?_eq, hb]
          rfl
      | _ => simp [number?] at hb
  | float x =>
      change x.number? = some _ at ha
      cases b with
      | int n =>
          cases hb
          rw [compare?, Binary64.compareInteger?_eq, ha, Option.map_some, Option.map_some, cmp_swap]
      | float y =>
          change y.number? = some _ at hb
          rw [compare?, Binary64.compare?_eq, ha, hb]
          rfl
      | _ => simp [number?] at hb
  | _ => simp [number?] at ha

/-- Two values that are compared are two numbers or two texts. -/
theorem compared_of_compare? (h : a.compare? b = some first) : Compared a b first := by
  have hnumbers : ∀ {x y : ExactNumber}, a.number? = some x → b.number? = some y →
      Compared a b first := by
    intro x y ha hb
    rw [compare?_of_numbers ha hb] at h
    cases h
    exact .numbers ha hb
  cases a with
  | int m =>
      cases b with
      | int n => exact hnumbers rfl rfl
      | float y =>
          rw [compare?, Binary64.compareInteger?_eq] at h
          obtain ⟨number, hnumber, -⟩ := Option.map_eq_some_iff.mp h
          exact hnumbers rfl hnumber
      | _ => simp [compare?] at h
  | float x =>
      cases b with
      | int n =>
          rw [compare?, Binary64.compareInteger?_eq, Option.map_map] at h
          obtain ⟨number, hnumber, -⟩ := Option.map_eq_some_iff.mp h
          exact hnumbers hnumber rfl
      | float y =>
          rw [compare?, Binary64.compare?_eq, Option.bind_eq_some_iff] at h
          obtain ⟨number, hnumber, hother⟩ := h
          obtain ⟨other, hother, -⟩ := Option.map_eq_some_iff.mp hother
          exact hnumbers hnumber hother
      | _ => simp [compare?] at h
  | text s =>
      cases b with
      | text t =>
          rw [compare?, ← cmp_eq_compare] at h
          cases h
          exact .texts s t
      | _ => simp [compare?] at h
  | _ => simp [compare?] at h

theorem compare?_eq_some_iff : a.compare? b = some first ↔ Compared a b first := by
  constructor
  · exact compared_of_compare?
  · intro h
    cases h with
    | numbers ha hb => exact compare?_of_numbers ha hb
    | texts s t => rw [compare?, cmp_eq_compare]

theorem Compared.swap (h : Compared a b first) : Compared b a first.swap := by
  cases h with
  | numbers ha hb =>
      rw [cmp_swap]
      exact .numbers hb ha
  | texts s t =>
      rw [cmp_swap]
      exact .texts t s

theorem compare?_swap (a b : Value) : b.compare? a = (a.compare? b).map Ordering.swap := by
  apply Option.ext
  intro order
  rw [Option.map_eq_some_iff]
  simp only [compare?_eq_some_iff]
  constructor
  · intro h
    exact ⟨order.swap, h.swap, Ordering.swap_swap⟩
  · rintro ⟨other, h, rfl⟩
    exact h.swap

theorem Compared.trans
    (hab : Compared a b first) (hbc : Compared b c second)
    (hfirst : first ≠ .gt) (hsecond : second ≠ .gt) :
    Compared a c (if first = .lt ∨ second = .lt then .lt else .eq) := by
  cases hab with
  | numbers ha hb =>
      cases hbc with
      | numbers hb' hc =>
          rw [hb] at hb'
          cases hb'
          rw [← cmp_of_chain hfirst hsecond]
          exact .numbers ha hc
      | texts s t => simp [number?] at hb
  | texts s t =>
      cases hbc with
      | numbers hb hc => simp [number?] at hb
      | texts s t =>
          rw [← cmp_of_chain hfirst hsecond]
          exact .texts _ _

/-- Numbers are compared as the exact numbers that they denote, an integer and a
float in either position, too, where only `nan` has no order.  The order of values
is the reverse one from the other side, and it is consistent along chains, whatever
kinds of numbers they mix, and among texts. -/
theorem comparison_is_exact_and_consistent :
    (∀ (a b : Value) (x y : ExactNumber), a.number? = some x → b.number? = some y →
      a.compare? b = some (cmp x y)) ∧
    (∀ (integer : Int64) (number : Binary64),
      (Value.int integer).compare? (.float number) =
        number.number?.map (cmp (.ofRat integer.toInt)) ∧
      (Value.float number).compare? (.int integer) =
        number.number?.map (cmp · (.ofRat integer.toInt)) ∧
      (number.number? = none ↔ number = .nan)) ∧
    (∀ a b : Value, b.compare? a = (a.compare? b).map Ordering.swap) ∧
    (∀ (a b c : Value) (first second : Ordering),
      a.compare? b = some first → b.compare? c = some second →
      first ≠ .gt → second ≠ .gt →
        a.compare? c = some (if first = .lt ∨ second = .lt then .lt else .eq)) := by
  refine ⟨fun a b x y => compare?_of_numbers, fun integer number => ⟨?_, ?_, ?_⟩, compare?_swap, ?_⟩
  · exact Binary64.compareInteger?_eq integer number
  · rw [compare?, Binary64.compareInteger?_eq, Option.map_map]
    congr 1
    funext place
    exact cmp_swap _ _
  · exact Binary64.number?_eq_none_iff
  · intro a b c first second hab hbc hfirst hsecond
    rw [compare?_eq_some_iff] at hab hbc ⊢
    exact hab.trans hbc hfirst hsecond

/-- The first integer that is no float, between two floats. -/
theorem comparison_is_exact_and_consistent_between_floats :
    let low : Value := .float (.finite false 0x4340000000000000)
    let middle : Value := .int 9007199254740993
    let high : Value := .float (.infinite false)
    middle.number? = some (.ofRat 9007199254740993) ∧ high.number? = some ⊤ ∧
      middle.compare? high = some (cmp (ExactNumber.ofRat 9007199254740993) ⊤) ∧
      low.compare? middle = some .lt ∧ middle.compare? high = some .lt ∧
      low.compare? high = some .lt := by
  intro low middle high
  have hmiddle : middle.number? = some (.ofRat 9007199254740993) := by
    have hinteger : (9007199254740993 : Int64).toInt = 9007199254740993 := by decide
    simp only [middle, number?, hinteger, Int.cast_ofNat]
  have hhigh : high.number? = some ⊤ := rfl
  have hfirst : low.compare? middle = some .lt := by decide +kernel
  have hsecond : middle.compare? high = some .lt := by decide +kernel
  obtain ⟨hexact, -, -, hchain⟩ := comparison_is_exact_and_consistent
  exact ⟨hmiddle, hhigh, hexact middle high _ _ hmiddle hhigh, hfirst, hsecond,
    hchain low middle high .lt .lt hfirst hsecond (by decide) (by decide)⟩

end Value

end CallContract
