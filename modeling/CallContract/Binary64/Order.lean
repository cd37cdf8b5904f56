import CallContract.Binary64.Rounding

/-!
# Floats and integers in one order

Two floats are compared by their places.  An integer of 64 bits is compared
with a float without being rounded to one: a float past the integers decides by
itself, else the whole part of the float is compared as an integer, and only
where that is no difference does the fraction count.
-/

namespace CallContract

/-- The whole part of a number, cut off at the ends of the integers. -/
def wholeInteger (number : Int) : Int64 :=
  if number < Int64.minValue.toInt then Int64.minValue
  else if Int64.maxValue.toInt < number then Int64.maxValue
  else Int64.ofInt number

namespace Binary64

/-- The order of two floats; `nan` has no place in it, and both zeros are equal. -/
def compare? (x y : Binary64) : Option Ordering :=
  match x.place?, y.place? with
  | some a, some b => some (a.compare b)
  | _, _ => none

def isNan : Binary64 → Bool
  | .nan => true
  | _ => false

/-- The rank with the bits cleared that stand for a fraction.  Below the exponent
of one all of them do, and from the exponent 1075 on none does. -/
def wholeRank (rank : Nat) : Nat :=
  let exponent := rank / fractions
  if exponent < 1023 then 0 else rank - rank % Nat.pow 2 (1075 - exponent)

theorem wholeRank_le (rank : Nat) : wholeRank rank ≤ rank := by
  simp only [wholeRank]
  split
  next => exact Nat.zero_le rank
  next => exact Nat.sub_le _ _

/-- The number without its fraction. -/
def truncate : Binary64 → Binary64
  | .finite negative rank =>
      .finite negative ⟨wholeRank rank, Nat.lt_of_le_of_lt (wholeRank_le rank) rank.isLt⟩
  | x => x

/-- The whole part of a float as an integer, cut off at the ends of the integers;
`nan` counts as zero. -/
def toInteger : Binary64 → Int64
  | .nan => 0
  | .infinite negative => if negative then Int64.minValue else Int64.maxValue
  | .finite negative rank => wholeInteger (signed negative (magnitude rank / unitsPerOne))

/-- `2 ^ 63`, the first float past the integers. -/
def integerLimit : Binary64 :=
  .finite false ⟨0x43E0000000000000, by decide⟩

/-- The order of an integer and a float. -/
def compareInteger? (integer : Int64) (number : Binary64) : Option Ordering :=
  if number.isNan then none
  else if (number.compare? integerLimit).any Ordering.isGE then some .lt
  else if (number.compare? integerLimit.neg).any Ordering.isLT then some .gt
  else
    let whole := number.truncate
    match Ord.compare integer whole.toInteger with
    | .eq => whole.compare? number
    | unequal => some unequal

end Binary64

end CallContract
