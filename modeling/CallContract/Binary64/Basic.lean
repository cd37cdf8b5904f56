/-!
# Binary floating-point numbers of 64 bits

A finite number is a sign and a rank, the position of its magnitude among the
magnitudes in increasing order.  Every magnitude is a whole multiple of the
smallest positive one, so a finite number has an exact integer value in these
units, and an integer, too, is a whole number of units.  Comparison and
rounding therefore need integers only: a number lies at a point of the scale
of units, or beyond one of its ends.
-/

namespace CallContract

/-- A binary floating-point number with 52 fraction bits and 11 exponent bits.
The numbers that are not a value are one number. -/
inductive Binary64
  | nan
  | infinite (negative : Bool)
  | finite (negative : Bool) (rank : Fin 0x7FF0000000000000)
  deriving DecidableEq, Repr

namespace Binary64

/-- The number of units in one: the smallest positive magnitude is `2 ^ (-1074)`. -/
def unitsPerOne : Nat :=
  Nat.pow 2 1074

/-- The number of fractions of 52 bits; ranks with the same quotient by it have
the same distance between neighbours. -/
def fractions : Nat :=
  0x10000000000000

/-- The magnitude of a rank in units. -/
def magnitude (rank : Nat) : Nat :=
  if rank < fractions then rank
  else (fractions + rank % fractions) * Nat.pow 2 (rank / fractions - 1)

def zero (negative : Bool) : Binary64 :=
  .finite negative 0

def ofRank (negative : Bool) (rank : Nat) : Binary64 :=
  if hrank : rank < 0x7FF0000000000000 then .finite negative ⟨rank, hrank⟩
  else .infinite negative

def signed (negative : Bool) (units : Nat) : Int :=
  if negative then -units else units

/-- A point of the scale of units, or a place beyond one of its ends. -/
inductive Place
  | below
  | units (count : Int)
  | above
  deriving DecidableEq, Repr

def Place.compare : Place → Place → Ordering
  | .below, .below => .eq
  | .below, _ => .lt
  | .units _, .below => .gt
  | .units a, .units b => Ord.compare a b
  | .units _, .above => .lt
  | .above, .above => .eq
  | .above, _ => .gt

def place? : Binary64 → Option Place
  | .nan => none
  | .infinite negative => some (if negative then .below else .above)
  | .finite negative rank => some (.units (signed negative (magnitude rank)))

def integerPlace (n : Int) : Place :=
  .units (n * unitsPerOne)

def isFinite : Binary64 → Bool
  | .finite _ _ => true
  | _ => false

/-- Equality of values: both zeros are equal and no number equals `nan`. -/
def equal (x y : Binary64) : Bool :=
  match x.place?, y.place? with
  | some a, some b => a.compare b == .eq
  | _, _ => false

def abs : Binary64 → Binary64
  | .nan => .nan
  | .infinite _ => .infinite false
  | .finite _ rank => .finite false rank

def neg : Binary64 → Binary64
  | .nan => .nan
  | .infinite negative => .infinite !negative
  | .finite negative rank => .finite (!negative) rank

def signBit : Nat :=
  0x8000000000000000

def ofBits (bits : Nat) : Binary64 :=
  let negative := bits / signBit % 2 == 1
  let rank := bits % signBit
  if rank ≤ 0x7FF0000000000000 then ofRank negative rank else .nan

/-- The bit pattern of a number; `nan` has the quiet pattern without payload. -/
def toBits : Binary64 → Nat
  | .nan => 0x7FF8000000000000
  | .infinite negative => (if negative then signBit else 0) + 0x7FF0000000000000
  | .finite negative rank => (if negative then signBit else 0) + rank

end Binary64

end CallContract
