import CallContract.Value.Order
import CallContract.Value.Text

/-!
# Intervals

An interval has bounds that may be absent.  The start belongs to it, and the
end does unless it is excluded.  A value that is not comparable with a bound
lies outside, and an interval without bounds holds the values that have a
place in the order.
-/

namespace CallContract

structure Interval where
  start : Option Value
  stop : Option Value
  excludesStop : Bool
  deriving Repr

namespace Interval

def admitsFrom (start value : Value) : Bool :=
  match value.compare? start with
  | some .gt | some .eq => true
  | _ => false

def admitsUpTo (excludesStop : Bool) (stop value : Value) : Bool :=
  match value.compare? stop with
  | some .lt => true
  | some .eq => !excludesStop
  | _ => false

def contains (interval : Interval) (value : Value) : Bool :=
  match interval.start, interval.stop with
  | none, none => (value.compare? value).isSome
  | start, stop =>
      start.all (admitsFrom · value) && stop.all (admitsUpTo interval.excludesStop · value)

def boundText (bound : Option Value) : String :=
  (bound.bind Value.literal?).getD ""

def text (interval : Interval) : String :=
  boundText interval.start ++ (if interval.excludesStop then "..." else "..") ++
    boundText interval.stop

def equalBounds : Option Value → Option Value → Bool
  | none, none => true
  | some a, some b => a.equal b
  | _, _ => false

def equal (a b : Interval) : Bool :=
  equalBounds a.start b.start && equalBounds a.stop b.stop && a.excludesStop == b.excludesStop

end Interval

end CallContract
