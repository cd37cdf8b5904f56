import CallContract.Binary64.Order
import CallContract.Value.Basic

/-!
# The order of values

Numbers of both kinds are compared with each other, and texts by their code
points.  All other pairs, and pairs with the number `nan`, are not comparable.
-/

namespace CallContract.Value

def compare? : Value → Value → Option Ordering
  | .int a, .int b => some (Ord.compare a b)
  | .int a, .float b => Binary64.compareInteger? a b
  | .float a, .int b => (Binary64.compareInteger? b a).map Ordering.swap
  | .float a, .float b => a.compare? b
  | .text a, .text b => some (Ord.compare a b)
  | _, _ => none

end CallContract.Value
