/-!
# Visibility

A public member is reached by every call, a private one only by its own
receiver, and a protected one also by calls from within a member of an
instance of its owner.
-/

namespace CallContract

inductive Visibility
  | publicAccess
  | protectedAccess
  | privateAccess
  deriving DecidableEq, Repr

def Visibility.text : Visibility → String
  | .publicAccess => "public"
  | .protectedAccess => "protected"
  | .privateAccess => "private"

end CallContract
