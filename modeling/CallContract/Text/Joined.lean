/-!
# Joining texts

The items of a list are written one after the other with a comma and a space
between neighbours.
-/

namespace CallContract.Text

def commaSeparated : List String → String
  | [] => ""
  | [item] => item
  | item :: rest => item ++ ", " ++ commaSeparated rest

@[simp] theorem commaSeparated_singleton
    (item : String) :
    commaSeparated [item] = item :=
  rfl

theorem commaSeparated_cons_cons
    (first second : String)
    (rest : List String) :
    commaSeparated (first :: second :: rest) =
      first ++ ", " ++ commaSeparated (second :: rest) :=
  rfl

end CallContract.Text
