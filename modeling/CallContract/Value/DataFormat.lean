import CallContract.Value.Interchange

/-!
# Formats of data texts

What writes values as data texts and reads them back is given from outside, and is
relied on for two things.  A value without floats is written on one line, in the
shape of its kind and with the usual escapes in texts.  A text of a tree without
floats is read as the value that the tree denotes, and lists and objects in it are
followed to a bounded depth.
-/

namespace CallContract.Value

structure DataFormat where
  write : Value → String
  read? : String → Option Value
  write_eq_compactText : ∀ {value : Value},
    value.IsPortable → write value = value.toJson.compactText
  read?_eq_ofJson? : ∀ {text : String} {json : Json},
    Json.ofText? text = some json → json.IsExact → read? text = ofJson? json

/-- The format of the writers and readers of this library. -/
def DataFormat.standard : DataFormat where
  write value := value.toJson.compactText
  read? text := (Json.ofText? text).bind ofJson?
  write_eq_compactText _ := rfl
  read?_eq_ofJson? htext _ := by rw [htext, Option.bind_some]

end CallContract.Value
