import CallContract.ObjectSpace.State
import CallContract.Value.Interchange

/-!
# Traces as data texts

An entry of a trace is written as an object.  A call that failed before it
produced a value has no returned value, and a call that succeeded no error.
-/

namespace CallContract

def optionJson (json : α → Json) : Option α → Json
  | none => .null
  | some content => json content

def TraceEntry.toJson (entry : TraceEntry) : Json :=
  .object
    [("scope", .integer entry.scope.index),
      ("member", .string entry.member.name),
      ("positional", .array (Value.itemsToJson entry.arguments.positional)),
      ("keywords",
        .object (entry.arguments.keywords.map fun keyword =>
          (keyword.1.name, keyword.2.toJson))),
      ("returned", optionJson Value.toJson entry.returned),
      ("error", optionJson Json.string entry.error)]

/-- Whether the call gave its value back. -/
def TraceEntry.succeeded (entry : TraceEntry) : Bool :=
  entry.error.isNone

end CallContract
