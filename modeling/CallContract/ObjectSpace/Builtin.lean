import CallContract.Binary64.Order
import CallContract.ObjectSpace.State
import CallContract.Text.CaseMapping

/-!
# Built-in members

Every object space starts with members for its built-in classes, so that
questions for a capability and calls find something on plain values.  An
object of a class made from a built-in one has these members too; where an
operation needs a plain value of its class, the object counts as an empty one
or as itself.
-/

namespace CallContract

/-- A count as a value; the largest integer stands for counts beyond it. -/
def countValue (count : Nat) : Value :=
  .int (Int64.ofNat (min count 0x7FFFFFFFFFFFFFFF))

def integerOverflow : CallError :=
  .raised "integer overflow"

/-- An exact result, unless it does not fit. -/
def checkedInteger (result : Int) : Except CallError Value :=
  if Int64.minValue.toInt ≤ result ∧ result ≤ Int64.maxValue.toInt then
    .ok (.int (Int64.ofInt result))
  else .error integerOverflow

def addNumbers : Value → Value → Except CallError Value
  | .int a, .int b => checkedInteger (a.toInt + b.toInt)
  | .int a, .float b => .ok (.float ((Binary64.ofInt a.toInt).add b))
  | .float a, .int b => .ok (.float (a.add (Binary64.ofInt b.toInt)))
  | .float a, .float b => .ok (.float (a.add b))
  | a, b => .error (.raised (b.typeName ++ " can't be coerced into " ++ a.typeName))

/-- The integer at the start of a text, behind blanks.  The digits are read
before the sign is applied, and digits that do not fit count as none. -/
def leadingInteger (text : String) : Int64 :=
  let (negative, rest) := Binary64.splitSign (Text.trimStart text.toList)
  let value := Binary64.readDigits (rest.takeWhile Char.isDigit)
  if 0x8000000000000000 ≤ value then 0 else Int64.ofInt (Binary64.signed negative value)

/-- The prefixes of a list that are not empty, longest first. -/
def nonemptyPrefixes (chars : List α) : List (List α) :=
  (List.range chars.length).reverse.map fun count => chars.take (count + 1)

/-- The number denoted by the longest prefix of a text that denotes one, behind
blanks; zero if there is none or if it is not finite. -/
def leadingFloat (text : String) : Binary64 :=
  match (nonemptyPrefixes (Text.trimStart text.toList)).findSome? Binary64.ofText? with
  | some number => if number.isFinite then number else .zero false
  | none => .zero false

def Value.items : Value → List Value
  | .array items => items
  | _ => []

def Value.pairs : Value → List (Value × Value)
  | .hash pairs => pairs
  | _ => []

def Value.content (value : Value) : String :=
  value.text?.getD ""

def Value.integer (value : Value) : Int :=
  (value.int?.map Int64.toInt).getD 0

/-- A float cut off at its point; other values are left as they are. -/
def Value.cutToInteger : Value → Except CallError Value
  | .float number =>
      match number.truncate? with
      | some whole => .ok (.int (wholeInteger whole))
      | none =>
          .error (.raised ("FloatDomainError: " ++
            String.ofList (Binary64.Layout.plain.write number)))
  | receiver => .ok receiver

def Value.integerMagnitude : Value → Except CallError Value
  | .int number => checkedInteger number.toInt.natAbs
  | receiver => .ok receiver

def Value.floatMagnitude : Value → Value
  | .float number => .float number.abs
  | receiver => receiver

def Value.symbolLength : Value → Nat
  | .symbol name => name.name.length
  | _ => 0

def ObjectSpace.concatenate (space : ObjectSpace) : Value → Value → Except CallError Value
  | .text a, .text b => .ok (.text (a ++ b))
  | _, other =>
      .error (.raised ("no implicit conversion of " ++
        space.scopeName (space.scopes.classOf other) ++ " into String"))

/-- The answer to the question whether a value responds to a name. -/
def ObjectSpace.answerRespondsTo
    (space : ObjectSpace)
    (receiver : Value) : Value → Except CallError Value
  | .symbol name => .ok (.bool (space.respondsTo receiver name))
  | .text name => .ok (.bool (space.respondsTo receiver ⟨name⟩))
  | other => .error (.raised (space.describe other ++ " is not a symbol nor a string"))

namespace Builtin

def run (space : ObjectSpace) (frame : Frame) : Builtin → Except CallError Value
  | .itself => .ok frame.receiver
  | .textOf => .ok (.text ((space.searchText? frame.receiver).getD ""))
  | .describe => .ok (.text (space.describe frame.receiver))
  | .isNil => .ok (.bool frame.receiver.isNil)
  | .classOf => .ok (.scope (space.scopes.classOf frame.receiver))
  | .isEqual => .ok (.bool (frame.receiver.equal (frame.argument 0)))
  | .respondsTo => space.answerRespondsTo frame.receiver (frame.argument 0)
  | .add => addNumbers frame.receiver (frame.argument 0)
  | .integerToFloat => .ok (.float (.ofInt frame.receiver.integer))
  | .isOdd => .ok (.bool (frame.receiver.integer % 2 != 0))
  | .isEven => .ok (.bool (frame.receiver.integer % 2 == 0))
  | .integerIsZero => .ok (.bool (frame.receiver.int? == some 0))
  | .successor => addNumbers frame.receiver (.int 1)
  | .integerMagnitude => frame.receiver.integerMagnitude
  | .floatToInteger => frame.receiver.cutToInteger
  | .floatIsZero => .ok (.bool (frame.receiver.equal (.float (.zero false))))
  | .floatMagnitude => .ok frame.receiver.floatMagnitude
  | .stringToInteger => .ok (.int (leadingInteger frame.receiver.content))
  | .stringToFloat => .ok (.float (leadingFloat frame.receiver.content))
  | .stringToSymbol => .ok (.symbol ⟨frame.receiver.content⟩)
  | .stringLength => .ok (countValue frame.receiver.content.length)
  | .uppercase => .ok (.text (Text.uppercase frame.receiver.content))
  | .concatenate => space.concatenate frame.receiver (frame.argument 0)
  | .symbolLength => .ok (countValue frame.receiver.symbolLength)
  | .arrayLength => .ok (countValue frame.receiver.items.length)
  | .arrayIsEmpty => .ok (.bool frame.receiver.items.isEmpty)
  | .firstItem => .ok (frame.receiver.items.head?.getD .nil)
  | .lastItem => .ok (frame.receiver.items.getLast?.getD .nil)
  | .hashLength => .ok (countValue frame.receiver.pairs.length)
  | .hashKeys => .ok (.array (frame.receiver.pairs.map Prod.fst))
  | .zeroInteger => .ok (.int 0)
  | .zeroFloat => .ok (.float (.zero false))
  | .emptyArray => .ok (.array [])

/-- The built-in members: their scope, their name, whether they take an
argument, and what they do. -/
def members : List (ScopeId × String × Bool × Builtin) :=
  [(.kernel, "to_s", false, .textOf),
    (.kernel, "inspect", false, .describe),
    (.kernel, "nil?", false, .isNil),
    (.kernel, "class", false, .classOf),
    (.kernel, "==", true, .isEqual),
    (.kernel, "respond_to?", true, .respondsTo),
    (.integer, "to_i", false, .itself),
    (.integer, "to_f", false, .integerToFloat),
    (.integer, "odd?", false, .isOdd),
    (.integer, "even?", false, .isEven),
    (.integer, "zero?", false, .integerIsZero),
    (.integer, "succ", false, .successor),
    (.integer, "abs", false, .integerMagnitude),
    (.integer, "+", true, .add),
    (.float, "to_i", false, .floatToInteger),
    (.float, "to_f", false, .itself),
    (.float, "zero?", false, .floatIsZero),
    (.float, "abs", false, .floatMagnitude),
    (.float, "+", true, .add),
    (.string, "to_i", false, .stringToInteger),
    (.string, "to_f", false, .stringToFloat),
    (.string, "to_sym", false, .stringToSymbol),
    (.string, "length", false, .stringLength),
    (.string, "upcase", false, .uppercase),
    (.string, "+", true, .concatenate),
    (.symbol, "to_sym", false, .itself),
    (.symbol, "length", false, .symbolLength),
    (.array, "length", false, .arrayLength),
    (.array, "empty?", false, .arrayIsEmpty),
    (.array, "first", false, .firstItem),
    (.array, "last", false, .lastItem),
    (.hash, "length", false, .hashLength),
    (.hash, "keys", false, .hashKeys),
    (.nilClass, "to_i", false, .zeroInteger),
    (.nilClass, "to_f", false, .zeroFloat),
    (.nilClass, "to_a", false, .emptyArray)]

def parameters (takesArgument : Bool) : Parameters :=
  if takesArgument then ⟨[⟨"other"⟩], [], none, []⟩ else .none

def member : ScopeId × String × Bool × Builtin → Member
  | (owner, name, takesArgument, operation) =>
      ⟨⟨⟨name⟩, owner, .publicAccess, parameters takesArgument⟩, .builtin operation⟩

end Builtin

/-- An object space with nothing but the built-in scopes and members. -/
def ObjectSpace.initial (id : SpaceId) (settings : Settings) (registry : Registry) : ObjectSpace :=
  Builtin.members.foldl (fun space entry => space.insertMember (Builtin.member entry))
    ⟨id, settings, .initial, [], [], registry, [], ⟨1⟩, [], [], []⟩

theorem ObjectSpace.foldl_insertMember
    (entries : List (ScopeId × String × Bool × Builtin))
    (space : ObjectSpace) :
    ∃ members,
      entries.foldl (fun space entry => space.insertMember (Builtin.member entry)) space =
        { space with members := members } := by
  induction entries generalizing space with
  | nil => exact ⟨space.members, rfl⟩
  | cons entry rest ih => exact ih (space.insertMember (Builtin.member entry))

/-- Nothing is under contract at first. -/
theorem ObjectSpace.initial_eq (id : SpaceId) (settings : Settings) (registry : Registry) :
    ∃ members,
      initial id settings registry =
        ⟨id, settings, .initial, members, [], registry, [], ⟨1⟩, [], [], []⟩ :=
  foldl_insertMember Builtin.members _

end CallContract
