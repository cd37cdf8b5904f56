import CallContract.Json.Basic
import CallContract.ObjectSpace.Fleet

/-!
# Commands

Two commands work on texts in notation without a program around them.  One
compiles a contract and reports its signature as a data text, and the other
checks a value against a single descriptor on the result side.  The first
error ends a command with the code two, and a report that cannot be written with
the code three.

How arguments ask for a command, how a report is written and which patterns there
are is up to the surroundings in which commands are run.
-/

namespace CallContract

inductive Command
  | compile (spec : String) (onOneLine : Bool)
  | check (descriptor value : String)
  deriving DecidableEq, Repr

/-- What a command leaves behind: its code, its output and its complaints. -/
structure CommandResult where
  code : Nat
  output : String
  complaint : String
  deriving DecidableEq, Repr

namespace CommandResult

def printing (code : Nat) (line : String) : CommandResult :=
  ⟨code, line ++ "\n", ""⟩

def failing (code : Nat) (message : String) : CommandResult :=
  ⟨code, "", "Error: " ++ message ++ "\n"⟩

end CommandResult

/-- What commands are given from outside. -/
structure Surroundings where
  engine : Pattern.Engine
  setting? : String → Option String
  /-- What some arguments ask for, or what is left behind if they ask for nothing. -/
  command : List String → Except CommandResult Command
  /-- A report on one line or on many. -/
  write : (onOneLine : Bool) → Json → Except String String

def Signature.toJson (signature : Signature) : Json :=
  .object
    [("positional", .array ((Descriptor.texts signature.positional).map .string)),
      ("keyword",
        .object (signature.keywords.map fun keyword =>
          (keyword.1.name, .string keyword.2.text))),
      ("returns", .string signature.resultText),
      ("info", .string signature.text)]

/-- The report on a contract that was compiled. -/
def compileReport (spec : String) (signature : Signature) : Json :=
  .object [("spec", .string spec), ("signature", signature.toJson)]

namespace Surroundings

variable (surroundings : Surroundings) (space : ObjectSpace)

def compileSpec (spec : String) : Except String Signature := do
  let term ← (space.parseSpec surroundings.engine spec).mapError Notation.Error.message
  term.signature.mapError SignatureError.message

/-- Whether a value matches a descriptor, both in notation. -/
def checkValue (descriptor value : String) : Except String Bool := do
  let term ← (space.parseSpec surroundings.engine descriptor).mapError Notation.Error.message
  let descriptor ← (term.descriptor .result .result).mapError SignatureError.message
  let value ← (space.parseValue value).mapError Notation.Error.message
  pure (space.accepts descriptor value)

def run : Command → CommandResult
  | .compile spec onOneLine =>
      match surroundings.compileSpec space spec with
      | .error message => .failing 2 message
      | .ok signature =>
          match surroundings.write onOneLine (compileReport spec signature) with
          | .error message => .failing 3 ("failed to serialize signature: " ++ message)
          | .ok report => .printing 0 report
  | .check descriptor value =>
      match surroundings.checkValue space descriptor value with
      | .error message => .failing 2 message
      | .ok true => .printing 0 "match"
      | .ok false => .printing 1 "no match"

/-- Runs the command that some arguments ask for, in a new object space. -/
def runArguments (arguments : List String) : CommandResult :=
  match surroundings.command arguments with
  | .error result => result
  | .ok command =>
      surroundings.run (.initial ⟨0⟩ (.ofVariables surroundings.setting?) []) command

end Surroundings

end CallContract
