import CallContract.CommandLine
import CallContract.Json.Writing
import CallContract.Pattern.ExpressionEngine

/-!
# Standard surroundings

The program runs its commands with the engine of expressions and writes reports as
data texts.  Its first argument names the command, the texts of the command follow,
and an option may stand anywhere before `--`.
-/

namespace CallContract

/-- The command with its texts, of which the first is its name. -/
def commandOfTexts? : List String → (onOneLine : Bool) → Option Command
  | ["compile", spec], onOneLine => some (.compile spec onOneLine)
  | ["match", descriptor, value], false => some (.check descriptor value)
  | _, _ => none

def readCommand (arguments : List String) : Except CommandResult Command :=
  let (front, behind) := arguments.span (· ≠ "--")
  let (options, texts) := front.partition (· = "--compact")
  match commandOfTexts? (texts ++ behind.drop 1) !options.isEmpty with
  | some command => .ok command
  | none => .error (.failing 2 "expected compile SPEC [--compact] or match DESCRIPTOR VALUE")

def writeReport (onOneLine : Bool) (report : Json) : Except String String :=
  .ok (if onOneLine then report.compactText else report.indentedText)

def Surroundings.standard (setting? : String → Option String) : Surroundings :=
  ⟨.ofExpressions, setting?, readCommand, writeReport⟩

end CallContract
