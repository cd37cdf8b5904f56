import CallContract.Surroundings

/-!
# The program

Reads the arguments and the variables of the settings, runs the command, and
prints what it leaves behind.
-/

namespace CallContract

def variableEntry (name : String) : IO (String × Option String) := do
  pure (name, ← IO.getEnv name)

def runProgram (arguments : List String) : IO UInt32 := do
  let entries ← Settings.variableNames.mapM variableEntry
  let surroundings := Surroundings.standard fun name => (entries.lookup name).join
  let result := surroundings.runArguments arguments
  IO.print result.output
  IO.eprint result.complaint
  pure (UInt32.ofNat result.code)

end CallContract

def main (arguments : List String) : IO UInt32 :=
  CallContract.runProgram arguments
