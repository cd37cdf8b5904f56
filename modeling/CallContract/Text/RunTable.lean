/-!
# Tables of runs of code points

Most properties of characters are constant on long runs of neighbouring code
points.  A table therefore lists its runs in order, starting at code point
zero: the length of a run in decimal, left out when it is one, followed by a
tag of fixed width that names the value on the run; line breaks and spaces do
not count.  Reading a table yields the first code point of every run, and a
lookup searches for the last run that starts at or before the code point.
-/

namespace CallContract.Text

/-- Runs in increasing order of their first code point. -/
structure RunTable (α : Type) where
  starts : Array (Nat × α)

structure RunReader where
  count : Option Nat
  tag : List Char
  runs : List (Nat × String)

def RunReader.initial : RunReader :=
  ⟨none, [], []⟩

def RunReader.step (width : Nat) (reader : RunReader) (c : Char) : RunReader :=
  if c = ' ' ∨ c = '\n' then reader
  else if c.isDigit then
    { reader with count := some (reader.count.getD 0 * 10 + (c.toNat - '0'.toNat)) }
  else if (c :: reader.tag).length = width then
    ⟨none, [], (reader.count.getD 1, String.ofList (c :: reader.tag).reverse) :: reader.runs⟩
  else
    { reader with tag := c :: reader.tag }

/-- The lengths and tags of the runs that a table text lists. -/
def readRuns (width : Nat) (text : String) : List (Nat × String) :=
  (text.toList.foldl (RunReader.step width) RunReader.initial).runs.reverse

def RunTable.ofRuns (runs : List (Nat × α)) : RunTable α :=
  ⟨(runs.foldl
    (fun (placed : Nat × Array (Nat × α)) run =>
      (placed.1 + run.1, placed.2.push (placed.1, run.2)))
    (0, #[])).2⟩

/-- The last index from `low` on and below `high` whose run starts at or
before `code`, if the run at `low` does. -/
def lastIndexAtMost (starts : Array (Nat × α)) (code low high : Nat) : Nat :=
  if low + 1 < high then
    match starts[(low + high) / 2]? with
    | none => low
    | some (start, _) =>
        if start ≤ code then lastIndexAtMost starts code ((low + high) / 2) high
        else lastIndexAtMost starts code low ((low + high) / 2)
  else low
termination_by high - low

def RunTable.find? (table : RunTable α) (code : Nat) : Option α :=
  (table.starts[lastIndexAtMost table.starts code 0 table.starts.size]?).map Prod.snd

/-- A table of a property: runs tagged `n` do not have it, runs tagged `y` do. -/
def RunTable.ofFlags (text : String) : RunTable Bool :=
  .ofRuns ((readRuns 1 text).map fun run => (run.1, run.2 == "y"))

def RunTable.holds (table : RunTable Bool) (c : Char) : Bool :=
  (table.find? c.toNat).getD false

end CallContract.Text
