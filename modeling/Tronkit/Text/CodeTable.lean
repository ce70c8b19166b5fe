import Tronkit.Text.Digits
import Tronkit.Text.Split

/-!
# Tables of characters

Sets of characters and maps from characters to texts, read from a compact writing. In a set,
`300-36F AD` is a range and a single code point. In a map, `C0: E0 61.300 - E3` gives the values of
consecutive code points from `C0` on, where a dot parts the characters of a value and `-` stands
for no value.
-/

namespace Tronkit

namespace CodeTable

def words (s : String) : List (List Char) :=
  (Split.all ' ' (s.toList.map fun c => if c = '\n' then ' ' else c)).filter (· ≠ [])

def number (cs : List Char) : Nat := Digits.fold 16 (cs.filterMap (Digits.value? 16))

def value (word : List Char) : List Nat :=
  if word = ['-'] then [] else (Split.all '.' word).map number

end CodeTable

structure CodeSet where
  ranges : List (Nat × Nat)

namespace CodeSet

def ofText (s : String) : CodeSet :=
  ⟨(CodeTable.words s).map fun word =>
    let (low, high) := Split.first '-' word
    (CodeTable.number low, CodeTable.number (high.getD low))⟩

def contains (s : CodeSet) (c : Char) : Bool :=
  s.ranges.any fun (low, high) => low ≤ c.toNat && c.toNat ≤ high

end CodeSet

structure CodeRun where
  start : Nat
  values : Array (List Nat)

structure CodeMap where
  runs : List CodeRun

namespace CodeMap

/-- Reads from the right: values wait for the start of their run. -/
def ofText (s : String) : CodeMap :=
  let (runs, _) := (CodeTable.words s).foldr (fun word (runs, values) =>
    if word.getLast? = some ':' then (⟨CodeTable.number word, values.toArray⟩ :: runs, [])
    else (runs, CodeTable.value word :: values)) ([], [])
  ⟨runs⟩

def get? (m : CodeMap) (c : Char) : Option (List Nat) := do
  let run ← m.runs.find? fun run =>
    run.start ≤ c.toNat && c.toNat < run.start + run.values.size
  run.values[c.toNat - run.start]?.filter (· ≠ [])

def entries (m : CodeMap) : List (Nat × List Nat) :=
  m.runs.flatMap fun run => (run.values.toList.zipIdx run.start).filterMap fun (value, n) =>
    if value = [] then none else some (n, value)

end CodeMap
end Tronkit
