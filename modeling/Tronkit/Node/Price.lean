import Tronkit.Text.Blank
import Tronkit.Text.Digits
import Tronkit.Text.Split

/-!
# The price of energy

The node tells its prices as a list of entries `since:price` between commas, with times in
milliseconds. The price that holds at a time is that of the latest entry up to it, and of two
entries of one time the second. An entry that cannot be read counts for nothing.
-/

namespace Tronkit.Node.Price

structure Entry where
  since : Nat
  price : Nat
  deriving DecidableEq, Repr

def number? (cs : List Char) : Option Nat := (Unsigned.read 10 u64Limit (Blank.trim cs)).toOption

def Entry.read? (cs : List Char) : Option Entry :=
  match Split.first ':' cs with
  | (since, some price) => do pure ⟨← number? since, ← number? price⟩
  | (_, none) => none

def entries (prices : String) : List Entry := (Split.all ',' prices.toList).filterMap Entry.read?

def later (now : Nat) (held : Option Entry) (e : Entry) : Option Entry :=
  if now < e.since then held
  else match held with
    | some h => if h.since ≤ e.since then some e else some h
    | none => some e

def holding (now : Nat) (es : List Entry) : Option Entry := es.foldl (later now) none

def current (prices : String) (now : Nat) : Option Nat :=
  (holding now (entries prices)).map Entry.price

end Tronkit.Node.Price
