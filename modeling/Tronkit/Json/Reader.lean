import Tronkit.Json.Value
import Tronkit.Number.Fault

/-!
# Reading JSON

A reader takes a value of its kind from the front of a byte sequence and leaves the rest. It is
told how many arrays and objects may still be opened, and it stops at the first fault of the
text. `parse` reads a whole text. Values that nobody asked for are passed over and may nest to
any depth.
-/

namespace Tronkit.Json

inductive ReadError
  | malformed
  | number (fault : NumberError)
  deriving Repr, DecidableEq

/-- Stands in messages for the fault of a JSON text, which they do not report in detail. -/
def ReadError.text (_ : ReadError) : String := "<json>"

/-- What stands before digits at the end of a text, if the number is below 64 bits. -/
def beforeNumber? (cs : List Char) : Option (List Char) :=
  let digits := (cs.reverse.takeWhile Digits.isDecimal).reverse
  if (Unsigned.read 10 u64Limit digits).toOption.isSome then
    some (cs.take (cs.length - digits.length))
  else none

def beforeWord? (word cs : List Char) : Option (List Char) :=
  if word.isSuffixOf cs then some (cs.take (cs.length - word.length)) else none

def withoutPlace (s : String) : String :=
  let rest := do
    let cs ← beforeWord? " column ".toList (← beforeNumber? s.toList)
    beforeWord? " at line ".toList (← beforeNumber? cs)
  (rest.map String.ofList).getD s

/-- The words for a number that was refused. The place of a fault is never told, so that a place
at the end of a refused text is lost with it. -/
def ReadError.message? : ReadError → Option String
  | malformed => none
  | number fault => some (withoutPlace fault.message)

abbrev Step (α : Type) := Bytes → Except ReadError (α × Bytes)

abbrev Reader (α : Type) := (depth : Nat) → Step α

def maxDepth : Nat := 127

def parse {α : Type} (r : Reader α) (bs : Bytes) : Except ReadError α :=
  match r maxDepth bs with
  | .error fault => .error fault
  | .ok (a, rest) => if skipBlanks rest = [] then .ok a else .error .malformed

def parseText {α : Type} (r : Reader α) (s : String) : Except ReadError α := parse r (textBytes s)

namespace Reader

def malformed {α : Type} : Except ReadError α := .error .malformed

def ofOption {α : Type} : Option α → Except ReadError α
  | some a => .ok a
  | none => malformed

def check {α β : Type} (r : Reader α) (f : α → Except ReadError β) : Reader β := fun depth bs =>
  match r depth bs with
  | .error fault => .error fault
  | .ok (a, rest) => (f a).map (·, rest)

def map {α β : Type} (f : α → β) (r : Reader α) : Reader β := r.check fun a => .ok (f a)

def filterMap {α β : Type} (r : Reader α) (f : α → Option β) : Reader β :=
  r.check fun a => ofOption (f a)

def stringAt : Step String := fun bs =>
  match skipBlanks bs with
  | 0x22 :: rest => do
    let (content, rest) ← ofOption (content? rest)
    let s ← ofOption (contentText? content)
    pure (s, rest)
  | _ => malformed

def string : Reader String := fun _ => stringAt

def bool : Reader Bool := fun _ bs =>
  let bs := skipBlanks bs
  match after? trueWord bs, after? falseWord bs with
  | some rest, _ => .ok (true, rest)
  | none, some rest => .ok (false, rest)
  | none, none => malformed

/-- An integer below `limit`, without sign, fraction or exponent. -/
def natBelow (limit : Nat) : Reader Nat := fun _ bs => do
  let (n, rest) ← ofOption (numeral? (skipBlanks bs))
  match n with
  | ⟨false, whole, none, none⟩ =>
    if Digits.fold 10 whole < limit then pure (Digits.fold 10 whole, rest) else malformed
  | _ => malformed

def u64 : Reader Nat := natBelow u64Limit

def byte : Reader UInt8 := (natBelow 256).map UInt8.ofNat

def option {α : Type} (r : Reader α) : Reader (Option α) := fun depth bs =>
  match skipBlanks bs with
  | 0x6E :: rest => do
    let rest ← ofOption (after? nullWord (0x6E :: rest))
    pure (none, rest)
  | bs => r.map some depth bs

def items {α : Type} (item : Step α) : (fuel : Nat) → Step (List α)
  | 0, _ => malformed
  | fuel + 1, bs => do
    let (a, rest) ← item bs
    match skipBlanks rest with
    | 0x2C :: rest => do
      let (as, rest) ← items item fuel rest
      pure (a :: as, rest)
    | 0x5D :: rest => pure ([a], rest)
    | _ => malformed

def elements {α : Type} (item : Step α) : Step (List α) := fun bs =>
  match skipBlanks bs with
  | 0x5D :: rest => .ok ([], rest)
  | _ => items item bs.length bs

def list {α : Type} (r : Reader α) : Reader (List α)
  | 0, _ => malformed
  | depth + 1, bs =>
    match skipBlanks bs with
    | 0x5B :: rest => elements (r depth) rest
    | _ => malformed

def key : Step String := fun bs => do
  let (k, rest) ← stringAt bs
  match skipBlanks rest with
  | 0x3A :: rest => pure (k, rest)
  | _ => malformed

def pairs {α : Type} (value : Step α) : (fuel : Nat) → Step (List (String × α))
  | 0, _ => malformed
  | fuel + 1, bs => do
    let (k, rest) ← key bs
    let (a, rest) ← value rest
    match skipBlanks rest with
    | 0x2C :: rest => do
      let (as, rest) ← pairs value fuel rest
      pure ((k, a) :: as, rest)
    | 0x7D :: rest => pure ([(k, a)], rest)
    | _ => malformed

def members {α : Type} (value : Step α) : Step (List (String × α)) := fun bs =>
  match skipBlanks bs with
  | 0x7D :: rest => .ok ([], rest)
  | _ => pairs value bs.length bs

/-- An integer keeps its value if it fits into 64 bits, with or without sign. Digits past the
64th bit of a significand count for their place only. -/
def significand : (value dropped : Nat) → List Nat → Nat × Nat
  | value, dropped, [] => (value, dropped)
  | value, dropped, d :: ds =>
    if dropped = 0 && 10 * value + d < u64Limit then significand (10 * value + d) 0 ds
    else significand value (dropped + 1) ds

def number? (n : Numeral) : Option Json :=
  let (whole, dropped) := significand 0 0 n.whole
  match n.fraction, n.exponent with
  | none, none =>
    if dropped = 0 then
      if !n.negative then some (.natural whole)
      else if 0 < whole ∧ whole ≤ Nat.pow 2 63 then some (.integer (-whole))
      else (Binary64.ofDecimal? true whole 0).map .double
    else (Binary64.ofDecimal? n.negative whole dropped).map .double
  | fraction, exponent =>
    let ds := fraction.getD []
    let (value, ignored) := significand whole 0 ds
    let power : Int := match exponent with
      | none => 0
      | some (negative, es) =>
        if negative then -(Digits.fold 10 es : Int) else Digits.fold 10 es
    let shift := dropped - (ds.length - ignored : Nat) + power
    (Binary64.ofDecimal? n.negative value shift).map .double

def scalar : Step Json := fun bs =>
  match skipBlanks bs with
  | [] => malformed
  | b :: rest =>
    if b = 0x22 then do
      let (s, rest) ← stringAt (b :: rest)
      pure (.string s, rest)
    else if b = 0x6E then do pure (.null, ← ofOption (after? nullWord (b :: rest)))
    else if b = 0x74 then do pure (.bool true, ← ofOption (after? trueWord (b :: rest)))
    else if b = 0x66 then do pure (.bool false, ← ofOption (after? falseWord (b :: rest)))
    else do
      let (n, rest) ← ofOption (numeral? (b :: rest))
      pure (← ofOption (number? n), rest)

/-- Any value, with repeated keys as they stand. -/
def tree : Reader Json
  | 0, bs => scalar bs
  | depth + 1, bs =>
    match skipBlanks bs with
    | 0x5B :: rest => do
      let (vs, rest) ← elements (tree depth) rest
      pure (.array vs, rest)
    | 0x7B :: rest => do
      let (ms, rest) ← members (tree depth) rest
      pure (.object ms, rest)
    | bs => scalar bs

end Reader

/-- The key under which an object holds the text of a value and stands for that value. -/
def embeddingKey : String := "$serde_json::private::RawValue"

mutual
/-- Puts the values that are held as texts into their places. An object that begins with such a
text holds nothing else. -/
def expand? (read : String → Option Json) : Json → Option Json
  | array vs => (expandElements? read vs).map array
  | object [] => some (object [])
  | object ((k, v) :: ms) =>
    if k = embeddingKey then
      match v, ms with
      | string s, [] => read s
      | _, _ => none
    else do
      let v ← expand? read v
      pure (object ((k, v) :: (← expandMembers? read ms)))
  | v => some v
def expandElements? (read : String → Option Json) : List Json → Option (List Json)
  | [] => some []
  | v :: vs => do pure ((← expand? read v) :: (← expandElements? read vs))
def expandMembers? (read : String → Option Json) :
    List (String × Json) → Option (List (String × Json))
  | [] => some []
  | (k, v) :: ms => do pure ((k, ← expand? read v) :: (← expandMembers? read ms))
end

/-- Reads a text that may hold further texts, each shorter than itself. -/
def expandText? : (fuel : Nat) → String → Option Json
  | 0, _ => none
  | fuel + 1, s => (parseText Reader.tree s).toOption.bind (expand? (expandText? fuel))

/-- A value as it is meant: with held texts read, and with repeated keys merged. -/
def plain? (v : Json) : Option Json :=
  (expand? (fun s => expandText? (s.length + 1) s) v).map merged

namespace Reader

def value : Reader Json := tree.filterMap plain?

def object : Reader (List (String × Json))
  | 0, _ => malformed
  | depth + 1, bs =>
    match skipBlanks bs with
    | 0x7B :: rest => do
      let (ms, rest) ← members (value depth) rest
      pure (Keyed.ofList ms, rest)
    | _ => malformed

/-- The text of any one value, without the blanks around it. -/
def verbatim : Reader String := fun _ bs => do
  let bs := skipBlanks bs
  let rest ← ofOption (skipValue? bs)
  let s ← ofOption (textOfBytes? (bs.take (bs.length - rest.length)))
  pure (s, rest)

/-- One of the given names, alone or as the only key of an object that holds `null`. -/
def choice {α : Type} (names : List (String × α)) : Reader α := fun depth bs =>
  match skipBlanks bs with
  | 0x7B :: rest =>
    if depth = 0 then malformed
    else do
      let (k, rest) ← key rest
      let a ← ofOption (names.lookup k)
      let rest ← ofOption (after? nullWord (skipBlanks rest))
      match skipBlanks rest with
      | 0x7D :: rest => pure (a, rest)
      | _ => malformed
  | bs => do
    let (k, rest) ← stringAt bs
    pure (← ofOption (names.lookup k), rest)

end Reader
end Tronkit.Json
