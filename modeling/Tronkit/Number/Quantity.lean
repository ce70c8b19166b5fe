import Tronkit.Number.Fault

/-!
# Hexadecimal quantities

A quantity is a hexadecimal number with or without `0x` in front. The bounded reading takes an
empty quantity for zero; the unbounded one refuses it, and lets a plus sign lead and
underscores stand between digits. `readBytes` reads byte strings in the same dress, and `word`
takes a number that has no more bytes than a word.
-/

namespace Tronkit.Quantity

def stripMark : List Char → List Char
  | '0' :: 'x' :: rest => rest
  | '0' :: 'X' :: rest => rest
  | cs => cs

def strip (s : String) : String := String.ofList (stripMark s.toList)

def digits? (base : Nat) (cs : List Char) : Option (List Nat) :=
  Digits.values? base (cs.filter (· ≠ '_'))

def unsigned? (base : Nat) (cs : List Char) : Option Nat :=
  match cs with
  | [] => none
  | '_' :: _ => none
  | cs => (digits? base cs).map (Digits.fold base)

/-- One plus sign may lead. -/
def number? (base : Nat) : List Char → Option Nat
  | '+' :: '+' :: _ => none
  | '+' :: cs => unsigned? base cs
  | cs => unsigned? base cs

def readU64 (s : String) : Except NumberError Nat :=
  match stripMark s.toList with
  | [] => .ok 0
  | cs => (Unsigned.read 16 u64Limit cs).mapError (.invalidQuantity s)

def readNat (s : String) : Except NumberError Nat :=
  match stripMark s.toList with
  | [] => .error .emptyNumber
  | cs => match number? 16 cs with
    | some n => .ok n
    | none => .error (.invalidNumber s)

def readBytes (s : String) : Except NumberError Bytes :=
  (Hex.decode (stripMark s.toList)).mapError (.invalidBytes s)

def write (n : Nat) : String := "0x" ++ String.ofList (Nat.toDigits 16 n)

def bytes (n : Nat) : Bytes := (Digits.ofNat 256 n).map UInt8.ofNat

def wordBytes : Nat := 32

def word (n : Nat) : Except NumberError (BitVec 256) :=
  let bs := bytes n
  if wordBytes < bs.length then .error (.tooWide n) else .ok (BitVec.ofNat 256 bs.toNat)

def ofWord (w : BitVec 256) : Nat := Bytes.toNat (Bytes.ofNat wordBytes w.toNat)

theorem readBytes_mark (bs : Bytes) :
    readBytes (String.ofList ('0' :: 'x' :: Hex.encode bs)) = .ok bs := by
  simp only [readBytes, stripMark, String.toList_ofList, Hex.decode_encode]
  rfl

end Tronkit.Quantity
