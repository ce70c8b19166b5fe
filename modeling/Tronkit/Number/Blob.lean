import Tronkit.Number.Quantity

/-!
# Numbers and texts in contract results

A contract answers with hexadecimal words of 32 bytes. A number is one word. A text is either
an offset word, a length word and a payload, or a single word that ends in zero bytes.
-/

namespace Tronkit.Blob

def wordDigits : Nat := 64

def word? (cs : List Char) : Option Nat :=
  let cs := Quantity.stripMark cs
  if Utf8.size cs = wordDigits then Quantity.number? 16 cs else none

def readNat (s : String) : Except NumberError Nat :=
  match word? s.toList with
  | some n => .ok n
  | none => .error (.unreadable (Quantity.strip s))

/-- The part of a text between two byte positions, where no character may be cut. -/
def byteRange? (cs : List Char) (start stop : Nat) : Option (List Char) :=
  (Bytes.slice? (Utf8.encode cs) start (stop - start)).bind Utf8.decode?

def payload? (cs : List Char) : Option Bytes := do
  let len ← (byteRange? cs wordDigits (2 * wordDigits)).bind word?
  (byteRange? cs (2 * wordDigits) (2 * wordDigits + 2 * len)).bind Hex.decode?

/-- A zero byte in front keeps the whole word. -/
def cutAtZero (bs : Bytes) : Bytes :=
  if bs.headD 1 = 0 then bs else bs.takeWhile (· ≠ 0)

def string? (cs : List Char) : Option String :=
  if 2 * wordDigits < Utf8.size cs then (payload? cs).bind textOfBytes?
  else if Utf8.size cs = wordDigits then (Hex.decode? cs).bind fun bs => textOfBytes? (cutAtZero bs)
  else none

def readString (s : String) : Except NumberError String :=
  match string? (Quantity.stripMark s.toList) with
  | some out => .ok out
  | none => .error (.unreadable (Quantity.strip s))

end Tronkit.Blob
