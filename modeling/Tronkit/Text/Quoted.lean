import Tronkit.Bytes
import Tronkit.Text.Digits
import Tronkit.Text.Printable

/-!
# Quoted characters and texts

Messages show a character between apostrophes and a text between quotation marks. The
enclosing mark, the backslash and the unprintable characters are escaped, so the quoted form is
a single visible line.
-/

namespace Tronkit.Quoted

def hexText (n : Nat) : List Char := Nat.toDigits 16 n

def escape (mark c : Char) : List Char :=
  if c = '\x00' then ['\\', '0']
  else if c = '\t' then ['\\', 't']
  else if c = '\r' then ['\\', 'r']
  else if c = '\n' then ['\\', 'n']
  else if c = mark || c = '\\' then ['\\', c]
  else if Printable.isPrintable c then [c]
  else ['\\', 'u', '\x7b'] ++ hexText c.toNat ++ ['\x7d']

def enclose (mark : Char) (cs : List Char) : String :=
  String.ofList (mark :: cs.flatMap (escape mark) ++ [mark])

def character (c : Char) : String := enclose '\'' [c]

def text (s : String) : String := enclose '"' s.toList

def bytes (bs : Bytes) : String :=
  "[" ++ String.intercalate ", " (bs.map fun b => decimalText b.toNat) ++ "]"

end Tronkit.Quoted
