import Tronkit.Json.Record
import Tronkit.Number.Quantity

/-!
# Integers of any size in JSON

An amount may exceed every machine word, so it is read from the text of its numeral or from the
content of a string, in decimal digits or as a hexadecimal quantity. A fraction or an exponent is
refused and never rounded.
-/

namespace Tronkit.Json.BigNumber

def isQuantity : List Char → Bool
  | '0' :: 'x' :: _ => true
  | '0' :: 'X' :: _ => true
  | _ => false

def decimal? (cs : List Char) : Option Nat :=
  if cs = [] then none
  else if cs.all Digits.isDecimal then (Digits.values? 10 cs).map (Digits.fold 10)
  else none

def readUnsigned (s : String) : Except NumberError Nat :=
  if isQuantity s.toList then Quantity.readNat s
  else match decimal? s.toList with
    | some n => .ok n
    | none => .error (.notUnsigned s)

def readSigned (s : String) : Except NumberError Int :=
  match s.toList with
  | '-' :: cs => (readUnsigned (String.ofList cs)).map fun n => -(n : Int)
  | _ => (readUnsigned s).map fun n => (n : Int)

def unquote (raw : String) : Except ReadError String :=
  if raw.toList.head? = some '"' then parseText Reader.string raw else .ok raw

def reader {α : Type} (read : String → Except NumberError α) : Reader α :=
  Reader.verbatim.check fun raw => do
    let s ← unquote raw
    (read s).mapError .number

def unsigned : Reader Nat := reader readUnsigned

def signed : Reader Int := reader readSigned

def quoted (n : Nat) : List Char := Render.string (decimalText n)

def quotedInteger (z : Int) : List Char := Render.string (integerText z)

end Tronkit.Json.BigNumber
