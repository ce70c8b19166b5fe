import Tronkit.Bytes
import Tronkit.Text.Digits
import Tronkit.Text.Quoted
import Tronkit.Digest.Sha256

/-!
# Base58 with a checksum

Bytes are a number in base 256, written in base 58 without the look-alike characters; each zero
byte in front is written as one `1`. A checked text carries the first four bytes of the double
SHA-256 of its content.
-/

namespace Tronkit

inductive Base58Fault
  | invalidCharacter (c : Char) (position : Nat)
  | notAscii (position : Nat)
  | noChecksum
  | wrongChecksum (computed given : Bytes)
  deriving Repr, DecidableEq

def Base58Fault.message : Base58Fault → String
  | invalidCharacter c i =>
    "provided string contained invalid character " ++ Quoted.character c ++ " at byte "
      ++ decimalText i
  | notAscii i =>
    "provided string contained non-ascii character starting at byte " ++ decimalText i
  | noChecksum => "provided string is too small to contain a checksum"
  | wrongChecksum computed given =>
    "invalid checksum, calculated checksum: '" ++ Quoted.bytes computed ++ "', expected checksum: "
      ++ Quoted.bytes given

namespace Base58

def alphabet : List Char := "123456789ABCDEFGHJKLMNPQRSTUVWXYZabcdefghijkmnopqrstuvwxyz".toList

def digit (n : Nat) : Char := alphabet.getD n '1'

def value? (c : Char) : Option Nat := alphabet.idxOf? c

def leading {α : Type} [DecidableEq α] (a : α) (as : List α) : Nat := (as.takeWhile (· = a)).length

def encode (bs : Bytes) : List Char :=
  List.replicate (leading 0 bs) '1' ++ (Digits.ofNat 58 bs.toNat).map digit

def values : (position : Nat) → List Char → Except Base58Fault (List Nat)
  | _, [] => .ok []
  | i, c :: cs =>
    match value? c with
    | some d => do
      let ds ← values (i + 1) cs
      pure (d :: ds)
    | none => .error (if c.toNat < 0x80 then .invalidCharacter c i else .notAscii i)

def decode (cs : List Char) : Except Base58Fault Bytes := do
  let ds ← values 0 cs
  pure (Bytes.zeros (leading '1' cs) ++ (Digits.ofNat 256 (Digits.fold 58 ds)).map UInt8.ofNat)

def checksum (bs : Bytes) : Bytes := (Sha256.digest (Sha256.digest bs)).take 4

def encodeChecked (bs : Bytes) : List Char := encode (bs ++ checksum bs)

def withoutChecksum (bs : Bytes) : Except Base58Fault Bytes :=
  if bs.length < 4 then .error .noChecksum
  else
    let content := bs.take (bs.length - 4)
    let given := bs.drop (bs.length - 4)
    if checksum content = given then .ok content
    else .error (.wrongChecksum (checksum content) given)

def decodeChecked (cs : List Char) : Except Base58Fault Bytes := do
  withoutChecksum (← decode cs)

theorem value?_digit : ∀ n < 58, value? (digit n) = some n := by decide

theorem length_checksum (bs : Bytes) : (checksum bs).length = 4 := by
  simp [checksum, Sha256.length_digest]

theorem withoutChecksum_append (bs : Bytes) : withoutChecksum (bs ++ checksum bs) = .ok bs := by
  simp [withoutChecksum, length_checksum]

end Base58
end Tronkit
