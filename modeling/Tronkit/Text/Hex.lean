import Tronkit.Bytes
import Tronkit.Text.Digits
import Tronkit.Text.Utf8
import Tronkit.Text.Quoted

/-!
# Hexadecimal text

Bytes are written as two lowercase digits each. Reading takes digits of either case and refuses
a text of odd size first, then the first byte that is no digit. `decode_encode` says that
reading undoes writing.
-/

namespace Tronkit

inductive HexFault
  | oddLength
  | invalidByte (byte : UInt8) (position : Nat)
  deriving Repr, DecidableEq

def HexFault.message : HexFault → String
  | oddLength => "Odd number of digits"
  | invalidByte b i =>
    "Invalid character " ++ Quoted.character (Char.ofNat b.toNat) ++ " at position "
      ++ decimalText i

namespace Hex

def digit (n : Nat) : Char := if n < 10 then Char.ofNat (0x30 + n) else Char.ofNat (0x57 + n)

def pair (b : UInt8) : List Char := [digit (b.toNat / 16), digit (b.toNat % 16)]

def encode (bs : Bytes) : List Char := bs.flatMap pair

def text (bs : Bytes) : String := String.ofList (encode bs)

def invalid (c : Char) (position : Nat) : HexFault :=
  .invalidByte ((Utf8.encodeChar c).headD 0) position

def decodePairs : (position : Nat) → List Char → Except HexFault Bytes
  | _, [] => .ok []
  | i, [c] => .error (invalid c i)
  | i, c :: d :: rest =>
    match Digits.value? 16 c, Digits.value? 16 d with
    | some high, some low => do
      let bs ← decodePairs (i + 2) rest
      pure (UInt8.ofNat (16 * high + low) :: bs)
    | none, _ => .error (invalid c i)
    | _, none => .error (invalid d (i + 1))

def decode (cs : List Char) : Except HexFault Bytes :=
  if Utf8.size cs % 2 = 1 then .error .oddLength else decodePairs 0 cs

def decode? (cs : List Char) : Option Bytes := (decode cs).toOption

@[simp] theorem encode_nil : encode [] = [] := rfl

@[simp] theorem encode_cons (b : UInt8) (bs : Bytes) : encode (b :: bs) = pair b ++ encode bs := rfl

@[simp] theorem encode_append (as bs : Bytes) : encode (as ++ bs) = encode as ++ encode bs := by
  simp [encode]

@[simp] theorem length_encode (bs : Bytes) : (encode bs).length = 2 * bs.length := by
  induction bs with
  | nil => rfl
  | cons b bs ih => simp [pair, ih]; omega

theorem value?_digit : ∀ n < 16, Digits.value? 16 (digit n) = some n := by decide

theorem utf8_digit : ∀ n < 16, (Utf8.encodeChar (digit n)).length = 1 := by decide

theorem value?_pair (b : UInt8) :
    Digits.value? 16 (digit (b.toNat / 16)) = some (b.toNat / 16) ∧
      Digits.value? 16 (digit (b.toNat % 16)) = some (b.toNat % 16) :=
  have h : b.toNat < 256 := b.toNat_lt
  ⟨value?_digit _ (by omega), value?_digit _ (by omega)⟩

theorem decodePairs_encode (i : Nat) (bs : Bytes) : decodePairs i (encode bs) = .ok bs := by
  induction bs generalizing i with
  | nil => rfl
  | cons b bs ih =>
    obtain ⟨h1, h2⟩ := value?_pair b
    have hb : UInt8.ofNat (16 * (b.toNat / 16) + b.toNat % 16) = b := by
      rw [Nat.div_add_mod]; simp
    simp only [encode_cons, pair, List.cons_append, List.nil_append, decodePairs, h1, h2, ih, hb]
    rfl

theorem length_utf8_encode (bs : Bytes) : (Utf8.encode (encode bs)).length = 2 * bs.length := by
  induction bs with
  | nil => rfl
  | cons b bs ih =>
    have h : b.toNat < 256 := b.toNat_lt
    simp [pair, utf8_digit (b.toNat / 16) (by omega), utf8_digit (b.toNat % 16) (by omega), ih]
    omega

theorem decode_encode (bs : Bytes) : decode (encode bs) = .ok bs := by
  simp [decode, Utf8.size, length_utf8_encode, decodePairs_encode]

end Hex
end Tronkit
