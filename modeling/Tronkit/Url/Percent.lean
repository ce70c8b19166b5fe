import Tronkit.Text.Hex

/-!
# Percent encoding

Each part of a URL has its own set of characters that are written as `%` and two digits for each
of their UTF-8 bytes. Decoding takes every well-formed triple and leaves all else as it stands.
-/

namespace Tronkit.Percent

def isControl (c : Char) : Bool := c.toNat < 0x20 || 0x7E < c.toNat

def inFragment (c : Char) : Bool :=
  isControl c || c = ' ' || c = '"' || c = '<' || c = '>' || c = '\x60'

def inPath (c : Char) : Bool :=
  inFragment c || c = '#' || c = '?' || c = '\x7b' || c = '\x7d'

def inUserinfo (c : Char) : Bool :=
  inPath c || "/:;=@[\\]^|".toList.contains c

def inQuery (special : Bool) (c : Char) : Bool :=
  isControl c || c = ' ' || c = '"' || c = '#' || c = '<' || c = '>' || (special && c = '\'')

def upperDigit (n : Nat) : Char := if n < 10 then Char.ofNat (0x30 + n) else Char.ofNat (0x37 + n)

def triple (b : UInt8) : List Char := ['%', upperDigit (b.toNat / 16), upperDigit (b.toNat % 16)]

def encode (inSet : Char → Bool) (cs : List Char) : List Char :=
  cs.flatMap fun c => if inSet c then (Utf8.encodeChar c).flatMap triple else [c]

theorem encode_of_all_not {inSet : Char → Bool} {cs : List Char} (h : ∀ c ∈ cs, inSet c = false) :
    encode inSet cs = cs := by
  induction cs with
  | nil => rfl
  | cons c cs ih =>
    have tail := ih fun d hd => h d (List.mem_cons_of_mem c hd)
    simp only [encode] at tail
    simp [encode, h c List.mem_cons_self, tail]

def decode : List Char → Bytes
  | [] => []
  | c :: cs =>
    match cs with
    | d :: e :: rest =>
      match c, Digits.value? 16 d, Digits.value? 16 e with
      | '%', some high, some low => UInt8.ofNat (16 * high + low) :: decode rest
      | _, _, _ => Utf8.encodeChar c ++ decode (d :: e :: rest)
    | cs => Utf8.encodeChar c ++ decode cs

end Tronkit.Percent
