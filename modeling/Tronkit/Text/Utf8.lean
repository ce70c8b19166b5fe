import Tronkit.Bytes

/-!
# UTF-8

Texts are sequences of characters, wire data are bytes. `units` reads bytes as characters and
marks every maximal ill-formed part once; the strict reading refuses a marked part, the lossy
reading puts U+FFFD in its place.
-/

namespace Tronkit.Utf8

def encodeChar (c : Char) : Bytes :=
  let n := c.toNat
  if n < 0x80 then [UInt8.ofNat n]
  else if n < 0x800 then [UInt8.ofNat (0xC0 + n / 0x40), UInt8.ofNat (0x80 + n % 0x40)]
  else if n < 0x10000 then
    [UInt8.ofNat (0xE0 + n / 0x1000), UInt8.ofNat (0x80 + n / 0x40 % 0x40),
      UInt8.ofNat (0x80 + n % 0x40)]
  else
    [UInt8.ofNat (0xF0 + n / 0x40000), UInt8.ofNat (0x80 + n / 0x1000 % 0x40),
      UInt8.ofNat (0x80 + n / 0x40 % 0x40), UInt8.ofNat (0x80 + n % 0x40)]

def encode (cs : List Char) : Bytes := cs.flatMap encodeChar

@[simp] theorem encode_nil : encode [] = [] := rfl

@[simp] theorem encode_cons (c : Char) (cs : List Char) :
    encode (c :: cs) = encodeChar c ++ encode cs := rfl

@[simp] theorem encode_append (cs ds : List Char) : encode (cs ++ ds) = encode cs ++ encode ds := by
  simp [encode]

def size (cs : List Char) : Nat := (encode cs).length

/-- A character begun but not finished: the continuation bytes still due, the bits read so far,
and the range of the next byte. -/
structure Pending where
  due : Nat
  bits : Nat
  low : UInt8 := 0x80
  high : UInt8 := 0xBF

/-- The range of the second byte excludes overlong forms, surrogates and values past U+10FFFF. -/
def Pending.ofLead (b : UInt8) : Option Pending :=
  if b < 0xC2 then none
  else if b < 0xE0 then some { due := 1, bits := b.toNat - 0xC0 }
  else if b < 0xF0 then
    some { due := 2, bits := b.toNat - 0xE0, low := if b = 0xE0 then 0xA0 else 0x80,
           high := if b = 0xED then 0x9F else 0xBF }
  else if b < 0xF5 then
    some { due := 3, bits := b.toNat - 0xF0, low := if b = 0xF0 then 0x90 else 0x80,
           high := if b = 0xF4 then 0x8F else 0xBF }
  else none

def Pending.accepts (p : Pending) (b : UInt8) : Bool := p.low ≤ b && b ≤ p.high

def Pending.push (p : Pending) (b : UInt8) : Pending :=
  { due := p.due - 1, bits := p.bits * 0x40 + (b.toNat - 0x80) }

def units : Option Pending → Bytes → List (Option Char)
  | none, [] => []
  | some _, [] => [none]
  | pending, b :: rest =>
    match pending with
    | some p =>
      if p.accepts b then
        let q := p.push b
        if q.due = 0 then some (Char.ofNat q.bits) :: units none rest else units (some q) rest
      else if b < 0x80 then none :: some (Char.ofNat b.toNat) :: units none rest
      else match Pending.ofLead b with
        | some q => none :: units (some q) rest
        | none => none :: none :: units none rest
    | none =>
      if b < 0x80 then some (Char.ofNat b.toNat) :: units none rest
      else match Pending.ofLead b with
        | some q => units (some q) rest
        | none => none :: units none rest

def collect : List (Option Char) → Option (List Char)
  | [] => some []
  | none :: _ => none
  | some c :: rest => (collect rest).map (c :: ·)

def decode? (bs : Bytes) : Option (List Char) := collect (units none bs)

def decodeLossy (bs : Bytes) : List Char := (units none bs).map (·.getD '\uFFFD')

def dropBytes? : (n : Nat) → List Char → Option (List Char)
  | 0, cs => some cs
  | _ + 1, [] => none
  | n + 1, c :: cs =>
    let k := (encodeChar c).length
    if k ≤ n + 1 then dropBytes? (n + 1 - k) cs else none

def takeBytes? : (n : Nat) → List Char → Option (List Char)
  | 0, _ => some []
  | _ + 1, [] => none
  | n + 1, c :: cs =>
    let k := (encodeChar c).length
    if k ≤ n + 1 then (takeBytes? (n + 1 - k) cs).map (c :: ·) else none

def slice? (cs : List Char) (start stop : Nat) : Option (List Char) :=
  if stop < start then none else (dropBytes? start cs).bind (takeBytes? (stop - start))

end Tronkit.Utf8

namespace Tronkit

def textBytes (s : String) : Bytes := Utf8.encode s.toList

def textOfBytes? (bs : Bytes) : Option String := (Utf8.decode? bs).map String.ofList

def lossyText (bs : Bytes) : String := String.ofList (Utf8.decodeLossy bs)

end Tronkit
