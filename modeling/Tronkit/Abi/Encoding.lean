import Tronkit.Abi.Value

/-!
# Encoding of the contract interface

A sequence of values is a sequence of heads followed by tails. A static value stands in the head;
of a dynamic one the head holds the offset of its tail. All parts are whole words, so every
encoding is a multiple of 32 bytes. A token is of a type if their constructors agree; the width of
a number is not looked at.
-/

namespace Tronkit.AbiToken

def word (n : Nat) : Bytes := Bytes.ofNat 32 n

inductive Part
  | head (bs : Bytes)
  | tail (bs : Bytes)

namespace Part

def headSize : Part → Nat
  | head bs => bs.length
  | tail _ => 32

def isTail : Part → Bool
  | head _ => false
  | tail _ => true

end Part

def heads : (offset : Nat) → List Part → Bytes
  | _, [] => []
  | offset, .head bs :: parts => bs ++ heads offset parts
  | offset, .tail bs :: parts => word offset ++ heads (offset + bs.length) parts

def tails : List Part → Bytes
  | [] => []
  | .head _ :: parts => tails parts
  | .tail bs :: parts => bs ++ tails parts

def headsSize : List Part → Nat
  | [] => 0
  | p :: parts => p.headSize + headsSize parts

def join (parts : List Part) : Bytes := heads (headsSize parts) parts ++ tails parts

def counted (bs : Bytes) : Bytes := word bs.length ++ Bytes.padWords bs

/-- A sequence of a fixed number of parts is as static as they are. -/
def group (parts : List Part) : Part :=
  if parts.any Part.isTail then .tail (join parts) else .head (join parts)

mutual
def part : AbiToken → Part
  | address a => .head (word a.hash.toNat)
  | uint w => .head (word w.toNat)
  | int w => .head (word w.toNat)
  | bool b => .head (word (if b then 1 else 0))
  | fixedBytes bs => .head (Bytes.padWords bs)
  | string s => .tail (counted (textBytes s))
  | bytes bs => .tail (counted bs)
  | array ts => .tail (word ts.length ++ join (parts ts))
  | fixedArray ts => group (parts ts)
  | tuple ts => group (parts ts)
def parts : List AbiToken → List Part
  | [] => []
  | t :: ts => part t :: parts ts
end

def encode (ts : List AbiToken) : Bytes := join (parts ts)

mutual
def isOf : AbiType → AbiToken → Bool
  | .address, .address _ => true
  | .bytes, .bytes _ => true
  | .int _, .int _ => true
  | .uint _, .uint _ => true
  | .bool, .bool _ => true
  | .string, .string _ => true
  | .fixedBytes size, .fixedBytes bs => decide (bs.length ≤ size)
  | .array t, .array ts => ts.all (isOf t)
  | .fixedArray t size, .fixedArray ts => ts.length == size && ts.all (isOf t)
  | .tuple types, .tuple ts => areOf types ts
  | _, _ => false
def areOf : List AbiType → List AbiToken → Bool
  | [], [] => true
  | t :: types, token :: ts => isOf t token && areOf types ts
  | _, _ => false
end

theorem parts_eq_map (ts : List AbiToken) : parts ts = ts.map part := by
  induction ts with
  | nil => rfl
  | cons t ts ih => simp [parts, ih]

@[simp] theorem length_word (n : Nat) : (word n).length = 32 := by simp [word]

theorem length_heads (offset : Nat) (ps : List Part) :
    (heads offset ps).length = headsSize ps := by
  induction ps generalizing offset with
  | nil => rfl
  | cons p ps ih => cases p <;> simp [heads, headsSize, Part.headSize, ih]

end Tronkit.AbiToken
