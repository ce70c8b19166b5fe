import Tronkit.Bytes

/-!
# Keccak-256

The sponge with the padding that contract signatures use: one byte `01`, zeros, and the top bit
of the last byte of a block of 136 bytes. The state is twenty-five lanes of 64 bits, the lane of
column `x` and row `y` at `x + 5 * y`. `length_digest` is the width of a digest.
-/

namespace Tronkit.Keccak

abbrev State := Vector UInt64 25

def roundConstants : List UInt64 :=
  [0x0000000000000001, 0x0000000000008082, 0x800000000000808A, 0x8000000080008000,
   0x000000000000808B, 0x0000000080000001, 0x8000000080008081, 0x8000000000008009,
   0x000000000000008A, 0x0000000000000088, 0x0000000080008009, 0x000000008000000A,
   0x000000008000808B, 0x800000000000008B, 0x8000000000008089, 0x8000000000008003,
   0x8000000000008002, 0x8000000000000080, 0x000000000000800A, 0x800000008000000A,
   0x8000000080008081, 0x8000000000008080, 0x0000000080000001, 0x8000000080008008]

def rotations : Vector UInt64 25 :=
  #v[0, 1, 62, 28, 27, 36, 44, 6, 55, 20, 3, 10, 43, 25, 39, 41, 45, 15, 21, 8, 18, 2, 61, 56, 14]

def rotateLeft (x n : UInt64) : UInt64 := if n = 0 then x else x <<< n ||| x >>> (64 - n)

def lane (a : State) (x y : Nat) : UInt64 := a.get ⟨x % 5 + 5 * (y % 5), by omega⟩

def ofLanes (f : (x y : Nat) → UInt64) : State := Vector.ofFn fun i => f (i % 5) (i / 5)

def columnParity (a : State) : Vector UInt64 5 :=
  Vector.ofFn fun x => lane a x 0 ^^^ lane a x 1 ^^^ lane a x 2 ^^^ lane a x 3 ^^^ lane a x 4

def theta (a : State) : State :=
  let c := columnParity a
  let c (x : Nat) := c.get ⟨x % 5, by omega⟩
  ofLanes fun x y => lane a x y ^^^ c (x + 4) ^^^ rotateLeft (c (x + 1)) 1

/-- Each lane is rotated by its own amount and moves to column `y` and row `2x + 3y`. -/
def rhoPi (a : State) : State :=
  ofLanes fun x y => rotateLeft (lane a (x + 3 * y) x) (lane rotations (x + 3 * y) x)

def chi (a : State) : State :=
  ofLanes fun x y => lane a x y ^^^ (~~~lane a (x + 1) y &&& lane a (x + 2) y)

def iota (constant : UInt64) (a : State) : State := a.set 0 (a[0] ^^^ constant)

def round (a : State) (constant : UInt64) : State := iota constant (chi (rhoPi (theta a)))

def permute (a : State) : State := roundConstants.foldl round a

def rate : Nat := 136

/-- A lane holds eight bytes, the low one first. -/
def laneOfBytes (bs : Bytes) : UInt64 := UInt64.ofNat (Bytes.toNat (bs.take 8).reverse)

def absorb (a : State) (block : Bytes) : State :=
  permute (Vector.ofFn fun i => a[i] ^^^ laneOfBytes (block.drop (8 * i)))

def pad (message : Bytes) : Bytes :=
  match rate - message.length % rate with
  | 0 => message
  | 1 => message ++ [0x81]
  | gap + 2 => message ++ 0x01 :: Bytes.zeros gap ++ [0x80]

def blocks : (count : Nat) → Bytes → List Bytes
  | 0, _ => []
  | count + 1, bs => bs.take rate :: blocks count (bs.drop rate)

def digest (message : Bytes) : Bytes :=
  let padded := pad message
  let final := (blocks (padded.length / rate) padded).foldl absorb (Vector.replicate 25 0)
  (final.toList.take 4).flatMap fun w => (Bytes.ofNat 8 w.toNat).reverse

theorem length_digest (message : Bytes) : (digest message).length = 32 := by
  simp only [digest, List.length_flatMap, List.length_reverse, Bytes.length_ofNat]
  simp [List.map_const']

end Tronkit.Keccak
