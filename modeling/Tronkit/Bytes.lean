/-!
# Byte sequences

Node answers, call data and signatures are sequences of bytes. A number is written big-endian
into a field of fixed width and read back from a field of any width; `toNat_ofNat` says that
the field keeps the number modulo `256 ^ width`.
-/

namespace Tronkit

abbrev Bytes := List UInt8

namespace Bytes

def toNat (bs : Bytes) : Nat := bs.foldl (fun n b => 256 * n + b.toNat) 0

def ofNat : (width n : Nat) → Bytes
  | 0, _ => []
  | width + 1, n => ofNat width (n / 256) ++ [UInt8.ofNat n]

@[simp] theorem length_ofNat (width n : Nat) : (ofNat width n).length = width := by
  induction width generalizing n with
  | zero => rfl
  | succ width ih => simp [ofNat, ih]

@[simp] theorem toNat_nil : toNat [] = 0 := rfl

theorem toNat_append_singleton (bs : Bytes) (b : UInt8) :
    toNat (bs ++ [b]) = 256 * toNat bs + b.toNat := by
  simp [toNat, List.foldl_append]

theorem toNat_ofNat (width n : Nat) : toNat (ofNat width n) = n % Nat.pow 256 width := by
  induction width generalizing n with
  | zero => exact (Nat.mod_one n).symm
  | succ width ih =>
    have step : Nat.pow 256 (width + 1) = 256 * Nat.pow 256 width := Nat.pow_succ'
    rw [ofNat, toNat_append_singleton, ih, step, Nat.mod_mul, Nat.add_comm]
    simp

def zeros (n : Nat) : Bytes := List.replicate n 0

def padWords (bs : Bytes) : Bytes := bs ++ zeros ((32 - bs.length % 32) % 32)

def slice? (bs : Bytes) (offset len : Nat) : Option Bytes :=
  if offset + len ≤ bs.length then some ((bs.drop offset).take len) else none

end Bytes
end Tronkit
