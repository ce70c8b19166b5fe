import Tronkit.Text.Digits

/-!
# Punycode

A label with characters beyond ASCII is written in ASCII: its ASCII characters, then the other
code points in ascending order, each as the distance from the one before it. A distance is a
numeral in base 36 whose digits say where it ends, and the thresholds adapt to the distances.
-/

namespace Tronkit.Domain.Punycode

def digit (n : Nat) : Char := if n < 26 then Char.ofNat (0x61 + n) else Char.ofNat (0x16 + n)

def value? (c : Char) : Option Nat :=
  if 'a' ≤ c ∧ c ≤ 'z' then some (c.toNat - 0x61)
  else if 'A' ≤ c ∧ c ≤ 'Z' then some (c.toNat - 0x41)
  else if '0' ≤ c ∧ c ≤ '9' then some (c.toNat - 0x16)
  else none

def threshold (bias k : Nat) : Nat := min 26 (max 1 (36 * k - bias))

def settle : (fuel delta k : Nat) → Nat
  | 0, delta, k => k + 36 * delta / (delta + 38)
  | fuel + 1, delta, k =>
    if 455 < delta then settle fuel (delta / 35) (k + 36) else k + 36 * delta / (delta + 38)

def adapt (delta count : Nat) (first : Bool) : Nat :=
  let delta := if first then delta / 700 else delta / 2
  settle delta (delta + delta / count) 0

def numeral (bias : Nat) : (fuel k delta : Nat) → List Char
  | 0, _, delta => [digit delta]
  | fuel + 1, k, delta =>
    let t := threshold bias k
    if delta < t then [digit delta]
    else digit (t + (delta - t) % (36 - t)) :: numeral bias fuel (k + 1) ((delta - t) / (36 - t))

structure Coder where
  delta : Nat
  bias : Nat
  done : Nat
  first : Bool
  out : List Char

def encodeOne (n : Nat) (s : Coder) (c : Char) : Coder :=
  if c.toNat < n then { s with delta := s.delta + 1 }
  else if c.toNat = n then
    { delta := 0, bias := adapt s.delta (s.done + 1) s.first, done := s.done + 1, first := false,
      out := s.out ++ numeral s.bias s.delta 1 s.delta }
  else s

def encodeFrom (label : List Char) : (low : Nat) → List Nat → Coder → Coder
  | _, [], s => s
  | low, n :: ns, s =>
    let s := label.foldl (encodeOne n) { s with delta := s.delta + (n - low) * (s.done + 1) }
    encodeFrom label (n + 1) ns { s with delta := s.delta + 1 }

def isAscii (c : Char) : Bool := c.toNat < 0x80

def encode (label : List Char) : List Char :=
  let basic := label.filter isAscii
  let others := ((label.filter (!isAscii ·)).map Char.toNat).mergeSort (· ≤ ·)
  let s := encodeFrom label 0x80 others.eraseReps
    { delta := 0, bias := 72, done := basic.length, first := true, out := [] }
  basic ++ (if basic = [] then [] else ['-']) ++ s.out

/-- The numeral that begins with the digit at place `k`. Its weights are below `2 ^ 32`. -/
def readNumeral? (bias : Nat) : (k weight i : Nat) → List Char → Option (Nat × List Char)
  | _, _, _, [] => none
  | k, weight, i, c :: cs => do
    let d ← value? c
    let t := threshold bias k
    if d < t then pure (i + d * weight, cs)
    else if 4294967296 ≤ weight * (36 - t) then none
    else readNumeral? bias (k + 1) (weight * (36 - t)) (i + d * weight) cs

def decodeFrom? : (fuel n i bias : Nat) → (first : Bool) → List Char → List Char →
    Option (List Char)
  | _, _, _, _, _, out, [] => some out
  | 0, _, _, _, _, _, _ => none
  | fuel + 1, n, i, bias, first, out, cs => do
    let (next, rest) ← readNumeral? bias 1 1 i cs
    let count := out.length + 1
    let n := n + next / count
    let place := next % count
    if n.isValidChar then
      decodeFrom? fuel n (place + 1) (adapt (next - i) count first) false
        (out.take place ++ Char.ofNat n :: out.drop place) rest
    else none

/-- A hyphen parts the ASCII characters from the numerals. There is none if there is nothing to
part from them. -/
def decode? (cs : List Char) : Option (List Char) :=
  let rest := (cs.reverse.takeWhile (· ≠ '-')).reverse
  let front := cs.take (cs.length - rest.length)
  let basic := front.dropLast
  if front ≠ ['-'] && basic.all isAscii then decodeFrom? cs.length 0x80 0 72 true basic rest
  else none

end Tronkit.Domain.Punycode
