import Tronkit.Text.Digits

/-!
# Binary floating point with 53 significant bits

A finite number is a sign, a significand and a power of two. `round?` brings a positive fraction
to the nearest such number, a tie to the even significand, and refuses what is too large. Decimal
numerals are read with one rounding for the significand, one for the power of ten and one for
their product or quotient, so a reading may differ from the nearest number in its last bit.
-/

namespace Tronkit

structure Binary64 where
  negative : Bool
  significand : Nat
  exponent : Int
  deriving DecidableEq, Repr

namespace Binary64

def precision : Nat := 53

def minExponent : Int := -1074

def maxExponent : Int := 971

def zero (negative : Bool) : Binary64 := ⟨negative, 0, minExponent⟩

def scaled (num den : Nat) (e : Int) : Nat × Nat :=
  match e with
  | .ofNat e => (num, den * Nat.pow 2 e)
  | .negSucc e => (num * Nat.pow 2 (e + 1), den)

def nearestEven (num den : Nat) : Nat :=
  let q := num / den
  let twice := 2 * (num % den)
  if den < twice || (twice = den && q % 2 = 1) then q + 1 else q

/-- The exponent at which the significand of `num / den` has 53 bits, or the least exponent. -/
def exponentOf (num den : Nat) : Int :=
  let guess : Int := (Nat.log2 num : Int) - Nat.log2 den - precision
  let (n, d) := scaled num den guess
  let e := if n / d < Nat.pow 2 precision then guess else guess + 1
  max e minExponent

def round? (num den : Nat) : Option Binary64 :=
  if num = 0 then some (zero false)
  else
    let e := exponentOf num den
    let (n, d) := scaled num den e
    let m := nearestEven n d
    let (m, e) := if m = Nat.pow 2 precision then (Nat.pow 2 (precision - 1), e + 1)
      else (m, e)
    if maxExponent < e then none else some ⟨false, m, e⟩

def fraction (x : Binary64) : Nat × Nat :=
  match x.exponent with
  | .ofNat e => (x.significand * Nat.pow 2 e, 1)
  | .negSucc e => (x.significand, Nat.pow 2 (e + 1))

def isZero (x : Binary64) : Bool := x.significand = 0

def times? (x y : Binary64) : Option Binary64 :=
  let (a, b) := x.fraction
  let (c, d) := y.fraction
  round? (a * c) (b * d)

def over? (x y : Binary64) : Option Binary64 :=
  let (a, b) := x.fraction
  let (c, d) := y.fraction
  round? (a * d) (b * c)

/-- A significand times a power of ten. The powers reach `10 ^ 308`; a smaller number is divided
twice, and is zero if that is not enough. -/
def ofDecimal? (negative : Bool) (significand : Nat) (exponent : Int) : Option Binary64 := do
  let x ← round? significand 1
  let magnitude ←
    if x.isZero || exponent < -616 then some (zero false)
    else if 308 < exponent then none
    else if 0 ≤ exponent then x.times? (← round? (Nat.pow 10 exponent.toNat) 1)
    else if -308 ≤ exponent then x.over? (← round? (Nat.pow 10 (-exponent).toNat) 1)
    else do
      let y ← x.over? (← round? (Nat.pow 10 308) 1)
      y.over? (← round? (Nat.pow 10 (-exponent - 308).toNat) 1)
  pure { magnitude with negative := negative }

end Binary64
end Tronkit
