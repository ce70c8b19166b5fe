import Tronkit.Number.Binary64

/-!
# Shortest decimal text of a floating point number

Among the decimals that read back as the number, the one with the fewest digits is written, and
of those the nearest. Numbers with a decimal exponent from -5 to 15 are written in positions,
the others with an exponent and its sign.
-/

namespace Tronkit.Binary64

/-- The numbers that round to `x` lie between these multiples of `2 ^ (exponent - 2)`. -/
def bounds (x : Binary64) : Nat × Nat :=
  let atPower := x.significand = Nat.pow 2 (precision - 1) && minExponent < x.exponent
  (4 * x.significand - (if atPower then 1 else 2), 4 * x.significand + 2)

structure Decimal where
  significand : Nat
  exponent : Int

/-- Both sides of `s * 10 ^ k` compared with `q * 2 ^ e` as natural numbers. -/
def commonScale (s : Nat) (k : Int) (q : Nat) (e : Int) : Nat × Nat :=
  (s * Nat.pow 10 k.toNat * Nat.pow 2 (-e).toNat,
    q * Nat.pow 2 e.toNat * Nat.pow 10 (-k).toNat)

def Decimal.readsAs (d : Decimal) (x : Binary64) : Bool :=
  let (low, high) := x.bounds
  let e := x.exponent - 2
  let (a, b) := commonScale d.significand d.exponent low e
  let (c, h) := commonScale d.significand d.exponent high e
  if x.significand % 2 = 0 then b ≤ a && c ≤ h else b < a && c < h

def neighbours (x : Binary64) (k : Int) : Decimal × Decimal :=
  let (unit, value) := commonScale 1 k x.significand x.exponent
  let s := value / unit
  (⟨s, k⟩, ⟨s + 1, k⟩)

def nearer (x : Binary64) (low high : Decimal) : Decimal :=
  let (unit, value) := commonScale 1 low.exponent x.significand x.exponent
  let twice := 2 * (value % unit)
  if twice < unit || (twice = unit && low.significand % 2 = 0) then low else high

def onGrid? (x : Binary64) (k : Int) : Option Decimal :=
  let (low, high) := x.neighbours k
  match low.readsAs x && low.significand ≠ 0, high.readsAs x with
  | true, true => some (x.nearer low high)
  | true, false => some low
  | false, true => some high
  | false, false => none

def search (x : Binary64) : (count : Nat) → (k : Int) → Decimal
  | 0, k => (x.neighbours k).1
  | count + 1, k => (x.onGrid? k).getD (search x count (k - 1))

def topExponent (x : Binary64) : Int :=
  let bits : Int := (Nat.log2 x.significand : Int) + 1 + x.exponent
  if 0 ≤ bits then bits * 302 / 1000 else bits * 301 / 1000

def shortest (x : Binary64) : Decimal := search x 22 (x.topExponent + 1)

def stripZeros : (fuel : Nat) → Decimal → Decimal
  | 0, d => d
  | fuel + 1, d =>
    if d.significand ≠ 0 && d.significand % 10 = 0 then
      stripZeros fuel ⟨d.significand / 10, d.exponent + 1⟩
    else d

def exponentText (e : Int) : List Char :=
  (if e < 0 then '-' else '+') :: Nat.toDigits 10 e.natAbs

def decimalLayout (d : Decimal) : List Char :=
  let digits := Nat.toDigits 10 d.significand
  let scientific : Int := d.exponent + digits.length - 1
  if -5 ≤ scientific && scientific ≤ 15 then
    if 0 ≤ d.exponent then digits ++ List.replicate d.exponent.toNat '0' ++ ['.', '0']
    else if 0 ≤ scientific then
      digits.take (scientific.toNat + 1) ++ '.' :: digits.drop (scientific.toNat + 1)
    else '0' :: '.' :: List.replicate (-scientific - 1).toNat '0' ++ digits
  else
    digits.take 1 ++ (if digits.length = 1 then [] else '.' :: digits.drop 1)
      ++ 'e' :: exponentText scientific

def render (x : Binary64) : List Char :=
  (if x.negative then ['-'] else [])
    ++ if x.isZero then ['0', '.', '0'] else decimalLayout (stripZeros 400 x.shortest)

end Tronkit.Binary64
