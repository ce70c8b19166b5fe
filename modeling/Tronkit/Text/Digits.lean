/-!
# Digits and unsigned integers

A digit of a base up to 36 is a decimal digit or a letter of either case. `Digits.ofNat` lists
the digits of a number, the high one first and none for zero; `fold_ofNat` says that they denote
the number. `Unsigned.read` reads digits under a bound and names the first fault from the left:
a character that is no digit, or a digit that takes the value past the bound.
-/

namespace Tronkit.Digits

def value? (base : Nat) (c : Char) : Option Nat :=
  let n := c.toNat
  let v? :=
    if '0' ≤ c ∧ c ≤ '9' then some (n - 0x30)
    else if 'a' ≤ c ∧ c ≤ 'z' then some (n - 0x61 + 10)
    else if 'A' ≤ c ∧ c ≤ 'Z' then some (n - 0x41 + 10)
    else none
  v?.filter (· < base)

def isHex (c : Char) : Bool := (value? 16 c).isSome

def isDecimal (c : Char) : Bool := '0' ≤ c && c ≤ '9'

def fold (base : Nat) (ds : List Nat) : Nat := ds.foldl (fun n d => base * n + d) 0

def ofNatInto (base : Nat) : (fuel n : Nat) → List Nat → List Nat
  | 0, _, acc => acc
  | fuel + 1, n, acc => if n = 0 then acc else ofNatInto base fuel (n / base) (n % base :: acc)

/-- The digits of a number without leading zeros; a number has fewer digits than its value. -/
def ofNat (base n : Nat) : List Nat := ofNatInto base n n []

def values? (base : Nat) : List Char → Option (List Nat)
  | [] => some []
  | c :: cs => do
    let d ← value? base c
    let ds ← values? base cs
    pure (d :: ds)

theorem foldFrom_ofNatInto {base : Nat} (hb : 2 ≤ base) (fuel n : Nat) (acc : List Nat)
    (h : n ≤ fuel) :
    fold base (ofNatInto base fuel n acc) = acc.foldl (fun m d => base * m + d) n := by
  induction fuel generalizing n acc with
  | zero =>
    obtain rfl : n = 0 := by omega
    rfl
  | succ fuel ih =>
    unfold ofNatInto
    split
    · subst n; rfl
    · have : n / base < n := Nat.div_lt_self (by omega) (by omega)
      rw [ih _ _ (by omega), List.foldl_cons, Nat.div_add_mod]

theorem fold_ofNat {base : Nat} (hb : 2 ≤ base) (n : Nat) : fold base (ofNat base n) = n :=
  foldFrom_ofNatInto hb n n [] (Nat.le_refl n)

theorem value?_lt {base d : Nat} {c : Char} (h : value? base c = some d) : d < base := by
  unfold value? at h
  simpa using (Option.filter_eq_some_iff.1 h).2

end Tronkit.Digits

namespace Tronkit

inductive IntegerFault
  | empty
  | invalidDigit
  | tooLarge
  deriving Repr, DecidableEq

namespace IntegerFault

def message : IntegerFault → String
  | empty => "cannot parse integer from empty string"
  | invalidDigit => "invalid digit found in string"
  | tooLarge => "number too large to fit in target type"

end IntegerFault

namespace Unsigned

def readDigits (base limit : Nat) : (value : Nat) → List Char → Except IntegerFault Nat
  | value, [] => .ok value
  | value, c :: cs =>
    match Digits.value? base c with
    | none => .error .invalidDigit
    | some d =>
      if limit ≤ base * value + d then .error .tooLarge
      else readDigits base limit (base * value + d) cs

/-- Reads an integer below `limit`. One plus sign may lead, if a digit follows it. -/
def read (base limit : Nat) : List Char → Except IntegerFault Nat
  | [] => .error .empty
  | ['+'] => .error .invalidDigit
  | '+' :: cs => readDigits base limit 0 cs
  | cs => readDigits base limit 0 cs

end Unsigned

def decimalText (n : Nat) : String := String.ofList (Nat.toDigits 10 n)

def integerText : Int → String
  | .ofNat n => decimalText n
  | .negSucc n => "-" ++ decimalText (n + 1)

def u64Limit : Nat := Nat.pow 2 64

end Tronkit
