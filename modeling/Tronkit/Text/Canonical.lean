import Tronkit.Text.Canonical.Table

/-!
# Canonical composition

A text in its canonical composed form: characters are taken apart, marks of different classes are
put in the order of their classes, and every character takes up the marks that it can. Text below
the first mark is in this form already (`normalize_of_low`).
-/

namespace Tronkit.Canonical

def classOf (c : Char) : Nat :=
  if c.toNat < 0x300 then 0 else ((classes.get? c).bind (·.head?)).getD 0

def isSyllable (n : Nat) : Bool := 0xAC00 ≤ n && n < 0xD7A4

/-- A syllable has a first consonant, a vowel, and a last consonant or none. -/
def syllableParts (n : Nat) : List Nat :=
  let i := n - 0xAC00
  let last := i % 28
  [0x1100 + i / 588, 0x1161 + i % 588 / 28] ++ if last = 0 then [] else [0x11A7 + last]

def partCodes (c : Char) : List Nat :=
  let n := c.toNat
  if n < 0xC0 then [n]
  else if isSyllable n then syllableParts n
  else (parts.get? c).getD [n]

/-- Puts a character in front of a text whose marks are in order. -/
def insertMark (c : Nat × Char) : List (Nat × Char) → List (Nat × Char)
  | [] => [c]
  | d :: rest => if d.1 ≠ 0 && d.1 < c.1 then d :: insertMark c rest else c :: d :: rest

def decompose (cs : List Char) : List (Nat × Char) :=
  ((cs.flatMap partCodes).map fun n => (classOf (Char.ofNat n), Char.ofNat n)).foldr insertMark []

def composites : List (Nat × List Nat) :=
  parts.entries.filter fun (n, codes) => 2 ≤ codes.length && !apart.contains (Char.ofNat n)

/-- The syllable of two consonants and a vowel, from its first two parts or from what these make
and the last. -/
def syllable? (a b : Nat) : Option Nat :=
  if 0x1100 ≤ a && a < 0x1113 && 0x1161 ≤ b && b < 0x1176 then
    some (0xAC00 + 588 * (a - 0x1100) + 28 * (b - 0x1161))
  else if isSyllable a && (a - 0xAC00) % 28 = 0 && 0x11A7 < b && b < 0x11C3 then
    some (a + (b - 0x11A7))
  else none

def pair? (a b : Char) : Option Char :=
  if b.toNat < 0x300 then none
  else
    let codes := partCodes a ++ [b.toNat]
    let made := (syllable? a.toNat b.toNat).or
      ((composites.find? fun (_, parts) => parts = codes).map (·.1))
    made.map Char.ofNat

/-- Goes on behind a character and the marks it did not take up, the last of which has the class
`last`. A mark reaches the character only past marks of lower classes. -/
def composeFrom (base : Char) (waiting : List Char) (last : Nat) : List (Nat × Char) → List Char
  | [] => base :: waiting
  | (k, c) :: rest =>
    match if waiting = [] || last < k then pair? base c else none with
    | some made => composeFrom made waiting last rest
    | none =>
      if k = 0 then base :: waiting ++ composeFrom c [] 0 rest
      else composeFrom base (waiting ++ [c]) k rest

def compose : List (Nat × Char) → List Char
  | [] => []
  | (k, c) :: rest => if k = 0 then composeFrom c [] 0 rest else c :: compose rest

def normalize (cs : List Char) : List Char :=
  if cs.all (·.toNat < 0x300) then cs else compose (decompose cs)

theorem normalize_of_low {cs : List Char} (h : ∀ c ∈ cs, c.toNat < 0x300) :
    normalize cs = cs := by
  have all : cs.all (·.toNat < 0x300) = true := by simpa using h
  simp [normalize, all]

end Tronkit.Canonical
