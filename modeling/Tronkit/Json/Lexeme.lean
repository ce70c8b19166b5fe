import Tronkit.Text.Utf8
import Tronkit.Text.Digits

/-!
# Lexemes of JSON

The words that a JSON text is made of, cut from the front of a byte sequence: blanks, literal
words, the content of a string, and numerals split into their parts. A string content keeps its
escapes; `unescape?` resolves them and refuses half of a surrogate pair.
-/

namespace Tronkit.Json

def isBlank (b : UInt8) : Bool := b = 0x20 || b = 0x09 || b = 0x0A || b = 0x0D

def skipBlanks (bs : Bytes) : Bytes := bs.dropWhile isBlank

def after? : (word bs : Bytes) → Option Bytes
  | [], bs => some bs
  | _ :: _, [] => none
  | w :: ws, b :: bs => if w = b then after? ws bs else none

theorem after?_append (word rest : Bytes) : after? word (word ++ rest) = some rest := by
  induction word with
  | nil => rfl
  | cons w ws ih => simp [after?, ih]

def nullWord : Bytes := [0x6E, 0x75, 0x6C, 0x6C]

def trueWord : Bytes := [0x74, 0x72, 0x75, 0x65]

def falseWord : Bytes := [0x66, 0x61, 0x6C, 0x73, 0x65]

def hexValue? (b : UInt8) : Option Nat := Digits.value? 16 (Char.ofNat b.toNat)

def codeUnit? (a b c d : UInt8) : Option Nat := do
  pure (0x1000 * (← hexValue? a) + 0x100 * (← hexValue? b) + 0x10 * (← hexValue? c)
    + (← hexValue? d))

def escapedByte? (b : UInt8) : Option UInt8 :=
  if b = 0x22 || b = 0x5C || b = 0x2F then some b
  else if b = 0x62 then some 0x08
  else if b = 0x66 then some 0x0C
  else if b = 0x6E then some 0x0A
  else if b = 0x72 then some 0x0D
  else if b = 0x74 then some 0x09
  else none

def consTo (front : Bytes) (p : Bytes × Bytes) : Bytes × Bytes := (front ++ p.1, p.2)

def content? : Bytes → Option (Bytes × Bytes)
  | [] => none
  | 0x5C :: 0x75 :: a :: b :: c :: d :: rest =>
    if (codeUnit? a b c d).isSome then (content? rest).map (consTo [0x5C, 0x75, a, b, c, d])
    else none
  | 0x5C :: e :: rest =>
    if (escapedByte? e).isSome then (content? rest).map (consTo [0x5C, e]) else none
  | b :: rest =>
    if b = 0x22 then some ([], rest)
    else if b < 0x20 || b = 0x5C then none
    else (content? rest).map (consTo [b])

theorem content?_quote (rest : Bytes) : content? (0x22 :: rest) = some ([], rest) := by
  rw [content?.eq_4]
  · rfl
  · intro _ _ _ _ _ e
    exact absurd e (by decide)
  · intro _ _ e
    exact absurd e (by decide)

theorem content?_letter {e b : UInt8} (h : escapedByte? e = some b) (rest : Bytes) :
    content? (0x5C :: e :: rest) = (content? rest).map (consTo [0x5C, e]) := by
  rw [content?.eq_3]
  · simp [h]
  · rintro _ _ _ _ _ rfl
    simp [escapedByte?] at h

theorem content?_unit {a b c d : UInt8} {n : Nat} (h : codeUnit? a b c d = some n) (rest : Bytes) :
    content? (0x5C :: 0x75 :: a :: b :: c :: d :: rest) =
      (content? rest).map (consTo [0x5C, 0x75, a, b, c, d]) := by
  rw [content?.eq_2, h, Option.isSome_some, if_pos rfl]

def isHighSurrogate (n : Nat) : Bool := 0xD800 ≤ n && n < 0xDC00

def isLowSurrogate (n : Nat) : Bool := 0xDC00 ≤ n && n < 0xE000

def unescape? : Bytes → Option Bytes
  | [] => some []
  | 0x5C :: 0x75 :: a :: b :: c :: d :: rest => do
    let unit ← codeUnit? a b c d
    if isLowSurrogate unit then none
    else if isHighSurrogate unit then
      match rest with
      | 0x5C :: 0x75 :: e :: f :: g :: h :: rest' => do
        let low ← codeUnit? e f g h
        if isLowSurrogate low then do
          let n := 0x10000 + 0x400 * (unit - 0xD800) + (low - 0xDC00)
          pure (Utf8.encodeChar (Char.ofNat n) ++ (← unescape? rest'))
        else none
      | _ => none
    else pure (Utf8.encodeChar (Char.ofNat unit) ++ (← unescape? rest))
  | 0x5C :: e :: rest => do
    let b ← escapedByte? e
    pure (b :: (← unescape? rest))
  | b :: rest => do pure (b :: (← unescape? rest))

theorem unescape?_letter {e b : UInt8} (h : escapedByte? e = some b) (rest : Bytes) :
    unescape? (0x5C :: e :: rest) = (unescape? rest).map ([b] ++ ·) := by
  rw [unescape?.eq_3]
  · rw [h]
    cases unescape? rest <;> rfl
  · rintro _ _ _ _ _ rfl
    simp [escapedByte?] at h

theorem unescape?_unit {a b c d : UInt8} {n : Nat} (h : codeUnit? a b c d = some n)
    (hn : n < 0xD800) (rest : Bytes) :
    unescape? (0x5C :: 0x75 :: a :: b :: c :: d :: rest) =
      (unescape? rest).map (Utf8.encodeChar (Char.ofNat n) ++ ·) := by
  have hhigh : isHighSurrogate n = false := by simp [isHighSurrogate]; omega
  have hlow : isLowSurrogate n = false := by simp [isLowSurrogate]; omega
  rw [unescape?.eq_2, h]
  simp only [hhigh, hlow, Option.bind_eq_bind, Option.bind_some]
  cases unescape? rest <;> rfl

def contentText? (content : Bytes) : Option String := (unescape? content).bind textOfBytes?

/-- A numeral: its sign, the digits before the point, and the digits after the point and in the
exponent if it has them. -/
structure Numeral where
  negative : Bool
  whole : List Nat
  fraction : Option (List Nat)
  exponent : Option (Bool × List Nat)

def digit? (b : UInt8) : Option Nat :=
  if 0x30 ≤ b && b ≤ 0x39 then some (b.toNat - 0x30) else none

def digitRun : Bytes → List Nat × Bytes
  | [] => ([], [])
  | b :: bs =>
    match digit? b with
    | some d =>
      let (ds, rest) := digitRun bs
      (d :: ds, rest)
    | none => ([], b :: bs)

def someDigits? (bs : Bytes) : Option (List Nat × Bytes) :=
  match digitRun bs with
  | ([], _) => none
  | run => some run

def sign : Bytes → Bool × Bytes
  | 0x2D :: bs => (true, bs)
  | bs => (false, bs)

def exponentSign : Bytes → Bool × Bytes
  | 0x2D :: bs => (true, bs)
  | 0x2B :: bs => (false, bs)
  | bs => (false, bs)

/-- A zero in front stands alone. -/
def wholePart? (bs : Bytes) : Option (List Nat × Bytes) :=
  match digitRun bs with
  | ([], _) => none
  | (0 :: _ :: _, _) => none
  | run => some run

def fractionPart? : Bytes → Option (Option (List Nat) × Bytes)
  | 0x2E :: bs => (someDigits? bs).map fun (ds, rest) => (some ds, rest)
  | bs => some (none, bs)

def exponentPart? : Bytes → Option (Option (Bool × List Nat) × Bytes)
  | b :: bs =>
    if b = 0x65 || b = 0x45 then
      let (negative, bs) := exponentSign bs
      (someDigits? bs).map fun (ds, rest) => (some (negative, ds), rest)
    else some (none, b :: bs)
  | [] => some (none, [])

def numeral? (bs : Bytes) : Option (Numeral × Bytes) := do
  let (negative, bs) := sign bs
  let (whole, bs) ← wholePart? bs
  let (fraction, bs) ← fractionPart? bs
  let (exponent, bs) ← exponentPart? bs
  pure (⟨negative, whole, fraction, exponent⟩, bs)

inductive Skipped
  | element
  | member
  | nextElement
  | nextMember

def skip? : (fuel : Nat) → Option Skipped → Bytes → Option Bytes
  | 0, _, _ => none
  | fuel + 1, none, bs =>
    match skipBlanks bs with
    | [] => none
    | b :: rest =>
      if b = 0x22 then (content? rest).map Prod.snd
      else if b = 0x5B then
        match skipBlanks rest with
        | 0x5D :: rest => some rest
        | rest => skip? fuel (some .element) rest
      else if b = 0x7B then
        match skipBlanks rest with
        | 0x7D :: rest => some rest
        | rest => skip? fuel (some .member) rest
      else if b = 0x6E then after? nullWord (b :: rest)
      else if b = 0x74 then after? trueWord (b :: rest)
      else if b = 0x66 then after? falseWord (b :: rest)
      else (numeral? (b :: rest)).map Prod.snd
  | fuel + 1, some .element, bs => (skip? fuel none bs).bind (skip? fuel (some .nextElement))
  | fuel + 1, some .nextElement, bs =>
    match skipBlanks bs with
    | 0x2C :: rest => skip? fuel (some .element) rest
    | 0x5D :: rest => some rest
    | _ => none
  | fuel + 1, some .member, bs =>
    match skipBlanks bs with
    | 0x22 :: rest => (content? rest).bind fun p =>
      match skipBlanks p.2 with
      | 0x3A :: rest => (skip? fuel none rest).bind (skip? fuel (some .nextMember))
      | _ => none
    | _ => none
  | fuel + 1, some .nextMember, bs =>
    match skipBlanks bs with
    | 0x2C :: rest => skip? fuel (some .member) rest
    | 0x7D :: rest => some rest
    | _ => none

/-- Passes over one value; no value has more parts than twice its bytes. -/
def skipValue? (bs : Bytes) : Option Bytes := skip? (2 * bs.length + 2) none bs

end Tronkit.Json
