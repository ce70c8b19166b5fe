import Tronkit.Domain.Name
import Tronkit.Url.Percent

/-!
# Hosts

A host is a domain name, an address of version 4 or an address of version 6. A name that ends in
a number must be an address. Names are lowered, and written in ASCII if they hold other letters.
-/

namespace Tronkit

inductive UrlFault
  | relative
  | emptyHost
  | invalidName
  | invalidCharacter
  | invalidPort
  | invalidIpv4
  | invalidIpv6
  deriving DecidableEq, Repr

def UrlFault.message : UrlFault → String
  | relative => "relative URL without a base"
  | emptyHost => "empty host"
  | invalidName => "invalid international domain name"
  | invalidCharacter => "invalid domain character"
  | invalidPort => "invalid port number"
  | invalidIpv4 => "invalid IPv4 address"
  | invalidIpv6 => "invalid IPv6 address"

inductive Host
  | name (text : String)
  | ipv4 (address : Nat)
  | ipv6 (pieces : List Nat)
  deriving DecidableEq, Repr

namespace Host

/-- A part of an address: decimal, octal after `0`, hexadecimal after `0x`. -/
def ipv4Number? : List Char → Option Nat
  | [] => none
  | ['0', 'x'] => some 0
  | ['0', 'X'] => some 0
  | '0' :: 'x' :: cs => (Digits.values? 16 cs).map (Digits.fold 16)
  | '0' :: 'X' :: cs => (Digits.values? 16 cs).map (Digits.fold 16)
  | '0' :: cs => (Digits.values? 8 cs).map (Digits.fold 8)
  | cs => (Digits.values? 10 cs).map (Digits.fold 10)

def withoutLastEmpty (parts : List (List Char)) : List (List Char) :=
  if 1 < parts.length && parts.getLast? = some [] then parts.dropLast else parts

def endsInNumber (cs : List Char) : Bool :=
  match (withoutLastEmpty (Split.all '.' cs)).getLast? with
  | some part => (part ≠ [] && part.all Digits.isDecimal) || (ipv4Number? part).isSome
  | none => false

/-- The parts before the last are bytes; the last part fills the bytes that are left. -/
def ipv4Value? : (place : Nat) → List Nat → Option Nat
  | _, [] => none
  | place, [n] => if n < Nat.pow 256 place then some n else none
  | place, n :: rest =>
    if n < 256 then (ipv4Value? (place - 1) rest).map (n * Nat.pow 256 (place - 1) + ·) else none

def parseIpv4 (cs : List Char) : Except UrlFault Host :=
  let parts := withoutLastEmpty (Split.all '.' cs)
  if 4 < parts.length then .error .invalidIpv4
  else match (parts.mapM ipv4Number?).bind (ipv4Value? 4) with
    | some n => .ok (.ipv4 n)
    | none => .error .invalidIpv4

def piece? (cs : List Char) : Option Nat :=
  if cs = [] || 4 < cs.length then none else (Digits.values? 16 cs).map (Digits.fold 16)

def octet? (cs : List Char) : Option Nat :=
  if cs.head? = some '0' && 1 < cs.length then none
  else if cs = [] || 3 < cs.length then none
  else ((Digits.values? 10 cs).map (Digits.fold 10)).filter (· < 256)

def embedded? (cs : List Char) : Option (List Nat) := do
  match ← (Split.all '.' cs).mapM octet? with
  | [a, b, c, d] => pure [256 * a + b, 256 * c + d]
  | _ => none

def pieces? : List (List Char) → Option (List Nat)
  | [] => some []
  | [part] => if part.contains '.' then embedded? part else (piece? part).map ([·])
  | part :: rest => do pure ((← piece? part) :: (← pieces? rest))

def side? (cs : List Char) : Option (List Nat) :=
  if cs = [] then some [] else pieces? (Split.all ':' cs)

def splitGap : List Char → Option (List Char × List Char)
  | [] => none
  | [_] => none
  | ':' :: ':' :: rest => some ([], rest)
  | c :: rest => (splitGap rest).map fun (a, b) => (c :: a, b)

def parseIpv6 (cs : List Char) : Except UrlFault Host :=
  let read := match splitGap cs with
    | none => (side? cs).filter (·.length = 8)
    | some (front, back) => do
      if front.contains '.' then none
      let a ← side? front
      let b ← side? back
      if a.length + b.length ≤ 7 then
        pure (a ++ List.replicate (8 - a.length - b.length) 0 ++ b)
      else none
  match read with
  | some pieces => .ok (.ipv6 pieces)
  | none => .error .invalidIpv6

def isForbidden (c : Char) : Bool :=
  c = '\x00' || c = '\t' || c = '\n' || c = '\r' || " #/:<>?@[\\]^|".toList.contains c

def domain? (cs : List Char) : Option (List Char) :=
  (Utf8.decode? (Percent.decode cs)).bind Domain.toAscii?

def bracketed? : List Char → Option (List Char)
  | '[' :: cs => if cs.getLast? = some ']' then some cs.dropLast else none
  | _ => none

def parse (cs : List Char) : Except UrlFault Host :=
  if cs.head? = some '[' then
    match bracketed? cs with
    | some inner => parseIpv6 inner
    | none => .error .invalidIpv6
  else match domain? cs with
    | none => .error .invalidName
    | some [] => .error .emptyHost
    | some domain =>
    if endsInNumber domain then parseIpv4 domain else .ok (.name (String.ofList domain))

def parseOpaque (cs : List Char) : Except UrlFault Host :=
  if cs.head? = some '[' then
    match bracketed? cs with
    | some inner => parseIpv6 inner
    | none => .error .invalidIpv6
  else if cs.any isForbidden then .error .invalidCharacter
  else .ok (.name (String.ofList (Percent.encode Percent.isControl cs)))

def longestRun : (position : Nat) → (start run : Nat) → (best : Nat × Nat) → List Nat → Nat × Nat
  | _, start, run, best, [] => if best.2 < run then (start, run) else best
  | i, start, run, best, n :: ns =>
    if n = 0 then longestRun (i + 1) (if run = 0 then i else start) (run + 1) best ns
    else longestRun (i + 1) 0 0 (if best.2 < run then (start, run) else best) ns

def piecesText (pieces : List Nat) : String :=
  String.intercalate ":" (pieces.map fun n => String.ofList (Nat.toDigits 16 n))

def text : Host → String
  | name s => s
  | ipv4 n =>
    String.intercalate "." ((Bytes.ofNat 4 n).map fun b => decimalText b.toNat)
  | ipv6 pieces =>
    let (start, run) := longestRun 0 0 0 (0, 0) pieces
    let body := if run < 2 then piecesText pieces
      else piecesText (pieces.take start) ++ "::" ++ piecesText (pieces.drop (start + run))
    "[" ++ body ++ "]"

end Host
end Tronkit
