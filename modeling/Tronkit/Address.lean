import Tronkit.Base58
import Tronkit.Text.Hex

/-!
# Addresses

An address is a hash of 160 bits. Its canonical bytes are `41` and the hash; its texts are the
checked base58 form and the hexadecimal forms with and without the leading `41`. The address
with the zero hash stands for the native asset and is no account.
-/

namespace Tronkit

structure Address where
  hash : BitVec 160
  deriving DecidableEq, Repr

inductive AddressError
  | invalidBase58 (text reason : String)
  | invalidHex (text reason : String)
  | unsupported (text : String)
  deriving DecidableEq, Repr

def AddressError.message : AddressError → String
  | invalidBase58 s reason => "Invalid base58check address '" ++ s ++ "': " ++ reason
  | invalidHex s reason => "Invalid hex address '" ++ s ++ "': " ++ reason
  | unsupported s =>
    "Invalid TRON address '" ++ s ++ "': must be Base58 (34 chars starting with 'T'), TRON hex "
      ++ "(42 chars starting with '41') or EVM hex (0x + 40 chars)"

namespace Address

def empty : Address := ⟨0⟩

def isEmpty (a : Address) : Bool := a = empty

def ofHash (bs : Bytes) : Address := ⟨BitVec.ofNat 160 bs.toNat⟩

def hashBytes (a : Address) : Bytes := Bytes.ofNat 20 a.hash.toNat

def bytes (a : Address) : Bytes := 0x41 :: a.hashBytes

def ofBytes? : Bytes → Option Address
  | 0x41 :: hash => if hash.length = 20 then some (ofHash hash) else none
  | _ => none

def base58 (a : Address) : String := String.ofList (Base58.encodeChecked a.bytes)

def hex (a : Address) : String := Hex.text a.bytes

def evmHex (a : Address) : String := "0x" ++ Hex.text a.hashBytes

def readBase58 (s : String) : Except AddressError Address :=
  match Base58.decodeChecked s.toList with
  | .error fault => .error (.invalidBase58 s fault.message)
  | .ok bs => match ofBytes? bs with
    | some a => .ok a
    | none => .error (.invalidBase58 s "expected 21 bytes with prefix 0x41")

def stripMark : List Char → List Char
  | '0' :: 'x' :: rest => rest
  | cs => cs

def readHex (s : String) : Except AddressError Address :=
  match Hex.decode (stripMark s.toList) with
  | .error fault => .error (.invalidHex s fault.message)
  | .ok bs =>
    if bs.length = 20 then .ok (ofHash bs)
    else match ofBytes? bs with
      | some a => .ok a
      | none => .error (.invalidHex s "expected 20 bytes or 21 bytes with prefix 0x41")

def looksBase58 (cs : List Char) : Bool := Utf8.size cs = 34 && cs.head? = some 'T'

def looksTronHex (cs : List Char) : Bool :=
  let digits := stripMark cs
  Utf8.size digits = 42 && digits.take 2 = ['4', '1']

def looksEvmHex : List Char → Bool
  | '0' :: 'x' :: hash => hash.length = 40 && hash.all Digits.isHex
  | _ => false

/-- The form decides how a text is read: its size and its first characters, not its checksum. -/
def parse (s : String) : Except AddressError Address :=
  if looksBase58 s.toList then readBase58 s
  else if looksTronHex s.toList || looksEvmHex s.toList then readHex s
  else .error (.unsupported s)

def parse? (s : String) : Option Address := (parse s).toOption

def ofHexOrEmpty (s : String) : Address := (readHex s).toOption.getD empty

def hexToBase58 (s : String) : String := (ofHexOrEmpty s).base58

def base58ToHex (s : String) : Except AddressError String := (readBase58 s).map evmHex

def isNative (s : String) : Bool := (parse? s).any isEmpty

def isValid (s : String) : Bool := (parse? s).any fun a => !a.isEmpty

/-- The base58 form of an address text, and the empty text for one that is none. -/
def normalize (s : String) : String :=
  let read :=
    if looksEvmHex s.toList || s.toList.take 2 = ['4', '1'] then readHex s else readBase58 s
  match read with
  | .ok a => a.base58
  | .error _ => ""

def describe (a : Address) : String := "Address(" ++ a.base58 ++ " / 0x" ++ a.hex ++ ")"

instance : Ord Address := ⟨fun a b => compare a.hash.toNat b.hash.toNat⟩

def sorted (as : List Address) : List Address :=
  (as.mergeSort fun a b => a.hash.toNat ≤ b.hash.toNat).eraseReps

end Address
end Tronkit
