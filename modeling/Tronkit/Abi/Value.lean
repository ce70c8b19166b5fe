import Tronkit.Abi.Type
import Tronkit.Address

/-!
# Values of the contract interface

A token is a value as it is encoded, with integers as words of 256 bits. A decoded value holds
the integers themselves, and a call argument is what a caller gives. `ofToken` reads a signed
word as two's complement.
-/

namespace Tronkit

inductive AbiToken
  | address (a : Address)
  | uint (w : BitVec 256)
  | int (w : BitVec 256)
  | bool (b : Bool)
  | string (s : String)
  | bytes (bs : Bytes)
  | fixedBytes (bs : Bytes)
  | array (ts : List AbiToken)
  | fixedArray (ts : List AbiToken)
  | tuple (ts : List AbiToken)

inductive AbiValue
  | address (a : Address)
  | uint (n : Nat)
  | int (z : Int)
  | bool (b : Bool)
  | string (s : String)
  | bytes (bs : Bytes)
  | array (vs : List AbiValue)
  | tuple (vs : List AbiValue)

inductive AbiArgument
  | address (text : String)
  | uint (n : Nat)
  | string (s : String)
  | bool (b : Bool)
  | bytes (bs : Bytes)
  deriving DecidableEq, Repr

namespace AbiValue

mutual
def ofToken : AbiToken → AbiValue
  | .address a => address a
  | .uint w => uint w.toNat
  | .int w => int w.toInt
  | .bool b => bool b
  | .string s => string s
  | .bytes bs => bytes bs
  | .fixedBytes bs => bytes bs
  | .array ts => array (ofTokens ts)
  | .fixedArray ts => array (ofTokens ts)
  | .tuple ts => tuple (ofTokens ts)
def ofTokens : List AbiToken → List AbiValue
  | [] => []
  | t :: ts => ofToken t :: ofTokens ts
end

theorem ofTokens_eq_map (ts : List AbiToken) : ofTokens ts = ts.map ofToken := by
  induction ts with
  | nil => rfl
  | cons t ts ih => simp [ofTokens, ih]

def asAddress? : AbiValue → Option Address
  | address a => some a
  | _ => none

def asUint? : AbiValue → Option Nat
  | uint n => some n
  | _ => none

def asBool? : AbiValue → Option Bool
  | bool b => some b
  | _ => none

end AbiValue

namespace AbiArgument

def describe : AbiArgument → String
  | address s => "Address(" ++ Quoted.text s ++ ")"
  | uint n => "Uint(" ++ decimalText n ++ ")"
  | string s => "String(" ++ Quoted.text s ++ ")"
  | bool b => "Bool(" ++ (if b then "true" else "false") ++ ")"
  | bytes bs => "Bytes(" ++ Quoted.bytes bs ++ ")"

def bitLength (n : Nat) : Nat := if n = 0 then 0 else n.log2 + 1

def word (n : Nat) : Except String (BitVec 256) :=
  if n < Nat.pow 2 256 then .ok (BitVec.ofNat 256 n)
  else .error (decimalText n ++ " does not fit into 256 bits")

def misfit (n : Nat) (kind : AbiType) : String :=
  decimalText n ++ " does not fit into " ++ kind.text

def token (kind : AbiType) (arg : AbiArgument) : Except String AbiToken :=
  match kind, arg with
  | .address, address s => ((Address.parse s).map .address).mapError AddressError.message
  | .uint bits, uint n =>
    if bits < bitLength n then .error (misfit n kind) else (word n).map .uint
  | .int bits, uint n =>
    if bits ≤ bitLength n then .error (misfit n kind) else (word n).map .int
  | .bool, bool b => .ok (.bool b)
  | .string, string s => .ok (.string s)
  | .bytes, bytes bs => .ok (.bytes bs)
  | .fixedBytes size, bytes bs =>
    if bs.length = size then .ok (.fixedBytes bs)
    else .error (arg.describe ++ " cannot be encoded as '" ++ kind.text ++ "'")
  | kind, arg => .error (arg.describe ++ " cannot be encoded as '" ++ kind.text ++ "'")

theorem lt_two_pow_bitLength (n : Nat) : n < Nat.pow 2 (bitLength n) := by
  unfold bitLength
  split
  · subst n; decide
  · exact Nat.lt_log2_self

end AbiArgument
end Tronkit
