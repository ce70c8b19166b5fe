import Tronkit.Abi.Encoding

/-!
# Decoding of the contract interface

Values are read at an offset, which moves on by one word for each of them, or by the whole value
where it stands in place. Offsets and lengths fit into four bytes. Bits above the declared width
of an integer are kept, and what follows the last value is ignored.
-/

namespace Tronkit

inductive DecodeFault
  | emptyData
  | invalidData
  deriving DecidableEq, Repr

def DecodeFault.message : DecodeFault → String
  | emptyData =>
    "Invalid name: please ensure the contract and method you're calling exist! failed to decode "
      ++ "empty bytes. if you're using jsonrpc this is likely due to jsonrpc returning `0x` in "
      ++ "case contract or method don't exist"
  | invalidData => "Invalid data"

namespace AbiToken

def wordAt? (data : Bytes) (offset : Nat) : Option Bytes := data.slice? offset 32

def natAt? (data : Bytes) (offset : Nat) : Option Nat := (wordAt? data offset).map Bytes.toNat

def sizeAt? (data : Bytes) (offset : Nat) : Option Nat :=
  (natAt? data offset).filter (· < Nat.pow 2 32)

def boolAt? (data : Bytes) (offset : Nat) : Option Bool :=
  ((natAt? data offset).filter (· < 256)).map (· = 1)

/-- Bytes behind their number, at the place that the word at `offset` names. -/
def countedAt? (data : Bytes) (offset : Nat) : Option Bytes := do
  let place ← sizeAt? data offset
  let size ← sizeAt? data place
  data.slice? (place + 32) size

abbrev Reading := Nat → Option (AbiToken × Nat)

def inWord (offset : Nat) (t : Option AbiToken) : Option (AbiToken × Nat) := t.map (·, offset + 32)

def readMany (read : Reading) : (count offset : Nat) → Option (List AbiToken × Nat)
  | 0, offset => some ([], offset)
  | count + 1, offset => do
    let (t, offset) ← read offset
    let (ts, offset) ← readMany read count offset
    pure (t :: ts, offset)

mutual
def read : AbiType → Bytes → Reading
  | .address, data, offset =>
    inWord offset ((natAt? data offset).map fun n => .address ⟨BitVec.ofNat 160 n⟩)
  | .int _, data, offset =>
    inWord offset ((natAt? data offset).map fun n => .int (BitVec.ofNat 256 n))
  | .uint _, data, offset =>
    inWord offset ((natAt? data offset).map fun n => .uint (BitVec.ofNat 256 n))
  | .bool, data, offset => inWord offset ((boolAt? data offset).map .bool)
  | .fixedBytes size, data, offset => inWord offset ((data.slice? offset size).map .fixedBytes)
  | .bytes, data, offset => inWord offset ((countedAt? data offset).map .bytes)
  | .string, data, offset =>
    inWord offset ((countedAt? data offset).map fun bs => .string (lossyText bs))
  | .array t, data, offset => do
    let place ← sizeAt? data offset
    let count ← sizeAt? data place
    let (ts, _) ← readMany (read t (data.drop (place + 32))) count 0
    pure (.array ts, offset + 32)
  | .fixedArray t size, data, offset =>
    if t.isDynamic then do
      let place ← (sizeAt? data offset).filter (· ≤ data.length)
      let (ts, _) ← readMany (read t (data.drop place)) size 0
      pure (.fixedArray ts, offset + 32)
    else do
      let (ts, offset) ← readMany (read t data) size offset
      pure (.fixedArray ts, offset)
  | .tuple types, data, offset =>
    if AbiType.anyDynamic types then do
      let place ← (sizeAt? data offset).filter (· ≤ data.length)
      let (ts, _) ← readAll types (data.drop place) 0
      pure (.tuple ts, offset + 32)
    else do
      let (ts, offset) ← readAll types data offset
      pure (.tuple ts, offset)
def readAll : List AbiType → Bytes → (offset : Nat) → Option (List AbiToken × Nat)
  | [], _, offset => some ([], offset)
  | t :: types, data, offset => do
    let (token, offset) ← read t data offset
    let (tokens, offset) ← readAll types data offset
    pure (token :: tokens, offset)
end

/-- Reads values of the given types. Empty data is refused if a value needs bytes. -/
def decode (types : List AbiType) (data : Bytes) : Except DecodeFault (List AbiToken) :=
  if data = [] && !types.all AbiType.admitsEmpty then .error .emptyData
  else match readAll types data 0 with
    | some (ts, _) => .ok ts
    | none => .error .invalidData

end AbiToken
end Tronkit
