import Tronkit.Abi.Decoding
import Tronkit.Digest.Keccak

/-!
# Contract interfaces

The functions and events of a contract in the order of their declaration. A function is called by
the first four bytes of the digest of its signature, an event is known by the whole digest.
-/

namespace Tronkit

structure AbiParameter where
  name : String
  type : AbiType
  deriving Repr

structure AbiFunction where
  name : String
  inputs : List AbiParameter
  outputs : List AbiParameter
  deriving Repr

structure EventParameter where
  name : String
  type : AbiType
  indexed : Bool
  deriving Repr

structure AbiEvent where
  name : String
  inputs : List EventParameter
  anonymous : Bool
  deriving Repr

structure Interface where
  functions : List AbiFunction
  events : List AbiEvent
  deriving Repr

def signatureText (name : String) (types : List AbiType) : String :=
  name ++ "(" ++ String.intercalate "," (types.map AbiType.text) ++ ")"

namespace AbiFunction

def inputTypes (f : AbiFunction) : List AbiType := f.inputs.map AbiParameter.type

def outputTypes (f : AbiFunction) : List AbiType := f.outputs.map AbiParameter.type

def signature (f : AbiFunction) : String := signatureText f.name f.inputTypes

def selector (f : AbiFunction) : Bytes := (Keccak.digest (textBytes f.signature)).take 4

def callData (f : AbiFunction) (ts : List AbiToken) : Except DecodeFault Bytes :=
  if AbiToken.areOf f.inputTypes ts then .ok (f.selector ++ AbiToken.encode ts)
  else .error .invalidData

theorem length_selector (f : AbiFunction) : f.selector.length = 4 := by
  simp [selector, Keccak.length_digest]

end AbiFunction

structure DecodedEvent where
  name : String
  parameters : List (String × AbiValue)

def DecodedEvent.parameter? (e : DecodedEvent) (name : String) : Option AbiValue :=
  e.parameters.lookup name

namespace AbiEvent

def signature (e : AbiEvent) : String := signatureText e.name (e.inputs.map EventParameter.type)

def id (e : AbiEvent) : Bytes := Keccak.digest (textBytes e.signature)

def parameters (e : AbiEvent) (indexed : Bool) : List EventParameter :=
  e.inputs.filter (·.indexed = indexed)

/-- Decodes the topics behind the first and the data. Every parameter of one name shows the last
of their values, where the indexed ones come first. -/
def decode (e : AbiEvent) (topics : List Bytes) (data : Bytes) :
    Except DecodeFault DecodedEvent := do
  let indexed := e.parameters true
  let plain := e.parameters false
  let topicTokens ← AbiToken.decode (indexed.map fun p => p.type.asTopic) topics.flatten
  if topicTokens.length ≠ topics.length then .error .invalidData
  else do
    let dataTokens ← AbiToken.decode (plain.map EventParameter.type) data
    let named := ((indexed ++ plain).map EventParameter.name).zip
      ((topicTokens ++ dataTokens).map AbiValue.ofToken)
    pure ⟨e.name, e.inputs.filterMap fun p => (named.reverse.lookup p.name).map (p.name, ·)⟩

end AbiEvent

namespace Interface

def empty : Interface := ⟨[], []⟩

def byName {α : Type} (name : α → String) (as : List α) : List α :=
  as.mergeSort fun a b => name a ≤ name b

def sortedFunctions (i : Interface) : List AbiFunction := byName AbiFunction.name i.functions

def sortedEvents (i : Interface) : List AbiEvent := byName AbiEvent.name i.events

def function? (i : Interface) (name : String) : Option AbiFunction :=
  i.functions.find? (·.name = name)

def bySelector? (i : Interface) (selector : Bytes) : Option AbiFunction :=
  i.sortedFunctions.find? (·.selector = selector)

def eventById? (i : Interface) (id : Bytes) : Option AbiEvent :=
  i.sortedEvents.find? fun e => !e.anonymous && e.id = id

end Interface
end Tronkit
