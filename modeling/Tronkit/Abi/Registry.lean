import Tronkit.Abi.Declaration
import Tronkit.Abi.Standard
import Tronkit.Keyed

/-!
# Registry of interfaces

Interfaces under their names. Registering replaces the whole interface of a name and touches no
other; `get_put_same` and `get_put_other` say so. Calls are encoded and results decoded
by the interface and the method that the caller names.
-/

namespace Tronkit

inductive AbiError
  | emptyName
  | invalidInterface (name reason : String)
  | notFound (name : String)
  | methodNotFound (interface method : String)
  | arityMismatch (method : String) (expected actual : Nat)
  | invalidArgument (method : String) (position : Nat) (reason : String)
  | encodeFailed (reason : String)
  | decodeFailed (reason : String)
  | dataTooShort (size : Nat)
  | unknownSelector (selector : String)
  | eventNotFound (event : String)
  deriving DecidableEq, Repr

namespace AbiError

def message : AbiError → String
  | emptyName => "ABI name must not be empty"
  | invalidInterface name reason => "Invalid ABI '" ++ name ++ "': " ++ reason
  | notFound name => "ABI '" ++ name ++ "' not found"
  | methodNotFound i method => "Method '" ++ method ++ "' not found in ABI '" ++ i ++ "'"
  | arityMismatch method expected actual =>
    "Method '" ++ method ++ "' expects " ++ decimalText expected ++ " arguments, got "
      ++ decimalText actual
  | invalidArgument method position reason =>
    "Argument #" ++ decimalText position ++ " of '" ++ method ++ "' is invalid: " ++ reason
  | encodeFailed reason => "Encoding failed: " ++ reason
  | decodeFailed reason => "Decoding failed: " ++ reason
  | dataTooShort size => "Data is too short, len=" ++ decimalText size ++ " < 4"
  | unknownSelector selector => "No method matches selector 0x" ++ selector
  | eventNotFound event => "Event not found: " ++ event

end AbiError

structure Registry where
  entries : List (String × Interface)
  nodup : (entries.map Prod.fst).Nodup

namespace Registry

def empty : Registry := ⟨[], List.nodup_nil⟩

def put (r : Registry) (name : String) (i : Interface) : Registry :=
  ⟨Keyed.assign name i r.entries, Keyed.nodup_keys_assign r.nodup⟩

def register (r : Registry) (name declaration : String) : Except AbiError Registry :=
  if name = "" then .error .emptyName
  else match Declaration.parse declaration with
    | .ok i => .ok (r.put name i)
    | .error fault => .error (.invalidInterface name fault.text)

def standard : Registry :=
  (empty.put Standard.tokenName Standard.token).put Standard.eventsName Standard.events

/-- The standard interfaces as they are registered by the texts that declare them. -/
def loadStandard : Except AbiError Registry := do
  let r ← empty.register Standard.tokenName Standard.tokenText
  r.register Standard.eventsName Standard.eventsText

def get (r : Registry) (name : String) : Except AbiError Interface :=
  match r.entries.lookup name with
  | some i => .ok i
  | none => .error (.notFound name)

def method (r : Registry) (name method : String) : Except AbiError AbiFunction := do
  let i ← r.get name
  match i.function? method with
  | some f => pure f
  | none => .error (.methodNotFound name method)

def tokens (method : String) : (position : Nat) → List AbiType → List AbiArgument →
    Except AbiError (List AbiToken)
  | position, t :: types, arg :: args => do
    let token ← (arg.token t).mapError (.invalidArgument method position)
    let rest ← tokens method (position + 1) types args
    pure (token :: rest)
  | _, _, _ => pure []

def encode (r : Registry) (method name : String) (args : List AbiArgument) :
    Except AbiError Bytes := do
  let f ← r.method name method
  if f.inputs.length ≠ args.length then
    .error (.arityMismatch method f.inputs.length args.length)
  else do
    let ts ← tokens method 0 f.inputTypes args
    (f.callData ts).mapError fun fault => .encodeFailed fault.message

def decode (r : Registry) (method name : String) (data : Bytes) :
    Except AbiError (List AbiValue) := do
  let f ← r.method name method
  let ts ← (AbiToken.decode f.outputTypes data).mapError fun e => .decodeFailed e.message
  pure (AbiValue.ofTokens ts)

def splitSelector (data : Bytes) : Except AbiError Bytes :=
  if data.length < 4 then .error (.dataTooShort data.length) else .ok (data.take 4)

def selected (selector : Bytes) : Option AbiFunction → Except AbiError AbiFunction
  | some f => .ok f
  | none => .error (.unknownSelector (Hex.text selector))

def methodOfCall (r : Registry) (name : String) (data : Bytes) : Except AbiError AbiFunction := do
  let i ← r.get name
  let selector ← splitSelector data
  selected selector (i.bySelector? selector)

def lookupCall (r : Registry) (data : Bytes) : Except AbiError AbiFunction := do
  let selector ← splitSelector data
  selected selector (r.entries.findSome? fun e => e.2.bySelector? selector)

def decodeLog (r : Registry) (name : String) (topics : List Bytes) (data : Bytes) :
    Except AbiError DecodedEvent := do
  let i ← r.get name
  match topics with
  | [] => .error (.eventNotFound "log has no topics")
  | id :: rest =>
    match i.eventById? id with
    | none => .error (.eventNotFound ("0x" ++ Hex.text id))
    | some e => (e.decode rest data).mapError fun fault => .decodeFailed fault.message

theorem get_put_same (r : Registry) (name : String) (i : Interface) :
    (r.put name i).get name = .ok i := by
  simp [put, get, Keyed.lookup_assign]

theorem get_put_other (r : Registry) {name other : String} (i : Interface) (h : other ≠ name) :
    (r.put name i).get other = r.get other := by
  simp [put, get, Keyed.lookup_assign, h]

end Registry
end Tronkit
