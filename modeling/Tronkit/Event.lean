import Tronkit.Abi.Registry
import Tronkit.Model.Info

/-!
# Token events

The standard events of tokens, typed. They are decoded from the log of a block, whose topics and
data are encoded words, or from the event index, which reports results as texts under their
positions.
-/

namespace Tronkit

inductive TokenEvent
  | transfer (contract : String) (sender recipient : Address) (value : Nat)
  | approval (contract : String) (owner spender : Address) (value : Nat)
  | approvalForAll (contract : String) (owner operator : Address) (approved : Bool)
  deriving DecidableEq, Repr

namespace TokenEvent

def name : TokenEvent → String
  | transfer .. => "Transfer"
  | approval .. => "Approval"
  | approvalForAll .. => "ApprovalForAll"

def missing (event parameter : String) : AbiError :=
  .decodeFailed ("event '" ++ event ++ "' has no valid '" ++ parameter ++ "' parameter")

def parameter {α : Type} (e : DecodedEvent) (cast : AbiValue → Option α) (name : String) :
    Except AbiError α :=
  match (e.parameter? name).bind cast with
  | some a => .ok a
  | none => .error (missing e.name name)

def ofDecoded (contract : String) (e : DecodedEvent) : Except AbiError TokenEvent := do
  let address := parameter e AbiValue.asAddress?
  match e.name with
  | "Transfer" =>
    pure (transfer contract (← address "from") (← address "to")
      (← parameter e AbiValue.asUint? "value"))
  | "Approval" =>
    pure (approval contract (← address "owner") (← address "spender")
      (← parameter e AbiValue.asUint? "value"))
  | "ApprovalForAll" =>
    let approved ← parameter e AbiValue.asBool? "approved"
    pure (approvalForAll contract (← address "owner") (← address "operator") approved)
  | other => .error (.eventNotFound other)

def ofLog (r : Registry) (contract : String) (topics : List Bytes) (data : Bytes) :
    Except AbiError TokenEvent := do
  ofDecoded contract (← r.decodeLog Standard.eventsName topics data)

/-- The values under `"0"`, `"1"` and so on, up to the first number that is no key. -/
def positional (results : List (String × String)) : (fuel position : Nat) → List String
  | 0, _ => []
  | fuel + 1, position =>
    match results.lookup (decimalText position) with
    | some v => v :: positional results fuel (position + 1)
    | none => []

def resultTexts : Json.Reader (List (String × String))
  | 0, _ => Json.Reader.malformed
  | depth + 1, bs =>
    match Json.skipBlanks bs with
    | 0x7B :: rest => do
      let (ms, rest) ← Json.Reader.members (Json.Reader.string depth) rest
      pure (Keyed.ofList ms, rest)
    | _ => Json.Reader.malformed

def positionalResults (data : Bytes) : Except AbiError (List String) :=
  match Json.parse resultTexts data with
  | .ok results => .ok (positional results results.length 0)
  | .error fault => .error (.decodeFailed ("event result: " ++ fault.text))

def equalsIgnoringCase (s t : String) : Bool := s.map Char.toLower = t.map Char.toLower

def resultAt (event : String) (results : List String) (position : Nat) : Except AbiError String :=
  match results[position]? with
  | some v => .ok v
  | none => .error (missing event (decimalText position))

/-- A result that is no address is reported by its own text. -/
def addressAt (event : String) (results : List String) (position : Nat) :
    Except AbiError Address := do
  let v ← resultAt event results position
  (Address.parse v).mapError fun _ => missing event v

/-- A hexadecimal quantity after a small `0x`, or decimal digits. -/
def readUint? (s : String) : Option Nat :=
  match s.toList with
  | '0' :: 'x' :: _ => (Quantity.readNat s).toOption
  | cs => Quantity.number? 10 cs

def uintAt (event : String) (results : List String) (position : Nat) : Except AbiError Nat := do
  let v ← resultAt event results position
  match readUint? v with
  | some n => pure n
  | none => .error (missing event (decimalText position))

def ofEventLog (log : EventLog) : Except AbiError TokenEvent := do
  let name ← match log.topics.head?.bind textOfBytes? with
    | some name => pure name
    | none => .error (.eventNotFound "log has no event name")
  let results ← positionalResults log.data
  let address := addressAt name results
  match name with
  | "Transfer" =>
    pure (transfer log.address (← address 0) (← address 1) (← uintAt name results 2))
  | "Approval" =>
    pure (approval log.address (← address 0) (← address 1) (← uintAt name results 2))
  | "ApprovalForAll" =>
    let owner ← address 0
    let operator ← address 1
    let approved ← resultAt name results 2
    pure (approvalForAll log.address owner operator (equalsIgnoringCase approved "true"))
  | other => .error (.eventNotFound other)

end TokenEvent
end Tronkit
