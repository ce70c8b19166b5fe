import Tronkit.Abi.Registry
import Tronkit.Node.Error

/-!
# Errors of the client

Every error has a kind, which tells how far the operation got: the input was refused, the node
refused, the node could not be reached or understood, or data could not be coded.
-/

namespace Tronkit

inductive ErrorKind
  | invalidInput
  | nodeProtocol
  | transport
  | decode
  deriving DecidableEq, Repr

inductive ClientError
  | addressInvalid (reason : String)
  | selfTransfer (address : String)
  | nonPositiveAmount (amount : String)
  | arityMismatch (method : String) (expected actual : Nat)
  | invalidArgument (reason : String)
  | invalidInterface (reason : String)
  | interfaceNotFound (name : String)
  | methodNotFound (reason : String)
  | invalidConfig (reason : String)
  | rpc (code : Int) (message : String)
  | rejected (raw : String)
  | transport (reason : String)
  | invalidResponse (reason : String)
  | unknownSelector (selector : String)
  | dataTooShort (size : Nat)
  | decodeFailed (reason : String)
  | encodeFailed (reason : String)
  deriving DecidableEq, Repr

namespace ClientError

def kind : ClientError → ErrorKind
  | rpc .. => .nodeProtocol
  | rejected _ => .nodeProtocol
  | transport _ => .transport
  | invalidResponse _ => .transport
  | unknownSelector _ => .decode
  | dataTooShort _ => .decode
  | decodeFailed _ => .decode
  | encodeFailed _ => .decode
  | _ => .invalidInput

def message : ClientError → String
  | addressInvalid reason => "Invalid address: " ++ reason
  | selfTransfer address => "From address '" ++ address ++ "' equals to address"
  | nonPositiveAmount amount => "Amount must be positive, got " ++ amount
  | arityMismatch method expected actual =>
    "Method '" ++ method ++ "' expects " ++ decimalText expected ++ " arguments, got "
      ++ decimalText actual
  | invalidArgument reason => "Invalid argument: " ++ reason
  | invalidInterface reason => "Invalid ABI: " ++ reason
  | interfaceNotFound name => "ABI '" ++ name ++ "' not found"
  | methodNotFound reason => "Method not found: " ++ reason
  | invalidConfig reason => "Invalid configuration: " ++ reason
  | rpc code text => "RPC error " ++ integerText code ++ ": " ++ text
  | rejected raw => "Node rejected the request: " ++ raw
  | transport reason => "Transport error: " ++ reason
  | invalidResponse reason => "Invalid response: " ++ reason
  | unknownSelector selector => "Unknown selector: 0x" ++ selector
  | dataTooShort size => "Data is too short, len=" ++ decimalText size
  | decodeFailed reason => "ABI decoding failed: " ++ reason
  | encodeFailed reason => "Encoding failed: " ++ reason

def ofAbi (e : AbiError) : ClientError :=
  match e with
  | .emptyName => invalidInterface e.message
  | .invalidInterface .. => invalidInterface e.message
  | .notFound name => interfaceNotFound name
  | .methodNotFound .. => methodNotFound e.message
  | .arityMismatch method expected actual => arityMismatch method expected actual
  | .invalidArgument .. => invalidArgument e.message
  | .encodeFailed reason => encodeFailed reason
  | .decodeFailed reason => decodeFailed reason
  | .eventNotFound _ => decodeFailed e.message
  | .dataTooShort size => dataTooShort size
  | .unknownSelector selector => unknownSelector selector

def ofAddress (e : AddressError) : ClientError := addressInvalid e.message

def ofNumber (e : NumberError) : ClientError := invalidResponse e.message

def ofNode (e : NodeError) : ClientError :=
  match e with
  | .transport _ => transport e.message
  | .timeout _ => transport e.message
  | .internal _ => transport e.message
  | .invalidResponse reason => invalidResponse reason
  | .rpc code text => rpc code text
  | .rejected raw => rejected raw

end ClientError
end Tronkit
