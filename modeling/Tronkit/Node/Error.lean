import Tronkit.Transport.Basic
import Tronkit.Text.Utf8

/-!
# Failures of a node

What a call to a node may end in instead of its answer. A rejection keeps the whole body of the
answer.
-/

namespace Tronkit

inductive NodeError
  | transport (reason : String)
  | timeout (reason : String)
  | invalidResponse (reason : String)
  | rpc (code : Int) (message : String)
  | rejected (raw : String)
  | internal (reason : String)
  deriving DecidableEq, Repr

namespace NodeError

def message : NodeError → String
  | transport reason => "Transport error: " ++ reason
  | timeout reason => "Request timeout: " ++ reason
  | invalidResponse reason => "Invalid response: " ++ reason
  | rpc code text => "RPC error " ++ integerText code ++ ": " ++ text
  | rejected raw => "Node rejected the request: " ++ raw
  | internal reason => "Internal error: " ++ reason

def ofTransport (e : TransportError) : NodeError :=
  match e with
  | .timeout .. => timeout e.message
  | .transport .. => transport e.message
  | .unreadable .. => invalidResponse e.message
  | .invalidRequest _ => internal e.message
  | .internal _ => internal e.message

def ofBody (body : Bytes) : NodeError := rejected (lossyText body)

end NodeError
end Tronkit
