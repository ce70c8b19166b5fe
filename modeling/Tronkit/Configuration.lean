import Tronkit.Error
import Tronkit.Model.Network
import Tronkit.Url.Basic

/-!
# Configuration

What a client is told about its network: where the three services are, under which key it may
ask them and how long it waits for an answer. The endpoints are kept as they were written and
are read as URLs when they are needed.
-/

namespace Tronkit

structure Configuration where
  endpoints : List String
  apiKey : Option String
  chainId : Nat
  timeoutSecs : Option Nat
  deriving DecidableEq, Repr

structure Endpoints where
  rpc : Url
  wallet : Url
  events : Url
  deriving DecidableEq, Repr

def Endpoints.url (e : Endpoints) : Service → Url
  | .rpc => e.rpc
  | .wallet => e.wallet
  | .events => e.events

namespace Configuration

open Json

def record : Record Configuration :=
  Configuration.mk <$> .required "endpoints" (Reader.list Reader.string)
    <*> .optional "api_key" Reader.string
    <*> .required "chain_id" Reader.u64
    <*> .optional "timeout_secs" Reader.u64

def render (c : Configuration) : List Char :=
  Render.object ([("endpoints", Render.array (c.endpoints.map Render.string))]
    ++ Render.optional "api_key" (c.apiKey.map Render.string)
    ++ [("chain_id", Render.natural c.chainId)]
    ++ Render.optional "timeout_secs" (c.timeoutSecs.map Render.natural))

def ofNetwork (n : Network) (apiKey : Option String) : Configuration :=
  { endpoints := n.endpoints, apiKey, chainId := n.chainId, timeoutSecs := none }

def defaultTimeout : Nat := 30

def timeout (c : Configuration) : Nat := c.timeoutSecs.getD defaultTimeout

def readEndpoint (s : String) : Except ClientError Url :=
  (Url.parse s).mapError fun fault =>
    .invalidConfig ("invalid endpoint '" ++ s ++ "': " ++ fault.message)

def readEndpoints (c : Configuration) : Except ClientError Endpoints :=
  match c.endpoints with
  | [rpc, wallet, events] => do
    let rpc ← readEndpoint rpc
    let wallet ← readEndpoint wallet
    let events ← readEndpoint events
    pure { rpc, wallet, events }
  | texts =>
    .error (.invalidConfig
      ("expected 3 endpoints [rpc, fullnode, grid], got " ++ decimalText texts.length))

/-- There is one rule for each setting, and the first one broken is reported. -/
def validate (c : Configuration) : Except ClientError Unit := do
  let _ ← c.readEndpoints
  if c.timeoutSecs = some 0 then .error (.invalidConfig "timeout_secs must be positive")
  else if c.apiKey = some "" then .error (.invalidConfig "api_key must not be empty")
  else pure ()

end Configuration
end Tronkit
