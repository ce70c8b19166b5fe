import Tronkit.Json.Record

/-!
# Networks

The public networks with their chain ids and the endpoints of their public services.
-/

namespace Tronkit

inductive Network
  | mainnet
  | shasta
  | nile
  deriving DecidableEq, Repr

namespace Network

def name : Network → String
  | mainnet => "Mainnet"
  | shasta => "Shasta"
  | nile => "Nile"

def names : List (String × Network) := [("Mainnet", mainnet), ("Shasta", shasta), ("Nile", nile)]

def reader : Json.Reader Network := Json.Reader.choice names

def chainId : Network → Nat
  | mainnet => 728126428
  | shasta => 2494104990
  | nile => 3448148188

def host : Network → String
  | mainnet => "https://api.trongrid.io"
  | shasta => "https://api.shasta.trongrid.io"
  | nile => "https://nile.trongrid.io"

/-- The JSON-RPC service, the wallet interface and the event index, in this order. -/
def endpoints (n : Network) : List String := [n.host ++ "/jsonrpc", n.host, n.host]

end Network
end Tronkit
