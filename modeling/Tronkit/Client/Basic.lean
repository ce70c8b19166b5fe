import Tronkit.Event
import Tronkit.Node.Wallet
import Tronkit.Transport.Gateway

/-!
# Clients

A client knows its chain and the interfaces of contracts, and nothing else: what it asks of the
network is an exchange. Addresses come in any of their forms; an account is an address other
than the empty one.
-/

namespace Tronkit

structure Client where
  registry : Registry
  chainId : Nat

namespace Client

def standard (chainId : Nat) : Client := ⟨.standard, chainId⟩

def connect {H : Type} (library : Library H) (conf : Configuration) :
    Except ClientError (Client × Gateway × H) := do
  conf.validate
  let connected ← Gateway.connect library conf
  pure (standard conf.chainId, connected)

def ofConfiguration (conf : Configuration) : Except ClientError Client :=
  (connect (fun _ _ => .ok ()) conf).map Prod.fst

def register (c : Client) (name declaration : String) : Except ClientError Client :=
  ((c.registry.register name declaration).map fun r => { c with registry := r }).mapError .ofAbi

def encode (c : Client) (method name : String) (args : List AbiArgument) :
    Except ClientError Bytes :=
  (c.registry.encode method name args).mapError .ofAbi

def decode (c : Client) (method name : String) (data : Bytes) :
    Except ClientError (List AbiValue) :=
  (c.registry.decode method name data).mapError .ofAbi

def calledMethod (c : Client) (name : String) (data : Bytes) : Except ClientError String :=
  ((c.registry.methodOfCall name data).map AbiFunction.signature).mapError .ofAbi

def transferData (c : Client) (recipient : String) (value : Nat) : Except ClientError Bytes :=
  c.encode "transfer" Standard.tokenName [.address recipient, .uint value]

def approveData (c : Client) (spender : String) (amount : Nat) : Except ClientError Bytes :=
  c.encode "approve" Standard.tokenName [.address spender, .uint amount]

def eventResults (log : EventLog) : Except ClientError (List String) :=
  (TokenEvent.positionalResults log.data).mapError .ofAbi

def nativeDecimals : Nat := 6

def readAddress (s : String) : Except ClientError Address := (Address.parse s).mapError .ofAddress

def readAccount (s : String) : Except ClientError Address :=
  match readAddress s with
  | .error e => .error e
  | .ok a =>
    if a.isEmpty then .error (.addressInvalid ("'" ++ s ++ "' is the reserved empty address"))
    else .ok a

def ofNode {α : Type} (x : Exchange NodeError α) : Exchange ClientError α :=
  x.mapError .ofNode

def prefixedHex (a : Address) : String := "0x" ++ a.hex

def chainIdOfNode : Exchange ClientError Nat := ofNode Node.Rpc.chainId

def blockNumber : Exchange ClientError Nat := ofNode Node.Rpc.blockNumber

def latestBlockNumber : Exchange ClientError Nat := ofNode Node.Wallet.latestBlockNumber

def gasPrice : Exchange ClientError Nat := ofNode Node.Rpc.gasPrice

/-- The price of energy at a time, in milliseconds since 1970. -/
def energyPrice (now : Nat) : Exchange ClientError Nat := ofNode (Node.Wallet.energyPrice now)

def block (number : Nat) : Exchange ClientError (Option Json) := ofNode (Node.Rpc.block number)

def receipt (hash : Bytes) : Exchange ClientError (Option Json) :=
  ofNode (Node.Rpc.receipt ("0x" ++ Hex.text hash))

def balance (address : String) : Exchange ClientError Nat := do
  let a ← .ofExcept (readAddress address)
  ofNode (Node.Rpc.balance (prefixedHex a))

def accountResource (address : String) : Exchange ClientError Node.Wallet.Allowance := do
  let a ← .ofExcept (readAddress address)
  ofNode (Node.Wallet.accountResource a.base58)

def isContract (a : Address) : Exchange ClientError Bool := do
  let code ← ofNode (Node.Rpc.code a.evmHex)
  pure (code ≠ [])

end Client
end Tronkit
