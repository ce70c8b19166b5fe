import Tronkit.Client.Resolve
import Tronkit.Client.Token

/-!
# The methods of a client

All that a client offers, by the type of what it returns. A method that needs no network is an
exchange that sends nothing, so one statement can be about every call of a client.
-/

namespace Tronkit.Client

open Node

inductive Method : Type → Type
  | register (name declaration : String) : Method Client
  | encode (method name : String) (args : List AbiArgument) : Method Bytes
  | decode (method name : String) (data : Bytes) : Method (List AbiValue)
  | calledMethod (name : String) (data : Bytes) : Method String
  | transferData (recipient : String) (value : Nat) : Method Bytes
  | approveData (spender : String) (amount : Nat) : Method Bytes
  | balance (address : String) : Method Nat
  | tokenBalance (contract owner : String) : Method Nat
  | tokenDecimals (contract : String) : Method Nat
  | tokenSupply (contract : String) : Method Nat
  | tokenSymbol (contract : String) : Method String
  | tokenAllowance (contract owner spender : String) : Method Nat
  | build (tx : Transaction) : Method UnsignedTransaction
  | broadcast (envelope signature : Bytes) : Method Bytes
  | nonce (address : String) : Method Nat
  | estimateEnergy (tx : Transaction) : Method Nat
  | suggestFee (tx : Transaction) : Method FeeLimit
  | gasPrice : Method (Nat × Nat)
  | call (tx : Transaction) : Method Bytes
  | resolve (hash : String) : Method TransactionInfo
  | eventResults (name : String) (log : EventLog) : Method (List String)
  | isValid (address : String) : Method Bool
  | normalize (address : String) : Method String
  | isNative (asset : String) : Method Bool
  | nativeAddress : Method String
  | nativeDecimals : Method Nat
  | readAddress (address : String) : Method Address
  | writeAddress (address : Address) : Method String
  | isContract (address : Address) : Method Bool
  | latestBlockNumber : Method Nat
  | blockNumber : Method Nat
  | block (number : Nat) : Method (Option Json)
  | chainId : Method Nat
  | receipt (hash : Bytes) : Method (Option Json)
  | deploy (abi bytecode : String) (tx : Transaction) : Method (UnsignedTransaction × String)
  | stake (owner : String) (resource : Resource) (amount : Nat) : Method UnsignedTransaction
  | unstake (owner : String) (resource : Resource) (amount : Nat) : Method UnsignedTransaction
  | withdraw (owner : String) : Method UnsignedTransaction
  | delegate (owner receiver : String) (resource : Resource) (amount : Nat) :
    Method UnsignedTransaction
  | accountResource (address : String) : Method Wallet.Allowance
  | energyPrice (now : Nat) : Method Nat

/-- Accounts have no nonce, and nothing is paid on top of the price of gas. -/
def Method.perform (c : Client) {α : Type} : Method α → Exchange ClientError α
  | register name declaration => .ofExcept (c.register name declaration)
  | encode method name args => .ofExcept (c.encode method name args)
  | decode method name data => .ofExcept (c.decode method name data)
  | calledMethod name data => .ofExcept (c.calledMethod name data)
  | transferData recipient value => .ofExcept (c.transferData recipient value)
  | approveData spender amount => .ofExcept (c.approveData spender amount)
  | balance address => Client.balance address
  | tokenBalance contract owner => c.tokenBalance contract owner
  | tokenDecimals contract => Client.tokenDecimals contract
  | tokenSupply contract => Client.tokenSupply contract
  | tokenSymbol contract => Client.tokenSymbol contract
  | tokenAllowance contract owner spender => c.tokenAllowance contract owner spender
  | build tx => c.build tx
  | broadcast envelope signature => Client.broadcast envelope signature
  | nonce _ => pure 0
  | estimateEnergy tx => Client.estimateEnergy tx
  | suggestFee tx => Client.suggestFee tx
  | gasPrice => do
    let price ← Client.gasPrice
    pure (price, 0)
  | call tx => Client.call tx
  | resolve hash => c.resolve hash
  | eventResults _ log => .ofExcept (Client.eventResults log)
  | isValid address => pure (Address.isValid address)
  | normalize address => pure (Address.normalize address)
  | isNative asset => pure (Address.isNative asset)
  | nativeAddress => pure Address.empty.base58
  | nativeDecimals => pure Client.nativeDecimals
  | readAddress address => .ofExcept (Client.readAddress address)
  | writeAddress address => pure address.base58
  | isContract address => Client.isContract address
  | latestBlockNumber => Client.latestBlockNumber
  | blockNumber => Client.blockNumber
  | block number => Client.block number
  | chainId => chainIdOfNode
  | receipt hash => Client.receipt hash
  | deploy abi bytecode tx => Client.deploy abi bytecode tx
  | stake owner resource amount => Client.stake owner resource amount
  | unstake owner resource amount => Client.unstake owner resource amount
  | withdraw owner => Client.withdraw owner
  | delegate owner receiver resource amount => Client.delegate owner receiver resource amount
  | accountResource address => Client.accountResource address
  | energyPrice now => Client.energyPrice now

end Tronkit.Client
