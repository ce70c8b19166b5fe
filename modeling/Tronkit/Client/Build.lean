import Tronkit.Client.Basic

/-!
# Building and sending transactions

The node makes every transaction; the client checks what it asks for, and seals the answer. The
hash of a sealed transaction is what is to be signed. It is taken from the node and never
computed here. To send a transaction, its envelope is read again and signed.
-/

namespace Tronkit.Client

open Node

/-- Texts of one address are the same; texts that are no addresses are compared as they are. -/
def sameAddress (s t : String) : Bool :=
  match Address.parse s, Address.parse t with
  | .ok a, .ok b => a = b
  | _, _ => s = t

def positive (amount : Int) : Except ClientError Nat :=
  if 0 < amount then .ok amount.toNat else .error (.nonPositiveAmount (integerText amount))

def transferRequest (tx : Transaction) : Except ClientError TransferRequest :=
  if sameAddress tx.sender tx.recipient then .error (.selfTransfer tx.sender)
  else do
    let amount ← positive tx.amount
    let owner ← readAccount tx.sender
    let recipient ← readAccount tx.recipient
    pure { owner := owner.base58, recipient := recipient.base58, amount, visible := true }

/-- The most that a call may cost; nothing is allowed without a fee. -/
def energyLimit (fee : Option FeeLimit) (data : Bytes) : Nat :=
  match fee with
  | some f => f.gas * f.gasFeeCap + data.length / 2
  | none => 0

/-- The request for a contract call. Any known interface may declare the method. -/
def triggerRequest (c : Client) (tx : Transaction) : Except ClientError TriggerRequest := do
  let f ← (c.registry.lookupCall tx.data).mapError .ofAbi
  let owner ← readAccount tx.sender
  let contract ← readAccount tx.recipient
  pure { owner := owner.base58, contract := contract.base58, selector := f.signature,
         parameter := Hex.text (tx.data.drop 4), visible := true,
         feeLimit := some (energyLimit tx.fee tx.data) }

def readHash (txId : String) : Except ClientError Bytes :=
  match Hex.decode txId.toList with
  | .error fault => .error (.encodeFailed ("txID '" ++ txId ++ "': " ++ fault.message))
  | .ok hash =>
    if hash.length = 32 then .ok hash
    else .error (.encodeFailed ("txID '" ++ txId ++ "' is not a 32-byte hash"))

theorem readHash_length {txId : String} {hash : Bytes} (h : readHash txId = .ok hash) :
    hash.length = 32 := by
  unfold readHash at h
  split at h
  · cases h
  · split at h
    · cases h; assumption
    · cases h

def sealDraft (d : Draft) : Except ClientError UnsignedTransaction :=
  (readHash d.txId).map fun hash => ⟨Utf8.encode (Envelope.render ⟨d, d.txId⟩), hash⟩

/-- A native transfer if there is no call data, else a contract call. -/
def draft (c : Client) (tx : Transaction) : Exchange ClientError Draft :=
  if tx.data = [] then do
    let r ← .ofExcept (transferRequest tx)
    ofNode (Wallet.createTransaction r)
  else do
    let r ← .ofExcept (c.triggerRequest tx)
    ofNode (Wallet.trigger r)

def build (c : Client) (tx : Transaction) : Exchange ClientError UnsignedTransaction := do
  .ofExcept (sealDraft (← c.draft tx))

def readEnvelope (envelope : Bytes) : Except ClientError Envelope :=
  (Json.parse Envelope.record.reader envelope).mapError fun fault =>
    .invalidArgument ("malformed transaction envelope: " ++ fault.text)

/-- The hash of the envelope stands above that of the transaction in it. -/
def sign (e : Envelope) (signature : Bytes) : Draft :=
  { e.transaction with txId := e.txId, signature := [Hex.text signature] }

def broadcast (envelope signature : Bytes) : Exchange ClientError Bytes := do
  let e ← .ofExcept (readEnvelope envelope)
  let hash ← .ofExcept (readHash e.txId)
  let _ ← ofNode (Wallet.broadcast (sign e signature))
  pure hash

def deployRequest (owner : Address) (abi bytecode : String) : DeployRequest :=
  { owner := owner.hex, abi, bytecode, feeLimit := 1000000000, parameter := "",
    originEnergyLimit := 1000000000, name := "Migrations", userResourcePercent := 0,
    callValue := 0 }

def deployed (a : DeployAnswer) : Draft :=
  { visible := a.visible, txId := a.txId, contractAddress := some a.contractAddress,
    rawData := a.rawData, rawDataHex := a.rawDataHex, signature := [] }

def deploy (abi bytecode : String) (tx : Transaction) :
    Exchange ClientError (UnsignedTransaction × String) := do
  let owner ← .ofExcept (readAccount tx.sender)
  let a ← ofNode (Wallet.deploy (deployRequest owner abi bytecode))
  let unsigned ← .ofExcept (sealDraft (deployed a))
  pure (unsigned, a.contractAddress)

def stakeRequest (owner : String) (resource : Resource) (amount : Nat) :
    Except ClientError StakeRequest :=
  (readAccount owner).map fun a => { owner := a.hex, amount, resource }

def stake (owner : String) (resource : Resource) (amount : Nat) :
    Exchange ClientError UnsignedTransaction := do
  let r ← .ofExcept (stakeRequest owner resource amount)
  .ofExcept (sealDraft (← ofNode (Wallet.freeze r)))

def unstake (owner : String) (resource : Resource) (amount : Nat) :
    Exchange ClientError UnsignedTransaction := do
  let r ← .ofExcept (stakeRequest owner resource amount)
  .ofExcept (sealDraft (← ofNode (Wallet.unfreeze r)))

def withdraw (owner : String) : Exchange ClientError UnsignedTransaction := do
  let a ← .ofExcept (readAccount owner)
  .ofExcept (sealDraft (← ofNode (Wallet.withdraw a.hex)))

def delegateRequest (owner receiver : String) (resource : Resource) (amount : Nat) :
    Except ClientError DelegateRequest := do
  let a ← readAccount owner
  let b ← readAccount receiver
  pure { owner := a.hex, receiver := b.hex, amount, resource }

def delegate (owner receiver : String) (resource : Resource) (amount : Nat) :
    Exchange ClientError UnsignedTransaction := do
  let r ← .ofExcept (delegateRequest owner receiver resource amount)
  .ofExcept (sealDraft (← ofNode (Wallet.delegate r)))

def estimateRequest (tx : Transaction) : Except ClientError Rpc.DryRun := do
  let sender ← readAddress tx.sender
  let recipient ← readAddress tx.recipient
  match tx.amount.toNat? with
  | some value =>
    pure
      { sender := prefixedHex sender, recipient := prefixedHex recipient, data := tx.data, value }
  | none => .error (.nonPositiveAmount (integerText tx.amount))

/-- The energy that a contract call would use; a native transfer uses none. -/
def estimateEnergy (tx : Transaction) : Exchange ClientError Nat :=
  if tx.data = [] then pure 0
  else do
    let r ← .ofExcept (estimateRequest tx)
    let energy ← ofNode (Rpc.estimateGas r)
    if energy < u64Limit then pure energy
    else .fail (.invalidResponse ("estimated energy " ++ decimalText energy ++ " overflows u64"))

def suggestFee (tx : Transaction) : Exchange ClientError FeeLimit := do
  let gas ← estimateEnergy tx
  let price ← gasPrice
  pure { gas, gasFeeCap := price, gasTipCap := 0 }

end Tronkit.Client
