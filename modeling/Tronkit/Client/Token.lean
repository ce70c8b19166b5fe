import Tronkit.Client.Build
import Tronkit.Number.Blob

/-!
# Token contracts

Questions to token contracts. Most are constant calls, which answer with a blob that is read
leniently. The allowance is asked by a dry run, and its answer is decoded by the interface of
tokens.
-/

namespace Tronkit.Client

open Node

def constantCall (contract owner selector parameter : String) : Exchange ClientError String := do
  let contract ← .ofExcept (readAddress contract)
  ofNode (Wallet.triggerConstant { owner, contract := contract.base58, selector, parameter,
                                   visible := true, feeLimit := none })

/-- A constant call without arguments, which nobody in particular makes. -/
def ask (contract selector : String) : Exchange ClientError String :=
  constantCall contract Address.empty.base58 selector ""

def ofNumber {α : Type} (r : Except NumberError α) : Exchange ClientError α :=
  .ofExcept (r.mapError .ofNumber)

def tokenBalance (c : Client) (contract owner : String) : Exchange ClientError Nat := do
  let owner ← .ofExcept (readAddress owner)
  let data ← .ofExcept (c.encode "balanceOf" Standard.tokenName [.address owner.base58])
  let result ← constantCall contract owner.base58 "balanceOf(address)" (Hex.text (data.drop 4))
  ofNumber (Quantity.readNat result)

def tokenDecimals (contract : String) : Exchange ClientError Nat := do
  let decimals ← ofNumber (Blob.readNat (← ask contract "decimals()"))
  if decimals < 256 then pure decimals
  else .fail (.invalidResponse ("decimals " ++ decimalText decimals ++ " do not fit into u8"))

def tokenSupply (contract : String) : Exchange ClientError Nat := do
  ofNumber (Blob.readNat (← ask contract "totalSupply()"))

def tokenSymbol (contract : String) : Exchange ClientError String := do
  ofNumber (Blob.readString (← ask contract "symbol()"))

/-- The address of a sender, and the empty one for a text that is no address. -/
def senderOrEmpty (s : String) : Address := ((readAddress s).toOption).getD Address.empty

def dryRun (tx : Transaction) : Except ClientError Rpc.DryRun := do
  let recipient ← readAddress tx.recipient
  match tx.amount.toNat? with
  | some value =>
    pure { sender := (senderOrEmpty tx.sender).hex, recipient := recipient.hex, data := tx.data,
           value }
  | none => .error (.invalidArgument ("negative call value " ++ integerText tx.amount))

def call (tx : Transaction) : Exchange ClientError Bytes := do
  let r ← .ofExcept (dryRun tx)
  ofNode (Rpc.execute r)

def tokenAllowance (c : Client) (contract owner spender : String) : Exchange ClientError Nat := do
  let args := [AbiArgument.address owner, .address spender]
  let data ← .ofExcept (c.encode "allowance" Standard.tokenName args)
  let result ← call { Transaction.blank 0 with sender := owner, recipient := contract, data }
  let values ← .ofExcept (c.decode "allowance" Standard.tokenName result)
  .ofOption (.invalidResponse ("unexpected allowance result 0x" ++ Hex.text result))
    (values.head?.bind AbiValue.asUint?)

end Tronkit.Client
