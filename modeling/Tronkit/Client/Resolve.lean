import Tronkit.Client.Basic

/-!
# Resolving transactions

The record of a transaction is put together from three answers: the receipt has the fee and the
block, the detail has the parameters of the contract and the result code, and the event index
has the events. The events are asked for last, and only if everything before was in order.
-/

namespace Tronkit.Client

open Node

abbrev Members := List (String × Json)

def textMember (key : String) (value : Members) : String :=
  ((value.lookup key).bind Json.asString?).getD ""

/-- The recipient of a transfer, or the contract of a call. -/
def destination (value : Members) : Address :=
  let recipient := Address.ofHexOrEmpty (textMember "to_address" value)
  if recipient.isEmpty then Address.ofHexOrEmpty (textMember "contract_address" value)
  else recipient

/-- The amount of a transfer, or the value that goes with a call; zero if it cannot be read. -/
def amountMember (value : Members) : Nat :=
  match (value.lookup "amount").or (value.lookup "call_value") with
  | some (.integer z) => z.toNat
  | _ => 0

inductive RecordFault
  | noContract
  | callDataNotText
  | callDataNotHex
  deriving DecidableEq, Repr

def RecordFault.text : RecordFault → String
  | noContract => "no_contract_found_in_raw_data"
  | callDataNotText => "call_data_is_not_string"
  | callDataNotHex => "call_data_decode_failed"

def callData (value : Members) : Except RecordFault Bytes :=
  match value.lookup "data" with
  | none => .ok []
  | some (.string s) => (Hex.decode s.toList).mapError fun _ => .callDataNotHex
  | some _ => .error .callDataNotText

def isSuccess (code : String) : Bool := code.map Char.toLower = "success"

def statusOf (code : String) : TransactionStatus := if isSuccess code then .success else .failed

/-- A record that lacks its events: it may be complete without them. -/
inductive Summary
  | complete (info : TransactionInfo)
  | awaitingEvents (info : TransactionInfo)
  deriving DecidableEq, Repr

def invalid (info : TransactionInfo) (fault : RecordFault) : Summary :=
  .complete { info with status := .invalid, error := some fault.text }

def withContract (info : TransactionInfo) (value : Members) : Summary :=
  let tx := { info.tx with
    sender := (Address.ofHexOrEmpty (textMember "owner_address" value)).base58
    recipient := (destination value).base58
    amount := amountMember value }
  match callData value with
  | .ok data => .awaitingEvents { info with tx := { tx with data } }
  | .error fault => invalid { info with tx } fault

def feePaid (fee : Nat) : FeeLimit := { gas := fee, gasFeeCap := 1, gasTipCap := 0 }

/-- What the receipt and the detail say. The node does not know a transaction without raw data
or without a result code. -/
def summary (c : Client) (receipt : Receipt) (detail : Detail) : Summary :=
  let tx := Transaction.blank c.chainId
  match detail.rawData, detail.returnCodes with
  | some raw, code :: _ =>
    let fee := receipt.fee.getD 0
    let info : TransactionInfo :=
      { tx := { tx with fee := some (feePaid fee) }, isPending := receipt.blockNumber.isNone,
        status := statusOf code, error := none, gas := some ⟨fee⟩, logs := [] }
    match raw.contracts with
    | contract :: _ => withContract info contract.parameter.value
    | [] => invalid info .noContract
  | _, _ => .complete (.pending tx)

def logOf (e : Event) : EventLog :=
  { address := e.contractAddress, topics := [textBytes e.name],
    data := (Json.object e.result).bytes }

def logsOf (es : Events) : List EventLog := (es.data.filterMap id).map logOf

def resolve (c : Client) (hash : String) : Exchange ClientError TransactionInfo := do
  let hash := Quantity.strip hash
  let receipt ← ofNode (Wallet.receipt hash)
  let detail ← ofNode (Wallet.detail hash)
  match c.summary receipt detail with
  | .complete info => pure info
  | .awaitingEvents info =>
    let events ← ofNode (Wallet.events hash)
    pure { info with logs := logsOf events }

end Tronkit.Client
