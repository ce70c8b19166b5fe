import Tronkit.Model.Info
import Tronkit.Json.BigNumber

/-!
# Answers of a node

The messages of the wallet interface and of the event index, reduced to the fields that are
used. The raw data of a transaction is kept as the node wrote it, since the transaction's hash
is derived from it.
-/

namespace Tronkit.Node

open Json

structure Draft where
  visible : Bool
  txId : String
  contractAddress : Option String
  rawData : Option String
  rawDataHex : String
  signature : List String
  deriving DecidableEq, Repr

namespace Draft

def record : Record Draft :=
  Draft.mk <$> .withDefault "visible" false Reader.bool
    <*> .withDefault "txID" "" Reader.string
    <*> .optional "contract_address" Reader.string
    <*> .optional "raw_data" Reader.verbatim
    <*> .withDefault "raw_data_hex" "" Reader.string
    <*> .withDefault "signature" [] (Reader.list Reader.string)

def nonempty (s : String) : Option (List Char) := if s = "" then none else some (Render.string s)

def render (d : Draft) : List Char :=
  Render.object ([("visible", Render.bool d.visible)]
    ++ Render.optional "txID" (nonempty d.txId)
    ++ Render.optional "contract_address" (d.contractAddress.map Render.string)
    ++ Render.optional "raw_data" (d.rawData.map String.toList)
    ++ Render.optional "raw_data_hex" (nonempty d.rawDataHex)
    ++ if d.signature = [] then []
       else [("signature", Render.array (d.signature.map Render.string))])

end Draft

structure Envelope where
  transaction : Draft
  txId : String
  deriving DecidableEq, Repr

namespace Envelope

def record : Record Envelope :=
  Envelope.mk <$> .required "transaction" Draft.record.reader <*> .required "txID" Reader.string

def render (e : Envelope) : List Char :=
  Render.object [("transaction", e.transaction.render), ("txID", Render.string e.txId)]

end Envelope

structure ResultMessage where
  result : Bool
  code : Option String
  message : Option String
  deriving DecidableEq, Repr

def ResultMessage.none : ResultMessage := ⟨false, .none, .none⟩

def ResultMessage.record : Record ResultMessage :=
  ResultMessage.mk <$> .withDefault "result" false Reader.bool
    <*> .optional "code" Reader.string
    <*> .optional "message" Reader.string

structure TriggerAnswer where
  result : ResultMessage
  transaction : Option Draft
  deriving DecidableEq, Repr

def TriggerAnswer.record : Record TriggerAnswer :=
  TriggerAnswer.mk <$> .withDefault "result" ResultMessage.none ResultMessage.record.reader
    <*> .optional "transaction" Draft.record.reader

structure ConstantAnswer where
  result : ResultMessage
  constantResult : List String
  energyUsed : Nat
  deriving DecidableEq, Repr

def ConstantAnswer.record : Record ConstantAnswer :=
  ConstantAnswer.mk <$> .withDefault "result" ResultMessage.none ResultMessage.record.reader
    <*> .withDefault "constant_result" [] (Reader.list Reader.string)
    <*> .withDefault "energy_used" 0 Reader.u64

structure DeployAnswer where
  txId : String
  contractAddress : String
  rawData : Option String
  rawDataHex : String
  visible : Bool
  deriving DecidableEq, Repr

def DeployAnswer.record : Record DeployAnswer :=
  DeployAnswer.mk <$> .withDefault "txID" "" Reader.string
    <*> .withDefault "contract_address" "" Reader.string
    <*> .optional "raw_data" Reader.verbatim
    <*> .withDefault "raw_data_hex" "" Reader.string
    <*> .withDefault "visible" false Reader.bool

structure BroadcastAnswer where
  result : Bool
  txId : Option String
  code : Option String
  message : Option String
  deriving DecidableEq, Repr

def BroadcastAnswer.record : Record BroadcastAnswer :=
  BroadcastAnswer.mk <$> .withDefault "result" false Reader.bool
    <*> .optional "txid" Reader.string
    <*> .optional "code" Reader.string
    <*> .optional "message" Reader.string

structure Parameter where
  value : List (String × Json)
  typeUrl : String
  deriving DecidableEq, Repr

def Parameter.record : Record Parameter :=
  Parameter.mk <$> .withDefault "value" [] Reader.object
    <*> .withDefault "type_url" "" Reader.string

structure Contract where
  kind : String
  parameter : Parameter
  deriving DecidableEq, Repr

def Contract.record : Record Contract :=
  Contract.mk <$> .withDefault "type" "" Reader.string
    <*> .required "parameter" Parameter.record.reader

structure RawTransaction where
  contracts : List Contract
  feeLimit : Option Nat
  expiration : Option Nat
  deriving DecidableEq, Repr

def RawTransaction.record : Record RawTransaction :=
  RawTransaction.mk <$> .withDefault "contract" [] (Reader.list Contract.record.reader)
    <*> .optional "fee_limit" Reader.u64
    <*> .optional "expiration" Reader.u64

def returnCode : Record String := .withDefault "contractRet" "" Reader.string

structure Detail where
  txId : String
  rawData : Option RawTransaction
  returnCodes : List String
  deriving DecidableEq, Repr

def Detail.record : Record Detail :=
  Detail.mk <$> .withDefault "txID" "" Reader.string
    <*> .optional "raw_data" RawTransaction.record.reader
    <*> .withDefault "ret" [] (Reader.list returnCode.reader)

/-- What the node reports about a transaction in a block; empty for one that it does not know. -/
structure Receipt where
  id : String
  fee : Option Nat
  blockNumber : Option Nat
  blockTimestamp : Option Nat
  result : Option String
  deriving DecidableEq, Repr

def Receipt.record : Record Receipt :=
  Receipt.mk <$> .withDefault "id" "" Reader.string
    <*> .optional "fee" BigNumber.unsigned
    <*> .optional "blockNumber" Reader.u64
    <*> .optional "blockTimeStamp" Reader.u64
    <*> .optional "result" Reader.string

structure AccountResource where
  freeNetUsed : Nat
  freeNetLimit : Nat
  energyUsed : Nat
  energyLimit : Nat
  deriving DecidableEq, Repr

def AccountResource.record : Record AccountResource :=
  AccountResource.mk <$> .withDefault "freeNetUsed" 0 Reader.u64
    <*> .withDefault "freeNetLimit" 0 Reader.u64
    <*> .withDefault "EnergyUsed" 0 Reader.u64
    <*> .withDefault "EnergyLimit" 0 Reader.u64

structure BlockHeader where
  number : Nat
  timestamp : Nat
  deriving DecidableEq, Repr

def BlockHeader.record : Record BlockHeader :=
  BlockHeader.mk <$> .withDefault "number" 0 Reader.u64 <*> .withDefault "timestamp" 0 Reader.u64

def headerRecord : Record BlockHeader := .required "raw_data" BlockHeader.record.reader

def blockRecord : Record BlockHeader := .required "block_header" headerRecord.reader

def blocksRecord : Record (List BlockHeader) :=
  .withDefault "block" [] (Reader.list blockRecord.reader)

def pricesRecord : Record String := .withDefault "prices" "" Reader.string

structure Event where
  blockNumber : Nat
  blockTimestamp : Nat
  contractAddress : String
  name : String
  signature : String
  result : List (String × Json)
  deriving DecidableEq, Repr

def Event.record : Record Event :=
  Event.mk <$> .withDefault "block_number" 0 Reader.u64
    <*> .withDefault "block_timestamp" 0 Reader.u64
    <*> .withDefault "contract_address" "" Reader.string
    <*> .withDefault "event_name" "" Reader.string
    <*> .withDefault "event" "" Reader.string
    <*> .withDefault "result" [] Reader.object

/-- The events of one transaction; the index may hold `null` in place of an event. -/
structure Events where
  data : List (Option Event)
  success : Bool
  deriving DecidableEq, Repr

def Events.record : Record Events :=
  Events.mk <$> .withDefault "data" [] (Reader.list (Reader.option Event.record.reader))
    <*> .withDefault "success" false Reader.bool

end Tronkit.Node
