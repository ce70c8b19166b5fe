import Tronkit.Model.Transaction

/-!
# Transaction records

What is known of a transaction: the transaction itself, its status, the fee it paid and the
events it emitted. A pending record is one about which the node cannot tell yet.
-/

namespace Tronkit

inductive TransactionStatus
  | pending
  | success
  | failed
  | invalid
  deriving DecidableEq, Repr

/-- An event as the event index stores it: topics and data are texts in bytes. -/
structure EventLog where
  address : String
  topics : List Bytes
  data : Bytes
  deriving DecidableEq, Repr

structure GasInfo where
  fee : Nat
  deriving DecidableEq, Repr

structure TransactionInfo where
  tx : Transaction
  isPending : Bool
  status : TransactionStatus
  error : Option String
  gas : Option GasInfo
  logs : List EventLog
  deriving DecidableEq, Repr

open Json

namespace TransactionStatus

def names : List (String × TransactionStatus) :=
  [("pending", pending), ("success", success), ("failed", failed), ("invalid", invalid)]

def name : TransactionStatus → String
  | pending => "pending"
  | success => "success"
  | failed => "failed"
  | invalid => "invalid"

def reader : Reader TransactionStatus := Reader.choice names

end TransactionStatus

namespace GasInfo

def record : Record GasInfo := GasInfo.mk <$> .required "fee" BigNumber.unsigned

def render (g : GasInfo) : List Char := Render.object [("fee", BigNumber.quoted g.fee)]

end GasInfo

namespace EventLog

def bytesReader : Reader Bytes := Reader.list Reader.byte

def renderBytes (bs : Bytes) : List Char := Render.array (bs.map fun b => Render.natural b.toNat)

def record : Record EventLog :=
  EventLog.mk <$> .required "address" Reader.string
    <*> .required "topics" (Reader.list bytesReader)
    <*> .required "data" bytesReader

def render (e : EventLog) : List Char :=
  Render.object [("address", Render.string e.address),
    ("topics", Render.array (e.topics.map renderBytes)), ("data", renderBytes e.data)]

end EventLog

namespace TransactionInfo

def pending (tx : Transaction) : TransactionInfo :=
  { tx, isPending := true, status := .pending, error := none, gas := none, logs := [] }

def record : Record TransactionInfo :=
  TransactionInfo.mk <$> .required "tx" Transaction.record.reader
    <*> .required "is_pending" Reader.bool
    <*> .required "status" TransactionStatus.reader
    <*> .optional "error" Reader.string
    <*> .optional "gas" GasInfo.record.reader
    <*> .withDefault "logs" [] (Reader.list EventLog.record.reader)

def render (i : TransactionInfo) : List Char :=
  Render.object ([("tx", i.tx.render), ("is_pending", Render.bool i.isPending),
    ("status", Render.string i.status.name)]
    ++ Render.optional "error" (i.error.map Render.string)
    ++ Render.optional "gas" (i.gas.map GasInfo.render)
    ++ [("logs", Render.array (i.logs.map EventLog.render))])

end TransactionInfo
end Tronkit
