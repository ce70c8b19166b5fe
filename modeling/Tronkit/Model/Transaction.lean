import Tronkit.Json.BigNumber
import Tronkit.Text.Hex

/-!
# Transactions

A transaction moves an amount from one account to another, or calls a contract if it carries
call data. Amounts have any size and are written as decimal strings, call data in hexadecimal.
-/

namespace Tronkit

structure FeeLimit where
  gas : Nat
  gasFeeCap : Nat
  gasTipCap : Nat
  deriving DecidableEq, Repr

/-- The addresses are texts in any of the address forms, as the caller gave them. -/
structure Transaction where
  sender : String
  recipient : String
  amount : Int
  data : Bytes
  fee : Option FeeLimit
  chainId : Nat
  deriving DecidableEq, Repr

structure UnsignedTransaction where
  envelope : Bytes
  hash : Bytes
  deriving DecidableEq, Repr

open Json

namespace FeeLimit

def record : Record FeeLimit :=
  FeeLimit.mk <$> .required "gas" BigNumber.unsigned
    <*> .required "gas_fee_cap" BigNumber.unsigned
    <*> .required "gas_tip_cap" BigNumber.unsigned

def render (f : FeeLimit) : List Char :=
  Render.object [("gas", BigNumber.quoted f.gas), ("gas_fee_cap", BigNumber.quoted f.gasFeeCap),
    ("gas_tip_cap", BigNumber.quoted f.gasTipCap)]

end FeeLimit

namespace Transaction

def blank (chainId : Nat) : Transaction :=
  { sender := "", recipient := "", amount := 0, data := [], fee := none, chainId }

def hexData : Reader Bytes := Reader.string.filterMap fun s => Hex.decode? s.toList

def record : Record Transaction :=
  Transaction.mk <$> .required "from" Reader.string
    <*> .required "to" Reader.string
    <*> .required "amount" BigNumber.signed
    <*> .withDefault "data" [] hexData
    <*> .optional "fee" FeeLimit.record.reader
    <*> .withDefault "chain_id" 0 Reader.u64

def render (t : Transaction) : List Char :=
  Render.object ([("from", Render.string t.sender), ("to", Render.string t.recipient),
    ("amount", BigNumber.quotedInteger t.amount), ("data", Render.string (Hex.text t.data))]
    ++ Render.optional "fee" (t.fee.map FeeLimit.render)
    ++ [("chain_id", Render.natural t.chainId)])

end Transaction
end Tronkit
