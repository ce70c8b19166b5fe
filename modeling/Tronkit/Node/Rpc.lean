import Tronkit.Json.Reader
import Tronkit.Node.Error
import Tronkit.Number.Quantity
import Tronkit.Text.Hex
import Tronkit.Transport.Exchange

/-!
# JSON-RPC

A call names a method and passes parameters; the answer is a result or a failure with a code.
An answer is a closed record: it has no other keys than those it must or may have, each at most
once, or it is the array of all its fields. An array of answers is a batch, which nobody asked
for.
-/

namespace Tronkit.Node

def ask (what : String) (r : Request) : Exchange NodeError Bytes := do
  let response ← (Exchange.send r).mapError NodeError.ofTransport
  if Status.isSuccess response.status then pure response.body
  else .fail (.transport (what ++ " responded with " ++ Status.text response.status ++ ": "
    ++ lossyText response.body))

def unreadable (what : String) (fault : Json.ReadError) (body : Bytes) : NodeError :=
  .invalidResponse (what ++ ": " ++ fault.text ++ ", body: " ++ lossyText body)

namespace Rpc

def callId : Nat := 2023

def callJson (method : String) (params : List Json) : Json :=
  .object [("jsonrpc", .string "2.0"), ("method", .string method), ("params", .array params),
    ("id", .natural callId)]

inductive Reply
  | result (value : Json)
  | failure (code : Int) (message : String)
  deriving Repr

def fields? (names : List String) : Json → Option (List (Option Json))
  | .object members =>
    let keys := members.map Prod.fst
    if keys.Nodup ∧ ∀ k ∈ keys, k ∈ names then some (names.map fun k => members.lookup k) else none
  | .array elements => if elements.length = names.length then some (elements.map some) else none
  | _ => none

def isVersion : Option Json → Bool
  | none => true
  | some .null => true
  | some (.string s) => s = "2.0"
  | some _ => false

/-- The id of a call has to be there, but it is not compared with anything. -/
def isId : Option Json → Bool
  | some .null => true
  | some (.string _) => true
  | some (.integer z) => 0 ≤ z
  | _ => false

def result? (v : Json) : Option Reply :=
  match fields? ["jsonrpc", "result", "id"] v with
  | some [version, some value, id] =>
    if isVersion version && isId id then value.plain?.map .result else none
  | _ => none

def codeLimit : Int := Nat.pow 2 63

def isCode (z : Int) : Bool := -codeLimit ≤ z && z < codeLimit

def errorObject? (v : Json) : Option Reply :=
  match fields? ["code", "message", "data"] v with
  | some [some (.integer code), some (.string message), data] =>
    if isCode code && data.all fun v => v.plain?.isSome then some (.failure code message) else none
  | _ => none

def failure? (v : Json) : Option Reply :=
  match fields? ["jsonrpc", "error", "id"] v with
  | some [version, some error, id] =>
    if isVersion version && isId id then errorObject? error else none
  | _ => none

def reply? (v : Json) : Option Reply := (result? v).or (failure? v)

def readResult (body : Bytes) : Except NodeError Json :=
  match Json.parse Json.Reader.tree body with
  | .error fault => .error (unreadable "JSON-RPC" fault body)
  | .ok v =>
    match reply? v, v with
    | some (.result value), _ => .ok value
    | some (.failure code message), _ => .error (.rpc code message)
    | none, .array replies =>
      if replies.all fun r => (reply? r).isSome then
        .error (.invalidResponse "Expected single, got batch.")
      else .error (unreadable "JSON-RPC" .malformed body)
    | none, _ => .error (unreadable "JSON-RPC" .malformed body)

def call (method : String) (params : List Json) : Exchange NodeError Json := do
  let body ← ask method (Request.call method (callJson method params).bytes)
  .ofExcept (readResult body)

def callText (method : String) (params : List Json) : Exchange NodeError String := do
  match ← call method params with
  | .string s => pure s
  | v => .fail (.invalidResponse (method ++ ": expected a hex string, got " ++ v.text))

def callAs {α : Type} (read : String → Except NumberError α) (method : String)
    (params : List Json) : Exchange NodeError α := do
  let s ← callText method params
  .ofExcept ((read s).mapError fun fault => .invalidResponse (method ++ ": " ++ fault.message))

/-- A byte string; a text without `0x` stands for its own bytes. -/
def readBlob (s : String) : Except NumberError Bytes :=
  if s.toList.take 2 = ['0', 'x'] then Quantity.readBytes s else .ok (textBytes s)

def latest : Json := .string "latest"

def chainId : Exchange NodeError Nat := callAs Quantity.readU64 "eth_chainId" []

def blockNumber : Exchange NodeError Nat := callAs Quantity.readU64 "eth_blockNumber" []

def gasPrice : Exchange NodeError Nat := callAs Quantity.readNat "eth_gasPrice" []

def balance (address : String) : Exchange NodeError Nat :=
  callAs Quantity.readNat "eth_getBalance" [.string address, latest]

def code (address : String) : Exchange NodeError Bytes :=
  callAs readBlob "eth_getCode" [.string address, latest]

def known : Json → Option Json
  | .null => none
  | v => some v

def block (number : Nat) : Exchange NodeError (Option Json) := do
  pure (known (← call "eth_getBlockByNumber" [.string (Quantity.write number), .bool true]))

def receipt (hash : String) : Exchange NodeError (Option Json) := do
  pure (known (← call "eth_getTransactionReceipt" [.string hash]))

structure DryRun where
  sender : String
  recipient : String
  data : Bytes
  value : Nat
  deriving DecidableEq, Repr

def DryRun.json (r : DryRun) : Json :=
  .object [("from", .string r.sender), ("to", .string r.recipient),
    ("data", .string ("0x" ++ Hex.text r.data)), ("value", .string (Quantity.write r.value))]

def execute (r : DryRun) : Exchange NodeError Bytes := callAs readBlob "eth_call" [r.json, latest]

def estimateGas (r : DryRun) : Exchange NodeError Nat :=
  callAs Quantity.readNat "eth_estimateGas" [r.json]

end Rpc
end Tronkit.Node
