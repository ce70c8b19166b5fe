import Tronkit.Node.Message
import Tronkit.Node.Price
import Tronkit.Node.Request
import Tronkit.Node.Rpc

/-!
# The wallet interface and the event index

A call of the wallet interface posts a body to a path, or gets the path as it is. An answer that
can be read may still be a refusal: the node then says why in a body of its own form, and that
body becomes the error.
-/

namespace Tronkit.Node

open Json

def readBody {α : Type} (what : String) (r : Reader α) (body : Bytes) : Except NodeError α :=
  (Json.parse r body).mapError fun fault => unreadable what fault body

namespace Wallet

def post (path : String) (body : List Char) : Exchange NodeError Bytes :=
  ask path (Request.post .wallet path (Utf8.encode body))

def get (path : String) : Exchange NodeError Bytes := ask path (Request.get .wallet path)

def getEvents (path : String) : Exchange NodeError Bytes := ask path (Request.get .events path)

def accept {α β : Type} (what : String) (r : Reader α) (wanted : α → Option β) (body : Bytes) :
    Except NodeError β := do
  match wanted (← readBody what r body) with
  | some b => pure b
  | none => .error (.ofBody body)

/-- A transaction is known by its hash; the node tells none if it refuses. -/
def made (d : Draft) : Option Draft := if d.txId = "" then none else some d

def draft (path : String) (body : List Char) : Exchange NodeError Draft := do
  .ofExcept (accept path Draft.record.reader made (← post path body))

def createTransaction (r : TransferRequest) : Exchange NodeError Draft :=
  draft "wallet/createtransaction" r.render

def freeze (r : StakeRequest) : Exchange NodeError Draft :=
  draft "wallet/freezebalancev2" r.renderFreeze

def unfreeze (r : StakeRequest) : Exchange NodeError Draft :=
  draft "wallet/unfreezebalancev2" r.renderUnfreeze

def withdraw (owner : String) : Exchange NodeError Draft :=
  draft "wallet/withdrawexpireunfreeze" (withdrawRequest owner)

def delegate (r : DelegateRequest) : Exchange NodeError Draft :=
  draft "wallet/delegateresource" r.render

def trigger (r : TriggerRequest) : Exchange NodeError Draft := do
  let path := "wallet/triggersmartcontract"
  let body ← post path r.render
  .ofExcept (accept path TriggerAnswer.record.reader (fun a => a.transaction.bind made) body)

def constantResult (a : ConstantAnswer) : Option String :=
  if a.result.result then a.constantResult.head? else none

def triggerConstant (r : TriggerRequest) : Exchange NodeError String := do
  let path := "wallet/triggerconstantcontract"
  let body ← post path r.render
  .ofExcept (accept path ConstantAnswer.record.reader constantResult body)

def broadcast (d : Draft) : Exchange NodeError BroadcastAnswer := do
  let path := "wallet/broadcasttransaction"
  let body ← post path d.render
  .ofExcept (accept path BroadcastAnswer.record.reader
    (fun a => if a.result then some a else none) body)

def deploy (r : DeployRequest) : Exchange NodeError DeployAnswer := do
  let path := "wallet/deploycontract"
  let body ← post path r.render
  .ofExcept (accept path DeployAnswer.record.reader
    (fun a => if a.txId = "" then none else some a) body)

def detail (hash : String) : Exchange NodeError Detail := do
  let path := "wallet/gettransactionbyid"
  let body ← post path (hashRequest hash)
  .ofExcept (readBody path Detail.record.reader body)

def receipt (hash : String) : Exchange NodeError Receipt := do
  let path := "wallet/gettransactioninfobyid"
  let body ← post path (hashRequest hash)
  .ofExcept (readBody path Receipt.record.reader body)

structure Allowance where
  bandwidth : Nat
  energy : Nat
  deriving DecidableEq, Repr

def Allowance.ofResource (r : AccountResource) : Allowance :=
  ⟨r.freeNetLimit - r.freeNetUsed, r.energyLimit - r.energyUsed⟩

def accountResource (address : String) : Exchange NodeError Allowance := do
  let path := "wallet/getaccountresource"
  let body ← post path (accountRequest address)
  .ofExcept ((readBody path AccountResource.record.reader body).map Allowance.ofResource)

def latestBlockNumber : Exchange NodeError Nat := do
  let path := "wallet/getblockbylatestnum?num=1"
  let body ← get path
  .ofExcept (accept path blocksRecord.reader (fun bs => bs.head?.map BlockHeader.number) body)

def energyPrice (now : Nat) : Exchange NodeError Nat := do
  let path := "wallet/getenergyprices"
  let body ← get path
  .ofExcept (accept path pricesRecord.reader (fun prices => Price.current prices now) body)

def events (hash : String) : Exchange NodeError Events := do
  let path := "v1/transactions/" ++ hash ++ "/events"
  let body ← getEvents path
  .ofExcept (readBody path Events.record.reader body)

end Wallet
end Tronkit.Node
