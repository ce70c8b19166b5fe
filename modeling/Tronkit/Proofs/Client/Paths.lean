import Tronkit.Proofs.Client.Method
import Tronkit.Proofs.Node.Wallet

/-!
# The paths that are asked for

A call goes to the service itself. Everything else is asked of the wallet interface, under one of
few paths, or is the question for the events of a transaction, whose hash is a part of the path.
-/

namespace Tronkit

namespace Exchange

variable {ε δ α β : Type} {P : Request → Prop}

def Keeps (P : Request → Prop) (x : Exchange ε α) : Prop :=
  ∀ net sent, (∀ r ∈ sent, P r) → ∀ r ∈ (x.run net sent).2, P r

namespace Keeps

theorem ofExcept (r : Except ε α) : (Exchange.ofExcept r).Keeps P := by
  intro net sent h
  rw [run_ofExcept]
  exact h

theorem pure (a : α) : (Pure.pure a : Exchange ε α).Keeps P := ofExcept (.ok a)

theorem fail (e : ε) : (Exchange.fail e : Exchange ε α).Keeps P := ofExcept (.error e)

theorem ofOption (e : ε) (o : Option α) : (Exchange.ofOption e o).Keeps P := by
  cases o with
  | some a => exact pure a
  | none => exact fail e

theorem bind {x : Exchange ε α} {f : α → Exchange ε β} (h : x.Keeps P)
    (hf : ∀ a, (f a).Keeps P) : (x >>= f).Keeps P := by
  intro net sent hsent
  have hfirst := h net sent hsent
  cases hout : (x.run net sent).1 with
  | error e =>
    rw [run_bind_of_error hout]
    exact hfirst
  | ok a =>
    rw [run_bind_of_ok hout]
    exact hf a net _ hfirst

theorem mapError {x : Exchange ε α} (h : x.Keeps P) (f : ε → δ) : (x.mapError f).Keeps P := h

end Keeps
end Exchange

namespace Node

variable {α β : Type}

namespace Wallet

def paths : List String :=
  ["wallet/createtransaction", "wallet/freezebalancev2", "wallet/unfreezebalancev2",
    "wallet/withdrawexpireunfreeze", "wallet/delegateresource", "wallet/triggersmartcontract",
    "wallet/triggerconstantcontract", "wallet/broadcasttransaction", "wallet/deploycontract",
    "wallet/gettransactionbyid", "wallet/gettransactioninfobyid", "wallet/getaccountresource",
    "wallet/getblockbylatestnum?num=1", "wallet/getenergyprices"]

def eventsPath (hash : String) : String := "v1/transactions/" ++ hash ++ "/events"

end Wallet

inductive IsUsual : Request → Prop
  | call (method : String) (body : Bytes) : IsUsual (.call method body)
  | wallet {path : String} {body : Option Bytes} (h : path ∈ Wallet.paths) :
    IsUsual ⟨.wallet, path, none, body⟩
  | events (hash : String) : IsUsual (.get .events (Wallet.eventsPath hash))

theorem keeps_ask (what : String) {r : Request} (h : IsUsual r) :
    (ask what r).Keeps IsUsual := by
  intro net sent hsent
  rw [run_ask]
  exact List.forall_mem_append.2 ⟨hsent, List.forall_mem_singleton.2 h⟩

namespace Rpc

theorem keeps_call (method : String) (params : List Json) :
    (call method params).Keeps IsUsual :=
  .bind (keeps_ask method (.call method _)) fun _ => .ofExcept _

theorem keeps_callAs (read : String → Except NumberError α) (method : String)
    (params : List Json) : (callAs read method params).Keeps IsUsual := by
  refine .bind (.bind (keeps_call method params) fun v => ?_) fun _ => .ofExcept _
  split
  · exact .pure _
  · exact .fail _

theorem keeps_known (method : String) (params : List Json) :
    (do pure (known (← call method params)) : Exchange NodeError _).Keeps IsUsual :=
  .bind (keeps_call method params) fun _ => .pure _

end Rpc

namespace Wallet

variable {path : String}

theorem keeps_post (h : path ∈ paths) (body : List Char) (f : Bytes → Except NodeError β) :
    (post path body >>= fun b => Exchange.ofExcept (f b)).Keeps IsUsual :=
  .bind (keeps_ask path (.wallet h)) fun _ => .ofExcept _

theorem keeps_get (h : path ∈ paths) (f : Bytes → Except NodeError β) :
    (get path >>= fun b => Exchange.ofExcept (f b)).Keeps IsUsual :=
  .bind (keeps_ask path (.wallet h)) fun _ => .ofExcept _

theorem keeps_events (hash : String) : (events hash).Keeps IsUsual :=
  .bind (keeps_ask _ (.events hash)) fun _ => .ofExcept _

end Wallet
end Node

namespace Client

open Node

variable {c : Client}

theorem keeps_sealed {x : Exchange NodeError Draft} (h : x.Keeps IsUsual) :
    (ofNode x >>= fun d => .ofExcept (sealDraft d)).Keeps IsUsual :=
  .bind (h.mapError _) fun _ => .ofExcept _

theorem keeps_build (c : Client) (tx : Transaction) : (c.build tx).Keeps IsUsual := by
  refine .bind ?_ fun _ => .ofExcept _
  unfold draft
  split
  · exact .bind (.ofExcept _) fun r => Wallet.keeps_post (by decide) r.render _
  · exact .bind (.ofExcept _) fun r => Wallet.keeps_post (by decide) r.render _

theorem keeps_estimateEnergy (tx : Transaction) : (estimateEnergy tx).Keeps IsUsual := by
  unfold estimateEnergy
  split
  · exact .pure 0
  · refine .bind (.ofExcept _) fun r => .bind (Rpc.keeps_callAs _ _ _) fun energy => ?_
    split
    · exact .pure energy
    · exact .fail _

theorem keeps_constantCall (contract owner selector parameter : String) :
    (constantCall contract owner selector parameter).Keeps IsUsual :=
  .bind (.ofExcept _) fun _ => Wallet.keeps_post (by decide) _ _

theorem keeps_call (tx : Transaction) : (call tx).Keeps IsUsual :=
  .bind (.ofExcept _) fun _ => Rpc.keeps_callAs _ _ _

theorem keeps_tokenDecimals (contract : String) : (tokenDecimals contract).Keeps IsUsual := by
  refine .bind (keeps_constantCall _ _ _ _) fun _ => .bind (.ofExcept _) fun decimals => ?_
  split
  · exact .pure decimals
  · exact .fail _

theorem keeps_resolve (c : Client) (hash : String) : (c.resolve hash).Keeps IsUsual := by
  refine .bind (Wallet.keeps_post (by decide) _ _) fun receipt => ?_
  refine .bind (Wallet.keeps_post (by decide) _ _) fun detail => ?_
  split
  · exact .pure _
  · exact .bind (Wallet.keeps_events _) fun _ => .pure _

theorem keeps_perform (c : Client) {α : Type} (m : Method α) : (m.perform c).Keeps IsUsual := by
  cases m with
  | register name declaration => exact .ofExcept _
  | encode method name args => exact .ofExcept _
  | decode method name data => exact .ofExcept _
  | calledMethod name data => exact .ofExcept _
  | transferData recipient value => exact .ofExcept _
  | approveData spender amount => exact .ofExcept _
  | balance address => exact .bind (.ofExcept _) fun _ => Rpc.keeps_callAs _ _ _
  | tokenBalance contract owner =>
    exact .bind (.ofExcept _) fun _ => .bind (.ofExcept _) fun _ =>
      .bind (keeps_constantCall _ _ _ _) fun _ => .ofExcept _
  | tokenDecimals contract => exact keeps_tokenDecimals contract
  | tokenSupply contract => exact .bind (keeps_constantCall _ _ _ _) fun _ => .ofExcept _
  | tokenSymbol contract => exact .bind (keeps_constantCall _ _ _ _) fun _ => .ofExcept _
  | tokenAllowance contract owner spender =>
    exact .bind (.ofExcept _) fun _ => .bind (keeps_call _) fun _ =>
      .bind (.ofExcept _) fun _ => .ofOption _ _
  | build tx => exact keeps_build c tx
  | broadcast envelope signature =>
    exact .bind (.ofExcept _) fun _ => .bind (.ofExcept _) fun _ =>
      .bind (Wallet.keeps_post (by decide) _ _) fun _ => .pure _
  | nonce address => exact .pure 0
  | estimateEnergy tx => exact keeps_estimateEnergy tx
  | suggestFee tx =>
    exact .bind (keeps_estimateEnergy tx) fun _ => .bind (Rpc.keeps_callAs _ _ _) fun _ => .pure _
  | gasPrice => exact .bind (Rpc.keeps_callAs _ _ _) fun _ => .pure _
  | call tx => exact keeps_call tx
  | resolve hash => exact keeps_resolve c hash
  | eventResults name log => exact .ofExcept _
  | isValid address => exact .pure _
  | normalize address => exact .pure _
  | isNative asset => exact .pure _
  | nativeAddress => exact .pure _
  | nativeDecimals => exact .pure _
  | readAddress address => exact .ofExcept _
  | writeAddress address => exact .pure _
  | isContract address => exact .bind (Rpc.keeps_callAs _ _ _) fun _ => .pure _
  | latestBlockNumber => exact Wallet.keeps_get (by decide) _
  | blockNumber => exact Rpc.keeps_callAs _ _ _
  | block number => exact Rpc.keeps_known _ _
  | chainId => exact Rpc.keeps_callAs _ _ _
  | receipt hash => exact Rpc.keeps_known _ _
  | deploy abi bytecode tx =>
    exact .bind (.ofExcept _) fun _ => .bind (Wallet.keeps_post (by decide) _ _) fun _ =>
      .bind (.ofExcept _) fun _ => .pure _
  | stake owner resource amount =>
    exact .bind (.ofExcept _) fun _ => keeps_sealed (Wallet.keeps_post (by decide) _ _)
  | unstake owner resource amount =>
    exact .bind (.ofExcept _) fun _ => keeps_sealed (Wallet.keeps_post (by decide) _ _)
  | withdraw owner =>
    exact .bind (.ofExcept _) fun _ => keeps_sealed (Wallet.keeps_post (by decide) _ _)
  | delegate owner receiver resource amount =>
    exact .bind (.ofExcept _) fun _ => keeps_sealed (Wallet.keeps_post (by decide) _ _)
  | accountResource address =>
    exact .bind (.ofExcept _) fun _ => Wallet.keeps_post (by decide) _ _
  | energyPrice now => exact Wallet.keeps_get (by decide) _

/-- Whatever the network answers, all that is asked of it is usual. -/
theorem isUsual_of_mem_run (c : Client) {α : Type} (m : Method α) (net : Transport) :
    ∀ r ∈ ((m.perform c).run net []).2, IsUsual r :=
  keeps_perform c m net [] (List.forall_mem_nil _)

end Client
end Tronkit
