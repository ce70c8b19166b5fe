import Tronkit.Node.Wallet
import Tronkit.Proofs.Json.Reader
import Tronkit.Proofs.Transport.Exchange

/-!
# Questions to the wallet interface

A question is one request, whatever comes of it. It is answered by the body of a response with a
status of success; everything else is an error.
-/

namespace Tronkit.Node

open Json

def bodyOf (what : String) : Except TransportError Response → Except NodeError Bytes
  | .ok response =>
    if Status.isSuccess response.status then .ok response.body
    else .error (.transport (what ++ " responded with " ++ Status.text response.status ++ ": "
      ++ lossyText response.body))
  | .error e => .error (.ofTransport e)

theorem bodyOf_eq_ok_iff {what : String} {reply : Except TransportError Response} {body : Bytes} :
    bodyOf what reply = .ok body ↔
      ∃ response, reply = .ok response ∧ Status.isSuccess response.status ∧
        response.body = body := by
  cases reply with
  | error e => simp [bodyOf]
  | ok response =>
    rw [bodyOf]
    split
    · rename_i hstatus
      simp [hstatus]
    · rename_i hstatus
      simp [hstatus]

theorem run_ask (what : String) (r : Request) (net : Transport) (sent : List Request) :
    (ask what r).run net sent = (bodyOf what (net.reply sent r), sent ++ [r]) := by
  rw [ask, Exchange.run_bind, Exchange.run_mapError, Exchange.run_send]
  cases net.reply sent r with
  | error e => rfl
  | ok response =>
    rw [bodyOf, Exchange.mapError_ok]
    simp only
    split
    · rfl
    · rfl

namespace Wallet

theorem run_post {β : Type} (path : String) (body : List Char) (f : Bytes → Except NodeError β)
    (net : Transport) (sent : List Request) :
    (post path body >>= fun b => Exchange.ofExcept (f b)).run net sent =
      (bodyOf path (net.reply sent (.post .wallet path (Utf8.encode body))) >>= f,
        sent ++ [.post .wallet path (Utf8.encode body)]) := by
  rw [Exchange.run_bind_ofExcept, post, run_ask]

theorem readBody_eq_ok_iff {α : Type} {what : String} {r : Reader α} {body : Bytes} {a : α} :
    readBody what r body = .ok a ↔ Json.parse r body = .ok a := except_mapError_eq_ok_iff

theorem accept_eq_ok_iff {α β : Type} {what : String} {r : Reader α} {wanted : α → Option β}
    {body : Bytes} {b : β} :
    accept what r wanted body = .ok b ↔ ∃ a, Json.parse r body = .ok a ∧ wanted a = some b := by
  rw [accept, bind_eq_ok_iff]
  constructor
  · rintro ⟨a, hread, h⟩
    refine ⟨a, readBody_eq_ok_iff.1 hread, ?_⟩
    split at h
    · rename_i b' hb
      cases h
      exact hb
    · cases h
  · rintro ⟨a, hread, hb⟩
    refine ⟨a, readBody_eq_ok_iff.2 hread, ?_⟩
    rw [hb]
    rfl

theorem accept_of_fault {α β : Type} {what : String} {r : Reader α} {wanted : α → Option β}
    {body : Bytes} {fault : ReadError} (h : Json.parse r body = .error fault) :
    accept what r wanted body = .error (unreadable what fault body) := by
  rw [accept, readBody, h]
  rfl

/-- An answer that can be read but is not wanted is a rejection with the whole body. -/
theorem accept_of_unwanted {α β : Type} {what : String} {r : Reader α} {wanted : α → Option β}
    {body : Bytes} {a : α} (h : Json.parse r body = .ok a) (ha : wanted a = none) :
    accept what r wanted body = .error (.ofBody body) := by
  rw [accept, readBody_eq_ok_iff.2 h, ok_bind, ha]

theorem made_eq_none_iff {d : Draft} : made d = none ↔ d.txId = "" := by
  simp [made]

theorem made_eq_some_iff {d e : Draft} : made d = some e ↔ d.txId ≠ "" ∧ d = e := by
  unfold made
  split
  · rename_i hd
    simp [hd]
  · rename_i hd
    simp [hd]

theorem run_draft {path : String} {body : List Char} {net : Transport} {sent : List Request}
    {response : Response} {d : Draft}
    (hreply : net.reply sent (.post .wallet path (Utf8.encode body)) = .ok response)
    (hstatus : Status.isSuccess response.status)
    (hparse : Json.parse Draft.record.reader response.body = .ok d) (hid : d.txId ≠ "") :
    (draft path body).run net sent =
      (.ok d, sent ++ [.post .wallet path (Utf8.encode body)]) := by
  have hbody : bodyOf path (net.reply sent (.post .wallet path (Utf8.encode body))) =
      .ok response.body := bodyOf_eq_ok_iff.2 ⟨response, hreply, hstatus, rfl⟩
  have haccept : accept path Draft.record.reader made response.body = .ok d :=
    accept_eq_ok_iff.2 ⟨d, hparse, made_eq_some_iff.2 ⟨hid, rfl⟩⟩
  rw [draft, run_post, hbody, ok_bind, haccept]

def IsPost (path : String) (request : Request) : Prop :=
  ∃ body, request = .post .wallet path body

theorem concludes_post {β : Type} (path : String) (body : List Char)
    (f : Bytes → Except NodeError β) :
    (post path body >>= fun b => Exchange.ofExcept (f b)).Concludes (IsPost path)
      fun reply => bodyOf path reply >>= f :=
  fun net sent => .inr ⟨_, ⟨_, rfl⟩, run_post path body f net sent⟩

theorem asks_post (path : String) (body : List Char) :
    (post path body).Asks fun answer b => b = answer := by
  intro net sent sent' b hrun
  rw [post, run_ask] at hrun
  obtain ⟨response, hreply, hstatus, hbody⟩ := bodyOf_eq_ok_iff.1 (congrArg Prod.fst hrun)
  exact ⟨_, response, (congrArg Prod.snd hrun).symm, hreply, hstatus, hbody.symm⟩

theorem asks_accept {α β : Type} (path what : String) (body : List Char) (r : Reader α)
    (wanted : α → Option β) :
    (post path body >>= fun b => Exchange.ofExcept (accept what r wanted b)).Asks fun answer b =>
      ∃ a, Json.parse r answer = .ok a ∧ wanted a = some b := by
  refine ((asks_post path body).before (accept what r wanted)).mono fun answer b h => ?_
  obtain ⟨_, rfl, haccept⟩ := h
  exact accept_eq_ok_iff.1 haccept

theorem asks_draft (path : String) (body : List Char) :
    (draft path body).Asks fun answer d =>
      d.txId ≠ "" ∧ Json.parse Draft.record.reader answer = .ok d := by
  refine (asks_accept path path body Draft.record.reader made).mono fun answer d h => ?_
  obtain ⟨d', hparse, hmade⟩ := h
  obtain ⟨hne, rfl⟩ := made_eq_some_iff.1 hmade
  exact ⟨hne, hparse⟩

theorem asks_trigger (r : TriggerRequest) :
    (trigger r).Asks fun answer d => d.txId ≠ "" ∧
      ∃ a, Json.parse TriggerAnswer.record.reader answer = .ok a ∧ a.transaction = some d := by
  refine (asks_accept _ _ _ _ _).mono fun answer d h => ?_
  obtain ⟨a, hparse, hwanted⟩ := h
  obtain ⟨d', htransaction, hmade⟩ := Option.bind_eq_some_iff.1 hwanted
  obtain ⟨hne, rfl⟩ := made_eq_some_iff.1 hmade
  exact ⟨hne, a, hparse, htransaction⟩

theorem asks_deploy (r : DeployRequest) :
    (deploy r).Asks fun answer a =>
      a.txId ≠ "" ∧ Json.parse DeployAnswer.record.reader answer = .ok a := by
  refine (asks_accept _ _ _ _ _).mono fun answer a h => ?_
  obtain ⟨a', hparse, hwanted⟩ := h
  split at hwanted
  · cases hwanted
  · rename_i hne
    cases hwanted
    exact ⟨hne, hparse⟩

theorem constantResult_eq_some_iff {a : ConstantAnswer} {s : String} :
    constantResult a = some s ↔ a.result.result = true ∧ a.constantResult.head? = some s := by
  simp [constantResult]

theorem asks_triggerConstant (r : TriggerRequest) :
    (triggerConstant r).Asks fun answer s => ∃ a,
      Json.parse ConstantAnswer.record.reader answer = .ok a ∧ a.result.result = true ∧
        a.constantResult.head? = some s := by
  refine (asks_accept _ _ _ _ _).mono fun answer s h => ?_
  simpa only [constantResult_eq_some_iff] using h

theorem run_triggerConstant {r : TriggerRequest} {net : Transport} {sent : List Request}
    {response : Response} {a : ConstantAnswer} {s : String}
    (hreply : net.reply sent (.post .wallet "wallet/triggerconstantcontract"
      (Utf8.encode r.render)) = .ok response)
    (hstatus : Status.isSuccess response.status)
    (hparse : Json.parse ConstantAnswer.record.reader response.body = .ok a)
    (hresult : a.result.result = true) (hs : a.constantResult.head? = some s) :
    (triggerConstant r).run net sent = (.ok s,
      sent ++ [.post .wallet "wallet/triggerconstantcontract" (Utf8.encode r.render)]) := by
  have hbody : bodyOf "wallet/triggerconstantcontract" (net.reply sent (.post .wallet
      "wallet/triggerconstantcontract" (Utf8.encode r.render))) = .ok response.body :=
    bodyOf_eq_ok_iff.2 ⟨response, hreply, hstatus, rfl⟩
  rw [triggerConstant, run_post, hbody, ok_bind,
    accept_eq_ok_iff.2 ⟨a, hparse, constantResult_eq_some_iff.2 ⟨hresult, hs⟩⟩]

end Wallet
end Tronkit.Node
