import Tronkit.Proofs.Client.Envelope

/-!
# Refused broadcasts

A sealed transaction is sent once, and the answer to it may say two things: its status whether the
request went well, its body whether the node took the transaction. The status is looked at first.
A refusal is a rejection with the whole body if the status is one of success; under any other
status it is a fault of the transport that quotes the body.
-/

namespace Tronkit.Client

open Node

def Sealed (envelope : Bytes) : Prop :=
  ∃ (c : Client) (op : Operation) (net : Transport) (sent sent' : List Request)
    (u : UnsignedTransaction), (op.perform c).run net sent = (.ok u, sent') ∧ u.envelope = envelope

/-- The body is an acknowledgement with a result of `false`, which it also has if none is told. -/
def Refuses (body : Bytes) : Prop :=
  ∃ a, Json.parse BroadcastAnswer.record.reader body = .ok a ∧ a.result = false

/-! ## Sealed envelopes -/

theorem run_withdraw_of_draft {owner : String} {a : Address} (howner : IsAccount owner a)
    {d : Draft} (hkept : d.RawKept) {u : UnsignedTransaction} (hseal : sealDraft d = .ok u) :
    (Client.withdraw owner).run ⟨fun _ _ => .ok ⟨200, Utf8.encode d.render⟩⟩ [] =
      (.ok u, [.post .wallet "wallet/withdrawexpireunfreeze"
        (Utf8.encode (withdrawRequest a.hex))]) := by
  have hid : d.txId ≠ "" := ne_empty_of_readHash (sealDraft_eq_ok_iff.1 hseal).2
  have hask : (Wallet.withdraw a.hex).run ⟨fun _ _ => .ok ⟨200, Utf8.encode d.render⟩⟩ [] =
      (.ok d, _) := Wallet.run_draft rfl rfl (Draft.parse_render hkept) hid
  rw [Client.withdraw, Exchange.run_ofExcept_ok_bind (readAccount_eq_ok_iff.2 howner),
    Exchange.run_bind_ofExcept, ofNode, Exchange.run_mapError, hask, Exchange.mapError_ok, ok_bind,
    hseal, List.nil_append]

theorem sealed_iff {envelope : Bytes} :
    Sealed envelope ↔ ∃ d : Draft, d.RawKept ∧
      ∃ u, sealDraft d = .ok u ∧ u.envelope = envelope := by
  constructor
  · rintro ⟨c, op, net, sent, sent', u, hrun, henvelope⟩
    obtain ⟨-, -, -, -, -, d, ⟨-, hkept⟩, hseal⟩ := op.asks_perform c hrun
    exact ⟨d, hkept, u, hseal, henvelope⟩
  · -- A node may answer a withdrawal with any transaction that it likes.
    rintro ⟨d, hkept, u, hseal, henvelope⟩
    have hone : IsAccount (Address.hex ⟨1⟩) ⟨1⟩ :=
      ⟨Address.parse_of_sameText (.inl rfl), by decide⟩
    exact ⟨⟨.empty, 1⟩, .withdraw (Address.hex ⟨1⟩), _, [], _, u,
      run_withdraw_of_draft hone hkept hseal, henvelope⟩

theorem readEnvelope_of_sealed {envelope : Bytes} (h : Sealed envelope) :
    ∃ e hash, readEnvelope envelope = .ok e ∧ readHash e.txId = .ok hash := by
  obtain ⟨d, hkept, u, hseal, rfl⟩ := sealed_iff.1 h
  obtain ⟨henvelope, hhash⟩ := sealDraft_eq_ok_iff.1 hseal
  refine ⟨⟨d, d.txId⟩, u.hash, ?_, hhash⟩
  rw [henvelope]
  exact readEnvelope_render hkept

/-! ## Answers to a broadcast -/

theorem accept_of_refuses {body : Bytes} (h : Refuses body) (path : String) :
    Wallet.accept path BroadcastAnswer.record.reader (fun a => if a.result then some a else none)
      body = .error (.rejected (lossyText body)) := by
  obtain ⟨a, hparse, hresult⟩ := h
  refine Wallet.accept_of_unwanted hparse ?_
  rw [hresult]
  rfl

/-- What a refused broadcast ends in is decided by the status. -/
def refusal (response : Response) : ClientError :=
  if Status.isSuccess response.status then .rejected (lossyText response.body)
  else .transport ("Transport error: " ++ ("wallet/broadcasttransaction" ++ " responded with "
    ++ Status.text response.status ++ ": " ++ lossyText response.body))

theorem ofNode_transport (reason : String) :
    ClientError.ofNode (.transport reason) = .transport ("Transport error: " ++ reason) := rfl

theorem run_walletBroadcast_of_refuses {d : Draft} {net : Transport} {sent : List Request}
    {response : Response} (hreply : net.reply sent
      (.post .wallet "wallet/broadcasttransaction" (Utf8.encode d.render)) = .ok response)
    (hrefuses : Refuses response.body) :
    ((ofNode (Wallet.broadcast d)).run net sent).1 = .error (refusal response) := by
  rw [ofNode, Exchange.run_mapError, Wallet.broadcast, Wallet.run_post, hreply, bodyOf, refusal]
  by_cases hstatus : Status.isSuccess response.status = true
  · rw [if_pos hstatus, if_pos hstatus, ok_bind, accept_of_refuses hrefuses,
      Exchange.mapError_error, ClientError.ofNode]
  · rw [if_neg hstatus, if_neg hstatus, error_bind, Exchange.mapError_error, ofNode_transport]

theorem run_broadcast_of_refuses {envelope signature hash : Bytes} {e : Envelope}
    (hread : readEnvelope envelope = .ok e) (hhash : readHash e.txId = .ok hash)
    {net : Transport} {sent : List Request} {response : Response}
    (hreply : net.reply sent (.post .wallet "wallet/broadcasttransaction"
      (Utf8.encode (sign e signature).render)) = .ok response)
    (hrefuses : Refuses response.body) :
    ((broadcast envelope signature).run net sent).1 = .error (refusal response) := by
  have hnode := run_walletBroadcast_of_refuses hreply hrefuses
  rw [broadcast, Exchange.run_ofExcept_ok_bind hread, Exchange.run_ofExcept_ok_bind hhash,
    Exchange.run_bind_of_error hnode]

theorem refusal_is_rejection_iff (response : Response) :
    (∃ raw, refusal response = .rejected raw) ↔ Status.isSuccess response.status = true := by
  unfold refusal
  split
  · rename_i hstatus
    exact ⟨fun _ => hstatus, fun _ => ⟨_, rfl⟩⟩
  · rename_i hstatus
    exact ⟨nofun, fun h => absurd h hstatus⟩

/-- A transaction that the node refuses is sent once. The refusal is told as a rejection with the
body of the answer under a status of success and under no other. -/
theorem broadcast_refused {envelope : Bytes} (hsealed : Sealed envelope) (signature : Bytes)
    (net : Transport) (sent : List Request) :
    ∃ body,
      ((broadcast envelope signature).run net sent).2 =
        sent ++ [.post .wallet "wallet/broadcasttransaction" body] ∧
      ∀ response,
        net.reply sent (.post .wallet "wallet/broadcasttransaction" body) = .ok response →
        Refuses response.body →
        ((broadcast envelope signature).run net sent).1 = .error (refusal response) ∧
          ((∃ raw, ((broadcast envelope signature).run net sent).1 = .error (.rejected raw)) ↔
            Status.isSuccess response.status = true) := by
  obtain ⟨e, hash, hread, hhash⟩ := readEnvelope_of_sealed hsealed
  rcases hrun : (broadcast envelope signature).run net sent with ⟨outcome, sent'⟩
  obtain ⟨hsent, -⟩ := run_broadcast hread hhash hrun
  refine ⟨_, hsent, fun response hreply hrefuses => ?_⟩
  have hout := run_broadcast_of_refuses hread hhash hreply hrefuses
  rw [hrun] at hout
  obtain rfl : outcome = .error (refusal response) := hout
  refine ⟨rfl, ?_⟩
  simp only [Except.error.injEq]
  exact refusal_is_rejection_iff response

/-! ## A transaction that is refused under two statuses -/

def withdrawn : Draft :=
  { visible := true, txId := Hex.text (List.replicate 32 7), contractAddress := none,
    rawData := none, rawDataHex := "0a02", signature := [] }

theorem readHash_withdrawn : readHash withdrawn.txId = .ok (List.replicate 32 7) :=
  readHash_text (by decide)

theorem rawKept_withdrawn : withdrawn.RawKept := nofun

def withdrawnEnvelope : Bytes := Utf8.encode (Envelope.render ⟨withdrawn, withdrawn.txId⟩)

theorem sealed_withdrawn : Sealed withdrawnEnvelope :=
  sealed_iff.2 ⟨withdrawn, rawKept_withdrawn, ⟨withdrawnEnvelope, List.replicate 32 7⟩,
    sealDraft_eq_ok_iff.2 ⟨rfl, readHash_withdrawn⟩, rfl⟩

def badSignature : Bytes := textBytes "\x7b\"result\":false,\"code\":\"SIGERROR\"\x7d"

theorem refuses_badSignature : Refuses badSignature :=
  ⟨⟨false, none, some "SIGERROR", none⟩, by decide, rfl⟩

theorem broadcast_refused_under_success :
    let net : Transport := ⟨fun _ _ => .ok ⟨200, badSignature⟩⟩
    Sealed withdrawnEnvelope ∧ Refuses badSignature ∧
      ((broadcast withdrawnEnvelope [7]).run net []).1 =
        .error (.rejected (lossyText badSignature)) := by
  intro net
  obtain ⟨body, -, hrefused⟩ := broadcast_refused sealed_withdrawn [7] net []
  obtain ⟨hout, -⟩ := hrefused _ rfl refuses_badSignature
  exact ⟨sealed_withdrawn, refuses_badSignature, hout⟩

/-- Under a status of failure the same refusal is no rejection. -/
theorem refusal_told_as_transport :
    let net : Transport := ⟨fun _ _ => .ok ⟨500, badSignature⟩⟩
    Sealed withdrawnEnvelope ∧ Refuses badSignature ∧
      ((broadcast withdrawnEnvelope [7]).run net []).1 ≠
        .error (.rejected (lossyText badSignature)) := by
  intro net
  obtain ⟨e, hash, hread, hhash⟩ := readEnvelope_of_sealed sealed_withdrawn
  have hout : ((broadcast withdrawnEnvelope [7]).run net []).1 =
      .error (refusal ⟨500, badSignature⟩) :=
    run_broadcast_of_refuses hread hhash rfl refuses_badSignature
  refine ⟨sealed_withdrawn, refuses_badSignature, fun hrejected => ?_⟩
  rw [hout, Except.error.injEq] at hrejected
  have hstatus := (refusal_is_rejection_iff _).1 ⟨_, hrejected⟩
  cases hstatus

end Tronkit.Client
