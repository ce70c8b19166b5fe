import Tronkit.Proofs.Address
import Tronkit.Proofs.Client.Account
import Tronkit.Proofs.Client.Operation

/-!
# From the node to the node again

A transaction that the node made goes through two readers and two writers before the node sees it
again: the answer is read, the envelope is written, read by whoever sends it, and written with its
signature. All the node's own fields come through, and the raw data byte for byte, since the node
has derived the hash that was signed from it.
-/

namespace Tronkit.Client

open Json Node

/-! ## Sealing -/

theorem readHash_eq_ok_iff {txId : String} {hash : Bytes} :
    readHash txId = .ok hash ↔ Hex.decode txId.toList = .ok hash ∧ hash.length = 32 := by
  unfold readHash
  cases hdecode : Hex.decode txId.toList with
  | error e => simp
  | ok bs =>
    simp only [Except.ok.injEq]
    split
    · rename_i hlen
      rw [Except.ok.injEq]
      constructor
      · rintro rfl
        exact ⟨rfl, hlen⟩
      · rintro ⟨rfl, -⟩
        rfl
    · rename_i hlen
      constructor
      · intro h
        cases h
      · rintro ⟨rfl, h⟩
        exact absurd h hlen

theorem readHash_text {hash : Bytes} (h : hash.length = 32) :
    readHash (Hex.text hash) = .ok hash := by
  rw [readHash_eq_ok_iff, Hex.text, String.toList_ofList, Hex.decode_encode]
  exact ⟨rfl, h⟩

theorem text_of_readHash {txId : String} {hash : Bytes} (h : readHash txId = .ok hash) :
    (Hex.text hash).toList = txId.toList.map Char.toLower := by
  have hspells : Hex.Spells txId.toList (Hex.encode hash) :=
    Hex.decode_eq_ok_iff.1 (readHash_eq_ok_iff.1 h).1
  rw [Hex.text, String.toList_ofList]
  exact hspells.symm

theorem ne_empty_of_readHash {txId : String} {hash : Bytes} (h : readHash txId = .ok hash) :
    txId ≠ "" := by
  rintro rfl
  obtain ⟨hdecode, hlen⟩ := readHash_eq_ok_iff.1 h
  have hnil : Hex.decode "".toList = .ok [] := rfl
  rw [hnil] at hdecode
  cases hdecode
  cases hlen

theorem sealDraft_eq_ok_iff {d : Draft} {u : UnsignedTransaction} :
    sealDraft d = .ok u ↔
      u.envelope = Utf8.encode (Envelope.render ⟨d, d.txId⟩) ∧ readHash d.txId = .ok u.hash := by
  obtain ⟨envelope, hash⟩ := u
  rw [sealDraft, except_map_eq_ok_iff]
  constructor
  · rintro ⟨hash', hhash, h⟩
    cases h
    exact ⟨rfl, hhash⟩
  · rintro ⟨henvelope, hhash⟩
    exact ⟨hash, hhash, by rw [← henvelope]⟩

theorem readEnvelope_render {e : Envelope} (h : e.transaction.RawKept) :
    readEnvelope (Utf8.encode e.render) = .ok e :=
  except_mapError_eq_ok_iff.2 (Envelope.parse_render h)

/-! ## Sending -/

def Accepted (reply : Except TransportError Response) : Prop :=
  ∃ response a, reply = .ok response ∧ Status.isSuccess response.status ∧
    Json.parse BroadcastAnswer.record.reader response.body = .ok a ∧ a.result = true

theorem run_walletBroadcast (d : Draft) (net : Transport) (sent : List Request) :
    let request := Request.post .wallet "wallet/broadcasttransaction" (Utf8.encode d.render)
    ((Wallet.broadcast d).run net sent).2 = sent ++ [request] ∧
      ((∃ a, ((Wallet.broadcast d).run net sent).1 = .ok a) ↔
        Accepted (net.reply sent request)) := by
  intro request
  rw [Wallet.broadcast, Wallet.run_post]
  refine ⟨rfl, ?_⟩
  simp only [bind_eq_ok_iff, bodyOf_eq_ok_iff, Wallet.accept_eq_ok_iff]
  constructor
  · rintro ⟨b, body, ⟨response, hreply, hstatus, rfl⟩, a, hparse, hwanted⟩
    split at hwanted
    · rename_i hresult
      exact ⟨response, a, hreply, hstatus, hparse, hresult⟩
    · cases hwanted
  · rintro ⟨response, a, hreply, hstatus, hparse, hresult⟩
    exact ⟨a, _, ⟨response, hreply, hstatus, rfl⟩, a, hparse, if_pos hresult⟩

theorem run_broadcast {envelope signature hash : Bytes} {e : Envelope}
    (hread : readEnvelope envelope = .ok e) (hhash : readHash e.txId = .ok hash)
    {net : Transport} {sent sent' : List Request} {outcome : Except ClientError Bytes}
    (hrun : (broadcast envelope signature).run net sent = (outcome, sent')) :
    let request := Request.post .wallet "wallet/broadcasttransaction"
      (Utf8.encode (sign e signature).render)
    sent' = sent ++ [request] ∧
      ∀ hash', outcome = .ok hash' ↔ hash' = hash ∧ Accepted (net.reply sent request) := by
  intro request
  obtain ⟨hsent, haccepted⟩ := run_walletBroadcast (sign e signature) net sent
  rw [broadcast, Exchange.run_ofExcept_ok_bind hread, Exchange.run_ofExcept_ok_bind hhash, ofNode,
    Exchange.run_bind, Exchange.run_mapError, hsent] at hrun
  rw [← haccepted]
  cases hout : ((Wallet.broadcast (sign e signature)).run net sent).1 with
  | error f =>
    rw [hout] at hrun
    cases hrun
    refine ⟨rfl, fun hash' => ?_⟩
    constructor
    · intro h
      cases h
    · rintro ⟨-, a, ha⟩
      cases ha
  | ok a =>
    rw [hout] at hrun
    cases hrun
    refine ⟨rfl, fun hash' => ?_⟩
    constructor
    · intro h
      cases h
      exact ⟨rfl, a, rfl⟩
    · rintro ⟨rfl, -⟩
      rfl

theorem broadcast_sealed {d : Draft} {u : UnsignedTransaction} (hkept : d.RawKept)
    (hseal : sealDraft d = .ok u) {signature : Bytes} {net : Transport}
    {sent sent' : List Request} {outcome : Except ClientError Bytes}
    (hrun : (broadcast u.envelope signature).run net sent = (outcome, sent')) :
    ∃ body, sent' = sent ++ [.post .wallet "wallet/broadcasttransaction" body] ∧
      Draft.StandsIn { d with signature := [Hex.text signature] } body ∧
      ∀ hash, outcome = .ok hash ↔ hash = u.hash ∧
        Accepted (net.reply sent (.post .wallet "wallet/broadcasttransaction" body)) := by
  obtain ⟨henvelope, hhash⟩ := sealDraft_eq_ok_iff.1 hseal
  have hread : readEnvelope u.envelope = .ok ⟨d, d.txId⟩ := by
    rw [henvelope]
    exact readEnvelope_render hkept
  obtain ⟨hsent, hout⟩ := run_broadcast hread hhash hrun
  have hkept' : Draft.RawKept { d with signature := [Hex.text signature] } := hkept
  exact ⟨_, hsent, Draft.standsIn_render hkept', hout⟩

/-- What is sent is what the node has made, with the signature. -/
theorem build_then_broadcast {c : Client} {op : Operation} {net : Transport}
    {sent sent' : List Request} {u : UnsignedTransaction}
    (hrun : (op.perform c).run net sent = (.ok u, sent')) :
    ∃ request response d, sent' = sent ++ [request] ∧ net.reply sent request = .ok response ∧
      Status.isSuccess response.status ∧ op.Gives response.body d ∧
      readEnvelope u.envelope = .ok ⟨d, d.txId⟩ ∧ u.hash.length = 32 ∧ d.txId ≠ "" ∧
      (Hex.text u.hash).toList = d.txId.toList.map Char.toLower ∧
      ∀ signature net' earlier later outcome,
        (broadcast u.envelope signature).run net' earlier = (outcome, later) →
        ∃ body, later = earlier ++ [.post .wallet "wallet/broadcasttransaction" body] ∧
          Draft.StandsIn { d with signature := [Hex.text signature] } body ∧
          ∀ hash, outcome = .ok hash ↔ hash = u.hash ∧
            Accepted (net'.reply earlier (.post .wallet "wallet/broadcasttransaction" body)) := by
  obtain ⟨request, response, hsent, hreply, hstatus, d, ⟨hgives, hkept⟩, hseal⟩ :=
    op.asks_perform c hrun
  obtain ⟨henvelope, hhash⟩ := sealDraft_eq_ok_iff.1 hseal
  have hread : readEnvelope u.envelope = .ok ⟨d, d.txId⟩ := by
    rw [henvelope]
    exact readEnvelope_render hkept
  exact ⟨request, response, d, hsent, hreply, hstatus, hgives, hread,
    readHash_length hhash, ne_empty_of_readHash hhash, text_of_readHash hhash,
    fun _ _ _ _ _ hbroadcast => broadcast_sealed hkept hseal hbroadcast⟩

/-- A transaction whose raw data has blanks and an unusual number comes through. -/
theorem build_then_broadcast_of_withdraw :
    let d : Draft :=
      { visible := true, txId := Hex.text (List.replicate 32 7), contractAddress := none,
        rawData := some "\x7b\"fee\" : 10e-1\x7d", rawDataHex := "0a02", signature := [] }
    let op := Operation.withdraw (Address.hex ⟨1⟩)
    let net : Transport := ⟨fun _ _ => .ok ⟨200, Utf8.encode d.render⟩⟩
    ∃ u sent, (op.perform ⟨.empty, 1⟩).run net [] = (.ok u, sent) ∧
      ∃ d', op.Gives (Utf8.encode d.render) d' ∧ readEnvelope u.envelope = .ok ⟨d', d'.txId⟩ := by
  intro d op net
  have hread : Reader.option Reader.verbatim 0 (textBytes "\x7b\"fee\" : 10e-1\x7d") =
      .ok (some "\x7b\"fee\" : 10e-1\x7d", []) := rfl
  have hkept : d.RawKept := by
    intro s hs
    cases hs
    exact (isRaw_of_verbatim hread).1
  have htext : d.txId.toList = Hex.encode (List.replicate 32 7) := String.toList_ofList
  have hhash : readHash d.txId = .ok (List.replicate 32 7) := by
    rw [readHash_eq_ok_iff, htext, Hex.decode_encode]
    exact ⟨rfl, rfl⟩
  have hseal : sealDraft d = .ok
      ⟨Utf8.encode (Envelope.render ⟨d, d.txId⟩), List.replicate 32 7⟩ :=
    sealDraft_eq_ok_iff.2 ⟨rfl, hhash⟩
  have haccount : readAccount (Address.hex ⟨1⟩) = .ok ⟨1⟩ :=
    readAccount_eq_ok_iff.2 ⟨Address.parse_of_sameText (.inl rfl), by decide⟩
  have hask : (Wallet.withdraw (Address.hex ⟨1⟩)).run net [] = (.ok d, _) :=
    Wallet.run_draft rfl rfl (Draft.parse_render hkept) (ne_empty_of_readHash hhash)
  have hrun : (op.perform ⟨.empty, 1⟩).run net [] =
      (.ok ⟨Utf8.encode (Envelope.render ⟨d, d.txId⟩), List.replicate 32 7⟩,
        [.post .wallet "wallet/withdrawexpireunfreeze"
          (Utf8.encode (withdrawRequest (Address.hex ⟨1⟩)))]) := by
    rw [Operation.perform, Client.withdraw, Exchange.run_ofExcept_ok_bind haccount,
      Exchange.run_bind_ofExcept, ofNode, Exchange.run_mapError, hask, Exchange.mapError_ok, ok_bind,
      hseal, List.nil_append]
  obtain ⟨request, response, d', -, hreply, -, hgives, hread', -⟩ := build_then_broadcast hrun
  cases hreply
  exact ⟨_, _, hrun, d', hgives, hread'⟩

end Tronkit.Client
