import Tronkit.Proofs.Client.Descriptor
import Tronkit.Proofs.Client.Envelope

/-!
# What an answer comes to

An operation that was answered under a status of success is decided by the body of the answer. A
body of another form is an invalid response. A body that holds no transaction, or one without a
hash, is a rejection with the words of the node. What is left is sealed if its hash is a text of 64
hexadecimal digits, and cannot be coded otherwise. What the answer to a contract call says about
its own success decides nothing.
-/

namespace Tronkit.Client

open Json Node

def IsDigest (s : String) : Prop :=
  s.toList.length = 64 ∧ ∀ c ∈ s.toList, Digits.isHex c = true

instance (s : String) : Decidable (IsDigest s) := inferInstanceAs (Decidable (_ ∧ _))

theorem exists_readHash_iff {s : String} : (∃ hash, readHash s = .ok hash) ↔ IsDigest s := by
  simp only [readHash_eq_ok_iff]
  exact Hex.exists_decode_iff

theorem isDigest_text {bs : Bytes} (h : bs.length = 32) : IsDigest (Hex.text bs) :=
  exists_readHash_iff.1 ⟨bs, readHash_text h⟩

theorem readHash_of_not_isDigest {s : String} (h : ¬IsDigest s) :
    ∃ reason, readHash s = .error (.encodeFailed reason) := by
  unfold readHash
  split
  · exact ⟨_, rfl⟩
  · rename_i hash hread
    split
    · rename_i hlen
      exact absurd (exists_readHash_iff.1 ⟨hash, readHash_eq_ok_iff.2 ⟨hread, hlen⟩⟩) h
    · exact ⟨_, rfl⟩

/-! ## Answers and the transactions in them -/

def settle (what : String) (body : Bytes) :
    Except ReadError (Option Draft) → Except ClientError UnsignedTransaction
  | .error fault => .error (.ofNode (unreadable what fault body))
  | .ok x =>
    match x.bind Wallet.made with
    | some d => sealDraft d
    | none => .error (.rejected (lossyText body))

theorem settle_accept {α β : Type} {r : Reader α} {wanted : α → Option β} {f : α → Option Draft}
    {g : β → Draft} (h : ∀ a, (wanted a).map g = (f a).bind Wallet.made) (what : String)
    (body : Bytes) :
    ((Wallet.accept what r wanted body).mapError ClientError.ofNode >>= fun b => sealDraft (g b)) =
      settle what body ((Json.parse r body).map f) := by
  cases hparse : Json.parse r body with
  | error fault =>
    rw [Wallet.accept_of_fault hparse]
    rfl
  | ok a =>
    have ha := h a
    simp only [Except.map, settle, ← ha]
    cases hwanted : wanted a with
    | none =>
      rw [Wallet.accept_of_unwanted hparse hwanted]
      rfl
    | some b =>
      rw [Wallet.accept_eq_ok_iff.2 ⟨a, hparse, hwanted⟩]
      rfl

theorem exists_sealDraft_iff {d : Draft} : (∃ u, sealDraft d = .ok u) ↔ IsDigest d.txId := by
  rw [← exists_readHash_iff]
  constructor
  · rintro ⟨u, hseal⟩
    exact ⟨u.hash, (sealDraft_eq_ok_iff.1 hseal).2⟩
  · rintro ⟨hash, hread⟩
    exact ⟨⟨_, hash⟩, sealDraft_eq_ok_iff.2 ⟨rfl, hread⟩⟩

theorem sealDraft_of_not_isDigest {d : Draft} (h : ¬IsDigest d.txId) :
    ∃ reason, sealDraft d = .error (.encodeFailed reason) := by
  obtain ⟨reason, hread⟩ := readHash_of_not_isDigest h
  exact ⟨reason, except_map_eq_error_iff.2 hread⟩

section Settle

variable {what : String} {body : Bytes} {x : Option Draft} {d : Draft}

theorem settle_of_made (h : d.txId ≠ "") : settle what body (.ok (some d)) = sealDraft d := by
  have hmade : Wallet.made d = some d := Wallet.made_eq_some_iff.2 ⟨h, rfl⟩
  rw [settle, Option.bind_some, hmade]

theorem settle_of_unmade (h : ∀ d, x = some d → d.txId = "") :
    settle what body (.ok x) = .error (.rejected (lossyText body)) := by
  have hnone : x.bind Wallet.made = none := by
    cases x with
    | none => rfl
    | some d => exact Wallet.made_eq_none_iff.2 (h d rfl)
  rw [settle, hnone]

theorem unmade_or_made (x : Option Draft) :
    (∀ d, x = some d → d.txId = "") ∨ ∃ d, x = some d ∧ d.txId ≠ "" := by
  cases x with
  | none => simp
  | some d => simp [em]

theorem settle_eq_ok_iff {u : UnsignedTransaction} :
    settle what body (.ok x) = .ok u ↔ ∃ d, x = some d ∧ sealDraft d = .ok u := by
  rcases unmade_or_made x with hunmade | ⟨d, rfl, hid⟩
  · rw [settle_of_unmade hunmade]
    constructor
    · intro h
      cases h
    · rintro ⟨d, hd, hseal⟩
      exact absurd (hunmade d hd) (ne_empty_of_readHash (sealDraft_eq_ok_iff.1 hseal).2)
  · simp [settle_of_made hid]

theorem settle_eq_rejected_iff :
    settle what body (.ok x) = .error (.rejected (lossyText body)) ↔
      ∀ d, x = some d → d.txId = "" := by
  refine ⟨fun h => ?_, settle_of_unmade⟩
  rcases unmade_or_made x with hunmade | ⟨d, rfl, hid⟩
  · exact hunmade
  -- A transaction with a hash is sealed or cannot be coded.
  rw [settle_of_made hid] at h
  by_cases hdigest : IsDigest d.txId
  · obtain ⟨u, hseal⟩ := exists_sealDraft_iff.2 hdigest
    rw [hseal] at h
    cases h
  · obtain ⟨reason, hseal⟩ := sealDraft_of_not_isDigest hdigest
    rw [hseal] at h
    cases h

end Settle

/-! ## Endpoints and the forms of their answers -/

def plainAnswer (body : Bytes) : Except ReadError (Option Draft) :=
  (Json.parse Draft.record.reader body).map some

def callAnswer (body : Bytes) : Except ReadError (Option Draft) :=
  (Json.parse TriggerAnswer.record.reader body).map TriggerAnswer.transaction

def deployAnswer (body : Bytes) : Except ReadError (Option Draft) :=
  (Json.parse DeployAnswer.record.reader body).map fun a => some (deployed a)

def conclude (path : String) (answer : Bytes → Except ReadError (Option Draft))
    (reply : Except TransportError Response) : Except ClientError UnsignedTransaction :=
  (bodyOf path reply).mapError .ofNode >>= fun body => settle path body (answer body)

theorem concludes_accept {α β : Type} {r : Reader α} {wanted : α → Option β}
    {f : α → Option Draft} {g : β → Draft} (h : ∀ a, (wanted a).map g = (f a).bind Wallet.made)
    (path : String) (body : List Char) :
    (ofNode (Wallet.post path body >>= fun b => .ofExcept (Wallet.accept path r wanted b)) >>=
        fun b => Exchange.ofExcept (sealDraft (g b))).Concludes (Wallet.IsPost path)
      (conclude path fun body => (Json.parse r body).map f) := by
  have hposted := ((Wallet.concludes_post path body (Wallet.accept path r wanted)).mapError
    ClientError.ofNode).before fun b => sealDraft (g b)
  have heq : ∀ reply,
      ((bodyOf path reply >>= Wallet.accept path r wanted).mapError ClientError.ofNode >>=
        fun b => sealDraft (g b)) = conclude path (fun body => (Json.parse r body).map f) reply := by
    intro reply
    rw [conclude]
    -- A reply without a body ends both in the same way.
    cases bodyOf path reply with
    | error e => rfl
    | ok b => exact settle_accept h path b
  rwa [funext heq] at hposted

theorem concludes_draft (path : String) (body : List Char) :
    (ofNode (Wallet.draft path body) >>= fun d => Exchange.ofExcept (sealDraft d)).Concludes
      (Wallet.IsPost path) (conclude path plainAnswer) :=
  concludes_accept (g := id) (fun d => by simp) path body

namespace Operation

def path : Operation → String
  | build tx =>
    if tx.data = [] then "wallet/createtransaction" else "wallet/triggersmartcontract"
  | deploy _ _ _ => "wallet/deploycontract"
  | stake _ _ _ => "wallet/freezebalancev2"
  | unstake _ _ _ => "wallet/unfreezebalancev2"
  | withdraw _ => "wallet/withdrawexpireunfreeze"
  | delegate _ _ _ _ => "wallet/delegateresource"

/-- The transaction in an answer to the operation, if there is one. Contract calls and deployments
have answers of their own forms. -/
def answer : Operation → Bytes → Except ReadError (Option Draft)
  | build tx => if tx.data = [] then plainAnswer else callAnswer
  | deploy _ _ _ => deployAnswer
  | stake _ _ _ | unstake _ _ _ | withdraw _ | delegate _ _ _ _ => plainAnswer

theorem concludes_build (c : Client) (tx : Transaction) :
    (c.build tx).Concludes (Wallet.IsPost (build tx).path)
      (conclude (build tx).path (build tx).answer) := by
  unfold Client.build Client.draft path answer
  by_cases hdata : tx.data = []
  · simp only [if_pos hdata, bind_assoc]
    exact .after fun r _ => concludes_draft _ _
  · simp only [if_neg hdata, bind_assoc]
    exact .after fun r _ => concludes_accept (g := id) (fun a => by simp) _ _

theorem concludes_deploy (abi bytecode : String) (tx : Transaction) :
    (Prod.fst <$> Client.deploy abi bytecode tx).Concludes
      (Wallet.IsPost (deploy abi bytecode tx).path)
      (conclude (deploy abi bytecode tx).path deployAnswer) := by
  rw [fst_deploy]
  refine .after fun owner _ => concludes_accept ?_ _ _
  intro a
  by_cases hid : a.txId = ""
  · simp [hid, Wallet.made, deployed]
  · simp [hid, Wallet.made, deployed]

theorem concludes_perform (c : Client) (op : Operation) :
    (op.perform c).Concludes (Wallet.IsPost op.path) (conclude op.path op.answer) := by
  cases op with
  | build tx => exact concludes_build c tx
  | deploy abi bytecode tx => exact concludes_deploy abi bytecode tx
  | stake owner resource amount => exact .after fun _ _ => concludes_draft _ _
  | unstake owner resource amount => exact .after fun _ _ => concludes_draft _ _
  | withdraw owner => exact .after fun _ _ => concludes_draft _ _
  | delegate owner receiver resource amount => exact .after fun _ _ => concludes_draft _ _

structure Told (op : Operation) (body : Bytes)
    (outcome : Except ClientError UnsignedTransaction) : Prop where
  sealed : ∀ u, outcome = .ok u →
    ∃ d, op.answer body = .ok (some d) ∧ IsDigest d.txId ∧ sealDraft d = .ok u
  digest : ∀ d, op.answer body = .ok (some d) → IsDigest d.txId → ∃ u, outcome = .ok u
  unreadable : ∀ fault, op.answer body = .error fault → outcome =
    .error (.invalidResponse (op.path ++ ": " ++ fault.text ++ ", body: " ++ lossyText body))
  rejected : ∀ x, op.answer body = .ok x → (∀ d, x = some d → d.txId = "") →
    outcome = .error (.rejected (lossyText body))
  misfit : ∀ d, op.answer body = .ok (some d) → d.txId ≠ "" → ¬IsDigest d.txId →
    ∃ reason, outcome = .error (.encodeFailed reason)

theorem told_settle (op : Operation) (body : Bytes) :
    op.Told body (settle op.path body (op.answer body)) where
  sealed := by
    intro u h
    cases hanswer : op.answer body with
    | error fault =>
      rw [hanswer] at h
      cases h
    | ok x =>
      rw [hanswer] at h
      obtain ⟨d, rfl, hseal⟩ := settle_eq_ok_iff.1 h
      exact ⟨d, rfl, exists_sealDraft_iff.1 ⟨u, hseal⟩, hseal⟩
  digest := by
    intro d hanswer hdigest
    obtain ⟨u, hseal⟩ := exists_sealDraft_iff.2 hdigest
    rw [hanswer]
    exact ⟨u, settle_eq_ok_iff.2 ⟨d, rfl, hseal⟩⟩
  unreadable := by
    intro fault hanswer
    rw [hanswer]
    rfl
  rejected := by
    intro x hanswer hunmade
    rw [hanswer, settle_of_unmade hunmade]
  misfit := by
    intro d hanswer hid hdigest
    rw [hanswer, settle_of_made hid]
    exact sealDraft_of_not_isDigest hdigest

theorem conclude_of_success {path : String} {answer : Bytes → Except ReadError (Option Draft)}
    {response : Response} (hstatus : Status.isSuccess response.status) :
    conclude path answer (.ok response) = settle path response.body (answer response.body) := by
  rw [conclude, bodyOf_eq_ok_iff.2 ⟨response, rfl, hstatus, rfl⟩]
  rfl

/-- Nothing is sealed but a transaction with a readable hash, and a rejection has the words of the
node. -/
theorem perform_told {c : Client} {op : Operation} {net : Transport} {sent : List Request}
    {request : Request} {response : Response}
    (hsent : ((op.perform c).run net sent).2 = sent ++ [request])
    (hreply : net.reply sent request = .ok response)
    (hstatus : Status.isSuccess response.status) :
    Wallet.IsPost op.path request ∧
      op.Told response.body ((op.perform c).run net sent).1 := by
  obtain ⟨hpost, hout⟩ := (op.concludes_perform c).outcome hsent
  refine ⟨hpost, ?_⟩
  rw [hout, hreply, conclude_of_success hstatus]
  exact op.told_settle response.body

/-- The node has nothing for the account to take back, and says so. -/
theorem perform_told_of_refusal :
    let op := Operation.withdraw (Address.hex ⟨1⟩)
    let body := textBytes "\x7b\"Error\":\"no unfreeze balance to withdraw\"\x7d"
    let net : Transport := ⟨fun _ _ => .ok ⟨200, body⟩⟩
    let outcome := ((op.perform ⟨.empty, 1⟩).run net []).1
    ∃ request, ((op.perform ⟨.empty, 1⟩).run net []).2 = [] ++ [request] ∧
      Wallet.IsPost op.path request ∧ op.Told body outcome ∧
        outcome = .error (.rejected (lossyText body)) := by
  intro op body net outcome
  have haccount : readAccount (Address.hex ⟨1⟩) = .ok ⟨1⟩ :=
    readAccount_eq_ok_iff.2 ⟨Address.parse_of_sameText (.inl rfl), by decide⟩
  have hsent : ((op.perform ⟨.empty, 1⟩).run net []).2 = [] ++
      [.post .wallet op.path (Utf8.encode (withdrawRequest (Address.hex ⟨1⟩)))] := by
    rw [perform, Client.withdraw, Exchange.run_ofExcept_ok_bind haccount,
      Exchange.run_bind_ofExcept]
    rfl
  obtain ⟨hpost, htold⟩ := perform_told hsent rfl rfl
  have hanswer : op.answer body = .ok (some ⟨false, "", none, none, "", []⟩) := by decide
  refine ⟨_, hsent, hpost, htold, htold.rejected _ hanswer ?_⟩
  rintro d ⟨⟩
  rfl

end Operation

/-! ## Calls that are reported as failed -/

def SaysFailed (body : Bytes) : Prop :=
  ((fieldAt? "result" 0 body).bind fun place =>
    Reader.bool.field? 0 (fieldAt? "result" 0 place)) = some (some false)

instance (body : Bytes) : Decidable (SaysFailed body) := inferInstanceAs (Decidable (_ = _))

theorem SaysFailed.result {body : Bytes} {a : TriggerAnswer} (h : SaysFailed body)
    (hparse : Json.parse TriggerAnswer.record.reader body = .ok a) : a.result.result = false := by
  obtain ⟨place, hplace, hflag⟩ := Option.bind_eq_some_iff.1 h
  have hresult := TriggerAnswer.result_of_parse hparse hplace
  rw [hflag] at hresult
  exact (Option.some.inj hresult).symm

section Call

variable {c : Client} {tx : Transaction} {net : Transport} {sent : List Request}
  {request : Request} {response : Response} {a : TriggerAnswer}

theorem build_of_callAnswer (hdata : tx.data ≠ [])
    (hsent : ((c.build tx).run net sent).2 = sent ++ [request])
    (hreply : net.reply sent request = .ok response)
    (hstatus : Status.isSuccess response.status)
    (hparse : Json.parse TriggerAnswer.record.reader response.body = .ok a) :
    Wallet.IsPost "wallet/triggersmartcontract" request ∧ ((c.build tx).run net sent).1 =
      settle "wallet/triggersmartcontract" response.body (.ok a.transaction) := by
  have hpath : (Operation.build tx).path = "wallet/triggersmartcontract" := if_neg hdata
  have hanswer : (Operation.build tx).answer response.body = .ok a.transaction := by
    rw [Operation.answer, if_neg hdata, callAnswer, hparse]
    rfl
  obtain ⟨hpost, hout⟩ := (Operation.concludes_build c tx).outcome hsent
  rw [hreply, Operation.conclude_of_success hstatus, hanswer] at hout
  rw [hpath] at hpost hout
  exact ⟨hpost, hout⟩

/-- A failed call is rejected if its answer holds no transaction with a hash, and only then. -/
theorem failed_call_rejected_iff (hdata : tx.data ≠ [])
    (hsent : ((c.build tx).run net sent).2 = sent ++ [request])
    (hreply : net.reply sent request = .ok response)
    (hstatus : Status.isSuccess response.status)
    (hparse : Json.parse TriggerAnswer.record.reader response.body = .ok a)
    (hfailed : SaysFailed response.body) :
    Wallet.IsPost "wallet/triggersmartcontract" request ∧ a.result.result = false ∧
      (((c.build tx).run net sent).1 = .error (.rejected (lossyText response.body)) ↔
        ∀ d, a.transaction = some d → d.txId = "") ∧
      ((∃ u, ((c.build tx).run net sent).1 = .ok u) ↔
        ∃ d, a.transaction = some d ∧ IsDigest d.txId) := by
  obtain ⟨hpost, hout⟩ := build_of_callAnswer hdata hsent hreply hstatus hparse
  rw [hout]
  refine ⟨hpost, hfailed.result hparse, settle_eq_rejected_iff, ?_⟩
  simp only [settle_eq_ok_iff, ← exists_sealDraft_iff]
  constructor
  · rintro ⟨u, d, hd, hseal⟩
    exact ⟨d, hd, u, hseal⟩
  · rintro ⟨d, hd, u, hseal⟩
    exact ⟨u, d, hd, hseal⟩

end Call

def symbolCall : Transaction :=
  { sender := Address.hex ⟨1⟩, recipient := Address.hex ⟨2⟩, amount := 0,
    data := Standard.symbol.selector, fee := none, chainId := 1 }

theorem exists_sent_symbolCall (net : Transport) :
    symbolCall.data ≠ [] ∧
      ∃ request, (((standard 1).build symbolCall).run net []).2 = [] ++ [request] := by
  have hsender : IsAccount symbolCall.sender ⟨1⟩ :=
    ⟨Address.parse_of_sameText (.inl rfl), by decide⟩
  have hrecipient : IsAccount symbolCall.recipient ⟨2⟩ :=
    ⟨Address.parse_of_sameText (.inl rfl), by decide⟩
  have hdeclares : Registry.standard.Declares Standard.symbol.selector :=
    Registry.declares_standard (by simp [Standard.token])
  have hselector : symbolCall.data = Standard.symbol.selector := by simp only [symbolCall]
  obtain ⟨hdata, r, hr⟩ := triggerRequest_of_selector (c := standard 1) hdeclares hselector
    hsender hrecipient
  exact ⟨hdata, _, build_of_request hdata (Prod.eta _).symm hr⟩

def failedCall : Response :=
  ⟨200, textBytes
    "\x7b\"result\":\x7b\"result\":false,\"code\":\"CONTRACT_VALIDATE_ERROR\"\x7d\x7d"⟩

theorem failed_call_rejected :
    let net : Transport := ⟨fun _ _ => .ok failedCall⟩
    symbolCall.data ≠ [] ∧ SaysFailed failedCall.body ∧
      (((standard 1).build symbolCall).run net []).1 =
        .error (.rejected (lossyText failedCall.body)) := by
  intro net
  have hparse : Json.parse TriggerAnswer.record.reader failedCall.body =
      .ok ⟨⟨false, some "CONTRACT_VALIDATE_ERROR", none⟩, none⟩ := by decide
  have hfailed : SaysFailed failedCall.body := by decide
  obtain ⟨hdata, request, hsent⟩ := exists_sent_symbolCall net
  obtain ⟨-, -, hrejected, -⟩ := failed_call_rejected_iff hdata hsent rfl rfl hparse hfailed
  exact ⟨hdata, hfailed, hrejected.2 (fun _ hd => nomatch hd)⟩

def symbolHash : Bytes :=
  Bytes.ofNat 32 0x7c2d4206c03a883dd9066d620335dc1be272a8dc733cfa3f6d10308faebb0b3c

def symbolDraft : Draft :=
  { visible := false, txId := Hex.text symbolHash, contractAddress := none, rawData := none,
    rawDataHex := "", signature := [] }

def failedCallWithDraft : Response :=
  ⟨200, textBytes ("\x7b\"result\":\x7b\"result\":false\x7d,\"transaction\":\x7b\"txID\":\""
    ++ Hex.text symbolHash ++ "\"\x7d\x7d")⟩

/-- A transaction is sealed although the node says that the call failed. -/
theorem failed_call_sealed :
    let net : Transport := ⟨fun _ _ => .ok failedCallWithDraft⟩
    symbolCall.data ≠ [] ∧ SaysFailed failedCallWithDraft.body ∧
      ∃ u, (((standard 1).build symbolCall).run net []).1 = .ok u := by
  intro net
  have hparse : Json.parse TriggerAnswer.record.reader failedCallWithDraft.body =
      .ok ⟨⟨false, none, none⟩, some symbolDraft⟩ := by decide +kernel
  have hfailed : SaysFailed failedCallWithDraft.body := by decide +kernel
  have hdigest : IsDigest symbolDraft.txId := isDigest_text (Bytes.length_ofNat ..)
  obtain ⟨hdata, request, hsent⟩ := exists_sent_symbolCall net
  obtain ⟨-, hout⟩ := build_of_callAnswer hdata hsent rfl rfl hparse
  obtain ⟨u, hseal⟩ := exists_sealDraft_iff.2 hdigest
  refine ⟨hdata, hfailed, u, ?_⟩
  rw [hout, settle_eq_ok_iff]
  exact ⟨symbolDraft, rfl, hseal⟩

end Tronkit.Client
