import Tronkit.Proofs.Client.Failure
import Tronkit.Proofs.Client.Method
import Tronkit.Proofs.Node.Inquiry

/-!
# What the kind of an error tells of the requests

A caller decides by the kind of an error whether to try again. So it has to be true: an error of
the input was found before anything was asked, an error of the node carries the last answer, and
one of the transport follows a request. No request is made after one that got no good answer.

A call makes its checks first and then its requests. What is true of the whole call is therefore
said of it in two parts: `Honest` of what begins with the checks, `Late` of what follows a request.
-/

namespace Tronkit

def Answered (reply : Except TransportError Response) : Prop :=
  ∃ response, reply = .ok response ∧ Status.isSuccess response.status

/-- The error carries the body: the code and the message of a failure, or all of it. -/
inductive ClientError.Carries (body : Bytes) : ClientError → Prop
  | failure {code : Int} {message : String} (h : Node.Rpc.Fails body code message) :
    Carries body (.rpc code message)
  | rejection : Carries body (.rejected (lossyText body))

namespace Client

open Node

variable {α β : Type} {net : Transport} {start asked : List Request}

/-- What an outcome tells of the requests before it, which were made behind those at the start. -/
structure Faithful (net : Transport) (start asked : List Request)
    (outcome : Except ClientError α) : Prop where
  protocol : ∀ e, outcome = .error e → e.kind = .nodeProtocol →
    ∃ earlier request response, asked = earlier ++ [request] ∧
      net.reply (start ++ earlier) request = .ok response ∧ e.Carries response.body
  unanswered : ∀ earlier request later, asked = earlier ++ request :: later →
    ¬Answered (net.reply (start ++ earlier) request) →
    later = [] ∧ ∃ e, outcome = .error e ∧ e.kind = .transport

structure Honest (net : Transport) (start asked : List Request)
    (outcome : Except ClientError α) : Prop extends Faithful net start asked outcome where
  input : ∀ e, outcome = .error e → e.kind = .invalidInput → asked = []
  transport : ∀ e, outcome = .error e → e.kind = .transport → asked ≠ []

structure Late (net : Transport) (start asked : List Request)
    (outcome : Except ClientError α) : Prop extends Faithful net start asked outcome where
  noInput : ∀ e, outcome = .error e → e.kind ≠ .invalidInput

def Tells (P : Transport → List Request → List Request → Except ClientError α → Prop)
    (x : Exchange ClientError α) : Prop :=
  ∀ net start, ∃ asked, (x.run net start).2 = start ++ asked ∧
    P net start asked (x.run net start).1

/-! ## Outcomes -/

theorem Late.honest {outcome : Except ClientError α} (h : Late net start asked outcome)
    (hasked : asked ≠ []) : Honest net start asked outcome :=
  ⟨h.toFaithful, fun e he hkind => absurd hkind (h.noInput e he), fun _ _ _ => hasked⟩

theorem Late.error {e : ClientError} (h : Late net start asked (.error e : Except _ α)) :
    Late net start asked (.error e : Except _ β) where
  protocol := fun e' he => h.protocol e' (by rw [Except.error.inj he])
  unanswered := fun earlier request later hsplit hnot => by
    obtain ⟨hlater, e', he', hkind⟩ := h.unanswered earlier request later hsplit hnot
    exact ⟨hlater, e', by rw [Except.error.inj he'], hkind⟩
  noInput := fun e' he => h.noInput e' (by rw [Except.error.inj he])

/-- All requests of a part that succeeded were answered, so what is true of the rest is true of
both. -/
theorem Late.append {a : α} {asked' : List Request} {outcome : Except ClientError β}
    (hok : Late net start asked (.ok a : Except _ α))
    (h : Late net (start ++ asked) asked' outcome) : Late net start (asked ++ asked') outcome where
  protocol := by
    intro e he hkind
    obtain ⟨earlier, request, response, hsplit, hreply, hcarries⟩ := h.protocol e he hkind
    rw [List.append_assoc] at hreply
    exact ⟨asked ++ earlier, request, response, by rw [hsplit, List.append_assoc], hreply, hcarries⟩
  unanswered := by
    intro earlier request later hsplit hnot
    rw [List.append_eq_append_iff] at hsplit
    rcases hsplit with ⟨mid, hearlier, hasked'⟩ | ⟨mid, hasked, hlater⟩
    · rw [hearlier, ← List.append_assoc] at hnot
      exact h.unanswered mid request later hasked' hnot
    · cases mid with
      | nil =>
        rw [List.append_nil] at hasked
        subst hasked
        refine h.unanswered [] request later hlater.symm ?_
        rwa [List.append_nil]
      | cons r mid =>
        obtain ⟨rfl, -⟩ := List.cons.inj hlater
        obtain ⟨-, e, he, -⟩ := hok.unanswered earlier request mid hasked hnot
        cases he
  noInput := h.noInput

theorem faithful_nil {outcome : Except ClientError α}
    (h : ∀ e, outcome = .error e → e.kind ≠ .nodeProtocol) :
    Faithful net start [] outcome where
  protocol := fun e he hkind => absurd hkind (h e he)
  unanswered := fun earlier request later hsplit => by simp at hsplit

theorem honest_of_checks {r : Except ClientError α} (h : FailsWith checks r) :
    Honest net start [] r where
  toFaithful := faithful_nil (h.kind_ne (by decide))
  input := fun _ _ _ => rfl
  transport := fun e he hkind => absurd hkind (h.kind_ne (by decide) e he)

theorem late_of_findings {r : Except ClientError α} (h : FailsWith findings r) :
    Late net start [] r where
  toFaithful := faithful_nil (h.kind_ne (by decide))
  noInput := h.kind_ne (by decide)

/-! ## Inquiries -/

theorem kind_ofNode (e : NodeError) : (ClientError.ofNode e).kind ≠ .invalidInput := by
  cases e <;> simp [ClientError.ofNode, ClientError.kind]

theorem carries_of_ofAnswer {body : Bytes} {e : NodeError} (h : OfAnswer body e)
    (hkind : (ClientError.ofNode e).kind = .nodeProtocol) : (ClientError.ofNode e).Carries body := by
  cases h with
  | unreadable reason => cases hkind
  | failure h => exact .failure h
  | rejection => exact .rejection

theorem kind_of_bodyOf {what : String} {reply : Except TransportError Response} {e : NodeError}
    (h : bodyOf what reply = .error e) : (ClientError.ofNode e).kind = .transport := by
  unfold bodyOf at h
  split at h
  · split at h
    · cases h
    · cases h
      rfl
  · rename_i fault
    cases h
    cases fault <;> rfl

theorem bodyOf_of_not_answered (what : String) {reply : Except TransportError Response}
    (h : ¬Answered reply) : ∃ e, bodyOf what reply = .error e := by
  cases hbody : bodyOf what reply with
  | error e => exact ⟨e, rfl⟩
  | ok body =>
    obtain ⟨response, hreply, hstatus, -⟩ := bodyOf_eq_ok_iff.1 hbody
    exact absurd ⟨response, hreply, hstatus⟩ h

theorem late_of_isInquiry {x : Exchange NodeError α} (h : IsInquiry x) (net : Transport)
    (start : List Request) :
    ∃ request, ((ofNode x).run net start).2 = start ++ [request] ∧
      Late net start [request] ((ofNode x).run net start).1 := by
  obtain ⟨what, request, read, hrun, hread⟩ := h
  have hout : (ofNode x).run net start =
      ((bodyOf what (net.reply start request) >>= read).mapError .ofNode, start ++ [request]) := by
    rw [ofNode, Exchange.run_mapError, hrun]
  rw [hout]
  refine ⟨request, rfl, ⟨?_, ?_⟩, ?_⟩
  · intro e he hkind
    obtain ⟨fault, hfault, rfl⟩ := except_mapError_eq_error_iff.1 he
    rcases bind_eq_error_iff.1 hfault with hbody | ⟨body, hbody, hfault⟩
    · rw [kind_of_bodyOf hbody] at hkind
      cases hkind
    · obtain ⟨response, hreply, -, rfl⟩ := bodyOf_eq_ok_iff.1 hbody
      refine ⟨[], request, response, rfl, ?_, carries_of_ofAnswer (hread _ _ hfault) hkind⟩
      rwa [List.append_nil]
  · intro earlier r later hsplit hnot
    rcases List.singleton_eq_append_iff.1 hsplit with ⟨rfl, hrequest⟩ | ⟨-, hnil⟩
    · obtain ⟨rfl, rfl⟩ := List.cons.inj hrequest
      rw [List.append_nil] at hnot
      obtain ⟨fault, hfault⟩ := bodyOf_of_not_answered what hnot
      refine ⟨rfl, .ofNode fault, ?_, kind_of_bodyOf hfault⟩
      rw [hfault]
      rfl
    · cases hnil
  · intro e he
    obtain ⟨fault, -, rfl⟩ := except_mapError_eq_error_iff.1 he
    exact kind_ofNode fault

/-! ## Calls -/

theorem late_bind {x : Exchange ClientError α} {f : α → Exchange ClientError β}
    (hsent : (x.run net start).2 = start ++ asked) (h : Late net start asked (x.run net start).1)
    (hf : ∀ a, Tells Late (f a)) :
    ∃ asked', ((x >>= f).run net start).2 = start ++ (asked ++ asked') ∧
      Late net start (asked ++ asked') ((x >>= f).run net start).1 := by
  cases hout : (x.run net start).1 with
  | error e =>
    rw [Exchange.run_bind_of_error hout, hsent]
    rw [hout] at h
    exact ⟨[], by rw [List.append_nil], by rw [List.append_nil]; exact h.error⟩
  | ok a =>
    rw [Exchange.run_bind_of_ok hout, hsent]
    rw [hout] at h
    obtain ⟨asked', hsent', hlate⟩ := hf a net (start ++ asked)
    rw [hsent', List.append_assoc]
    exact ⟨asked', rfl, h.append hlate⟩

section Late

theorem tells_late_ofExcept {r : Except ClientError α} (h : FailsWith findings r) :
    Tells Late (Exchange.ofExcept r) := by
  intro net start
  rw [Exchange.run_ofExcept]
  exact ⟨[], (List.append_nil _).symm, late_of_findings h⟩

theorem tells_late_pure (a : α) : Tells Late (pure a : Exchange ClientError α) :=
  tells_late_ofExcept (.ok a)

theorem tells_late_fail {e : ClientError} (h : e.kind ∈ findings) :
    Tells Late (Exchange.fail e : Exchange ClientError α) := tells_late_ofExcept (.error h)

theorem tells_late_ofOption {e : ClientError} (h : e.kind ∈ findings) (o : Option α) :
    Tells Late (Exchange.ofOption e o) := by
  cases o with
  | some a => exact tells_late_pure a
  | none => exact tells_late_fail h

theorem tells_late_ofNode {x : Exchange NodeError α} (h : IsInquiry x) : Tells Late (ofNode x) := by
  intro net start
  obtain ⟨request, hsent, hlate⟩ := late_of_isInquiry h net start
  exact ⟨[request], hsent, hlate⟩

theorem tells_late_bind {x : Exchange ClientError α} {f : α → Exchange ClientError β}
    (h : Tells Late x) (hf : ∀ a, Tells Late (f a)) : Tells Late (x >>= f) := by
  intro net start
  obtain ⟨asked, hsent, hlate⟩ := h net start
  obtain ⟨asked', hrun⟩ := late_bind hsent hlate hf
  exact ⟨asked ++ asked', hrun⟩

end Late

section Honest

theorem tells_honest_ofExcept {r : Except ClientError α} (h : FailsWith checks r) :
    Tells Honest (Exchange.ofExcept r) := by
  intro net start
  rw [Exchange.run_ofExcept]
  exact ⟨[], (List.append_nil _).symm, honest_of_checks h⟩

theorem tells_honest_pure (a : α) : Tells Honest (pure a : Exchange ClientError α) :=
  tells_honest_ofExcept (.ok a)

theorem tells_honest_after {r : Except ClientError α} {k : α → Exchange ClientError β}
    (h : FailsWith checks r) (hk : ∀ a, r = .ok a → Tells Honest (k a)) :
    Tells Honest (Exchange.ofExcept r >>= k) := by
  cases r with
  | ok a => exact hk a rfl
  | error e =>
    have hkind : e.kind ∈ checks := h e rfl
    exact tells_honest_ofExcept (.error hkind)

theorem tells_honest_inquiry {x : Exchange NodeError α} {f : α → Exchange ClientError β}
    (h : IsInquiry x) (hf : ∀ a, Tells Late (f a)) : Tells Honest (ofNode x >>= f) := by
  intro net start
  obtain ⟨request, hsent, hlate⟩ := late_of_isInquiry h net start
  obtain ⟨asked, hsent', hlate'⟩ := late_bind hsent hlate hf
  exact ⟨[request] ++ asked, hsent', hlate'.honest (by simp)⟩

theorem tells_honest_ofNode {x : Exchange NodeError α} (h : IsInquiry x) :
    Tells Honest (ofNode x) := by
  have hpure := tells_honest_inquiry h (f := pure) tells_late_pure
  rwa [bind_pure] at hpure

end Honest

/-! ## The methods -/

section Methods

variable {c : Client}

theorem honest_sealed {x : Exchange NodeError Draft} (h : IsInquiry x) :
    Tells Honest (ofNode x >>= fun d => .ofExcept (sealDraft d)) :=
  tells_honest_inquiry h fun d => tells_late_ofExcept (failsWith_sealDraft d)

theorem honest_build (c : Client) (tx : Transaction) : Tells Honest (c.build tx) := by
  unfold build draft
  split
  · rw [bind_assoc]
    exact tells_honest_after (failsWith_transferRequest tx) fun r _ =>
      honest_sealed (Wallet.isInquiry_draft _ _)
  · rw [bind_assoc]
    exact tells_honest_after (failsWith_triggerRequest c tx) fun r _ =>
      honest_sealed (Wallet.isInquiry_accept _ _ _ _ _)

theorem honest_deploy (abi bytecode : String) (tx : Transaction) :
    Tells Honest (deploy abi bytecode tx) := by
  refine tells_honest_after (failsWith_readAccount _) fun owner _ => ?_
  refine tells_honest_inquiry (Wallet.isInquiry_accept _ _ _ _ _) fun a => ?_
  exact tells_late_bind (tells_late_ofExcept (failsWith_sealDraft _)) fun u => tells_late_pure _

theorem honest_broadcast (envelope signature : Bytes) :
    Tells Honest (broadcast envelope signature) := by
  refine tells_honest_after (failsWith_readEnvelope _) fun e _ => ?_
  have hhash : FailsWith checks (readHash e.txId) := (failsWith_readHash e.txId).mono (by decide)
  refine tells_honest_after hhash fun hash _ => ?_
  exact tells_honest_inquiry (Wallet.isInquiry_accept _ _ _ _ _) fun _ => tells_late_pure _

theorem honest_resolve (c : Client) (hash : String) : Tells Honest (c.resolve hash) := by
  refine tells_honest_inquiry (Wallet.isInquiry_readBody _ _ _ _) fun receipt => ?_
  refine tells_late_bind (tells_late_ofNode (Wallet.isInquiry_readBody _ _ _ _)) fun detail => ?_
  split
  · exact tells_late_pure _
  · exact tells_late_bind (tells_late_ofNode (Wallet.isInquiry_readBody _ _ _ _)) fun events =>
      tells_late_pure _

theorem honest_estimateEnergy (tx : Transaction) {f : Nat → Exchange ClientError β}
    (hhonest : ∀ energy, Tells Honest (f energy)) (hlate : ∀ energy, Tells Late (f energy)) :
    Tells Honest (estimateEnergy tx >>= f) := by
  unfold estimateEnergy
  split
  · rw [pure_bind]
    exact hhonest 0
  · simp only [bind_assoc]
    refine tells_honest_after (failsWith_estimateRequest tx) fun r _ => ?_
    refine tells_honest_inquiry (Rpc.isInquiry_callAs _ _ _) fun energy => ?_
    refine tells_late_bind ?_ hlate
    split
    · exact tells_late_pure energy
    · exact tells_late_fail (.head _)

theorem honest_suggestFee (tx : Transaction) : Tells Honest (suggestFee tx) := by
  have hprice : IsInquiry Rpc.gasPrice := Rpc.isInquiry_callAs _ _ _
  refine honest_estimateEnergy tx (fun energy => ?_) fun energy => ?_
  · exact tells_honest_inquiry hprice fun price => tells_late_pure _
  · exact tells_late_bind (tells_late_ofNode hprice) fun price => tells_late_pure _

theorem honest_constantCall (contract owner selector parameter : String)
    {f : String → Exchange ClientError β} (hf : ∀ result, Tells Late (f result)) :
    Tells Honest (constantCall contract owner selector parameter >>= f) := by
  unfold constantCall
  rw [bind_assoc]
  refine tells_honest_after (failsWith_readAddress contract) fun a _ => ?_
  exact tells_honest_inquiry (Wallet.isInquiry_accept _ _ _ _ _) hf

theorem tells_late_ofNumber (r : Except NumberError α) : Tells Late (ofNumber r) :=
  tells_late_ofExcept (failsWith_ofNumber r)

theorem honest_tokenBalance (c : Client) (contract owner : String) :
    Tells Honest (c.tokenBalance contract owner) := by
  refine tells_honest_after (failsWith_readAddress owner) fun a _ => ?_
  refine tells_honest_after (failsWith_ofAbi _) fun data _ => ?_
  exact honest_constantCall _ _ _ _ fun result => tells_late_ofNumber _

theorem honest_tokenDecimals (contract : String) : Tells Honest (tokenDecimals contract) := by
  refine honest_constantCall _ _ _ _ fun result => ?_
  refine tells_late_bind (tells_late_ofNumber _) fun decimals => ?_
  split
  · exact tells_late_pure decimals
  · exact tells_late_fail (.head _)

theorem honest_tokenAllowance (c : Client) (contract owner spender : String) :
    Tells Honest (c.tokenAllowance contract owner spender) := by
  refine tells_honest_after (failsWith_ofAbi _) fun data hdata => ?_
  simp only [call, bind_assoc]
  refine tells_honest_after (failsWith_dryRun _) fun r _ => ?_
  refine tells_honest_inquiry (Rpc.isInquiry_callAs _ _ _) fun result => ?_
  refine tells_late_bind (tells_late_ofExcept (failsWith_decode hdata result)) fun values => ?_
  exact tells_late_ofOption (.head _) _

theorem perform_honest (c : Client) {α : Type} (m : Method α) (net : Transport)
    (start : List Request) :
    ∃ asked, ((m.perform c).run net start).2 = start ++ asked ∧
      Honest net start asked ((m.perform c).run net start).1 := by
  suffices h : Tells Honest (m.perform c) from h net start
  cases m with
  | register name declaration => exact tells_honest_ofExcept (failsWith_ofAbi _)
  | encode method name args => exact tells_honest_ofExcept (failsWith_ofAbi _)
  | decode method name data => exact tells_honest_ofExcept (failsWith_ofAbi _)
  | calledMethod name data => exact tells_honest_ofExcept (failsWith_ofAbi _)
  | transferData recipient value => exact tells_honest_ofExcept (failsWith_ofAbi _)
  | approveData spender amount => exact tells_honest_ofExcept (failsWith_ofAbi _)
  | balance address =>
    exact tells_honest_after (failsWith_readAddress address) fun a _ =>
      tells_honest_ofNode (Rpc.isInquiry_callAs _ _ _)
  | tokenBalance contract owner => exact honest_tokenBalance c contract owner
  | tokenDecimals contract => exact honest_tokenDecimals contract
  | tokenSupply contract =>
    exact honest_constantCall _ _ _ _ fun result => tells_late_ofNumber _
  | tokenSymbol contract =>
    exact honest_constantCall _ _ _ _ fun result => tells_late_ofNumber _
  | tokenAllowance contract owner spender => exact honest_tokenAllowance c contract owner spender
  | build tx => exact honest_build c tx
  | broadcast envelope signature => exact honest_broadcast envelope signature
  | nonce address => exact tells_honest_pure 0
  | estimateEnergy tx =>
    have h := honest_estimateEnergy tx tells_honest_pure tells_late_pure
    rwa [bind_pure] at h
  | suggestFee tx => exact honest_suggestFee tx
  | gasPrice =>
    exact tells_honest_inquiry (Rpc.isInquiry_callAs _ _ _) fun price => tells_late_pure _
  | call tx =>
    exact tells_honest_after (failsWith_dryRun tx) fun r _ =>
      tells_honest_ofNode (Rpc.isInquiry_callAs _ _ _)
  | resolve hash => exact honest_resolve c hash
  | eventResults name log => exact tells_honest_ofExcept (failsWith_ofAbi _)
  | isValid address => exact tells_honest_pure _
  | normalize address => exact tells_honest_pure _
  | isNative asset => exact tells_honest_pure _
  | nativeAddress => exact tells_honest_pure _
  | nativeDecimals => exact tells_honest_pure _
  | readAddress address => exact tells_honest_ofExcept (failsWith_readAddress address)
  | writeAddress address => exact tells_honest_pure _
  | isContract address =>
    exact tells_honest_inquiry (Rpc.isInquiry_callAs _ _ _) fun code => tells_late_pure _
  | latestBlockNumber => exact tells_honest_ofNode (Wallet.isInquiry_accept _ _ _ _ _)
  | blockNumber => exact tells_honest_ofNode (Rpc.isInquiry_callAs _ _ _)
  | block number => exact tells_honest_ofNode (Rpc.isInquiry_known _ _)
  | chainId => exact tells_honest_ofNode (Rpc.isInquiry_callAs _ _ _)
  | receipt hash => exact tells_honest_ofNode (Rpc.isInquiry_known _ _)
  | deploy abi bytecode tx => exact honest_deploy abi bytecode tx
  | stake owner resource amount =>
    exact tells_honest_after ((failsWith_readAccount owner).map _) fun r _ =>
      honest_sealed (Wallet.isInquiry_draft _ _)
  | unstake owner resource amount =>
    exact tells_honest_after ((failsWith_readAccount owner).map _) fun r _ =>
      honest_sealed (Wallet.isInquiry_draft _ _)
  | withdraw owner =>
    exact tells_honest_after (failsWith_readAccount owner) fun a _ =>
      honest_sealed (Wallet.isInquiry_draft _ _)
  | delegate owner receiver resource amount =>
    exact tells_honest_after (failsWith_delegateRequest owner receiver resource amount) fun r _ =>
      honest_sealed (Wallet.isInquiry_draft _ _)
  | accountResource address =>
    exact tells_honest_after (failsWith_readAddress address) fun a _ =>
      tells_honest_ofNode (Wallet.isInquiry_accountResource _)
  | energyPrice now => exact tells_honest_ofNode (Wallet.isInquiry_accept _ _ _ _ _)

end Methods

end Client
end Tronkit
