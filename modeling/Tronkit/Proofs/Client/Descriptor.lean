import Tronkit.Proofs.Client.Transfer
import Tronkit.Proofs.Client.Trigger

/-!
# What a request keeps of its transaction

The request for a transaction denotes both of its accounts and all of its call data, and the
request for a transfer its amount as well. The request for a contract call has no place for an
amount, so two calls that are to move different amounts come to the same request.
-/

namespace Tronkit.Client

open Address (Alike)

def IsQuestion (tx : Transaction) (request : Request) : Prop :=
  if tx.data = [] then
    ∃ body, request = .post .wallet "wallet/createtransaction" body ∧ IsTransfer tx body
  else ∃ body, request = .post .wallet "wallet/triggersmartcontract" body ∧ IsCall tx body

section Question

variable {c c' : Client} {t t' tx : Transaction} {net net' : Transport}
  {sent sent' : List Request} {request : Request}

theorem isQuestion_of_transfer (hdata : tx.data = [])
    (hsent : ((c.build tx).run net sent).2 = sent ++ [request]) : IsQuestion tx request := by
  rw [IsQuestion, if_pos hdata]
  cases hr : transferRequest tx with
  | error e =>
    rw [run_build_of_transfer_error hdata hr] at hsent
    simp at hsent
  | ok r =>
    rw [sent_build_of_transfer hdata hr, List.append_cancel_left_eq, List.singleton_inj] at hsent
    exact ⟨_, hsent.symm, isTransfer_render hr⟩

theorem isQuestion_of_call (hdata : tx.data ≠ [])
    (hsent : ((c.build tx).run net sent).2 = sent ++ [request]) : IsQuestion tx request := by
  rw [IsQuestion, if_neg hdata]
  have hrefused : ∀ e, c.triggerRequest tx ≠ .error e := by
    intro e hr
    obtain ⟨-, hsame⟩ := build_of_request_error hdata (Prod.eta _).symm hr
    rw [hsame] at hsent
    simp at hsent
  rcases triggerRequest_cases c tx with ⟨-, hr⟩ | ⟨-, -, hr⟩ | ⟨-, -, -, _, hr⟩ |
    ⟨-, -, -, r, hr, hcall⟩
  · exact absurd hr (hrefused _)
  · exact absurd hr (hrefused _)
  · exact absurd hr (hrefused _)
  · rw [build_of_request hdata (Prod.eta _).symm hr, List.append_cancel_left_eq,
      List.singleton_inj] at hsent
    exact ⟨_, hsent.symm, hcall⟩

theorem isQuestion_of_build (hsent : ((c.build tx).run net sent).2 = sent ++ [request]) :
    IsQuestion tx request := by
  by_cases hdata : tx.data = []
  · exact isQuestion_of_transfer hdata hsent
  · exact isQuestion_of_call hdata hsent

theorem alike_of_base58 {s s' : String} {a a' : Address} (hs : IsAccount s a)
    (hs' : IsAccount s' a') (h : a.base58 = a'.base58) : Alike s s' := by
  rw [← Address.base58_injective h] at hs'
  exact ⟨a, hs.1, hs'.1⟩

theorem IsTransfer.unique {body : Bytes} (h : IsTransfer t body) (h' : IsTransfer t' body) :
    Alike t.sender t'.sender ∧ Alike t.recipient t'.recipient ∧ t.amount = t'.amount := by
  obtain ⟨owner, recipient, amount, howner, hrecipient, -, -, hamount, hbody⟩ := h
  obtain ⟨owner', recipient', amount', howner', hrecipient', -, -, hamount', hbody'⟩ := h'
  have hsame := hbody.unique hbody'
  simp only [Node.TransferRequest.mk.injEq, and_true] at hsame
  obtain ⟨hsender, hrecipients, hamounts⟩ := hsame
  refine ⟨alike_of_base58 howner howner' hsender,
    alike_of_base58 hrecipient hrecipient' hrecipients, ?_⟩
  rw [hamount, hamount', hamounts]

theorem IsCall.unique {body : Bytes} (h : IsCall t body) (h' : IsCall t' body) :
    Alike t.sender t'.sender ∧ Alike t.recipient t'.recipient ∧ t.data = t'.data := by
  obtain ⟨owner, contract, signature, parameter, args, howner, hcontract, hargs, hdata, hbody⟩ := h
  obtain ⟨owner', contract', signature', parameter', args', howner', hcontract', hargs', hdata',
    hbody'⟩ := h'
  have hsame := hbody.unique hbody'
  simp only [Node.TriggerRequest.mk.injEq, true_and] at hsame
  obtain ⟨hsender, hcontracts, rfl, rfl, -⟩ := hsame
  refine ⟨alike_of_base58 howner howner' hsender,
    alike_of_base58 hcontract hcontract' hcontracts, ?_⟩
  rw [hargs] at hargs'
  cases hargs'
  rw [← hdata, ← hdata']

/-- Transactions with one question differ at most in how their addresses are written and, if they
are calls, in the amounts that they are to move. -/
theorem IsQuestion.unique (h : IsQuestion t request) (h' : IsQuestion t' request) :
    Alike t.sender t'.sender ∧ Alike t.recipient t'.recipient ∧ t.data = t'.data ∧
      (t.data = [] → t.amount = t'.amount) := by
  unfold IsQuestion at h h'
  split at h
  · rename_i hdata
    obtain ⟨body, rfl, htransfer⟩ := h
    split at h'
    · rename_i hdata'
      obtain ⟨body', hbody, htransfer'⟩ := h'
      cases hbody
      obtain ⟨hsender, hrecipient, hamount⟩ := htransfer.unique htransfer'
      exact ⟨hsender, hrecipient, hdata.trans hdata'.symm, fun _ => hamount⟩
    · obtain ⟨body', hbody, -⟩ := h'
      simp [Request.post] at hbody
  · rename_i hdata
    obtain ⟨body, rfl, hcall⟩ := h
    split at h'
    · obtain ⟨body', hbody, -⟩ := h'
      simp [Request.post] at hbody
    · obtain ⟨body', hbody, hcall'⟩ := h'
      cases hbody
      obtain ⟨hsender, hrecipient, hsame⟩ := hcall.unique hcall'
      exact ⟨hsender, hrecipient, hsame, fun hnil => absurd hnil hdata⟩

theorem build_keeps_descriptor (h : ((c.build t).run net sent).2 = sent ++ [request])
    (h' : ((c'.build t').run net' sent').2 = sent' ++ [request]) :
    Alike t.sender t'.sender ∧ Alike t.recipient t'.recipient ∧ t.data = t'.data ∧
      (t.data = [] → t.amount = t'.amount) :=
  (isQuestion_of_build h).unique (isQuestion_of_build h')

end Question

/-- One transfer with its sender written in two forms. -/
theorem build_keeps_descriptor_of_forms :
    let t : Transaction :=
      { sender := Address.base58 ⟨1⟩, recipient := Address.base58 ⟨2⟩, amount := 7, data := [],
        fee := none, chainId := 1 }
    let t' : Transaction := { t with sender := Address.hex ⟨1⟩ }
    let c : Client := .standard 1
    ∀ net, ∃ request,
      ((c.build t).run net []).2 = [] ++ [request] ∧
      ((c.build t').run net []).2 = [] ++ [request] ∧
      Alike t.sender t'.sender ∧ Alike t.recipient t'.recipient ∧ t.data = t'.data ∧
        (t.data = [] → t.amount = t'.amount) := by
  intro t t' c net
  have hsender : IsAccount t.sender ⟨1⟩ := ⟨Address.parse_base58 _, by decide⟩
  have hsender' : IsAccount t'.sender ⟨1⟩ := ⟨Address.parse_of_sameText (.inl rfl), by decide⟩
  have hrecipient : IsAccount t.recipient ⟨2⟩ := ⟨Address.parse_base58 _, by decide⟩
  have hdiffer : (⟨1⟩ : Address) ≠ ⟨2⟩ := by decide
  have hpos : 0 < 7 := by decide
  have hr := transferRequest_eq_ok_iff.2 ⟨_, _, 7, hsender, hrecipient, hdiffer, hpos, rfl, rfl⟩
  have hr' := transferRequest_eq_ok_iff.2 ⟨_, _, 7, hsender', hrecipient, hdiffer, hpos, rfl, rfl⟩
  have h : ((c.build t).run net []).2 = [] ++ [_] := sent_build_of_transfer rfl hr
  have h' : ((c.build t').run net []).2 = [] ++ [_] := sent_build_of_transfer rfl hr'
  exact ⟨_, h, h', build_keeps_descriptor h h'⟩

/-! ## The amount of a call -/

theorem triggerRequest_of_amount (c : Client) (tx : Transaction) (amount : Int) :
    c.triggerRequest { tx with amount } = c.triggerRequest tx := rfl

theorem build_of_amount (c : Client) {tx : Transaction} (hdata : tx.data ≠ []) (amount : Int) :
    c.build { tx with amount } = c.build tx := by
  rw [build, build, draft, draft, if_neg hdata, if_neg hdata, triggerRequest_of_amount]

/-- A method of a known interface can be called without arguments. -/
theorem triggerRequest_of_selector {c : Client} {tx : Transaction} {f : AbiFunction}
    {owner contract : Address} (hf : c.registry.Declares f.selector) (hdata : tx.data = f.selector)
    (howner : IsAccount tx.sender owner) (hcontract : IsAccount tx.recipient contract) :
    tx.data ≠ [] ∧ ∃ r, c.triggerRequest tx = .ok r := by
  have hlen : tx.data.length = 4 := by rw [hdata, f.length_selector]
  have hdeclares : c.registry.Declares (tx.data.take 4) := by
    rwa [List.take_of_length_le hlen.le, hdata]
  obtain ⟨g, hlookup, -⟩ := Registry.lookupCall_of_declares hlen.not_lt hdeclares
  exact ⟨List.ne_nil_of_length_eq_add_one hlen, _,
    triggerRequest_of_accounts hlookup howner hcontract⟩

/-- A call that moves nothing and a call that moves five are one question. -/
theorem build_loses_amount :
    let t : Transaction :=
      { sender := Address.hex ⟨1⟩, recipient := Address.hex ⟨2⟩, amount := 0,
        data := Standard.symbol.selector, fee := none, chainId := 1 }
    let t' : Transaction := { t with amount := 5 }
    let c : Client := .standard 1
    t.amount ≠ t'.amount ∧ ∀ net, ∃ request,
      ((c.build t).run net []).2 = [request] ∧ ((c.build t').run net []).2 = [request] := by
  intro t t' c
  have hsender : IsAccount t.sender ⟨1⟩ := ⟨Address.parse_of_sameText (.inl rfl), by decide⟩
  have hrecipient : IsAccount t.recipient ⟨2⟩ := ⟨Address.parse_of_sameText (.inl rfl), by decide⟩
  have hdeclares : c.registry.Declares Standard.symbol.selector :=
    Registry.declares_standard (by simp [Standard.token])
  have hselector : t.data = Standard.symbol.selector := by simp only [t]
  obtain ⟨hdata, r, hr⟩ := triggerRequest_of_selector hdeclares hselector hsender hrecipient
  have hsame : c.build t' = c.build t := build_of_amount c hdata 5
  have hsent : ∀ net, ((c.build t).run net []).2 = [_] := fun net =>
    build_of_request hdata (Prod.eta _).symm hr
  refine ⟨by decide, fun net => ⟨_, hsent net, ?_⟩⟩
  rw [hsame]
  exact hsent net

end Tronkit.Client
