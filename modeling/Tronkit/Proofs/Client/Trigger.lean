import Tronkit.Proofs.Abi.Lookup
import Tronkit.Proofs.Address
import Tronkit.Proofs.Client.Account
import Tronkit.Proofs.Client.Operation
import Tronkit.Proofs.Node.Request

/-!
# Contract calls

A transaction with call data is one question to the node, which denotes the data that the caller
gave: the digest of the signature that is asked for starts with the first four bytes, and the
parameter spells the others. Which of the methods with one selector is asked for does not matter.
Nothing is sent if the data calls no known method or an address names no account.
-/

namespace Tronkit.Client

open Node

/-- The body asks for the call of a transaction: between its accounts, with its data, and with no
other limit than its fee. -/
def IsCall (tx : Transaction) (body : Bytes) : Prop :=
  ∃ owner contract : Address, ∃ signature parameter : String, ∃ args : Bytes,
    IsAccount tx.sender owner ∧ IsAccount tx.recipient contract ∧
    Hex.decode parameter.toList = .ok args ∧
    (Keccak.digest (textBytes signature)).take 4 ++ args = tx.data ∧
    TriggerRequest.StandsIn
      { owner := owner.base58, contract := contract.base58, selector := signature, parameter,
        visible := true,
        feeLimit := some ((tx.fee.map fun f => f.gas * f.gasFeeCap + tx.data.length / 2).getD 0) }
      body

theorem energyLimit_eq (fee : Option FeeLimit) (data : Bytes) :
    energyLimit fee data = (fee.map fun f => f.gas * f.gasFeeCap + data.length / 2).getD 0 := by
  cases fee <;> rfl

section Request

variable {c : Client} {tx : Transaction}

theorem triggerRequest_of_lookup_error {e : AbiError}
    (h : c.registry.lookupCall tx.data = .error e) :
    c.triggerRequest tx = .error (.ofAbi e) := by
  rw [triggerRequest, h]
  rfl

theorem triggerRequest_of_lookup {f : AbiFunction} (h : c.registry.lookupCall tx.data = .ok f) :
    c.triggerRequest tx = (do
      let owner ← readAccount tx.sender
      let contract ← readAccount tx.recipient
      pure { owner := owner.base58, contract := contract.base58, selector := f.signature,
             parameter := Hex.text (tx.data.drop 4), visible := true,
             feeLimit := some (energyLimit tx.fee tx.data) }) := by
  rw [triggerRequest, h]
  rfl

theorem triggerRequest_of_not_account {f : AbiFunction}
    (hlookup : c.registry.lookupCall tx.data = .ok f)
    (h : ¬((∃ a, IsAccount tx.sender a) ∧ ∃ a, IsAccount tx.recipient a)) :
    ∃ reason, c.triggerRequest tx = .error (.addressInvalid reason) := by
  rw [triggerRequest_of_lookup hlookup]
  by_cases hsender : ∃ a, IsAccount tx.sender a
  · obtain ⟨reason, hreason⟩ := readAccount_of_not_account fun hr => h ⟨hsender, hr⟩
    obtain ⟨a, ha⟩ := hsender
    refine ⟨reason, ?_⟩
    rw [readAccount_eq_ok_iff.2 ha, hreason]
    rfl
  · obtain ⟨reason, hreason⟩ := readAccount_of_not_account hsender
    refine ⟨reason, ?_⟩
    rw [hreason]
    rfl

theorem triggerRequest_of_accounts {f : AbiFunction} {owner contract : Address}
    (hlookup : c.registry.lookupCall tx.data = .ok f) (howner : IsAccount tx.sender owner)
    (hcontract : IsAccount tx.recipient contract) :
    c.triggerRequest tx = .ok
      { owner := owner.base58, contract := contract.base58, selector := f.signature,
        parameter := Hex.text (tx.data.drop 4), visible := true,
        feeLimit := some (energyLimit tx.fee tx.data) } := by
  rw [triggerRequest_of_lookup hlookup, readAccount_eq_ok_iff.2 howner,
    readAccount_eq_ok_iff.2 hcontract]
  rfl

theorem isCall_render {f : AbiFunction} {owner contract : Address}
    (hf : f.selector = tx.data.take 4) (howner : IsAccount tx.sender owner)
    (hcontract : IsAccount tx.recipient contract) :
    IsCall tx (Utf8.encode (TriggerRequest.render
      { owner := owner.base58, contract := contract.base58, selector := f.signature,
        parameter := Hex.text (tx.data.drop 4), visible := true,
        feeLimit := some (energyLimit tx.fee tx.data) })) := by
  refine ⟨owner, contract, f.signature, Hex.text (tx.data.drop 4), tx.data.drop 4, howner,
    hcontract, ?_, ?_, ?_⟩
  · rw [Hex.text, String.toList_ofList, Hex.decode_encode]
  · have hselector : (Keccak.digest (textBytes f.signature)).take 4 = tx.data.take 4 := hf
    rw [hselector, List.take_append_drop]
  · rw [← energyLimit_eq]
    exact TriggerRequest.standsIn_render _

theorem triggerRequest_cases (c : Client) (tx : Transaction) :
    (tx.data.length < 4 ∧ c.triggerRequest tx = .error (.dataTooShort tx.data.length)) ∨
    (4 ≤ tx.data.length ∧ ¬c.registry.Declares (tx.data.take 4) ∧
      c.triggerRequest tx = .error (.unknownSelector (Hex.text (tx.data.take 4)))) ∨
    (4 ≤ tx.data.length ∧ c.registry.Declares (tx.data.take 4) ∧
      ¬((∃ a, IsAccount tx.sender a) ∧ ∃ a, IsAccount tx.recipient a) ∧
      ∃ reason, c.triggerRequest tx = .error (.addressInvalid reason)) ∨
    (4 ≤ tx.data.length ∧ c.registry.Declares (tx.data.take 4) ∧
      ((∃ a, IsAccount tx.sender a) ∧ ∃ a, IsAccount tx.recipient a) ∧
      ∃ r, c.triggerRequest tx = .ok r ∧ IsCall tx (Utf8.encode r.render)) := by
  by_cases hshort : tx.data.length < 4
  · have hlookup := Registry.lookupCall_of_short c.registry hshort
    exact .inl ⟨hshort, triggerRequest_of_lookup_error hlookup⟩
  have hlen : 4 ≤ tx.data.length := by omega
  by_cases hdeclares : c.registry.Declares (tx.data.take 4)
  · obtain ⟨f, hlookup, hf, -⟩ := Registry.lookupCall_of_declares hshort hdeclares
    by_cases haccounts : (∃ a, IsAccount tx.sender a) ∧ ∃ a, IsAccount tx.recipient a
    · obtain ⟨⟨owner, howner⟩, contract, hcontract⟩ := haccounts
      have hrequest := triggerRequest_of_accounts hlookup howner hcontract
      exact .inr (.inr (.inr ⟨hlen, hdeclares, ⟨⟨owner, howner⟩, contract, hcontract⟩, _, hrequest,
        isCall_render hf howner hcontract⟩))
    · have hrequest := triggerRequest_of_not_account hlookup haccounts
      exact .inr (.inr (.inl ⟨hlen, hdeclares, haccounts, hrequest⟩))
  · have hlookup := Registry.lookupCall_of_not_declares hshort hdeclares
    exact .inr (.inl ⟨hlen, hdeclares, triggerRequest_of_lookup_error hlookup⟩)

end Request

section Run

variable {c : Client} {tx : Transaction} {net : Transport} {sent sent' : List Request}
  {outcome : Except ClientError UnsignedTransaction}

theorem build_of_request_error {e : ClientError} (hdata : tx.data ≠ [])
    (hrun : (c.build tx).run net sent = (outcome, sent')) (h : c.triggerRequest tx = .error e) :
    outcome = .error e ∧ sent' = sent := by
  rw [run_build, draft, if_neg hdata, Exchange.run_ofExcept_error_bind h] at hrun
  cases hrun
  exact ⟨rfl, rfl⟩

theorem build_of_request {r : TriggerRequest} (hdata : tx.data ≠ [])
    (hrun : (c.build tx).run net sent = (outcome, sent')) (h : c.triggerRequest tx = .ok r) :
    sent' = sent ++ [.post .wallet "wallet/triggersmartcontract" (Utf8.encode r.render)] := by
  rw [run_build, draft, if_neg hdata, Exchange.run_ofExcept_ok_bind h, ofNode,
    Exchange.run_mapError, Wallet.trigger, Wallet.run_post] at hrun
  cases hrun
  rfl

theorem build_call (hdata : tx.data ≠ []) (hrun : (c.build tx).run net sent = (outcome, sent')) :
    (tx.data.length < 4 → outcome = .error (.dataTooShort tx.data.length)) ∧
    (4 ≤ tx.data.length → ¬c.registry.Declares (tx.data.take 4) →
      outcome = .error (.unknownSelector (Hex.text (tx.data.take 4)))) ∧
    (4 ≤ tx.data.length → c.registry.Declares (tx.data.take 4) →
      ¬((∃ a, IsAccount tx.sender a) ∧ ∃ a, IsAccount tx.recipient a) →
      ∃ reason, outcome = .error (.addressInvalid reason)) ∧
    (sent' = sent ↔ tx.data.length < 4 ∨ ¬c.registry.Declares (tx.data.take 4) ∨
      ¬((∃ a, IsAccount tx.sender a) ∧ ∃ a, IsAccount tx.recipient a)) ∧
    (sent' ≠ sent → ∃ body,
      sent' = sent ++ [.post .wallet "wallet/triggersmartcontract" body] ∧ IsCall tx body) := by
  rcases triggerRequest_cases c tx with ⟨hshort, hrequest⟩ | ⟨hlen, hnot, hrequest⟩ |
    ⟨hlen, hdeclares, hnot, reason, hrequest⟩ | ⟨hlen, hdeclares, haccounts, r, hrequest, hcall⟩
  · obtain ⟨hout, hsent⟩ := build_of_request_error hdata hrun hrequest
    exact ⟨fun _ => hout, fun hlen => by omega, fun hlen => by omega,
      ⟨fun _ => .inl hshort, fun _ => hsent⟩, fun hne => absurd hsent hne⟩
  · obtain ⟨hout, hsent⟩ := build_of_request_error hdata hrun hrequest
    exact ⟨fun hshort => by omega, fun _ _ => hout, fun _ hdeclares => absurd hdeclares hnot,
      ⟨fun _ => .inr (.inl hnot), fun _ => hsent⟩, fun hne => absurd hsent hne⟩
  · obtain ⟨hout, hsent⟩ := build_of_request_error hdata hrun hrequest
    exact ⟨fun hshort => by omega, fun _ h => absurd hdeclares h, fun _ _ _ => ⟨reason, hout⟩,
      ⟨fun _ => .inr (.inr hnot), fun _ => hsent⟩, fun hne => absurd hsent hne⟩
  · have hsent := build_of_request hdata hrun hrequest
    have hne : sent' ≠ sent := by
      rw [hsent]
      simp
    refine ⟨fun hshort => by omega, fun _ h => absurd hdeclares h, fun _ _ h => absurd haccounts h,
      ⟨fun h => absurd h hne, ?_⟩, fun _ => ⟨_, hsent, hcall⟩⟩
    rintro (hshort | hnot | hnot)
    · omega
    · exact absurd hdeclares hnot
    · exact absurd haccounts hnot

end Run

/-- A call of a declared method between two accounts is sent. -/
theorem build_call_of_declared :
    let f : AbiFunction := ⟨"refund", [], []⟩
    let c : Client := ⟨Registry.empty.put "shop" ⟨[f], []⟩, 1⟩
    let tx : Transaction :=
      { sender := Address.hex ⟨1⟩, recipient := Address.hex ⟨2⟩, amount := 0,
        data := f.selector ++ [7], fee := some ⟨3, 5, 0⟩, chainId := 1 }
    tx.data ≠ [] ∧ ∀ net, ∃ body, ((c.build tx).run net []).2 =
      [.post .wallet "wallet/triggersmartcontract" body] ∧ IsCall tx body := by
  intro f c tx
  have hlen : f.selector.length = 4 := f.length_selector
  have hdata : tx.data ≠ [] := List.append_ne_nil_of_right_ne_nil _ (by decide)
  have hshort : ¬tx.data.length < 4 := by
    rw [List.length_append, hlen]
    omega
  have hselector : f.selector = tx.data.take 4 := (List.take_left' hlen).symm
  have hdeclares : c.registry.Declares (tx.data.take 4) :=
    ⟨("shop", ⟨[f], []⟩), List.mem_singleton_self _, f, List.mem_singleton_self f, hselector⟩
  have hsender : IsAccount tx.sender ⟨1⟩ := ⟨Address.parse_of_sameText (.inl rfl), by decide⟩
  have hrecipient : IsAccount tx.recipient ⟨2⟩ := ⟨Address.parse_of_sameText (.inl rfl), by decide⟩
  refine ⟨hdata, fun net => ?_⟩
  rcases hrun : (c.build tx).run net [] with ⟨outcome, sent⟩
  obtain ⟨-, -, -, hnothing, hcall⟩ := build_call hdata hrun
  refine hcall fun hsent => ?_
  rcases hnothing.1 hsent with h | h | h
  · exact hshort h
  · exact h hdeclares
  · exact h ⟨⟨_, hsender⟩, _, hrecipient⟩

end Tronkit.Client
