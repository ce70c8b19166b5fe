import Mathlib.Data.List.Forall2
import Tronkit.Proofs.Address
import Tronkit.Proofs.Client.Account
import Tronkit.Proofs.Client.Method
import Tronkit.Proofs.Transport.Exchange

/-!
# Calls with addresses in other forms

A call means the addresses in its input and not their texts. If texts of the same addresses are put
in their place, the same requests are sent, byte by byte, and what comes of them is the same. Only
an error that repeats a text of the input tells the difference.
-/

namespace Tronkit

open Address (Alike)

/-- The same text, or another text of the address that it denotes. -/
def Restated (s t : String) : Prop := s = t ∨ Alike s t

namespace Restated

variable {s t u : String}

theorem symm (h : Restated s t) : Restated t s := by
  rcases h with rfl | ⟨a, hs, ht⟩
  · exact .inl rfl
  · exact .inr ⟨a, ht, hs⟩

theorem trans (h : Restated s t) (h' : Restated t u) : Restated s u := by
  rcases h with rfl | ⟨a, hs, ht⟩
  · exact h'
  · rcases h' with rfl | ⟨b, ht', hu⟩
    · exact .inr ⟨a, hs, ht⟩
    · rw [ht] at ht'
      cases ht'
      exact .inr ⟨a, hs, hu⟩

end Restated

inductive Transaction.Restated : Transaction → Transaction → Prop
  | mk {tx : Transaction} {sender recipient : String} (hsender : Tronkit.Restated tx.sender sender)
    (hrecipient : Tronkit.Restated tx.recipient recipient) :
    Restated tx { tx with sender, recipient }

inductive AbiArgument.Restated : AbiArgument → AbiArgument → Prop
  | same (arg : AbiArgument) : Restated arg arg
  | address {s t : String} (h : Tronkit.Restated s t) : Restated (.address s) (.address t)

/-- The same error, up to the text of an address that it repeats from the input. -/
inductive ClientError.Echoes : ClientError → ClientError → Prop
  | same (e : ClientError) : Echoes e e
  | selfTransfer {s t : String} (h : Alike s t) : Echoes (.selfTransfer s) (.selfTransfer t)
  | addressInvalid {s t : String} (h : Alike s t) (before after : String) :
    Echoes (.addressInvalid (before ++ s ++ after)) (.addressInvalid (before ++ t ++ after))
  | invalidArgument {s t : String} (h : Alike s t) (before after : String) :
    Echoes (.invalidArgument (before ++ Quoted.text s ++ after))
      (.invalidArgument (before ++ Quoted.text t ++ after))

namespace Client

inductive Method.Restated : {α : Type} → Method α → Method α → Prop
  | build {tx tx' : Transaction} (h : tx.Restated tx') : Restated (build tx) (build tx')
  | deploy (abi bytecode : String) {tx tx' : Transaction} (h : tx.Restated tx') :
    Restated (deploy abi bytecode tx) (deploy abi bytecode tx')
  | stake {owner owner' : String} (h : Tronkit.Restated owner owner') (resource : Resource)
    (amount : Nat) : Restated (stake owner resource amount) (stake owner' resource amount)
  | unstake {owner owner' : String} (h : Tronkit.Restated owner owner') (resource : Resource)
    (amount : Nat) : Restated (unstake owner resource amount) (unstake owner' resource amount)
  | withdraw {owner owner' : String} (h : Tronkit.Restated owner owner') :
    Restated (withdraw owner) (withdraw owner')
  | delegate {owner owner' receiver receiver' : String} (h : Tronkit.Restated owner owner')
    (hreceiver : Tronkit.Restated receiver receiver') (resource : Resource) (amount : Nat) :
    Restated (delegate owner receiver resource amount) (delegate owner' receiver' resource amount)
  | accountResource {address address' : String} (h : Tronkit.Restated address address') :
    Restated (accountResource address) (accountResource address')
  | balance {address address' : String} (h : Tronkit.Restated address address') :
    Restated (balance address) (balance address')
  | tokenBalance {contract contract' owner owner' : String}
    (h : Tronkit.Restated contract contract') (howner : Tronkit.Restated owner owner') :
    Restated (tokenBalance contract owner) (tokenBalance contract' owner')
  | tokenDecimals {contract contract' : String} (h : Tronkit.Restated contract contract') :
    Restated (tokenDecimals contract) (tokenDecimals contract')
  | tokenSupply {contract contract' : String} (h : Tronkit.Restated contract contract') :
    Restated (tokenSupply contract) (tokenSupply contract')
  | tokenSymbol {contract contract' : String} (h : Tronkit.Restated contract contract') :
    Restated (tokenSymbol contract) (tokenSymbol contract')
  | tokenAllowance {contract contract' owner owner' spender spender' : String}
    (h : Tronkit.Restated contract contract') (howner : Tronkit.Restated owner owner')
    (hspender : Tronkit.Restated spender spender') :
    Restated (tokenAllowance contract owner spender) (tokenAllowance contract' owner' spender')
  | call {tx tx' : Transaction} (h : tx.Restated tx') : Restated (call tx) (call tx')
  | estimateEnergy {tx tx' : Transaction} (h : tx.Restated tx') :
    Restated (estimateEnergy tx) (estimateEnergy tx')
  | suggestFee {tx tx' : Transaction} (h : tx.Restated tx') :
    Restated (suggestFee tx) (suggestFee tx')
  | transferData {recipient recipient' : String} (h : Tronkit.Restated recipient recipient')
    (value : Nat) : Restated (transferData recipient value) (transferData recipient' value)
  | approveData {spender spender' : String} (h : Tronkit.Restated spender spender')
    (amount : Nat) : Restated (approveData spender amount) (approveData spender' amount)

/-! ## Addresses -/

section Address

variable {s s' t t' : String}

theorem readAddress_restated (h : Restated s t) : readAddress s = readAddress t := by
  rcases h with rfl | ⟨a, hs, ht⟩
  · rfl
  · rw [readAddress, readAddress, hs, ht]

theorem agree_readAccount (h : Restated s t) :
    Agree ClientError.Echoes (readAccount s) (readAccount t) := by
  rcases h with rfl | ⟨a, hs, ht⟩
  · exact .refl .same _
  · rw [readAccount_of_parse hs, readAccount_of_parse ht]
    split
    · exact .error (.addressInvalid ⟨a, hs, ht⟩ _ _)
    · exact .ok a

theorem sameAddress_iff : sameAddress s t = true ↔ Restated s t := by
  unfold sameAddress Restated
  split
  · rename_i a b hs ht
    rw [decide_eq_true_iff]
    constructor
    · rintro rfl
      exact .inr ⟨a, hs, ht⟩
    · rintro (rfl | ⟨c, hs', ht'⟩)
      · exact Except.ok.inj (hs.symm.trans ht)
      · rw [hs] at hs'
        rw [ht] at ht'
        exact (Except.ok.inj hs').trans (Except.ok.inj ht').symm
  · rename_i hnot
    rw [decide_eq_true_iff]
    constructor
    · exact .inl
    · rintro (h | ⟨a, hs, ht⟩)
      · exact h
      · exact absurd ht (hnot a a hs)

theorem sameAddress_restated (hs : Restated s s') (ht : Restated t t') :
    sameAddress s t = sameAddress s' t' := by
  rw [Bool.eq_iff_iff, sameAddress_iff, sameAddress_iff]
  exact ⟨fun h => (hs.symm.trans h).trans ht, fun h => (hs.trans h).trans ht.symm⟩

end Address

section Encode

variable {c : Client}

theorem token_address_of_ne {kind : AbiType} (h : kind ≠ .address) (s : String) :
    AbiArgument.token kind (.address s) =
      .error ((AbiArgument.address s).describe ++ " cannot be encoded as '" ++ kind.text ++ "'") := by
  cases kind with
  | address => exact absurd rfl h
  | _ => rfl

theorem describe_address (s : String) :
    (AbiArgument.address s).describe = "Address(" ++ Quoted.text s ++ ")" := rfl

theorem ofAbi_invalidArgument (method : String) (position : Nat) (reason : String) :
    ClientError.ofAbi (.invalidArgument method position reason) =
      .invalidArgument ("Argument #" ++ decimalText position ++ " of '" ++ method
        ++ "' is invalid: " ++ reason) := rfl

theorem ofAbi_misfit (method : String) (position : Nat) (s : String) (kind : AbiType) :
    ClientError.ofAbi (.invalidArgument method position
        ((AbiArgument.address s).describe ++ " cannot be encoded as '" ++ kind.text ++ "'")) =
      .invalidArgument ("Argument #" ++ decimalText position ++ " of '" ++ method
        ++ "' is invalid: " ++ "Address(" ++ Quoted.text s
        ++ (")" ++ " cannot be encoded as '" ++ kind.text ++ "'")) := by
  simp only [ofAbi_invalidArgument, describe_address, String.append_assoc]

theorem agree_token {arg arg' : AbiArgument} (h : arg.Restated arg') (method : String)
    (position : Nat) (kind : AbiType) :
    Agree (fun e e' => ClientError.Echoes (.ofAbi e) (.ofAbi e'))
      ((arg.token kind).mapError (.invalidArgument method position))
      ((arg'.token kind).mapError (.invalidArgument method position)) := by
  cases h with
  | same arg => exact .refl (fun _ => .same _) _
  | @address s t h =>
    rcases h with rfl | halike
    · exact .refl (fun _ => .same _) _
    by_cases hkind : kind = .address
    · obtain ⟨a, hs, ht⟩ := halike
      have htoken : AbiArgument.token kind (.address s) = AbiArgument.token kind (.address t) := by
        rw [hkind, AbiArgument.token, AbiArgument.token, hs, ht]
      rw [htoken]
      exact .refl (fun _ => .same _) _
    · rw [token_address_of_ne hkind, token_address_of_ne hkind]
      refine .error ?_
      rw [ofAbi_misfit, ofAbi_misfit]
      exact .invalidArgument halike _ _

theorem agree_tokens {args args' : List AbiArgument}
    (h : List.Forall₂ AbiArgument.Restated args args') (method : String) (position : Nat)
    (types : List AbiType) :
    Agree (fun e e' => ClientError.Echoes (.ofAbi e) (.ofAbi e'))
      (Registry.tokens method position types args) (Registry.tokens method position types args') := by
  induction h generalizing position types with
  | nil =>
    cases types with
    | nil => exact .ok []
    | cons t ts => exact .ok []
  | cons harg _ ih =>
    cases types with
    | nil => exact .ok []
    | cons t ts =>
      refine (agree_token harg method position t).bind fun token => ?_
      exact (ih (position + 1) ts).bind fun rest => .ok (token :: rest)

theorem agree_encode {args args' : List AbiArgument}
    (h : List.Forall₂ AbiArgument.Restated args args') (method name : String) :
    Agree ClientError.Echoes (c.encode method name args) (c.encode method name args') := by
  refine .mapError ?_
  refine (Agree.refl (fun _ => .same _) (c.registry.method name method)).bind fun f => ?_
  rw [← h.length_eq]
  split
  · exact .error (.same _)
  · exact (agree_tokens h method 0 f.inputTypes).bind fun ts => .refl (fun _ => .same _) _

end Encode

/-! ## What is asked for -/

section Request

variable {tx tx' : Transaction}

theorem agree_transferRequest (h : tx.Restated tx') :
    Agree ClientError.Echoes (transferRequest tx) (transferRequest tx') := by
  obtain ⟨hsender, hrecipient⟩ := h
  unfold transferRequest
  rw [← sameAddress_restated hsender hrecipient]
  split
  · rcases hsender with rfl | halike
    · exact .error (.same _)
    · exact .error (.selfTransfer halike)
  · refine (Agree.refl .same (positive tx.amount)).bind fun amount => ?_
    refine (agree_readAccount hsender).bind fun owner => ?_
    exact (agree_readAccount hrecipient).bind fun recipient => .ok _

theorem agree_triggerRequest (c : Client) (h : tx.Restated tx') :
    Agree ClientError.Echoes (c.triggerRequest tx) (c.triggerRequest tx') := by
  obtain ⟨hsender, hrecipient⟩ := h
  have hlookup := Agree.refl ClientError.Echoes.same
    ((c.registry.lookupCall tx.data).mapError ClientError.ofAbi)
  refine hlookup.bind fun f => ?_
  refine (agree_readAccount hsender).bind fun owner => ?_
  exact (agree_readAccount hrecipient).bind fun contract => .ok _

theorem agree_delegateRequest {owner owner' receiver receiver' : String}
    (howner : Restated owner owner') (hreceiver : Restated receiver receiver')
    (resource : Resource) (amount : Nat) :
    Agree ClientError.Echoes (delegateRequest owner receiver resource amount)
      (delegateRequest owner' receiver' resource amount) :=
  (agree_readAccount howner).bind fun _ => (agree_readAccount hreceiver).bind fun _ => .ok _

theorem estimateRequest_restated (h : tx.Restated tx') :
    estimateRequest tx = estimateRequest tx' := by
  obtain ⟨hsender, hrecipient⟩ := h
  rw [estimateRequest, estimateRequest, readAddress_restated hsender,
    readAddress_restated hrecipient]

/-- The sender of a dry run may be no address; then it is the empty one in both forms. -/
theorem dryRun_restated (h : tx.Restated tx') : dryRun tx = dryRun tx' := by
  obtain ⟨hsender, hrecipient⟩ := h
  rw [dryRun, dryRun, senderOrEmpty, senderOrEmpty, readAddress_restated hsender,
    readAddress_restated hrecipient]

end Request

/-! ## Calls -/

section Call

variable {tx tx' : Transaction} {s s' t t' : String}

theorem agree_after {α β : Type} {r r' : Except ClientError α}
    (h : Agree ClientError.Echoes r r') (f : α → Exchange ClientError β) :
    (Exchange.ofExcept r >>= f).Agree ClientError.Echoes (Exchange.ofExcept r' >>= f) :=
  (Exchange.agree_ofExcept h).bind fun _ => .refl .same _

theorem agree_draft (c : Client) (h : tx.Restated tx') :
    (c.draft tx).Agree ClientError.Echoes (c.draft tx') := by
  have hdata : tx'.data = tx.data := by
    cases h
    rfl
  unfold draft
  rw [hdata]
  split
  · exact agree_after (agree_transferRequest h) _
  · exact agree_after (agree_triggerRequest c h) _

theorem estimateEnergy_restated (h : tx.Restated tx') :
    estimateEnergy tx = estimateEnergy tx' := by
  have hdata : tx'.data = tx.data := by
    cases h
    rfl
  rw [estimateEnergy, estimateEnergy, estimateRequest_restated h, hdata]

theorem call_restated (h : tx.Restated tx') : call tx = call tx' := by
  rw [call, call, dryRun_restated h]

theorem ask_restated (h : Restated s t) (selector : String) : ask s selector = ask t selector := by
  rw [ask, ask, constantCall, constantCall, readAddress_restated h]

theorem tokenBalance_restated (c : Client) (h : Restated s s') (howner : Restated t t') :
    c.tokenBalance s t = c.tokenBalance s' t' := by
  rw [tokenBalance, tokenBalance, readAddress_restated howner]
  simp only [constantCall, readAddress_restated h]

theorem agree_tokenAllowance (c : Client) {owner owner' : String} (h : Restated s s')
    (howner : Restated owner owner') (hspender : Restated t t') :
    (c.tokenAllowance s owner t).Agree ClientError.Echoes (c.tokenAllowance s' owner' t') := by
  have hargs : List.Forall₂ AbiArgument.Restated [.address owner, .address t]
      [.address owner', .address t'] := .cons (.address howner) (.cons (.address hspender) .nil)
  refine (Exchange.agree_ofExcept (agree_encode hargs _ _)).bind fun data => ?_
  have htx : Transaction.Restated
      { Transaction.blank 0 with sender := owner, recipient := s, data }
      { Transaction.blank 0 with sender := owner', recipient := s', data } := .mk howner h
  rw [call_restated htx]
  exact .refl .same _

end Call

theorem perform_restated (c : Client) {α : Type} {m m' : Method α} (h : m.Restated m')
    (net : Transport) (sent : List Request) :
    ((m.perform c).run net sent).2 = ((m'.perform c).run net sent).2 ∧
      Agree ClientError.Echoes ((m.perform c).run net sent).1 ((m'.perform c).run net sent).1 := by
  suffices hagree : (m.perform c).Agree ClientError.Echoes (m'.perform c) from hagree net sent
  cases h with
  | build h => exact (agree_draft c h).bind fun d => .refl .same _
  | deploy abi bytecode h =>
    obtain ⟨hsender, -⟩ := h
    exact agree_after (agree_readAccount hsender) _
  | stake h resource amount => exact agree_after ((agree_readAccount h).map _) _
  | unstake h resource amount => exact agree_after ((agree_readAccount h).map _) _
  | withdraw h => exact agree_after (agree_readAccount h) _
  | delegate h hreceiver resource amount =>
    exact agree_after (agree_delegateRequest h hreceiver resource amount) _
  | accountResource h =>
    simp only [Method.perform, accountResource, readAddress_restated h]
    exact .refl .same _
  | balance h =>
    simp only [Method.perform, balance, readAddress_restated h]
    exact .refl .same _
  | tokenBalance h howner =>
    simp only [Method.perform, tokenBalance_restated c h howner]
    exact .refl .same _
  | tokenDecimals h =>
    simp only [Method.perform, tokenDecimals, ask_restated h]
    exact .refl .same _
  | tokenSupply h =>
    simp only [Method.perform, tokenSupply, ask_restated h]
    exact .refl .same _
  | tokenSymbol h =>
    simp only [Method.perform, tokenSymbol, ask_restated h]
    exact .refl .same _
  | tokenAllowance h howner hspender => exact agree_tokenAllowance c h howner hspender
  | call h =>
    simp only [Method.perform, call_restated h]
    exact .refl .same _
  | estimateEnergy h =>
    simp only [Method.perform, estimateEnergy_restated h]
    exact .refl .same _
  | suggestFee h =>
    simp only [Method.perform, suggestFee, estimateEnergy_restated h]
    exact .refl .same _
  | transferData h value =>
    exact Exchange.agree_ofExcept (agree_encode (.cons (.address h) (.cons (.same _) .nil)) _ _)
  | approveData h amount =>
    exact Exchange.agree_ofExcept (agree_encode (.cons (.address h) (.cons (.same _) .nil)) _ _)

/-- A delegation between two accounts, each written in two forms. -/
theorem perform_restated_of_forms :
    let m := Method.delegate (Address.base58 ⟨1⟩) (Address.hex ⟨2⟩) .energy 5
    let m' := Method.delegate ("0x" ++ Address.hex ⟨1⟩) (Address.evmHex ⟨2⟩) .energy 5
    m.Restated m' ∧ ∀ (c : Client) (net : Transport),
      ((m.perform c).run net []).2 = ((m'.perform c).run net []).2 ∧
        Agree ClientError.Echoes ((m.perform c).run net []).1 ((m'.perform c).run net []).1 := by
  intro m m'
  have howner : Restated (Address.base58 ⟨1⟩) ("0x" ++ Address.hex ⟨1⟩) :=
    .inr ⟨⟨1⟩, Address.parse_base58 _, Address.parse_of_sameText (.inr (.inl rfl))⟩
  have hreceiver : Restated (Address.hex ⟨2⟩) (Address.evmHex ⟨2⟩) :=
    .inr ⟨⟨2⟩, Address.parse_of_sameText (.inl rfl), Address.parse_of_sameText (.inr (.inr rfl))⟩
  have h : m.Restated m' := .delegate howner hreceiver .energy 5
  exact ⟨h, fun c net => perform_restated c h net []⟩

end Client
end Tronkit
