import Tronkit.Proofs.Client.Account
import Tronkit.Proofs.Client.Operation
import Tronkit.Proofs.Client.Restated
import Tronkit.Proofs.Node.Request

/-!
# Native transfers

A transaction without call data is one question to the node, which denotes the two accounts and
the amount that the caller gave. It is asked only if there is something to move between two
accounts. Otherwise nothing is sent, and the first thing that is wrong is told: one party on both
sides, then an amount that cannot be moved, then a text that names no account.
-/

namespace Tronkit.Client

open Node
open Address (Alike)

/-- The body asks for the transfer of a transaction: of its amount, from one of its accounts to the
other. -/
def IsTransfer (tx : Transaction) (body : Bytes) : Prop :=
  ∃ owner recipient : Address, ∃ amount : Nat,
    IsAccount tx.sender owner ∧ IsAccount tx.recipient recipient ∧ owner ≠ recipient ∧
    0 < amount ∧ tx.amount = amount ∧
    TransferRequest.StandsIn
      { owner := owner.base58, recipient := recipient.base58, amount, visible := true } body

theorem positive_eq_ok_iff {amount : Int} {n : Nat} :
    positive amount = .ok n ↔ 0 < n ∧ amount = n := by
  unfold positive
  split
  · rename_i hpos
    rw [Except.ok.injEq]
    omega
  · rename_i hpos
    constructor
    · intro h
      cases h
    · rintro ⟨hn, rfl⟩
      omega

theorem sameAddress_of_parse {s t : String} {a b : Address} (hs : Address.parse s = .ok a)
    (ht : Address.parse t = .ok b) : sameAddress s t = decide (a = b) := by
  unfold sameAddress
  rw [hs, ht]

theorem positive_of_nonpos {amount : Int} (h : amount ≤ 0) :
    positive amount = .error (.nonPositiveAmount (integerText amount)) := if_neg (Int.not_lt.2 h)

def Movable (tx : Transaction) : Prop :=
  (∃ owner recipient, IsAccount tx.sender owner ∧ IsAccount tx.recipient recipient ∧
    owner ≠ recipient) ∧ 0 < tx.amount

def BothRead (s t : String) : Prop := (∃ a, Address.parse s = .ok a) ∧ ∃ b, Address.parse t = .ok b

/-- Two texts of one address, or the same text twice if it is none. -/
def OneParty (s t : String) : Prop := Alike s t ∨ ¬BothRead s t ∧ s = t

theorem oneParty_iff {s t : String} : OneParty s t ↔ Restated s t := by
  constructor
  · rintro (halike | ⟨-, hsame⟩)
    · exact .inr halike
    · exact .inl hsame
  · rintro (rfl | halike)
    · by_cases hread : BothRead s s
      · obtain ⟨⟨a, ha⟩, -⟩ := hread
        exact .inl ⟨a, ha, ha⟩
      · exact .inr ⟨hread, rfl⟩
    · exact .inl halike

section Request

variable {tx : Transaction}

theorem transferRequest_eq_ok_iff {r : TransferRequest} :
    transferRequest tx = .ok r ↔
      ∃ owner recipient : Address, ∃ amount : Nat,
        IsAccount tx.sender owner ∧ IsAccount tx.recipient recipient ∧ owner ≠ recipient ∧
        0 < amount ∧ tx.amount = amount ∧
        r = { owner := owner.base58, recipient := recipient.base58, amount, visible := true } := by
  unfold transferRequest
  constructor
  · intro h
    split at h
    · cases h
    · rename_i hdiffer
      obtain ⟨amount, hamount, h⟩ := bind_eq_ok_iff.1 h
      obtain ⟨owner, howner, h⟩ := bind_eq_ok_iff.1 h
      obtain ⟨recipient, hrecipient, h⟩ := bind_eq_ok_iff.1 h
      rw [readAccount_eq_ok_iff] at howner hrecipient
      rw [sameAddress_of_parse howner.1 hrecipient.1, decide_eq_true_iff] at hdiffer
      obtain ⟨hpos, hamount⟩ := positive_eq_ok_iff.1 hamount
      exact ⟨owner, recipient, amount, howner, hrecipient, hdiffer, hpos, hamount,
        (Except.ok.inj h).symm⟩
  · rintro ⟨owner, recipient, amount, howner, hrecipient, hdiffer, hpos, hamount, rfl⟩
    have hsame : ¬sameAddress tx.sender tx.recipient = true := by
      rwa [sameAddress_of_parse howner.1 hrecipient.1, decide_eq_true_iff]
    rw [if_neg hsame, positive_eq_ok_iff.2 ⟨hpos, hamount⟩, readAccount_eq_ok_iff.2 howner,
      readAccount_eq_ok_iff.2 hrecipient]
    rfl

theorem isTransfer_render {r : TransferRequest} (h : transferRequest tx = .ok r) :
    IsTransfer tx (Utf8.encode r.render) := by
  obtain ⟨owner, recipient, amount, howner, hrecipient, hdiffer, hpos, hamount, rfl⟩ :=
    transferRequest_eq_ok_iff.1 h
  exact ⟨owner, recipient, amount, howner, hrecipient, hdiffer, hpos, hamount,
    TransferRequest.standsIn_render _⟩

theorem transferRequest_of_oneParty (h : OneParty tx.sender tx.recipient) :
    transferRequest tx = .error (.selfTransfer tx.sender) :=
  if_pos (sameAddress_iff.2 (oneParty_iff.1 h))

theorem transferRequest_of_nonpos (hparties : ¬OneParty tx.sender tx.recipient)
    (hamount : tx.amount ≤ 0) :
    transferRequest tx = .error (.nonPositiveAmount (integerText tx.amount)) := by
  have hdiffer : ¬sameAddress tx.sender tx.recipient = true := fun h =>
    hparties (oneParty_iff.2 (sameAddress_iff.1 h))
  rw [transferRequest, if_neg hdiffer, positive_of_nonpos hamount]
  rfl

theorem transferRequest_of_pos (hparties : ¬OneParty tx.sender tx.recipient) {amount : Nat}
    (hpos : 0 < amount) (hamount : tx.amount = amount) :
    transferRequest tx = (do
      let owner ← readAccount tx.sender
      let recipient ← readAccount tx.recipient
      pure { owner := owner.base58, recipient := recipient.base58, amount, visible := true }) := by
  have hdiffer : ¬sameAddress tx.sender tx.recipient = true := fun h =>
    hparties (oneParty_iff.2 (sameAddress_iff.1 h))
  rw [transferRequest, if_neg hdiffer, positive_eq_ok_iff.2 ⟨hpos, hamount⟩]
  rfl

theorem not_oneParty_of_accounts {s t : String} {a b : Address} (hs : IsAccount s a)
    (ht : IsAccount t b) (hdiffer : a ≠ b) : ¬OneParty s t := by
  rintro (⟨x, hsx, htx⟩ | ⟨hread, -⟩)
  · have hxa : a = x := Except.ok.inj (hs.1.symm.trans hsx)
    have hxb : b = x := Except.ok.inj (ht.1.symm.trans htx)
    exact hdiffer (hxa.trans hxb.symm)
  · exact hread ⟨⟨a, hs.1⟩, b, ht.1⟩

theorem movable_of_accounts {owner recipient : Address}
    (hparties : ¬OneParty tx.sender tx.recipient) (howner : IsAccount tx.sender owner)
    (hrecipient : IsAccount tx.recipient recipient) (hpos : 0 < tx.amount) : Movable tx := by
  refine ⟨⟨owner, recipient, howner, hrecipient, ?_⟩, hpos⟩
  rintro rfl
  exact hparties (.inl ⟨owner, howner.1, hrecipient.1⟩)

theorem transferRequest_of_not_movable (hparties : ¬OneParty tx.sender tx.recipient)
    (hpos : 0 < tx.amount) (h : ¬Movable tx) :
    ∃ reason, transferRequest tx = .error (.addressInvalid reason) := by
  obtain ⟨amount, hamount⟩ := Int.eq_ofNat_of_zero_le (Int.le_of_lt hpos)
  rw [transferRequest_of_pos hparties (show 0 < amount by omega) hamount]
  by_cases hsender : ∃ a, IsAccount tx.sender a
  · obtain ⟨owner, howner⟩ := hsender
    have hrecipient : ¬∃ a, IsAccount tx.recipient a := by
      rintro ⟨recipient, hrecipient⟩
      exact h (movable_of_accounts hparties howner hrecipient hpos)
    obtain ⟨reason, hreason⟩ := readAccount_of_not_account hrecipient
    refine ⟨reason, ?_⟩
    rw [readAccount_eq_ok_iff.2 howner, hreason]
    rfl
  · obtain ⟨reason, hreason⟩ := readAccount_of_not_account hsender
    refine ⟨reason, ?_⟩
    rw [hreason]
    rfl

theorem transferRequest_of_movable (h : Movable tx) :
    ∃ r, transferRequest tx = .ok r ∧ IsTransfer tx (Utf8.encode r.render) := by
  obtain ⟨⟨owner, recipient, howner, hrecipient, hdiffer⟩, hpos⟩ := h
  obtain ⟨amount, hamount⟩ := Int.eq_ofNat_of_zero_le (Int.le_of_lt hpos)
  have hr := transferRequest_eq_ok_iff.2
    ⟨owner, recipient, amount, howner, hrecipient, hdiffer, by omega, hamount, rfl⟩
  exact ⟨_, hr, isTransfer_render hr⟩

theorem transferRequest_cases (tx : Transaction) :
    (OneParty tx.sender tx.recipient ∧ ¬Movable tx ∧
      transferRequest tx = .error (.selfTransfer tx.sender)) ∨
    (¬OneParty tx.sender tx.recipient ∧ tx.amount ≤ 0 ∧ ¬Movable tx ∧
      transferRequest tx = .error (.nonPositiveAmount (integerText tx.amount))) ∨
    (¬OneParty tx.sender tx.recipient ∧ 0 < tx.amount ∧ ¬Movable tx ∧
      ∃ reason, transferRequest tx = .error (.addressInvalid reason)) ∨
    (¬OneParty tx.sender tx.recipient ∧ 0 < tx.amount ∧ Movable tx ∧
      ∃ r, transferRequest tx = .ok r ∧ IsTransfer tx (Utf8.encode r.render)) := by
  by_cases hparties : OneParty tx.sender tx.recipient
  · refine .inl ⟨hparties, ?_, transferRequest_of_oneParty hparties⟩
    rintro ⟨⟨owner, recipient, howner, hrecipient, hdiffer⟩, -⟩
    exact not_oneParty_of_accounts howner hrecipient hdiffer hparties
  by_cases hamount : tx.amount ≤ 0
  · have hstill : ¬Movable tx := fun h => Int.not_lt.2 hamount h.2
    exact .inr (.inl ⟨hparties, hamount, hstill, transferRequest_of_nonpos hparties hamount⟩)
  have hpos : 0 < tx.amount := Int.not_le.1 hamount
  by_cases hmovable : Movable tx
  · exact .inr (.inr (.inr ⟨hparties, hpos, hmovable, transferRequest_of_movable hmovable⟩))
  · exact .inr (.inr (.inl ⟨hparties, hpos, hmovable,
      transferRequest_of_not_movable hparties hpos hmovable⟩))

end Request

section Run

variable {c : Client} {tx : Transaction} {net : Transport} {sent : List Request}

theorem run_build_of_transfer_error {e : ClientError} (hdata : tx.data = [])
    (h : transferRequest tx = .error e) : (c.build tx).run net sent = (.error e, sent) := by
  rw [run_build, draft, if_pos hdata, Exchange.run_ofExcept_error_bind h, error_bind]

theorem sent_build_of_transfer {r : TransferRequest} (hdata : tx.data = [])
    (h : transferRequest tx = .ok r) :
    ((c.build tx).run net sent).2 =
      sent ++ [.post .wallet "wallet/createtransaction" (Utf8.encode r.render)] := by
  rw [run_build, draft, if_pos hdata, Exchange.run_ofExcept_ok_bind h, ofNode,
    Exchange.run_mapError, Wallet.createTransaction, Wallet.draft, Wallet.run_post]

variable {sent' : List Request} {outcome : Except ClientError UnsignedTransaction}

/-- A transfer is asked for if it can be, and it is refused for the first thing that is wrong. -/
theorem build_transfer (hdata : tx.data = [])
    (hrun : (c.build tx).run net sent = (outcome, sent')) :
    (sent' ≠ sent ↔ Movable tx) ∧
    (Movable tx → ∃ body,
      sent' = sent ++ [.post .wallet "wallet/createtransaction" body] ∧ IsTransfer tx body) ∧
    (OneParty tx.sender tx.recipient → outcome = .error (.selfTransfer tx.sender)) ∧
    (¬OneParty tx.sender tx.recipient → tx.amount ≤ 0 →
      outcome = .error (.nonPositiveAmount (integerText tx.amount))) ∧
    (¬OneParty tx.sender tx.recipient → 0 < tx.amount → ¬Movable tx →
      ∃ reason, outcome = .error (.addressInvalid reason)) := by
  rcases transferRequest_cases tx with ⟨hone, hstill, hrequest⟩ |
    ⟨hparties, hamount, hstill, hrequest⟩ | ⟨hparties, hpos, hstill, reason, hrequest⟩ |
    ⟨hparties, hpos, hmovable, r, hrequest, htransfer⟩
  · rw [run_build_of_transfer_error hdata hrequest] at hrun
    obtain ⟨hout, hsent⟩ := Prod.mk.inj hrun.symm
    exact ⟨⟨fun hne => absurd hsent hne, fun h => absurd h hstill⟩, fun h => absurd h hstill,
      fun _ => hout, fun h => absurd hone h, fun h => absurd hone h⟩
  · rw [run_build_of_transfer_error hdata hrequest] at hrun
    obtain ⟨hout, hsent⟩ := Prod.mk.inj hrun.symm
    exact ⟨⟨fun hne => absurd hsent hne, fun h => absurd h hstill⟩, fun h => absurd h hstill,
      fun h => absurd h hparties, fun _ _ => hout, fun _ hpos => absurd hpos (Int.not_lt.2 hamount)⟩
  · rw [run_build_of_transfer_error hdata hrequest] at hrun
    obtain ⟨hout, hsent⟩ := Prod.mk.inj hrun.symm
    exact ⟨⟨fun hne => absurd hsent hne, fun h => absurd h hstill⟩, fun h => absurd h hstill,
      fun h => absurd h hparties, fun _ hamount => absurd hpos (Int.not_lt.2 hamount),
      fun _ _ _ => ⟨reason, hout⟩⟩
  · have hsent :
        sent' = sent ++ [.post .wallet "wallet/createtransaction" (Utf8.encode r.render)] :=
      (congrArg Prod.snd hrun).symm.trans (sent_build_of_transfer hdata hrequest)
    have hne : sent' ≠ sent := by
      rw [hsent]
      simp
    exact ⟨⟨fun _ => hmovable, fun _ => hne⟩, fun _ => ⟨_, hsent, htransfer⟩,
      fun h => absurd h hparties, fun _ hamount => absurd hpos (Int.not_lt.2 hamount),
      fun _ _ h => absurd hmovable h⟩

end Run

/-- An amount beyond every machine word is asked for, between accounts in two forms. -/
theorem build_transfer_of_accounts :
    let tx : Transaction :=
      { sender := Address.evmHex ⟨1⟩, recipient := Address.base58 ⟨2⟩,
        amount := 1000000000000000000000000000000, data := [], fee := none, chainId := 1 }
    tx.data = [] ∧ ∀ net, ∃ body, ((Client.standard 1).build tx).run net [] =
      ((((Client.standard 1).build tx).run net []).1,
        [.post .wallet "wallet/createtransaction" body]) ∧ IsTransfer tx body := by
  intro tx
  refine ⟨rfl, fun net => ?_⟩
  have hsender : IsAccount tx.sender ⟨1⟩ :=
    ⟨Address.parse_of_sameText (.inr (.inr rfl)), by decide⟩
  have hrecipient : IsAccount tx.recipient ⟨2⟩ := ⟨Address.parse_base58 _, by decide⟩
  have hmovable : Movable tx := ⟨⟨_, _, hsender, hrecipient, by decide⟩, by decide⟩
  rcases hrun : ((Client.standard 1).build tx).run net [] with ⟨outcome, sent⟩
  obtain ⟨-, hasked, -⟩ := build_transfer rfl hrun
  obtain ⟨body, hsent, htransfer⟩ := hasked hmovable
  exact ⟨body, Prod.ext rfl hsent, htransfer⟩

end Tronkit.Client
