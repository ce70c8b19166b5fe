import Tronkit.Proofs.Address
import Tronkit.Proofs.Client.Account
import Tronkit.Proofs.Client.Operation
import Tronkit.Proofs.Client.Transfer
import Tronkit.Proofs.Json.Natural

/-!
# Parties of an operation

Every operation that makes a transaction takes the texts of one or two accounts and sends at most
one request. The request names these accounts under their keys and no others, so no account in it
is the empty address. Where a text stands for the empty address, in any of its forms, nothing is
sent.
-/

namespace Tronkit

open Json

namespace Exchange

variable {ε δ α β : Type} {P : Request → Prop}

def SendsOnly (P : Request → Prop) (x : Exchange ε α) : Prop :=
  ∀ net sent, (x.run net sent).2 = sent ∨ ∃ r, (x.run net sent).2 = sent ++ [r] ∧ P r

def Sends (x : Exchange ε α) : Prop := ∀ net sent, (x.run net sent).2 ≠ sent

namespace SendsOnly

theorem after {r : Except ε α} {k : α → Exchange ε β} (h : ∀ a, r = .ok a → (k a).SendsOnly P) :
    (ofExcept r >>= k).SendsOnly P := by
  intro net sent
  cases hr : r with
  | error e =>
    rw [run_ofExcept_error_bind rfl]
    exact .inl rfl
  | ok a =>
    rw [run_ofExcept_ok_bind rfl]
    exact h a hr net sent

theorem before {x : Exchange ε α} (h : x.SendsOnly P) (f : α → Except ε β) :
    (x >>= fun a => ofExcept (f a)).SendsOnly P := by
  intro net sent
  rw [run_bind_ofExcept]
  exact h net sent

theorem mapError {x : Exchange ε α} (h : x.SendsOnly P) (f : ε → δ) :
    (x.mapError f).SendsOnly P := h

end SendsOnly

namespace Sends

theorem after {r : Except ε α} {a : α} (hr : r = .ok a) {k : α → Exchange ε β}
    (h : (k a).Sends) : (ofExcept r >>= k).Sends := by
  intro net sent
  rw [run_ofExcept_ok_bind hr]
  exact h net sent

theorem before {x : Exchange ε α} (h : x.Sends) (f : α → Except ε β) :
    (x >>= fun a => ofExcept (f a)).Sends := by
  intro net sent
  rw [run_bind_ofExcept]
  exact h net sent

theorem mapError {x : Exchange ε α} (h : x.Sends) (f : ε → δ) : (x.mapError f).Sends := h

end Sends
end Exchange

section Post

variable {β : Type} {path : String} {body : List Char}

theorem Node.Wallet.sendsOnly_post {P : Request → Prop}
    (h : P (.post .wallet path (Utf8.encode body))) (f : Bytes → Except NodeError β) :
    (post path body >>= fun b => Exchange.ofExcept (f b)).SendsOnly P := by
  intro net sent
  rw [run_post]
  exact .inr ⟨_, rfl, h⟩

theorem Node.Wallet.sends_post (f : Bytes → Except NodeError β) :
    (post path body >>= fun b => Exchange.ofExcept (f b)).Sends := by
  intro net sent
  rw [run_post]
  simp

end Post

namespace Client

open Node

/-! ## The accounts that a request names -/

def accountKeys : List String :=
  ["owner_address", "to_address", "contract_address", "receiver_address"]

/-- The body names the accounts that the texts of the roles stand for, each under the key of its
role, and no other key of an account is there. -/
structure NamesAccounts (roles : List (String × String)) (body : Bytes) : Prop where
  whole : Passes none body []
  named : ∀ role ∈ roles, ∃ a text, IsAccount role.2 a ∧ IsAccount text a ∧
    ∀ index, Reader.string.field? 0 (fieldAt? role.1 index body) = some (some text)
  only : ∀ key ∈ accountKeys, ∀ index place, fieldAt? key index body = some place →
    key ∈ roles.map Prod.fst

structure Party where
  key : String
  given : String
  written : String

namespace Party

def role (p : Party) : String × String := (p.key, p.given)

def member (p : Party) : String × List Char := (p.key, Render.string p.written)

def Sound (p : Party) : Prop := ∃ a, IsAccount p.given a ∧ IsAccount p.written a

end Party

theorem isAccount_base58 {s : String} {a : Address} (h : IsAccount s a) : IsAccount a.base58 a :=
  ⟨Address.parse_base58 a, h.2⟩

theorem isAccount_hex {s : String} {a : Address} (h : IsAccount s a) : IsAccount a.hex a :=
  ⟨a.parse_hex, h.2⟩

theorem namesAccounts_object (parties : List Party) {rest : List (String × List Char)}
    (hkeys : (parties.map Party.key).Nodup) (hparties : ∀ p ∈ parties, p.Sound)
    (hrest : ∀ m ∈ rest, Written m.2 ∧ m.1 ∉ accountKeys) :
    NamesAccounts (parties.map Party.role)
      (Utf8.encode (Render.object (parties.map Party.member ++ rest))) := by
  have hwritten : ∀ m ∈ parties.map Party.member ++ rest, Written m.2 := by
    intro m hm
    rcases List.mem_append.1 hm with hm | hm
    · obtain ⟨p, -, rfl⟩ := List.mem_map.1 hm
      exact written_string p.written
    · exact (hrest m hm).1
  refine ⟨passes_object hwritten, ?named, ?only⟩
  case named =>
    intro role hrole
    obtain ⟨p, hp, rfl⟩ := List.mem_map.1 hrole
    obtain ⟨a, hgiven, hsent⟩ := hparties p hp
    refine ⟨a, p.written, hgiven, hsent, fun index => ?_⟩
    have hnodup : ((parties.map Party.member).map Prod.fst).Nodup := by
      rw [List.map_map]
      exact hkeys
    have hlookup : (parties.map Party.member ++ rest).lookup p.key =
        some (Render.string p.written) := by
      have hfirst := (Keyed.lookup_eq_some_iff_mem hnodup).2 (List.mem_map_of_mem hp)
      rw [List.lookup_append, hfirst, Option.some_or]
    have hplace := standing_object hwritten p.key index
    rw [hlookup] at hplace
    exact hplace.field?_some (reads_string _ _)
  case only =>
    -- A key of no party is one of the rest, where no key of an account is.
    intro key hkey index place hplace
    by_contra hother
    have hnone : (parties.map Party.member ++ rest).lookup key = none := by
      rw [List.lookup_eq_none_iff]
      intro m hm
      rw [bne_iff_ne]
      rintro rfl
      rcases List.mem_append.1 hm with hm | hm
      · obtain ⟨p, hp, rfl⟩ := List.mem_map.1 hm
        exact hother (List.mem_map.2 ⟨p.role, List.mem_map_of_mem hp, rfl⟩)
      · exact (hrest m hm).2 hkey
    have hstanding := standing_object hwritten key index
    rw [hnone, hplace] at hstanding
    cases hstanding

section Bodies

variable {s t : String} {a b : Address} {rest : List (String × List Char)}

theorem namesAccounts_owner {text : String} (hs : IsAccount s a) (htext : IsAccount text a)
    (hrest : ∀ m ∈ rest, Written m.2 ∧ m.1 ∉ accountKeys) :
    NamesAccounts [("owner_address", s)]
      (Utf8.encode (Render.object (("owner_address", Render.string text) :: rest))) := by
  refine namesAccounts_object [⟨"owner_address", s, text⟩] ?_ ?_ hrest
  · simp
  · intro p hp
    obtain rfl := List.mem_singleton.1 hp
    exact ⟨a, hs, htext⟩

theorem namesAccounts_pair {key text text' : String} (hkey : "owner_address" ≠ key)
    (hs : IsAccount s a) (htext : IsAccount text a) (ht : IsAccount t b)
    (htext' : IsAccount text' b) (hrest : ∀ m ∈ rest, Written m.2 ∧ m.1 ∉ accountKeys) :
    NamesAccounts [("owner_address", s), (key, t)]
      (Utf8.encode (Render.object
        (("owner_address", Render.string text) :: (key, Render.string text') :: rest))) := by
  refine namesAccounts_object [⟨"owner_address", s, text⟩, ⟨key, t, text'⟩] ?_ ?_ hrest
  · simpa using hkey
  · intro p hp
    rcases List.mem_pair.1 hp with rfl | rfl
    · exact ⟨a, hs, htext⟩
    · exact ⟨b, ht, htext'⟩

theorem written_resource (r : Resource) : Written r.render := written_string r.name

end Bodies

/-! ## The requests of the operations -/

namespace Operation

def roles : Operation → List (String × String)
  | build tx =>
    [("owner_address", tx.sender),
      (if tx.data = [] then "to_address" else "contract_address", tx.recipient)]
  | deploy _ _ tx => [("owner_address", tx.sender)]
  | stake owner _ _ => [("owner_address", owner)]
  | unstake owner _ _ => [("owner_address", owner)]
  | withdraw owner => [("owner_address", owner)]
  | delegate owner receiver _ _ => [("owner_address", owner), ("receiver_address", receiver)]

def Names (roles : List (String × String)) (request : Request) : Prop :=
  ∃ path body, request = .post .wallet path body ∧ NamesAccounts roles body

theorem sendsOnly_ofNode {β : Type} {roles : List (String × String)} {path : String}
    {body : List Char} (h : NamesAccounts roles (Utf8.encode body))
    (f : Bytes → Except NodeError β) :
    (ofNode (Wallet.post path body >>= fun b => Exchange.ofExcept (f b))).SendsOnly
      (Names roles) :=
  (Wallet.sendsOnly_post ⟨path, _, rfl, h⟩ f).mapError _

theorem sendsOnly_transfer (c : Client) {tx : Transaction} (hdata : tx.data = []) :
    (c.build tx).SendsOnly (Names (build tx).roles) := by
  refine Exchange.SendsOnly.before ?_ _
  rw [draft, if_pos hdata]
  refine .after fun r hr => sendsOnly_ofNode ?_ _
  obtain ⟨owner, recipient, amount, howner, hrecipient, -, -, -, rfl⟩ :=
    transferRequest_eq_ok_iff.1 hr
  rw [roles, if_pos hdata]
  exact namesAccounts_pair (by decide) howner (isAccount_base58 howner) hrecipient
    (isAccount_base58 hrecipient) (by simp [accountKeys])

theorem sendsOnly_call (c : Client) {tx : Transaction} (hdata : tx.data ≠ []) :
    (c.build tx).SendsOnly (Names (build tx).roles) := by
  refine Exchange.SendsOnly.before ?_ _
  rw [draft, if_neg hdata]
  refine .after fun r hr => sendsOnly_ofNode ?_ _
  obtain ⟨f, -, hr⟩ := bind_eq_ok_iff.1 hr
  obtain ⟨owner, howner, hr⟩ := bind_eq_ok_iff.1 hr
  obtain ⟨contract, hcontract, hr⟩ := bind_eq_ok_iff.1 hr
  obtain rfl := Except.ok.inj hr
  rw [readAccount_eq_ok_iff] at howner hcontract
  rw [roles, if_neg hdata, TriggerRequest.render]
  exact namesAccounts_pair (by decide) howner (isAccount_base58 howner) hcontract
    (isAccount_base58 hcontract) (by simp [accountKeys, Render.optional])

theorem sendsOnly_deploy (abi bytecode : String) (tx : Transaction) :
    (Prod.fst <$> Client.deploy abi bytecode tx).SendsOnly
      (Names (deploy abi bytecode tx).roles) := by
  rw [fst_deploy]
  refine .after fun owner howner => (sendsOnly_ofNode ?_ _).before _
  rw [readAccount_eq_ok_iff] at howner
  rw [DeployRequest.render, deployRequest]
  exact namesAccounts_owner howner (isAccount_hex howner) (by simp [accountKeys])

theorem stakeRequest_eq_ok_iff {owner : String} {resource : Resource} {amount : Nat}
    {r : StakeRequest} : stakeRequest owner resource amount = .ok r ↔
      ∃ a : Address, IsAccount owner a ∧ { owner := a.hex, amount, resource } = r := by
  rw [stakeRequest, except_map_eq_ok_iff]
  simp only [readAccount_eq_ok_iff]

theorem sendsOnly_delegate (owner receiver : String) (resource : Resource) (amount : Nat) :
    (Client.delegate owner receiver resource amount).SendsOnly
      (Names (delegate owner receiver resource amount).roles) := by
  refine .after fun r hr => (sendsOnly_ofNode ?_ _).before _
  obtain ⟨a, ha, hr⟩ := bind_eq_ok_iff.1 hr
  obtain ⟨b, hb, hr⟩ := bind_eq_ok_iff.1 hr
  obtain rfl := Except.ok.inj hr
  rw [readAccount_eq_ok_iff] at ha hb
  exact namesAccounts_pair (by decide) ha (isAccount_hex ha) hb (isAccount_hex hb)
    (by simp [accountKeys, written_resource])

/-- Whatever the network answers, the accounts of the operation are all that is ever named. -/
theorem sendsOnly_perform (c : Client) (op : Operation) :
    (op.perform c).SendsOnly (Names op.roles) := by
  cases op with
  | build tx =>
    by_cases hdata : tx.data = []
    · exact sendsOnly_transfer c hdata
    · exact sendsOnly_call c hdata
  | deploy abi bytecode tx => exact sendsOnly_deploy abi bytecode tx
  | stake owner resource amount =>
    refine .after fun r hr => (sendsOnly_ofNode ?_ _).before _
    obtain ⟨a, ha, rfl⟩ := stakeRequest_eq_ok_iff.1 hr
    exact namesAccounts_owner ha (isAccount_hex ha) (by simp [accountKeys, written_resource])
  | unstake owner resource amount =>
    refine .after fun r hr => (sendsOnly_ofNode ?_ _).before _
    obtain ⟨a, ha, rfl⟩ := stakeRequest_eq_ok_iff.1 hr
    exact namesAccounts_owner ha (isAccount_hex ha) (by simp [accountKeys, written_resource])
  | withdraw owner =>
    refine .after fun a ha => (sendsOnly_ofNode ?_ _).before _
    rw [readAccount_eq_ok_iff] at ha
    exact namesAccounts_owner ha (isAccount_hex ha) (by simp)
  | delegate owner receiver resource amount =>
    exact sendsOnly_delegate owner receiver resource amount

theorem sends_ofNode {β : Type} {path : String} {body : List Char}
    (f : Bytes → Except NodeError β) :
    (ofNode (Wallet.post path body >>= fun b => Exchange.ofExcept (f b))).Sends :=
  (Wallet.sends_post f).mapError _

/-- Besides the accounts a deployment or a stake has nothing that could be refused. -/
theorem sends_perform (c : Client) {op : Operation} (hop : ∀ tx, op ≠ build tx)
    (h : ∀ role ∈ op.roles, ∃ a, IsAccount role.2 a) : (op.perform c).Sends := by
  cases op with
  | build tx => exact absurd rfl (hop tx)
  | deploy abi bytecode tx =>
    obtain ⟨a, ha⟩ := h _ (.head _)
    rw [perform, fst_deploy]
    exact .after (readAccount_eq_ok_iff.2 ha) ((sends_ofNode _).before _)
  | stake owner resource amount =>
    obtain ⟨a, ha⟩ := h _ (.head _)
    exact .after (stakeRequest_eq_ok_iff.2 ⟨a, ha, rfl⟩) ((sends_ofNode _).before _)
  | unstake owner resource amount =>
    obtain ⟨a, ha⟩ := h _ (.head _)
    exact .after (stakeRequest_eq_ok_iff.2 ⟨a, ha, rfl⟩) ((sends_ofNode _).before _)
  | withdraw owner =>
    obtain ⟨a, ha⟩ := h _ (.head _)
    exact .after (readAccount_eq_ok_iff.2 ha) ((sends_ofNode _).before _)
  | delegate owner receiver resource amount =>
    obtain ⟨a, ha⟩ := h _ (.head _)
    obtain ⟨b, hb⟩ := h _ (.tail _ (.head _))
    have hrequest : delegateRequest owner receiver resource amount =
        .ok { owner := a.hex, receiver := b.hex, amount, resource } := by
      rw [delegateRequest, readAccount_eq_ok_iff.2 ha, readAccount_eq_ok_iff.2 hb]
      rfl
    exact .after hrequest ((sends_ofNode _).before _)

/-- A request of an operation names accounts alone, so none under the empty address; and where a
text that is given for an account stands for the empty address, the operation fails and sends
nothing. Between accounts, only the building of a transfer or a call may still be refused. -/
theorem perform_names_accounts (c : Client) (op : Operation) (net : Transport)
    (sent : List Request) :
    (((op.perform c).run net sent).2 = sent ∨ ∃ path body,
      ((op.perform c).run net sent).2 = sent ++ [.post .wallet path body] ∧
        NamesAccounts op.roles body) ∧
      ((∃ role ∈ op.roles, Address.parse role.2 = .ok Address.empty) →
        ∃ e, (op.perform c).run net sent = (.error e, sent)) ∧
      ((∀ tx, op ≠ build tx) → (∀ role ∈ op.roles, ∃ a, IsAccount role.2 a) →
        ((op.perform c).run net sent).2 ≠ sent) := by
  rw [← and_assoc]
  refine ⟨?_, fun hop h => sends_perform c hop h net sent⟩
  obtain hnothing | ⟨request, hsent, path, body, rfl, hnames⟩ := sendsOnly_perform c op net sent
  · refine ⟨.inl hnothing, fun _ => ?_⟩
    rcases hrun : (op.perform c).run net sent with ⟨outcome, sent'⟩
    rw [hrun] at hnothing
    subst hnothing
    cases outcome with
    | error e => exact ⟨e, rfl⟩
    | ok u =>
      -- A result is always the answer to a request.
      obtain ⟨request, response, hsent, -⟩ := asks_perform c op hrun
      simp at hsent
  · refine ⟨.inr ⟨path, body, hsent, hnames⟩, ?_⟩
    rintro ⟨role, hrole, hempty⟩
    obtain ⟨a, text, ⟨hparse, hne⟩, -⟩ := hnames.named role hrole
    rw [hempty] at hparse
    exact absurd (Except.ok.inj hparse).symm hne

theorem perform_names_accounts_of_delegate :
    let c : Client := ⟨.empty, 1⟩
    let op receiver := Operation.delegate (Address.base58 ⟨1⟩) receiver .energy 5
    ∀ net,
      (∃ path body,
        (((op (Address.evmHex ⟨2⟩)).perform c).run net []).2 = [.post .wallet path body] ∧
          NamesAccounts (op (Address.evmHex ⟨2⟩)).roles body) ∧
      ∃ e, ((op Address.empty.evmHex).perform c).run net [] = (.error e, []) := by
  intro c op net
  constructor
  · obtain ⟨hnames, -, hsends⟩ := perform_names_accounts c (op (Address.evmHex ⟨2⟩)) net []
    have haccounts : ∀ role ∈ (op (Address.evmHex ⟨2⟩)).roles, ∃ a, IsAccount role.2 a := by
      intro role hrole
      rcases List.mem_pair.1 hrole with rfl | rfl
      · exact ⟨⟨1⟩, Address.parse_base58 _, by decide⟩
      · exact ⟨⟨2⟩, Address.parse_of_sameText (.inr (.inr rfl)), by decide⟩
    have hsent := hsends (fun tx h => by cases h) haccounts
    obtain hnothing | hone := hnames
    · exact absurd hnothing hsent
    · exact hone
  · obtain ⟨-, hrefused, -⟩ := perform_names_accounts c (op Address.empty.evmHex) net []
    exact hrefused ⟨("receiver_address", Address.empty.evmHex), .tail _ (.head _),
      Address.parse_of_sameText (.inr (.inr rfl))⟩

end Operation

end Client
end Tronkit
