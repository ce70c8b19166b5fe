import Tronkit.Client.Token
import Tronkit.Proofs.Address
import Tronkit.Proofs.Client.Account
import Tronkit.Proofs.Json.Tree
import Tronkit.Proofs.Node.Inquiry
import Tronkit.Proofs.Number.Quantity

/-!
# Trial runs of a transaction

A transaction is tried out by a call, for its result, or by an estimate, for its energy. The two write
addresses in different forms, but what a node reads in the only request is the same: the parties, the
call data and the amount of the transaction. Nothing is sent if there is no recipient or if the
amount is negative. An estimate needs a sender as well; a call may come from nobody in particular.
-/

namespace Tronkit.Client

open Node Json

inductive Trial
  | result
  | energy

/-- The parameter of a request is read as the transaction, with the empty address for a sender that
is no address. -/
structure IsRunOf (tx : Transaction) (param : Json) : Prop where
  sender : ∃ s, param.member? "from" = some (.string s) ∧
    Address.parse s = .ok ((Address.parse? tx.sender).getD Address.empty)
  recipient : ∃ s a, param.member? "to" = some (.string s) ∧ Address.parse s = .ok a ∧
    Address.parse tx.recipient = .ok a
  data : ∃ s, param.member? "data" = some (.string s) ∧ Quantity.readBytes s = .ok tx.data
  value : ∃ s n, param.member? "value" = some (.string s) ∧ Quantity.readNat s = .ok n ∧
    (n : Int) = tx.amount

def CallsWith (method : String) (tx : Transaction) (request : Request) : Prop :=
  ∃ body v param params, request = .call method body ∧ Json.parse Reader.value body = .ok v ∧
    v.member? "jsonrpc" = some (.string "2.0") ∧ v.member? "id" = some (.natural 2023) ∧
    v.member? "method" = some (.string method) ∧
    v.member? "params" = some (.array (param :: params)) ∧ IsRunOf tx param

namespace Trial

def method : Trial → String
  | result => "eth_call"
  | energy => "eth_estimateGas"

def requests (q : Trial) (tx : Transaction) (net : Transport) (sent : List Request) :
    List Request :=
  match q with
  | result => ((call tx).run net sent).2
  | energy => ((estimateEnergy tx).run net sent).2

structure Admits (q : Trial) (tx : Transaction) : Prop where
  recipient : ∃ a, Address.parse tx.recipient = .ok a
  amount : 0 ≤ tx.amount
  sender : q = energy → ∃ a, Address.parse tx.sender = .ok a

def prepare (tx : Transaction) : Trial → Except ClientError Rpc.DryRun
  | result => dryRun tx
  | energy => estimateRequest tx

def params (r : Rpc.DryRun) : Trial → List Json
  | result => [r.json, Rpc.latest]
  | energy => [r.json]

def request (q : Trial) (r : Rpc.DryRun) : Request :=
  .call q.method (Rpc.callJson q.method (q.params r)).bytes

end Trial

/-! ## Texts of requests -/

theorem legible_json (r : Rpc.DryRun) (depth : Nat) : Legible (depth + 1) r.json := by
  refine .object_of_keys ["from", "to", "data", "value"] (by decide) rfl fun m hm => ?_
  simp only [List.mem_cons, List.not_mem_nil, or_false] at hm
  rcases hm with rfl | rfl | rfl | rfl <;> exact .string depth _

theorem legible_callJson {method : String} {params : List Json} {depth : Nat}
    (h : ∀ v ∈ params, Legible depth v) : Legible (depth + 2) (Rpc.callJson method params) := by
  refine .object_of_keys ["jsonrpc", "method", "params", "id"] (by decide) rfl fun m hm => ?_
  simp only [List.mem_cons, List.not_mem_nil, or_false] at hm
  rcases hm with rfl | rfl | rfl | rfl
  · exact .string _ "2.0"
  · exact .string _ method
  · exact .array h
  · exact .natural _ (by decide)

theorem isRunOf_json {tx : Transaction} {r : Rpc.DryRun} {a : Address}
    (hsender : Address.parse r.sender = .ok ((Address.parse? tx.sender).getD Address.empty))
    (hrecipient : Address.parse r.recipient = .ok a) (ha : Address.parse tx.recipient = .ok a)
    (hdata : r.data = tx.data) (hvalue : (r.value : Int) = tx.amount) : IsRunOf tx r.json where
  sender := ⟨_, rfl, hsender⟩
  recipient := ⟨_, a, rfl, hrecipient, ha⟩
  data := ⟨_, rfl, hdata ▸ Quantity.readBytes_mark_text r.data⟩
  value := ⟨_, r.value, rfl, Quantity.readNat_write r.value, hvalue⟩

theorem parse_prefixedHex (a : Address) : Address.parse (prefixedHex a) = .ok a :=
  Address.parse_of_sameText (.inr (.inl rfl))

theorem senderOrEmpty_eq (s : String) :
    senderOrEmpty s = (Address.parse? s).getD Address.empty := by
  rw [senderOrEmpty, readAddress, Address.parse?]
  cases Address.parse s <;> rfl

namespace Trial

variable {q : Trial} {tx : Transaction} {r : Rpc.DryRun}

theorem callsWith_request (h : IsRunOf tx r.json) : CallsWith q.method tx (q.request r) := by
  obtain ⟨params, hparams, hlatest⟩ :
      ∃ params, q.params r = r.json :: params ∧ ∀ v ∈ params, v = Rpc.latest := by
    cases q with
    | result => exact ⟨[Rpc.latest], rfl, fun v hv => List.mem_singleton.1 hv⟩
    | energy => exact ⟨[], rfl, List.forall_mem_nil _⟩
  have hlegible : ∀ v ∈ r.json :: params, Legible 125 v :=
    List.forall_mem_cons.2 ⟨legible_json r 124, fun v hv => hlatest v hv ▸ .string 125 "latest"⟩
  have hparse : Json.parse Reader.value (Rpc.callJson q.method (r.json :: params)).bytes = .ok _ :=
    (legible_callJson hlegible).parse
  rw [← hparams] at hparse
  refine ⟨_, _, r.json, params, rfl, hparse, rfl, rfl, rfl, ?_, h⟩
  rw [← hparams]
  rfl

/-! ## What is sent -/

theorem exists_prepare (h : q.Admits tx) : ∃ r, q.prepare tx = .ok r ∧ IsRunOf tx r.json := by
  obtain ⟨⟨b, hb⟩, hamount, hsender⟩ := h
  obtain ⟨n, hn⟩ := Int.eq_ofNat_of_zero_le hamount
  have hvalue : tx.amount.toNat? = some n := Int.mem_toNat?.2 hn
  cases q with
  | result =>
    refine ⟨⟨(senderOrEmpty tx.sender).hex, b.hex, tx.data, n⟩, ?_, ?_⟩
    · rw [prepare, dryRun, readAddress_eq_ok_iff.2 hb, ok_bind, hvalue]
      rfl
    · refine isRunOf_json ?_ (Address.parse_hex b) hb rfl hn.symm
      rw [← senderOrEmpty_eq]
      exact Address.parse_hex _
  | energy =>
    obtain ⟨a, ha⟩ := hsender rfl
    refine ⟨⟨prefixedHex a, prefixedHex b, tx.data, n⟩, ?_, ?_⟩
    · rw [prepare, estimateRequest, readAddress_eq_ok_iff.2 ha, ok_bind,
        readAddress_eq_ok_iff.2 hb, ok_bind, hvalue]
      rfl
    · refine isRunOf_json ?_ (parse_prefixedHex b) hb rfl hn.symm
      rw [Address.parse?, ha]
      exact parse_prefixedHex a

theorem admits_of_prepare (h : q.prepare tx = .ok r) : q.Admits tx := by
  have hnonneg : ∀ {n : Nat}, tx.amount.toNat? = some n → 0 ≤ tx.amount := fun hn => by
    rw [Int.mem_toNat?.1 hn]
    exact Int.natCast_nonneg _
  cases q with
  | result =>
    obtain ⟨b, hb, h⟩ := bind_eq_ok_iff.1 h
    split at h
    · rename_i n hn
      exact ⟨⟨b, readAddress_eq_ok_iff.1 hb⟩, hnonneg hn, fun hq => nomatch hq⟩
    · cases h
  | energy =>
    obtain ⟨a, ha, h⟩ := bind_eq_ok_iff.1 h
    obtain ⟨b, hb, h⟩ := bind_eq_ok_iff.1 h
    split at h
    · rename_i n hn
      exact ⟨⟨b, readAddress_eq_ok_iff.1 hb⟩, hnonneg hn,
        fun _ => ⟨a, readAddress_eq_ok_iff.1 ha⟩⟩
    · cases h

theorem requests_eq (hdata : q = energy → tx.data ≠ []) (net : Transport) (sent : List Request) :
    q.requests tx net sent =
      match q.prepare tx with
      | .ok r => sent ++ [q.request r]
      | .error _ => sent := by
  cases q with
  | result =>
    simp only [requests, call, prepare]
    cases dryRun tx with
    | error e => rw [Exchange.run_ofExcept_error_bind rfl]
    | ok r =>
      rw [Exchange.run_ofExcept_ok_bind rfl, ofNode, Exchange.run_mapError, Rpc.execute,
        Rpc.run_callAs]
      rfl
  | energy =>
    simp only [requests, estimateEnergy, if_neg (hdata rfl), prepare]
    cases estimateRequest tx with
    | error e => rw [Exchange.run_ofExcept_error_bind rfl]
    | ok r =>
      have htail : ∀ (n : Nat) (sent : List Request), (Exchange.run (if n < u64Limit then pure n
          else .fail (.invalidResponse ("estimated energy " ++ decimalText n ++ " overflows u64")) :
            Exchange ClientError Nat) net sent).2 = sent := by
        intro n sent
        split <;> rfl
      rw [Exchange.run_ofExcept_ok_bind rfl, Exchange.sent_bind htail, ofNode,
        Exchange.run_mapError, Rpc.estimateGas, Rpc.run_callAs]
      rfl

end Trial

/-- A transaction is told in one request if it can be tried out, and nothing is sent if it cannot. -/
theorem trial_tells_transaction {q : Trial} {tx : Transaction} (hdata : q = .energy → tx.data ≠ [])
    (net : Transport) (sent : List Request) :
    (q.Admits tx → ∃ request, q.requests tx net sent = sent ++ [request] ∧
      CallsWith q.method tx request) ∧
    (¬q.Admits tx → q.requests tx net sent = sent) := by
  rw [Trial.requests_eq hdata]
  constructor
  · intro h
    obtain ⟨r, hr, hrun⟩ := Trial.exists_prepare h
    rw [hr]
    exact ⟨_, rfl, Trial.callsWith_request hrun⟩
  · intro h
    cases hr : q.prepare tx with
    | ok r => exact absurd (Trial.admits_of_prepare hr) h
    | error e => rfl

/-- An estimate for two addresses in different forms, by a node that does not answer. -/
theorem trial_tells_transaction_of_estimate :
    let tx : Transaction := { Transaction.blank 0 with
      sender := (⟨1⟩ : Address).hex, recipient := (⟨2⟩ : Address).base58, amount := 5,
      data := [0xA9] }
    (Trial.energy = .energy → tx.data ≠ []) ∧ Trial.energy.Admits tx ∧
      ∃ request, ((estimateEnergy tx).run (Script.mk []).transport []).2 = [request] ∧
        CallsWith "eth_estimateGas" tx request := by
  intro tx
  have hdata : Trial.energy = .energy → tx.data ≠ [] := fun _ => List.cons_ne_nil _ _
  have hadmits : Trial.energy.Admits tx :=
    ⟨⟨⟨2⟩, Address.parse_base58 _⟩, by decide, fun _ => ⟨⟨1⟩, Address.parse_hex _⟩⟩
  exact ⟨hdata, hadmits, (trial_tells_transaction hdata _ []).1 hadmits⟩

end Tronkit.Client
