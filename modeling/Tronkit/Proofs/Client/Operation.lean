import Tronkit.Client.Build
import Tronkit.Proofs.Node.Message
import Tronkit.Proofs.Node.Wallet

/-!
# Operations that make a transaction

Each of them asks the node one question and seals the transaction that the answer holds. The
answers have different forms; what the transaction is in each of them is said by the places of its
fields.
-/

namespace Tronkit.Client

open Json Node
open Record.Semantics (placesIn)

theorem run_build (c : Client) (tx : Transaction) (net : Transport) (sent : List Request) :
    (c.build tx).run net sent =
      (((c.draft tx).run net sent).1 >>= sealDraft, ((c.draft tx).run net sent).2) :=
  Exchange.run_bind_ofExcept _ _

inductive Operation
  | build (tx : Transaction)
  | deploy (abi bytecode : String) (tx : Transaction)
  | stake (owner : String) (resource : Resource) (amount : Nat)
  | unstake (owner : String) (resource : Resource) (amount : Nat)
  | withdraw (owner : String)
  | delegate (owner receiver : String) (resource : Resource) (amount : Nat)

namespace Operation

def perform (c : Client) : Operation → Exchange ClientError UnsignedTransaction
  | build tx => c.build tx
  | deploy abi bytecode tx => Prod.fst <$> Client.deploy abi bytecode tx
  | stake owner resource amount => Client.stake owner resource amount
  | unstake owner resource amount => Client.unstake owner resource amount
  | withdraw owner => Client.withdraw owner
  | delegate owner receiver resource amount => Client.delegate owner receiver resource amount

/-- The answer to the operation holds the transaction: as a whole, or as a field of the answer to a
contract call. The answer to a deployment holds its fields, and always some contract address. -/
def Gives (op : Operation) (body : Bytes) (d : Draft) : Prop :=
  match op with
  | build tx =>
    if tx.data = [] then d.IsAt body
    else ∃ place, fieldAt? "transaction" 1 body = some place ∧ d.IsAt place
  | deploy _ _ _ =>
    d.StandsAt (placesIn DeployAnswer.record body) ∧
      (Reader.string.field? 0 (placesIn DeployAnswer.record body "contract_address")).map
        (fun address => some (address.getD "")) = some d.contractAddress
  | _ => d.IsAt body

theorem asks_ofNode {α : Type} {x : Exchange NodeError α} {means : Bytes → α → Prop}
    (h : x.Asks means) : (ofNode x).Asks means := h.mapError ClientError.ofNode

theorem asks_sealed_draft (path : String) (body : List Char) :
    (ofNode (Wallet.draft path body) >>= fun d => .ofExcept (sealDraft d)).Asks fun answer u =>
      ∃ d, (d.IsAt answer ∧ d.RawKept) ∧ sealDraft d = .ok u := by
  refine Exchange.Asks.before (asks_ofNode ?_) sealDraft
  exact (Wallet.asks_draft path body).mono fun _ _ h => Draft.isAt_of_parse h.2

theorem asks_build (c : Client) (tx : Transaction) :
    (c.build tx).Asks fun answer u =>
      ∃ d, ((build tx).Gives answer d ∧ d.RawKept) ∧ sealDraft d = .ok u := by
  refine Exchange.Asks.before ?_ sealDraft
  unfold draft Gives
  by_cases hdata : tx.data = []
  · rw [if_pos hdata]
    refine Exchange.Asks.after fun r _ => ?_
    refine (asks_ofNode (Wallet.asks_draft _ _)).mono fun answer d h => ?_
    simp only [if_pos hdata]
    exact Draft.isAt_of_parse h.2
  · rw [if_neg hdata]
    refine Exchange.Asks.after fun r _ => ?_
    refine (asks_ofNode (Wallet.asks_trigger r)).mono fun answer d h => ?_
    obtain ⟨-, a, hparse, htransaction⟩ := h
    obtain ⟨place, hplace, hisAt, hkept⟩ := TriggerAnswer.isAt_of_parse hparse htransaction
    simp only [if_neg hdata]
    exact ⟨⟨place, hplace, hisAt⟩, hkept⟩

theorem fst_deploy (abi bytecode : String) (tx : Transaction) :
    Prod.fst <$> Client.deploy abi bytecode tx = (do
      let owner ← .ofExcept (readAccount tx.sender)
      let a ← ofNode (Wallet.deploy (deployRequest owner abi bytecode))
      .ofExcept (sealDraft (deployed a))) := by
  simp only [Client.deploy, map_bind, map_pure, bind_pure]

theorem asks_deploy (abi bytecode : String) (tx : Transaction) :
    (Prod.fst <$> Client.deploy abi bytecode tx).Asks fun answer u =>
      ∃ d, ((deploy abi bytecode tx).Gives answer d ∧ d.RawKept) ∧ sealDraft d = .ok u := by
  rw [fst_deploy]
  refine Exchange.Asks.after fun owner _ => ?_
  have hasks := asks_ofNode (Wallet.asks_deploy (deployRequest owner abi bytecode))
  refine (hasks.before fun a => sealDraft (deployed a)).mono fun answer u h => ?_
  obtain ⟨a, ⟨-, hparse⟩, hseal⟩ := h
  obtain ⟨hstands, haddress, hkept⟩ := DeployAnswer.standsAt_of_parse (d := deployed a) hparse rfl
    rfl rfl rfl
  refine ⟨deployed a, ⟨⟨hstands, ?_⟩, hkept⟩, hseal⟩
  obtain ⟨address, hfield, haddress⟩ := Option.map_eq_some_iff.1 haddress
  rw [hfield, Option.map_some, haddress]
  rfl

/-- Every operation seals the transaction that its answer holds. -/
theorem asks_perform (c : Client) (op : Operation) :
    (op.perform c).Asks fun answer u =>
      ∃ d, (op.Gives answer d ∧ d.RawKept) ∧ sealDraft d = .ok u := by
  cases op with
  | build tx => exact asks_build c tx
  | deploy abi bytecode tx => exact asks_deploy abi bytecode tx
  | stake owner resource amount => exact .after fun _ _ => asks_sealed_draft _ _
  | unstake owner resource amount => exact .after fun _ _ => asks_sealed_draft _ _
  | withdraw owner => exact .after fun _ _ => asks_sealed_draft _ _
  | delegate owner receiver resource amount => exact .after fun _ _ => asks_sealed_draft _ _

end Operation

end Tronkit.Client
