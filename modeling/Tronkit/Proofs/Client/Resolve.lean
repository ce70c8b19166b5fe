import Tronkit.Proofs.Client.Summary
import Tronkit.Proofs.Node.Report

/-!
# Resolved transactions

A transaction is resolved in two questions, and in a third one for its events if it was executed.
The record is consistent with the answers, whatever they are.
-/

namespace Tronkit.Client

open Node
open Wallet (detailRequest eventsRequest receiptRequest)

def BareOf (s bare : String) : Prop :=
  s = "0x" ++ bare ∨ s = "0X" ++ bare ∨
    (∀ rest, s ≠ "0x" ++ rest ∧ s ≠ "0X" ++ rest) ∧ bare = s

theorem bareOf_strip (s : String) : BareOf s (Quantity.strip s) := by
  unfold Quantity.strip
  generalize hcs : s.toList = cs
  obtain rfl : s = String.ofList cs := by rw [← hcs, String.ofList_toList]
  fun_cases Quantity.stripMark cs with
  | case1 rest => exact .inl (by simp [String.ext_iff])
  | case2 rest => exact .inr (.inl (by simp [String.ext_iff]))
  | case3 _ hlower hupper =>
    refine .inr (.inr ⟨fun rest => ⟨?_, ?_⟩, rfl⟩)
    · intro h
      exact hlower rest.toList (by simpa [String.ext_iff] using h)
    · intro h
      exact hupper rest.toList (by simpa [String.ext_iff] using h)

section Run

variable {c : Client} {hash : String} {net : Transport} {sent sent' : List Request}
  {r : TransactionInfo}

theorem run_ofNode_eq_ok_iff {α : Type} {x : Exchange NodeError α} {a : α} :
    (ofNode x).run net sent = (.ok a, sent') ↔ x.run net sent = (.ok a, sent') := by
  rw [ofNode, Exchange.run_mapError, Prod.mk.injEq, except_mapError_eq_ok_iff, ← Prod.mk.injEq]

def finish (hash : String) : Summary → Exchange ClientError TransactionInfo
  | .complete info => pure info
  | .awaitingEvents info => do
    let events ← ofNode (Wallet.events hash)
    pure { info with logs := logsOf events }

theorem resolve_eq (c : Client) (hash : String) :
    c.resolve hash = (do
      let receipt ← ofNode (Wallet.receipt (Quantity.strip hash))
      let detail ← ofNode (Wallet.detail (Quantity.strip hash))
      finish (Quantity.strip hash) (c.summary receipt detail)) := rfl

def Finishes (net : Transport) (hash : String) (asked : List Request) (r : TransactionInfo)
    (sent' : List Request) : Summary → Prop
  | .complete info => r = info ∧ sent' = asked
  | .awaitingEvents info =>
    ∃ events, Answers net asked (eventsRequest hash) Events.record.reader events ∧
      r = { info with logs := logsOf events } ∧ sent' = asked ++ [eventsRequest hash]

theorem Finishes.eq_info {bare : String} {asked : List Request} {s : Summary}
    (h : Finishes net bare asked r sent' s) : ∃ logs, r = { s.info with logs } := by
  cases s with
  | complete info =>
    obtain ⟨rfl, -⟩ := h
    exact ⟨r.logs, rfl⟩
  | awaitingEvents info =>
    obtain ⟨events, -, rfl, -⟩ := h
    exact ⟨logsOf events, rfl⟩

theorem run_finish_eq_ok_iff {bare : String} {s : Summary} :
    (finish bare s).run net sent = (.ok r, sent') ↔ Finishes net bare sent r sent' s := by
  cases s with
  | complete info => simp [finish, Finishes, eq_comm]
  | awaitingEvents info =>
    simp only [finish, Exchange.run_bind_eq_ok_iff, run_ofNode_eq_ok_iff,
      Wallet.run_events_eq_ok_iff]
    simp [Finishes, eq_comm]

theorem run_resolve_eq_ok_iff {bare : String} (hbare : Quantity.strip hash = bare) :
    (c.resolve hash).run net sent = (.ok r, sent') ↔
      ∃ receipt detail, Reports net sent (naming bare) receipt detail ∧
        Finishes net bare (sent ++ [receiptRequest (naming bare), detailRequest (naming bare)])
          r sent' (c.summary receipt detail) := by
  subst hbare
  -- Each question leaves one equation for its answer and one for what has been sent since.
  simp only [resolve_eq, Exchange.run_bind_eq_ok_iff, run_ofNode_eq_ok_iff,
    Wallet.run_receipt_eq_ok_iff, Wallet.run_detail_eq_ok_iff, run_finish_eq_ok_iff]
  simp [reports_iff, and_assoc]

theorem run_resolve_of_awaiting {receipt : Receipt} {detail : Detail} {info : TransactionInfo}
    {events : Events} {bare : String} (hbare : Quantity.strip hash = bare)
    (hreports : Reports net sent (naming bare) receipt detail)
    (hsummary : c.summary receipt detail = .awaitingEvents info)
    (hevents : Answers net (sent ++ [receiptRequest (naming bare), detailRequest (naming bare)])
      (eventsRequest bare) Events.record.reader events) :
    (c.resolve hash).run net sent = (.ok { info with logs := logsOf events },
      sent ++ [receiptRequest (naming bare), detailRequest (naming bare)] ++
        [eventsRequest bare]) := by
  refine (run_resolve_eq_ok_iff hbare).2 ⟨receipt, detail, hreports, ?_⟩
  rw [hsummary]
  exact ⟨events, hevents, rfl, rfl⟩

/-- What is said to be pending: that which is in no block, and that which is unknown, even if it is
in a block. -/
theorem resolve_isPending_iff (hrun : (c.resolve hash).run net sent = (.ok r, sent')) :
    ∃ bare body receipt detail, BareOf hash bare ∧ NamesHash bare body ∧
      Reports net sent body receipt detail ∧
      (r.isPending = true ↔
        receipt.blockNumber = none ∨ detail.rawData = none ∨ detail.returnCodes = []) := by
  obtain ⟨receipt, detail, hreports, hfinish⟩ := (run_resolve_eq_ok_iff rfl).1 hrun
  refine ⟨_, _, receipt, detail, bareOf_strip hash, namesHash_naming _, hreports, ?_⟩
  obtain ⟨logs, rfl⟩ := hfinish.eq_info
  exact (summarizes c receipt detail).isPending_iff

/-- What is known and in a block is not pending, though it is invalid. -/
theorem resolve_isPending_of_known :
    ∃ net r sent', ((Client.standard 1).resolve "ab").run net [] = (.ok r, sent') ∧
      r.isPending = false ∧
      ∃ bare body receipt detail, BareOf "ab" bare ∧ NamesHash bare body ∧
        Reports net [] body receipt detail ∧
        (r.isPending = true ↔
          receipt.blockNumber = none ∨ detail.rawData = none ∨ detail.returnCodes = []) := by
  let receipt : Receipt :=
    { id := "", fee := none, blockNumber := some 5, blockTimestamp := none, result := none }
  let detail : Detail := ⟨"", some ⟨[], none, none⟩, [""]⟩
  let net := reporter (textBytes "\x7b\"blockNumber\":5\x7d")
    (textBytes "\x7b\"ret\":[\x7b\x7d],\"raw_data\":\x7b\x7d\x7d") []
  have hreports : Reports net [] (naming (Quantity.strip "ab")) receipt detail :=
    reports_reporter (by decide) (by decide)
  have hrun : ((Client.standard 1).resolve "ab").run net [] = (.ok _, _) :=
    (run_resolve_eq_ok_iff rfl).2 ⟨receipt, detail, hreports, rfl, rfl⟩
  exact ⟨net, _, _, hrun, rfl, resolve_isPending_iff hrun⟩

/-- A transaction that the node reports in a block is said to be pending, since its detail is
empty. -/
theorem pending_in_block :
    ∃ net receipt detail r sent',
      Reports net [] (naming (Quantity.strip "ab")) receipt detail ∧
      receipt.blockNumber = some 5 ∧
      ((Client.standard 1).resolve "ab").run net [] = (.ok r, sent') ∧ r.isPending = true := by
  let receipt : Receipt :=
    { id := "", fee := none, blockNumber := some 5, blockTimestamp := none, result := none }
  let net := reporter (textBytes "\x7b\"blockNumber\":5\x7d") (textBytes "\x7b\x7d") []
  have hreports : Reports net [] (naming (Quantity.strip "ab")) receipt ⟨"", none, []⟩ :=
    reports_reporter (by decide) (by decide)
  exact ⟨net, receipt, ⟨"", none, []⟩, _, _, hreports, rfl,
    (run_resolve_eq_ok_iff rfl).2 ⟨_, _, hreports, rfl, rfl⟩, rfl⟩

end Run

end Tronkit.Client
