import Tronkit.Proofs.Json.Written
import Tronkit.Proofs.Node.Wallet

/-!
# Reports on a transaction

The node is asked for the receipt and for the detail of a transaction by its hash, and the event
index for its events. Each of these questions is one request, and it comes to a result exactly if
the answer is a success that can be read.
-/

namespace Tronkit.Node

open Json

def Answers {α : Type} (net : Transport) (earlier : List Request) (request : Request)
    (r : Reader α) (a : α) : Prop :=
  ∃ response, net.reply earlier request = .ok response ∧ Status.isSuccess response.status ∧
    Json.parse r response.body = .ok a

structure NamesHash (hash : String) (body : Bytes) : Prop where
  whole : Passes none body []
  keys : keys? body = some ["value"]
  value : Reader.string.field? 0 (fieldAt? "value" 0 body) = some (some hash)

def naming (hash : String) : Bytes := Utf8.encode (hashRequest hash)

theorem namesHash_naming (hash : String) : NamesHash hash (naming hash) := by
  have hwritten : ∀ m ∈ [("value", Render.string hash)], Written m.2 := by simp
  have hvalue : Standing (some (Render.string hash)) _ := standing_object hwritten "value" 0
  exact ⟨passes_object hwritten, keys?_object hwritten, hvalue.field?_some (reads_string _ _)⟩

namespace Wallet

variable {α : Type} {net : Transport} {sent sent' : List Request}

theorem run_readBody_eq_ok_iff {what path : String} {request : Request} {r : Reader α} {a : α} :
    (ask what request >>= fun body => .ofExcept (readBody path r body)).run net sent =
        (.ok a, sent') ↔
      Answers net sent request r a ∧ sent' = sent ++ [request] := by
  rw [Exchange.run_bind_ofExcept, run_ask, Prod.mk.injEq, bind_eq_ok_iff, eq_comm (b := sent')]
  constructor
  · rintro ⟨⟨body, hbody, hread⟩, hsent⟩
    obtain ⟨response, hreply, hstatus, rfl⟩ := bodyOf_eq_ok_iff.1 hbody
    exact ⟨⟨response, hreply, hstatus, readBody_eq_ok_iff.1 hread⟩, hsent⟩
  · rintro ⟨⟨response, hreply, hstatus, hread⟩, hsent⟩
    exact ⟨⟨response.body, bodyOf_eq_ok_iff.2 ⟨response, hreply, hstatus, rfl⟩,
      readBody_eq_ok_iff.2 hread⟩, hsent⟩

def receiptRequest (body : Bytes) : Request := .post .wallet "wallet/gettransactioninfobyid" body

def detailRequest (body : Bytes) : Request := .post .wallet "wallet/gettransactionbyid" body

def eventsRequest (hash : String) : Request :=
  .get .events ("v1/transactions/" ++ hash ++ "/events")

variable {hash : String}

theorem run_receipt_eq_ok_iff {r : Receipt} :
    (receipt hash).run net sent = (.ok r, sent') ↔
      Answers net sent (receiptRequest (naming hash)) Receipt.record.reader r ∧
        sent' = sent ++ [receiptRequest (naming hash)] := run_readBody_eq_ok_iff

theorem run_detail_eq_ok_iff {d : Detail} :
    (detail hash).run net sent = (.ok d, sent') ↔
      Answers net sent (detailRequest (naming hash)) Detail.record.reader d ∧
        sent' = sent ++ [detailRequest (naming hash)] := run_readBody_eq_ok_iff

theorem run_events_eq_ok_iff {es : Events} :
    (events hash).run net sent = (.ok es, sent') ↔
      Answers net sent (eventsRequest hash) Events.record.reader es ∧
        sent' = sent ++ [eventsRequest hash] := run_readBody_eq_ok_iff

end Wallet

open Wallet (receiptRequest detailRequest)

structure Reports (net : Transport) (earlier : List Request) (body : Bytes) (receipt : Receipt)
    (detail : Detail) : Prop where
  receipt : Answers net earlier (receiptRequest body) Receipt.record.reader receipt
  detail : Answers net (earlier ++ [receiptRequest body]) (detailRequest body)
    Detail.record.reader detail

theorem reports_iff {net : Transport} {earlier : List Request} {body : Bytes} {r : Receipt}
    {d : Detail} :
    Reports net earlier body r d ↔
      Answers net earlier (receiptRequest body) Receipt.record.reader r ∧
        Answers net (earlier ++ [receiptRequest body]) (detailRequest body) Detail.record.reader d :=
  ⟨fun h => ⟨h.receipt, h.detail⟩, fun h => ⟨h.1, h.2⟩⟩

/-! ## A steady reporter -/

def reporter (receipt detail events : Bytes) : Transport where
  reply _ request := .ok ⟨200, match request.service with
    | .events => events
    | _ => if request.path = "wallet/gettransactionbyid" then detail else receipt⟩

variable {told told' told'' : Bytes} {earlier : List Request}

theorem reports_reporter {body : Bytes} {r : Receipt} {d : Detail}
    (hr : Json.parse Receipt.record.reader told = .ok r)
    (hd : Json.parse Detail.record.reader told' = .ok d) :
    Reports (reporter told told' told'') earlier body r d where
  receipt := ⟨_, rfl, rfl, hr⟩
  detail := ⟨_, rfl, rfl, hd⟩

theorem answers_reporter {hash : String} {es : Events}
    (h : Json.parse Events.record.reader told'' = .ok es) :
    Answers (reporter told told' told'') earlier (Wallet.eventsRequest hash)
      Events.record.reader es := ⟨_, rfl, rfl, h⟩

end Tronkit.Node
