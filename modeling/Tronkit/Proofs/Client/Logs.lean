import Tronkit.Proofs.Client.Resolve
import Tronkit.Proofs.Event.Positional
import Tronkit.Proofs.Node.Event

/-!
# Logs of a resolved transaction

The record of an executed transaction has one log for each event of the index, in the order of the
index. A log keeps the results of its event as an object, and they are read back from it by their
positions.
-/

namespace Tronkit.Client

open Node
open TokenEvent (IsPositional)
open Wallet (detailRequest eventsRequest receiptRequest)

/-- The log stands for the event; the results of the event are read back from it if they are
texts. -/
structure Carries (e : Event) (log : EventLog) : Prop where
  address : log.address = e.contractAddress
  topics : log.topics = [textBytes e.name]
  results : (∀ m ∈ e.result, ∃ s, m.2 = .string s) →
    ∃ values, eventResults log = .ok values ∧ IsPositional e.result values

theorem carries_logOf {e : Event} (h : e.HasKeys) : Carries e (logOf e) where
  address := rfl
  topics := rfl
  results htexts := by
    obtain ⟨texts, hresult⟩ := Json.exists_texts htexts
    rw [Event.HasKeys, hresult, Json.keys_ofTexts] at h
    obtain ⟨values, hvalues, hpositional⟩ :=
      TokenEvent.positionalResults_of_parse (TokenEvent.parse_bytes h)
    refine ⟨values, ?_, hresult ▸ hpositional⟩
    rw [eventResults, logOf, hresult, hvalues]
    rfl

theorem carries_logsOf {es : Events} (h : ∀ e ∈ es.data.filterMap id, e.HasKeys) :
    List.Forall₂ Carries (es.data.filterMap id) (logsOf es) := by
  rw [logsOf, List.forall₂_map_right_iff, List.forall₂_same]
  exact fun e he => carries_logOf (h e he)

section Logs

variable {c : Client} {hash : String} {net : Transport} {sent sent' : List Request}
  {r : TransactionInfo}

/-- The logs of an executed transaction carry the events of the index, one by one. -/
theorem resolve_logs (hrun : (c.resolve hash).run net sent = (.ok r, sent'))
    (hexecuted : Executed r) :
    ∃ bare body events, BareOf hash bare ∧ NamesHash bare body ∧
      Answers net (sent ++ [receiptRequest body, detailRequest body]) (eventsRequest bare)
        Events.record.reader events ∧
      List.Forall₂ Carries (events.data.filterMap id) r.logs := by
  obtain ⟨receipt, detail, -, hfinish⟩ := (run_resolve_eq_ok_iff rfl).1 hrun
  have hsound := (summarizes c receipt detail).sound
  cases hsummary : c.summary receipt detail with
  | complete info =>
    rw [hsummary] at hfinish hsound
    obtain ⟨rfl, -⟩ := hfinish
    exact absurd hexecuted hsound.2
  | awaitingEvents info =>
    rw [hsummary] at hfinish
    obtain ⟨events, hevents, rfl, -⟩ := hfinish
    exact ⟨_, _, events, bareOf_strip hash, namesHash_naming _, hevents,
      carries_logsOf (Events.hasKeys_of_answers hevents)⟩

/-- A transfer with one event behind an empty one; the third result has no place in the order. -/
theorem resolve_logs_of_transfer :
    ∃ net r sent', ((Client.standard 1).resolve "0Xab").run net [] = (.ok r, sent') ∧
      Executed r ∧
      ∃ bare body events, BareOf "0Xab" bare ∧ NamesHash bare body ∧
        Answers net [receiptRequest body, detailRequest body] (eventsRequest bare)
          Events.record.reader events ∧
        List.Forall₂ Carries (events.data.filterMap id) r.logs := by
  let net := reporter (textBytes "\x7b\x7d")
    (textBytes "\x7b\"ret\":[\x7b\"contractRet\":\"REVERT\"\x7d]," ++
      textBytes "\"raw_data\":\x7b\"contract\":[\x7b\"parameter\":" ++
      textBytes "\x7b\"value\":\x7b\x7d\x7d\x7d]\x7d\x7d")
    (textBytes "\x7b\"data\":[null,\x7b\"event_name\":\"Burn\"," ++
      textBytes "\"result\":\x7b\"1\":\"b\",\"3\":\"d\",\"0\":\"\"\x7d\x7d]\x7d")
  let receipt : Receipt := ⟨"", none, none, none, none⟩
  let contract : Contract := { kind := "", parameter := ⟨[], ""⟩ }
  let detail : Detail := ⟨"", some ⟨[contract], none, none⟩, ["REVERT"]⟩
  let event : Event := ⟨0, 0, "", "Burn", "", [("1", .string "b"), ("3", .string "d"),
    ("0", .string "")]⟩
  have hreports : Reports net [] (naming (Quantity.strip "0Xab")) receipt detail :=
    reports_reporter (by decide) (by decide)
  have hevents : Json.parse Events.record.reader
      (textBytes "\x7b\"data\":[null,\x7b\"event_name\":\"Burn\"," ++
        textBytes "\"result\":\x7b\"1\":\"b\",\"3\":\"d\",\"0\":\"\"\x7d\x7d]\x7d") =
      .ok ⟨[none, some event], false⟩ := by
    decide +kernel
  have hrun : ((Client.standard 1).resolve "0Xab").run net [] = (.ok _, _) :=
    run_resolve_of_awaiting rfl hreports rfl (answers_reporter hevents)
  have hstatus : statusOf "REVERT" = .failed := by decide +kernel
  exact ⟨net, _, _, hrun, .inr hstatus, resolve_logs hrun (.inr hstatus)⟩

end Logs

end Tronkit.Client
