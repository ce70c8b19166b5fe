import Tronkit.Proofs.Client.Resolve

/-!
# Malformed call data

Two details may differ in the call data of their first contracts alone. If one of them has call data
that can be read and the other has not, both transactions are resolved. The records agree in all that
is known without the data, and only the malformed one is invalid, for which no events are asked.
-/

namespace Tronkit.Client

open Node
open Wallet (detailRequest eventsRequest receiptRequest)

/-- There is no call data, or it is a string of pairs of hexadecimal digits. -/
def WellFormed (value : Members) : Prop :=
  value.lookup "data" = none ∨ ∃ v data, value.lookup "data" = some v ∧ IsHexOf v data

/-- The details agree in everything but the call data among the values of their first contracts. -/
structure AgreeButData (detail detail' : Detail) (value value' : Members) : Prop where
  txId : detail.txId = detail'.txId
  codes : detail.returnCodes = detail'.returnCodes
  raw : ∃ kind typeUrl more feeLimit expiration,
    detail.rawData = some ⟨⟨kind, ⟨value, typeUrl⟩⟩ :: more, feeLimit, expiration⟩ ∧
      detail'.rawData = some ⟨⟨kind, ⟨value', typeUrl⟩⟩ :: more, feeLimit, expiration⟩
  others : ∀ key ≠ "data", value.lookup key = value'.lookup key

structure AgreeButOutcome (r r' : TransactionInfo) : Prop where
  sender : r.tx.sender = r'.tx.sender
  recipient : r.tx.recipient = r'.tx.recipient
  amount : r.tx.amount = r'.tx.amount
  fee : r.tx.fee = r'.tx.fee
  chainId : r.tx.chainId = r'.tx.chainId
  isPending : r.isPending = r'.isPending
  gas : r.gas = r'.gas

section CallData

variable {value value' : Members} {info : TransactionInfo} {data : Bytes} {fault : RecordFault}

theorem exists_callData (h : WellFormed value) : ∃ data, callData value = .ok data := by
  rcases h with hnone | ⟨v, data, hv, hhex⟩
  · exact ⟨[], callData_of_none hnone⟩
  · exact ⟨data, callData_of_isHexOf hv hhex⟩

theorem callData_fault (h : callData value = .error fault) :
    fault = if ((value.lookup "data").bind Json.asString?).isSome then .callDataNotHex
      else .callDataNotText := by
  unfold callData at h
  split at h
  · cases h
  · rename_i s hdata
    obtain ⟨_, -, rfl⟩ := except_mapError_eq_error_iff.1 h
    rw [hdata]
    rfl
  · rename_i v hstring hdata
    obtain rfl := Except.error.inj h
    rw [hdata]
    cases v with
    | string s => exact absurd rfl (hstring s)
    | _ => rfl

theorem textMember_congr {key : String} (h : value.lookup key = value'.lookup key) :
    textMember key value = textMember key value' := by
  rw [textMember, h, textMember]

theorem withParties_congr (h : ∀ key ≠ "data", value.lookup key = value'.lookup key) :
    withParties info value = withParties info value' := by
  have hdestination : destination value = destination value' := by
    rw [destination, textMember_congr (h "to_address" (by decide)),
      textMember_congr (h "contract_address" (by decide)), destination]
  have hamount : amountMember value = amountMember value' := by
    rw [amountMember, h "amount" (by decide), h "call_value" (by decide), amountMember]
  rw [withParties, textMember_congr (h "owner_address" (by decide)), hdestination, hamount,
    withParties]

theorem agreeButOutcome (info : TransactionInfo) (data : Bytes) (logs : List EventLog)
    (fault : RecordFault) :
    AgreeButOutcome { withData info data with logs } (faulted info fault) :=
  ⟨rfl, rfl, rfl, rfl, rfl, rfl, rfl⟩

variable {c : Client} {hash : String} {net net' : Transport} {sent : List Request}
  {receipt : Receipt} {detail detail' : Detail} {events : Events}

theorem run_resolve_of_complete {bare : String} (hbare : Quantity.strip hash = bare)
    (hreports : Reports net sent (naming bare) receipt detail)
    (hsummary : c.summary receipt detail = .complete info) :
    (c.resolve hash).run net sent =
      (.ok info, sent ++ [receiptRequest (naming bare), detailRequest (naming bare)]) := by
  refine (run_resolve_eq_ok_iff hbare).2 ⟨receipt, detail, hreports, ?_⟩
  rw [hsummary]
  exact ⟨rfl, rfl⟩

/-- Malformed call data spoils nothing else in a record. -/
theorem resolve_spares_rest
    (hreports : Reports net sent (naming (Quantity.strip hash)) receipt detail)
    (hreports' : Reports net' sent (naming (Quantity.strip hash)) receipt detail')
    (hevents : Answers net
      (sent ++ [receiptRequest (naming (Quantity.strip hash)),
        detailRequest (naming (Quantity.strip hash))])
      (eventsRequest (Quantity.strip hash)) Events.record.reader events)
    (hcodes : detail.returnCodes ≠ []) (hagree : AgreeButData detail detail' value value')
    (hvalue : WellFormed value) (hvalue' : Malformed value') :
    let asked := [receiptRequest (naming (Quantity.strip hash)),
      detailRequest (naming (Quantity.strip hash))]
    ∃ r r', (c.resolve hash).run net sent =
        (.ok r, sent ++ asked ++ [eventsRequest (Quantity.strip hash)]) ∧
      (c.resolve hash).run net' sent = (.ok r', sent ++ asked) ∧ AgreeButOutcome r r' ∧
      r'.status = .invalid ∧
      r'.error = some (if ((value'.lookup "data").bind Json.asString?).isSome then
        "call_data_decode_failed" else "call_data_is_not_string") ∧
      r'.tx.data = [] ∧ r'.logs = [] := by
  intro asked
  obtain ⟨-, hsame, ⟨kind, typeUrl, more, feeLimit, expiration, hraw, hraw'⟩, hothers⟩ := hagree
  obtain ⟨code, codes, hcode⟩ := List.exists_cons_of_ne_nil hcodes
  have hshows : Shows detail _ code := ⟨hraw, by rw [hcode]; rfl⟩
  have hshows' : Shows detail' _ code := ⟨hraw', by rw [← hsame, hcode]; rfl⟩
  obtain ⟨data, hdata⟩ := exists_callData hvalue
  obtain ⟨fault, hfault⟩ := malformed_iff.1 hvalue'
  have hsummary : c.summary receipt detail = withContract (basis c receipt code) value :=
    summary_of_contract hshows rfl
  have hsummary' : c.summary receipt detail' = withContract (basis c receipt code) value' :=
    summary_of_contract hshows' rfl
  rw [withContract_of_data hdata] at hsummary
  rw [withContract_of_fault hfault, ← withParties_congr hothers] at hsummary'
  refine ⟨_, _, run_resolve_of_awaiting rfl hreports hsummary hevents,
    run_resolve_of_complete rfl hreports' hsummary', agreeButOutcome _ data _ fault, rfl, ?_, rfl,
    rfl⟩
  rw [faulted, callData_fault hfault]
  split <;> rfl

end CallData

/-- A call whose data is hexadecimal, and the same call with a mark before the digits, which may not
stand there. -/
theorem resolve_spares_rest_of_call :
    let body := naming (Quantity.strip "ab")
    ∃ net net' r r', ((Client.standard 1).resolve "ab").run net [] =
        (.ok r, [receiptRequest body, detailRequest body, eventsRequest "ab"]) ∧
      ((Client.standard 1).resolve "ab").run net' [] =
        (.ok r', [receiptRequest body, detailRequest body]) ∧ AgreeButOutcome r r' ∧
      r'.status = .invalid ∧ r'.error = some "call_data_decode_failed" := by
  intro body
  let value (data : String) : Members := [("call_value", .integer 5), ("data", .string data)]
  let detail (data : String) : Detail :=
    ⟨"", some ⟨[⟨"", ⟨value data, ""⟩⟩], none, none⟩, ["SUCCESS"]⟩
  let told (data : String) : Bytes := textBytes "\x7b\"ret\":[\x7b\"contractRet\":\"SUCCESS\"\x7d]," ++
    textBytes "\"raw_data\":\x7b\"contract\":[\x7b\"parameter\":\x7b\"value\":" ++
    textBytes "\x7b\"call_value\":5,\"data\":\"" ++ textBytes data ++
    textBytes "\"\x7d\x7d\x7d]\x7d\x7d"
  let net (data : String) : Transport :=
    reporter (textBytes "\x7b\"fee\":7\x7d") (told data) (textBytes "\x7b\x7d")
  let receipt : Receipt := ⟨"", some 7, none, none, none⟩
  have hread : Json.parse Detail.record.reader (told "0a") = .ok (detail "0a") := by
    decide +kernel
  have hread' : Json.parse Detail.record.reader (told "0x0a") = .ok (detail "0x0a") := by
    decide +kernel
  have hreports : Reports (net "0a") [] body receipt (detail "0a") :=
    reports_reporter (by decide) hread
  have hreports' : Reports (net "0x0a") [] body receipt (detail "0x0a") :=
    reports_reporter (by decide) hread'
  have hnone : Json.parse Events.record.reader (textBytes "\x7b\x7d") = .ok ⟨[], false⟩ := by
    decide
  have hagree : AgreeButData (detail "0a") (detail "0x0a") (value "0a") (value "0x0a") := by
    refine ⟨rfl, rfl, ⟨"", "", [], none, none, rfl, rfl⟩, fun key hkey => ?_⟩
    have hbeq : (key == "data") = false := beq_false_of_ne hkey
    simp only [value, List.lookup_cons, List.lookup_nil, hbeq]
  have hvalue : WellFormed (value "0a") := .inr ⟨_, [0x0A], rfl, "0a", rfl, Hex.spells_encode [0x0A]⟩
  have hvalue' : Malformed (value "0x0a") := malformed_iff.2 ⟨.callDataNotHex, by decide⟩
  obtain ⟨r, r', hrun, hrun', hspared, hstatus, herror, -⟩ :=
    resolve_spares_rest hreports hreports' (answers_reporter hnone) (by decide) hagree hvalue hvalue'
  exact ⟨_, _, r, r', hrun, hrun', hspared, hstatus, herror⟩

end Tronkit.Client
