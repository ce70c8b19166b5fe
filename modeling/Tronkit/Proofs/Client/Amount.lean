import Tronkit.Proofs.Client.Resolve
import Tronkit.Proofs.Json.Number

/-!
# Resolved amounts

The detail of a transaction holds its amount among values of any form, where a number of more than
64 bits is a floating point number. So the record of a transaction has its amount as long as that
fits into 64 bits, and nothing in its place if it does not.
-/

namespace Tronkit.Client

open Json (IsNumber)
open Node

/-- The value holds an amount to be transferred or, if it has none, one that goes with a call. -/
def HoldsAmount (value : Members) (v : Json) : Prop :=
  value.lookup "amount" = some v ∨
    value.lookup "amount" = none ∧ value.lookup "call_value" = some v

theorem amountMember_of_holds {value : Members} {v : Json} {n : Nat} (h : HoldsAmount value v)
    (hn : IsNumber n v) : amountMember value = if n < u64Limit then n else 0 := by
  have hmember : (value.lookup "amount").or (value.lookup "call_value") = some v := by
    rcases h with hamount | ⟨hnone, hcall⟩
    · rw [hamount, Option.some_or]
    · rw [hnone, hcall, Option.none_or]
  rw [amountMember, hmember]
  by_cases hlt : n < u64Limit
  · rw [if_pos hlt, hn.eq_natural hlt]
    rfl
  · obtain ⟨x, rfl⟩ := hn.exists_double (Nat.le_of_not_lt hlt)
    rw [if_neg hlt]

section Amount

variable {c : Client} {receipt : Receipt} {detail : Detail} {net : Transport}
  {sent sent' : List Request} {hash : String} {r : TransactionInfo}

theorem Summarizes.amount {s : Summary} (h : Summarizes c receipt detail s)
    (hknown : s.info.status ≠ .pending)
    (hfound : s.info.error ≠ some RecordFault.noContract.text) :
    ∃ raw contract, detail.rawData = some raw ∧ raw.contracts.head? = some contract ∧
      s.info.tx.amount = amountMember contract.parameter.value := by
  cases h with
  | unknown hunknown => exact absurd rfl hknown
  | noContract hshows hnone => exact absurd rfl hfound
  | malformed hshows hcontract hfault => exact ⟨_, _, hshows.1, hcontract, rfl⟩
  | whole hshows hcontract hdata => exact ⟨_, _, hshows.1, hcontract, rfl⟩

/-- The amount of a record is the one that the detail holds in digits, if it fits into 64 bits. -/
theorem resolve_amount (hrun : (c.resolve hash).run net sent = (.ok r, sent'))
    (hknown : r.status ≠ .pending) (hfound : r.error ≠ some RecordFault.noContract.text) :
    ∃ bare body receipt detail raw contract, BareOf hash bare ∧ NamesHash bare body ∧
      Reports net sent body receipt detail ∧ detail.rawData = some raw ∧
      raw.contracts.head? = some contract ∧
      ∀ n v, HoldsAmount contract.parameter.value v → IsNumber n v →
        r.tx.amount = if n < u64Limit then (n : Int) else 0 := by
  obtain ⟨receipt, detail, hreports, hfinish⟩ := (run_resolve_eq_ok_iff rfl).1 hrun
  obtain ⟨logs, rfl⟩ := hfinish.eq_info
  obtain ⟨raw, contract, hraw, hfirst, hamount⟩ :=
    (summarizes c receipt detail).amount hknown hfound
  refine ⟨_, _, receipt, detail, raw, contract, bareOf_strip hash, namesHash_naming _, hreports,
    hraw, hfirst, fun n v hv hn => ?_⟩
  rw [amountMember_of_holds hv hn] at hamount
  rw [hamount]
  split <;> rfl

end Amount

/-- The largest amount that is kept, of a call. -/
theorem resolve_amount_of_call :
    ∃ net r sent', ((Client.standard 1).resolve "ab").run net [] = (.ok r, sent') ∧
      r.status ≠ .pending ∧ r.error ≠ some RecordFault.noContract.text ∧
      r.tx.amount = 18446744073709551615 ∧
      ∃ bare body receipt detail raw contract, BareOf "ab" bare ∧ NamesHash bare body ∧
        Reports net [] body receipt detail ∧ detail.rawData = some raw ∧
        raw.contracts.head? = some contract ∧
        ∀ n v, HoldsAmount contract.parameter.value v → IsNumber n v →
          r.tx.amount = if n < u64Limit then (n : Int) else 0 := by
  let value : Members := [("call_value", .natural 18446744073709551615), ("data", .bool true)]
  let receipt : Receipt := ⟨"", none, none, none, none⟩
  let detail : Detail :=
    ⟨"", some ⟨[{ kind := "", parameter := ⟨value, ""⟩ }], none, none⟩, ["SUCCESS"]⟩
  let net := reporter (textBytes "\x7b\x7d")
    (textBytes "\x7b\"ret\":[\x7b\"contractRet\":\"SUCCESS\"\x7d]," ++
      textBytes "\"raw_data\":\x7b\"contract\":[\x7b\"parameter\":\x7b\"value\":\x7b" ++
      textBytes "\"call_value\":18446744073709551615,\"data\":true\x7d\x7d\x7d]\x7d\x7d") []
  have hreports : Reports net [] (naming (Quantity.strip "ab")) receipt detail :=
    reports_reporter (by decide) (by decide +kernel)
  have hrun : ((Client.standard 1).resolve "ab").run net [] = (.ok _, _) :=
    (run_resolve_eq_ok_iff rfl).2 ⟨receipt, detail, hreports, rfl, rfl⟩
  have hknown : TransactionStatus.invalid ≠ .pending := by decide
  have hfound : some RecordFault.callDataNotText.text ≠ some RecordFault.noContract.text := by
    decide
  exact ⟨net, _, _, hrun, hknown, hfound, rfl, resolve_amount hrun hknown hfound⟩

/-- A transfer of `2 ^ 64` is resolved as a transfer of nothing. -/
theorem resolve_loses_amount :
    ∃ net receipt detail raw contract v r sent',
      Reports net [] (naming (Quantity.strip "ab")) receipt detail ∧
      detail.rawData = some raw ∧ raw.contracts.head? = some contract ∧
      contract.parameter.value.lookup "amount" = some v ∧ IsNumber 18446744073709551616 v ∧
      ((Client.standard 1).resolve "ab").run net [] = (.ok r, sent') ∧
      r.status = .success ∧ r.tx.amount = 0 := by
  let v : Json := .double ⟨false, 4503599627370496, 12⟩
  let contract : Contract := { kind := "", parameter := ⟨[("amount", v)], ""⟩ }
  let receipt : Receipt := ⟨"", none, none, none, none⟩
  let detail : Detail := ⟨"", some ⟨[contract], none, none⟩, ["SUCCESS"]⟩
  let net := reporter (textBytes "\x7b\x7d")
    (textBytes "\x7b\"ret\":[\x7b\"contractRet\":\"SUCCESS\"\x7d]," ++
      textBytes "\"raw_data\":\x7b\"contract\":[\x7b\"parameter\":\x7b\"value\":\x7b" ++
      textBytes "\"amount\":18446744073709551616\x7d\x7d\x7d]\x7d\x7d")
    (textBytes "\x7b\x7d")
  have hreports : Reports net [] (naming (Quantity.strip "ab")) receipt detail :=
    reports_reporter (by decide) (by decide +kernel)
  have hnone : Json.parse Events.record.reader (textBytes "\x7b\x7d") = .ok ⟨[], false⟩ := by
    decide
  have hnumber : IsNumber 18446744073709551616 v := by
    rw [IsNumber]
    decide +kernel
  have hstatus : statusOf "SUCCESS" = .success := by decide +kernel
  exact ⟨net, receipt, detail, _, contract, v, _, _, hreports, rfl, rfl, rfl, hnumber,
    run_resolve_of_awaiting rfl hreports rfl (answers_reporter hnone), hstatus, rfl⟩

end Tronkit.Client
