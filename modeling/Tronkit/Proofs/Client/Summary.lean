import Tronkit.Client.Resolve
import Tronkit.Proofs.Address
import Tronkit.Proofs.Except

/-!
# What a receipt and a detail say

A transaction without raw data or without a result code is not known to the node, and its record
is pending. Of any other transaction the record has the fee and tells whether it is in a block; it
is invalid if it lacks a contract or if the call data of the contract is no hexadecimal text.
-/

namespace Tronkit.Client

open Node

/-- The detail shows raw data and, first, a result code. -/
def Shows (detail : Detail) (raw : RawTransaction) (code : String) : Prop :=
  detail.rawData = some raw ∧ detail.returnCodes.head? = some code

def Unknown (detail : Detail) : Prop := detail.rawData = none ∨ detail.returnCodes = []

theorem unknown_or_shows (detail : Detail) :
    Unknown detail ∨ ∃ raw code, Shows detail raw code := by
  obtain ⟨txId, rawData, returnCodes⟩ := detail
  cases rawData with
  | none => exact .inl (.inl rfl)
  | some raw =>
    cases returnCodes with
    | nil => exact .inl (.inr rfl)
    | cons code codes => exact .inr ⟨raw, code, rfl, rfl⟩

theorem Shows.known {detail : Detail} {raw : RawTransaction} {code : String}
    (h : Shows detail raw code) : ¬Unknown detail := by
  obtain ⟨hraw, hcode⟩ := h
  simp [Unknown, hraw, ← List.head?_eq_none_iff, hcode]

def IsHexOf (v : Json) (bs : Bytes) : Prop :=
  ∃ s, v = .string s ∧ Hex.Spells s.toList (Hex.encode bs)

def Malformed (value : Members) : Prop :=
  ∃ v, value.lookup "data" = some v ∧ ¬∃ bs, IsHexOf v bs

theorem callData_of_none {value : Members} (h : value.lookup "data" = none) :
    callData value = .ok [] := by
  rw [callData, h]

theorem callData_of_string {value : Members} {s : String} {data : Bytes}
    (h : value.lookup "data" = some (.string s)) :
    callData value = .ok data ↔ Hex.Spells s.toList (Hex.encode data) := by
  rw [callData, h]
  exact except_mapError_eq_ok_iff.trans Hex.decode_eq_ok_iff

theorem callData_of_isHexOf {value : Members} {v : Json} {data : Bytes}
    (h : value.lookup "data" = some v) (hv : IsHexOf v data) : callData value = .ok data := by
  obtain ⟨s, rfl, hspells⟩ := hv
  exact (callData_of_string h).2 hspells

theorem callData_eq_ok {value : Members} {v : Json} {data : Bytes}
    (h : value.lookup "data" = some v) (hdata : callData value = .ok data) : IsHexOf v data := by
  cases v with
  | string s => exact ⟨s, rfl, (callData_of_string h).1 hdata⟩
  | _ =>
    rw [callData, h] at hdata
    cases hdata

theorem malformed_iff {value : Members} :
    Malformed value ↔ ∃ fault, callData value = .error fault := by
  constructor
  · intro h
    obtain ⟨v, hv, hbad⟩ := h
    cases hdata : callData value with
    | error fault => exact ⟨fault, rfl⟩
    | ok data => exact absurd ⟨data, callData_eq_ok hv hdata⟩ hbad
  · intro h
    obtain ⟨fault, hfault⟩ := h
    cases hv : value.lookup "data" with
    | none =>
      rw [callData_of_none hv] at hfault
      cases hfault
    | some v =>
      refine ⟨v, hv, fun hread => ?_⟩
      obtain ⟨bs, hbs⟩ := hread
      rw [callData_of_isHexOf hv hbs] at hfault
      cases hfault

/-- The same letters but for the case of those of the Latin alphabet. -/
def SameLetters (s t : String) : Prop := s.map Char.toLower = t.map Char.toLower

theorem isSuccess_iff {code : String} : isSuccess code = true ↔ SameLetters code "SUCCESS" := by
  have hlower : "SUCCESS".map Char.toLower = "success" := by
    simp [String.ext_iff, String.toList_map]
  rw [isSuccess, SameLetters, hlower, decide_eq_true_iff]

/-! ## The four ways to make a record

A record starts from the receipt and the result code. If there is a contract, its parties are added,
and then its call data if it can be read.
-/

section Summary

variable {c : Client} {receipt : Receipt} {detail : Detail}

def basis (c : Client) (receipt : Receipt) (code : String) : TransactionInfo :=
  { tx := { Transaction.blank c.chainId with fee := some (feePaid (receipt.fee.getD 0)) }
    isPending := receipt.blockNumber.isNone
    status := statusOf code
    error := none
    gas := some ⟨receipt.fee.getD 0⟩
    logs := [] }

def withParties (info : TransactionInfo) (value : Members) : TransactionInfo :=
  { info with tx := { info.tx with
      sender := (Address.ofHexOrEmpty (textMember "owner_address" value)).base58
      recipient := (destination value).base58
      amount := amountMember value } }

def withData (info : TransactionInfo) (data : Bytes) : TransactionInfo :=
  { info with tx := { info.tx with data } }

@[simp] theorem withParties_sender (info : TransactionInfo) (value : Members) :
    (withParties info value).tx.sender =
      (Address.ofHexOrEmpty (textMember "owner_address" value)).base58 := rfl

@[simp] theorem withParties_recipient (info : TransactionInfo) (value : Members) :
    (withParties info value).tx.recipient = (destination value).base58 := rfl

@[simp] theorem withParties_amount (info : TransactionInfo) (value : Members) :
    (withParties info value).tx.amount = amountMember value := rfl

@[simp] theorem withData_sender (info : TransactionInfo) (data : Bytes) :
    (withData info data).tx.sender = info.tx.sender := rfl

@[simp] theorem withData_recipient (info : TransactionInfo) (data : Bytes) :
    (withData info data).tx.recipient = info.tx.recipient := rfl

@[simp] theorem withData_amount (info : TransactionInfo) (data : Bytes) :
    (withData info data).tx.amount = info.tx.amount := rfl

@[simp] theorem withData_data (info : TransactionInfo) (data : Bytes) :
    (withData info data).tx.data = data := rfl

def faulted (info : TransactionInfo) (fault : RecordFault) : TransactionInfo :=
  { info with status := .invalid, error := some fault.text }

theorem withContract_of_data {info : TransactionInfo} {value : Members} {data : Bytes}
    (h : callData value = .ok data) :
    withContract info value = .awaitingEvents (withData (withParties info value) data) := by
  rw [withContract, h, withData, withParties]

theorem withContract_of_fault {info : TransactionInfo} {value : Members} {fault : RecordFault}
    (h : callData value = .error fault) :
    withContract info value = .complete (faulted (withParties info value) fault) := by
  rw [withContract, h, withParties]
  rfl

theorem summary_of_unknown (h : Unknown detail) :
    c.summary receipt detail = .complete (.pending (.blank c.chainId)) := by
  obtain ⟨txId, rawData, returnCodes⟩ := detail
  rcases h with h | h
  · obtain rfl : rawData = none := h
    rfl
  · obtain rfl : returnCodes = [] := h
    cases rawData <;> rfl

theorem summary_of_no_contract {raw : RawTransaction} {code : String}
    (h : Shows detail raw code) (hnone : raw.contracts = []) :
    c.summary receipt detail = .complete (faulted (basis c receipt code) .noContract) := by
  obtain ⟨hraw, hcode⟩ := h
  obtain ⟨codes, hcodes⟩ := List.head?_eq_some_iff.1 hcode
  simp only [summary, hraw, hcodes, hnone]
  rfl

theorem summary_of_contract {raw : RawTransaction} {code : String} {contract : Contract}
    (h : Shows detail raw code) (hcontract : raw.contracts.head? = some contract) :
    c.summary receipt detail = withContract (basis c receipt code) contract.parameter.value := by
  obtain ⟨hraw, hcode⟩ := h
  obtain ⟨codes, hcodes⟩ := List.head?_eq_some_iff.1 hcode
  obtain ⟨more, hmore⟩ := List.head?_eq_some_iff.1 hcontract
  simp only [summary, hraw, hcodes, hmore]
  rfl

theorem summary_of_data {raw : RawTransaction} {code : String} {contract : Contract}
    {data : Bytes} (h : Shows detail raw code) (hcontract : raw.contracts.head? = some contract)
    (hdata : callData contract.parameter.value = .ok data) :
    c.summary receipt detail = .awaitingEvents
      (withData (withParties (basis c receipt code) contract.parameter.value) data) := by
  rw [summary_of_contract h hcontract, withContract_of_data hdata]

/-- Each way in which a receipt and a detail make a record. -/
inductive Summarizes (c : Client) (receipt : Receipt) (detail : Detail) : Summary → Prop
  | unknown (h : Unknown detail) :
    Summarizes c receipt detail (.complete (.pending (.blank c.chainId)))
  | noContract {raw : RawTransaction} {code : String} (h : Shows detail raw code)
    (hnone : raw.contracts = []) :
    Summarizes c receipt detail (.complete (faulted (basis c receipt code) .noContract))
  | malformed {raw : RawTransaction} {code : String} {contract : Contract} {fault : RecordFault}
    (h : Shows detail raw code) (hcontract : raw.contracts.head? = some contract)
    (hfault : callData contract.parameter.value = .error fault) :
    Summarizes c receipt detail
      (.complete (faulted (withParties (basis c receipt code) contract.parameter.value) fault))
  | whole {raw : RawTransaction} {code : String} {contract : Contract} {data : Bytes}
    (h : Shows detail raw code) (hcontract : raw.contracts.head? = some contract)
    (hdata : callData contract.parameter.value = .ok data) :
    Summarizes c receipt detail (.awaitingEvents
      (withData (withParties (basis c receipt code) contract.parameter.value) data))

theorem summarizes (c : Client) (receipt : Receipt) (detail : Detail) :
    Summarizes c receipt detail (c.summary receipt detail) := by
  rcases unknown_or_shows detail with hunknown | ⟨raw, code, hshows⟩
  · rw [summary_of_unknown hunknown]
    exact .unknown hunknown
  cases hcontract : raw.contracts.head? with
  | none =>
    have hnone := List.head?_eq_none_iff.1 hcontract
    rw [summary_of_no_contract hshows hnone]
    exact .noContract hshows hnone
  | some contract =>
    cases hdata : callData contract.parameter.value with
    | error fault =>
      rw [summary_of_contract hshows hcontract, withContract_of_fault hdata]
      exact .malformed hshows hcontract hdata
    | ok data =>
      rw [summary_of_data hshows hcontract hdata]
      exact .whole hshows hcontract hdata

def Summary.info : Summary → TransactionInfo
  | .complete info => info
  | .awaitingEvents info => info

theorem Summarizes.isPending_iff {s : Summary} (h : Summarizes c receipt detail s) :
    s.info.isPending = true ↔ receipt.blockNumber = none ∨ Unknown detail := by
  cases h with
  | unknown hunknown => exact iff_of_true rfl (.inr hunknown)
  | noContract hshows _ => simp [Summary.info, faulted, basis, hshows.known]
  | malformed hshows _ _ => simp [Summary.info, faulted, withParties, basis, hshows.known]
  | whole hshows _ _ => simp [Summary.info, withData, withParties, basis, hshows.known]

/-! ## Consistent records

What a known transaction has of its receipt does not depend on how its contract fares. So it is said
once, and each way to make a record adds its status and its accounts.
-/

def IsBase58 (s : String) : Prop := ∃ a : Address, s = a.base58 ∧ Address.parse s = .ok a

theorem isBase58_base58 (a : Address) : IsBase58 a.base58 := ⟨a, rfl, Address.parse_base58 a⟩

/-- The raw data lacks a contract, or the first contract has malformed call data. -/
def Faulty (raw : RawTransaction) : Prop :=
  raw.contracts = [] ∨
    ∃ contract, raw.contracts.head? = some contract ∧ Malformed contract.parameter.value

def Executed (r : TransactionInfo) : Prop := r.status = .success ∨ r.status = .failed

instance (r : TransactionInfo) : Decidable (Executed r) :=
  inferInstanceAs (Decidable (r.status = .success ∨ r.status = .failed))

structure Consistent (c : Client) (receipt : Receipt) (detail : Detail) (r : TransactionInfo) :
    Prop where
  chainId : r.tx.chainId = c.chainId
  pending_iff : r.status = .pending ↔ detail.rawData = none ∨ detail.returnCodes = []
  isPending : r.status ≠ .pending → (r.isPending = true ↔ receipt.blockNumber = none)
  fee : r.status ≠ .pending →
    r.tx.fee = some { gas := receipt.fee.getD 0, gasFeeCap := 1, gasTipCap := 0 }
  gas : r.status ≠ .pending → r.gas = some { fee := receipt.fee.getD 0 }
  invalid_iff : r.status = .invalid ↔ ∃ raw code, Shows detail raw code ∧ Faulty raw
  error_iff : r.error.isSome ↔ r.status = .invalid
  executed : r.status ≠ .pending → r.status ≠ .invalid →
    ∃ code, detail.returnCodes.head? = some code ∧
      (r.status = .success ∧ SameLetters code "SUCCESS" ∨
        r.status = .failed ∧ ¬SameLetters code "SUCCESS")
  accounts : r.status ≠ .pending → ∀ raw contract, detail.rawData = some raw →
    raw.contracts.head? = some contract → IsBase58 r.tx.sender ∧ IsBase58 r.tx.recipient
  logs : ¬Executed r → r.logs = []

structure Grounded (c : Client) (receipt : Receipt) (r : TransactionInfo) : Prop where
  chainId : r.tx.chainId = c.chainId
  isPending : r.isPending = receipt.blockNumber.isNone
  fee : r.tx.fee = some { gas := receipt.fee.getD 0, gasFeeCap := 1, gasTipCap := 0 }
  gas : r.gas = some { fee := receipt.fee.getD 0 }

theorem Grounded.isPending_iff {r : TransactionInfo} (h : Grounded c receipt r) :
    r.isPending = true ↔ receipt.blockNumber = none := by
  rw [h.isPending, Option.isNone_iff_eq_none]

theorem Shows.unique {raw raw' : RawTransaction} {code code' : String}
    (h : Shows detail raw code) (h' : Shows detail raw' code') : raw = raw' ∧ code = code' :=
  ⟨Option.some.inj (h.1.symm.trans h'.1), Option.some.inj (h.2.symm.trans h'.2)⟩

theorem consistent_pending (h : Unknown detail) :
    Consistent c receipt detail (.pending (.blank c.chainId)) := by
  have hshows : ¬∃ raw code, Shows detail raw code ∧ Faulty raw := by
    intro hfaulty
    obtain ⟨raw, code, hshows, -⟩ := hfaulty
    exact hshows.known h
  exact {
    chainId := rfl
    pending_iff := iff_of_true rfl h
    isPending := fun hne => absurd rfl hne
    fee := fun hne => absurd rfl hne
    gas := fun hne => absurd rfl hne
    invalid_iff := iff_of_false nofun hshows
    error_iff := iff_of_false nofun nofun
    executed := fun hne => absurd rfl hne
    accounts := fun hne => absurd rfl hne
    logs := fun _ => rfl }

theorem consistent_invalid {raw : RawTransaction} {code : String} {info : TransactionInfo}
    {fault : RecordFault} (hshows : Shows detail raw code) (hground : Grounded c receipt info)
    (hfaulty : Faulty raw) (hlogs : info.logs = [])
    (haccounts : raw.contracts ≠ [] → IsBase58 info.tx.sender ∧ IsBase58 info.tx.recipient) :
    Consistent c receipt detail (faulted info fault) where
  chainId := hground.chainId
  pending_iff := iff_of_false nofun hshows.known
  isPending _ := hground.isPending_iff
  fee _ := hground.fee
  gas _ := hground.gas
  invalid_iff := iff_of_true rfl ⟨raw, code, hshows, hfaulty⟩
  error_iff := iff_of_true rfl rfl
  executed _ hne := absurd rfl hne
  accounts _ raw' contract hraw hcontract := by
    obtain rfl : raw = raw' := Option.some.inj (hshows.1.symm.trans hraw)
    refine haccounts fun hnone => ?_
    rw [hnone] at hcontract
    cases hcontract
  logs _ := hlogs

theorem statusOf_eq (code : String) :
    (statusOf code = .success ∧ SameLetters code "SUCCESS") ∨
      (statusOf code = .failed ∧ ¬SameLetters code "SUCCESS") := by
  rw [← isSuccess_iff, statusOf]
  split
  · rename_i h
    exact .inl ⟨rfl, h⟩
  · rename_i h
    exact .inr ⟨rfl, h⟩

theorem consistent_whole {raw : RawTransaction} {code : String} {r : TransactionInfo}
    (hshows : Shows detail raw code) (hground : Grounded c receipt r) (hsound : ¬Faulty raw)
    (hstatus : r.status = statusOf code) (herror : r.error = none)
    (haccounts : IsBase58 r.tx.sender ∧ IsBase58 r.tx.recipient) :
    Consistent c receipt detail r ∧ Executed r := by
  have hfaulty : ¬∃ raw code, Shows detail raw code ∧ Faulty raw := by
    intro h
    obtain ⟨raw', code', hshows', hfaulty⟩ := h
    obtain ⟨rfl, -⟩ := hshows.unique hshows'
    exact hsound hfaulty
  -- The code decides between two statuses, and neither of them is pending or invalid.
  have hcode := statusOf_eq code
  rw [← hstatus] at hcode
  have hexecuted : Executed r := hcode.imp And.left And.left
  have hpending : r.status ≠ .pending := by
    rcases hexecuted with h | h <;> simp [h]
  have hinvalid : r.status ≠ .invalid := by
    rcases hexecuted with h | h <;> simp [h]
  refine ⟨?_, hexecuted⟩
  exact {
    chainId := hground.chainId
    pending_iff := iff_of_false hpending hshows.known
    isPending := fun _ => hground.isPending_iff
    fee := fun _ => hground.fee
    gas := fun _ => hground.gas
    invalid_iff := iff_of_false hinvalid hfaulty
    error_iff := iff_of_false (by simp [herror]) hinvalid
    executed := fun _ _ => ⟨code, hshows.2, hcode⟩
    accounts := fun _ _ _ _ _ => haccounts
    logs := fun h => absurd hexecuted h }

/-- A summary is consistent. The events are asked for exactly if something was executed, and it is
consistent with any of them. -/
def Sound (c : Client) (receipt : Receipt) (detail : Detail) : Summary → Prop
  | .complete r => Consistent c receipt detail r ∧ ¬Executed r
  | .awaitingEvents info =>
    ∀ logs, Consistent c receipt detail { info with logs } ∧ Executed { info with logs }

theorem not_faulty_of_data {raw : RawTransaction} {contract : Contract} {data : Bytes}
    (hcontract : raw.contracts.head? = some contract)
    (hdata : callData contract.parameter.value = .ok data) : ¬Faulty raw := by
  intro hfaulty
  rcases hfaulty with hnone | ⟨contract', hcontract', hmalformed⟩
  · rw [hnone] at hcontract
    cases hcontract
  · obtain rfl : contract = contract' := Option.some.inj (hcontract.symm.trans hcontract')
    obtain ⟨fault, hfault⟩ := malformed_iff.1 hmalformed
    rw [hdata] at hfault
    cases hfault

theorem Summarizes.sound {s : Summary} (h : Summarizes c receipt detail s) :
    Sound c receipt detail s := by
  cases h with
  | unknown hunknown => exact ⟨consistent_pending hunknown, nofun⟩
  | noContract hshows hnone =>
    exact ⟨consistent_invalid hshows ⟨rfl, rfl, rfl, rfl⟩ (.inl hnone) rfl
      fun hsome => absurd hnone hsome, nofun⟩
  | malformed hshows hcontract hfault =>
    have hfaulty : Faulty _ := .inr ⟨_, hcontract, malformed_iff.2 ⟨_, hfault⟩⟩
    exact ⟨consistent_invalid hshows ⟨rfl, rfl, rfl, rfl⟩ hfaulty rfl
      fun _ => ⟨isBase58_base58 _, isBase58_base58 _⟩, nofun⟩
  | whole hshows hcontract hdata =>
    intro logs
    exact consistent_whole hshows ⟨rfl, rfl, rfl, rfl⟩ (not_faulty_of_data hcontract hdata) rfl rfl
      ⟨isBase58_base58 _, isBase58_base58 _⟩

end Summary

end Tronkit.Client
