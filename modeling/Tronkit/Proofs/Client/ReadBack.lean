import Tronkit.Proofs.Client.Descriptor
import Tronkit.Proofs.Client.Resolve
import Tronkit.Proofs.Json.Number

/-!
# Transactions that are read back

A node that has put a transaction on the chain shows the parameters of its request in other words:
the accounts in hexadecimal, the amount as a number and the call data as one text. The record of
such a transaction tells the accounts, the amount and the data that the caller gave.
-/

namespace Tronkit.Client

open Json (IsNumber)
open Node
open Wallet (detailRequest eventsRequest receiptRequest)

/-! ## The members of a parameter -/

section Members

variable {value : Members}

theorem ofHexOrEmpty_hex (a : Address) : Address.ofHexOrEmpty a.hex = a := by
  have hread : Address.readHex a.hex = .ok a := Address.readHex_eq_ok_iff.2 (.inl rfl)
  rw [Address.ofHexOrEmpty, hread]
  rfl

theorem textMember_of_string {key s : String} (h : value.lookup key = some (.string s)) :
    textMember key value = s := by
  rw [textMember, h]
  rfl

theorem textMember_of_none {key : String} (h : value.lookup key = none) :
    textMember key value = "" := by
  rw [textMember, h]
  rfl

theorem destination_of_recipient {a : Address} (hne : a ≠ Address.empty)
    (h : value.lookup "to_address" = some (.string a.hex)) : destination value = a := by
  -- The empty address would give way to the contract.
  have hfull : ¬a.isEmpty = true := by simpa [Address.isEmpty] using hne
  simp only [destination, textMember_of_string h, ofHexOrEmpty_hex, if_neg hfull]

theorem destination_of_contract {a : Address} (hnone : value.lookup "to_address" = none)
    (h : value.lookup "contract_address" = some (.string a.hex)) : destination value = a := by
  have hempty : (Address.ofHexOrEmpty "").isEmpty = true := by decide
  simp only [destination, textMember_of_none hnone, textMember_of_string h, ofHexOrEmpty_hex,
    if_pos hempty]

theorem amountMember_of_natural {n : Nat} (h : value.lookup "amount" = some (.natural n)) :
    amountMember value = n := by
  rw [amountMember, h]
  rfl

theorem amountMember_of_none (hamount : value.lookup "amount" = none)
    (hvalue : value.lookup "call_value" = none) : amountMember value = 0 := by
  rw [amountMember, hamount, hvalue]
  rfl

end Members

/-- The value has these members and no others, in any order. -/
def Holds (value members : Members) : Prop := ∀ key, value.lookup key = members.lookup key

def transferMembers (owner recipient : Address) (amount : Json) : Members :=
  [("owner_address", .string owner.hex), ("to_address", .string recipient.hex), ("amount", amount)]

def callMembers (owner contract : Address) (data : Bytes) : Members :=
  [("owner_address", .string owner.hex), ("contract_address", .string contract.hex),
    ("data", .string (Hex.text data))]

/-- The value repeats the request for a transaction: the addresses of the request in hexadecimal,
and the amount of the request, or else the data of the transaction. -/
def Repeats (tx : Transaction) (request : Request) (value : Members) : Prop :=
  ∃ body, ∃ owner recipient : Address,
    if tx.data = [] then
      ∃ amount v, request = .post .wallet "wallet/createtransaction" body ∧
        TransferRequest.StandsIn
          { owner := owner.base58, recipient := recipient.base58, amount, visible := true } body ∧
        IsNumber amount v ∧ Holds value (transferMembers owner recipient v)
    else
      ∃ selector parameter feeLimit,
        request = .post .wallet "wallet/triggersmartcontract" body ∧
        TriggerRequest.StandsIn
          { owner := owner.base58, contract := recipient.base58, selector, parameter,
            visible := true, feeLimit } body ∧
        Holds value (callMembers owner recipient tx.data)

/-- One transaction reads as another: it has its accounts, its data and, if that is a transfer, its
amount. -/
structure ReadsAs (shown tx : Transaction) : Prop where
  sender : ∃ a, Address.parse tx.sender = .ok a ∧ shown.sender = a.base58
  recipient : ∃ a, Address.parse tx.recipient = .ok a ∧ shown.recipient = a.base58
  data : shown.data = tx.data
  amount : shown.amount = if tx.data = [] then tx.amount else 0

section ReadBack

variable {c : Client} {tx : Transaction} {request : Request} {value : Members}
  {info : TransactionInfo} {owner recipient : Address} {body : Bytes}

theorem IsTransfer.parts {amount : Nat} (h : IsTransfer tx body)
    (hbody : TransferRequest.StandsIn
      { owner := owner.base58, recipient := recipient.base58, amount, visible := true } body) :
    IsAccount tx.sender owner ∧ IsAccount tx.recipient recipient ∧ tx.amount = amount := by
  obtain ⟨owner', recipient', amount', howner, hrecipient, -, -, hamount, hbody'⟩ := h
  have hsame := hbody.unique hbody'
  simp only [TransferRequest.mk.injEq, and_true] at hsame
  obtain ⟨howners, hrecipients, rfl⟩ := hsame
  rw [Address.base58_injective howners, Address.base58_injective hrecipients]
  exact ⟨howner, hrecipient, hamount⟩

theorem IsCall.parts {selector parameter : String} {feeLimit : Option Nat} (h : IsCall tx body)
    (hbody : TriggerRequest.StandsIn
      { owner := owner.base58, contract := recipient.base58, selector, parameter, visible := true,
        feeLimit } body) :
    IsAccount tx.sender owner ∧ IsAccount tx.recipient recipient := by
  obtain ⟨owner', contract', signature', parameter', args, howner, hcontract, -, -, hbody'⟩ := h
  have hsame := hbody.unique hbody'
  simp only [TriggerRequest.mk.injEq] at hsame
  obtain ⟨howners, hcontracts, -⟩ := hsame
  rw [Address.base58_injective howners, Address.base58_injective hcontracts]
  exact ⟨howner, hcontract⟩

theorem readsAs_of_members (howner : IsAccount tx.sender owner)
    (hrecipient : IsAccount tx.recipient recipient)
    (hsender : value.lookup "owner_address" = some (.string owner.hex))
    (hdestination : destination value = recipient)
    (hamount : (amountMember value : Int) = if tx.data = [] then tx.amount else 0) :
    ReadsAs (withData (withParties info value) tx.data).tx tx where
  sender := ⟨owner, howner.1, by simp [textMember_of_string hsender, ofHexOrEmpty_hex]⟩
  recipient := ⟨recipient, hrecipient.1, by simp [hdestination]⟩
  data := withData_data _ _
  amount := by simpa using hamount

theorem readsAs_of_transfer {amount : Nat} (hdata : tx.data = [])
    (howner : IsAccount tx.sender owner) (hrecipient : IsAccount tx.recipient recipient)
    (hamount : tx.amount = amount)
    (hvalue : Holds value (transferMembers owner recipient (.natural amount))) :
    callData value = .ok tx.data ∧ ReadsAs (withData (withParties info value) tx.data).tx tx := by
  have hnone : callData value = .ok [] := callData_of_none (hvalue "data")
  have hdestination := destination_of_recipient hrecipient.2 (hvalue "to_address")
  have hshown : amountMember value = amount := amountMember_of_natural (hvalue "amount")
  refine ⟨hdata ▸ hnone, ?_⟩
  apply readsAs_of_members howner hrecipient (hvalue "owner_address") hdestination
  rw [if_pos hdata, hshown, hamount]

theorem readsAs_of_call (hdata : tx.data ≠ []) (howner : IsAccount tx.sender owner)
    (hcontract : IsAccount tx.recipient recipient)
    (hvalue : Holds value (callMembers owner recipient tx.data)) :
    callData value = .ok tx.data ∧ ReadsAs (withData (withParties info value) tx.data).tx tx := by
  have hspells : Hex.Spells (Hex.text tx.data).toList (Hex.encode tx.data) :=
    Hex.decode_eq_ok_iff.1 (by rw [Hex.text, String.toList_ofList, Hex.decode_encode])
  have hdestination := destination_of_contract (hvalue "to_address") (hvalue "contract_address")
  have hshown : amountMember value = 0 :=
    amountMember_of_none (hvalue "amount") (hvalue "call_value")
  refine ⟨(callData_of_string (hvalue "data")).2 hspells, ?_⟩
  apply readsAs_of_members howner hcontract (hvalue "owner_address") hdestination
  rw [if_neg hdata, hshown]
  rfl

theorem readsAs_of_repeats (hquestion : IsQuestion tx request)
    (hlimit : tx.data = [] → tx.amount < u64Limit) (hrepeats : Repeats tx request value) :
    callData value = .ok tx.data ∧ ReadsAs (withData (withParties info value) tx.data).tx tx := by
  obtain ⟨body, owner, recipient, hrepeats⟩ := hrepeats
  by_cases hdata : tx.data = []
  · rw [IsQuestion, if_pos hdata] at hquestion
    rw [if_pos hdata] at hrepeats
    obtain ⟨amount, v, rfl, hbody, hnumber, hvalue⟩ := hrepeats
    obtain ⟨body', hsame, htransfer⟩ := hquestion
    obtain rfl : body = body' := Option.some.inj (congrArg Request.body hsame)
    obtain ⟨howner, hrecipient, hamount⟩ := htransfer.parts hbody
    -- Below the limit the digits of the amount cannot be read as a floating point number.
    have hlt := hlimit hdata
    rw [hamount] at hlt
    obtain rfl := hnumber.eq_natural (Int.ofNat_lt.1 hlt)
    exact readsAs_of_transfer hdata howner hrecipient hamount hvalue
  · rw [IsQuestion, if_neg hdata] at hquestion
    rw [if_neg hdata] at hrepeats
    obtain ⟨selector, parameter, feeLimit, rfl, hbody, hvalue⟩ := hrepeats
    obtain ⟨body', hsame, hcall⟩ := hquestion
    obtain rfl : body = body' := Option.some.inj (congrArg Request.body hsame)
    obtain ⟨howner, hcontract⟩ := hcall.parts hbody
    exact readsAs_of_call hdata howner hcontract hvalue

variable {net net' : Transport} {sent earlier : List Request} {hash : String} {receipt : Receipt}
  {detail : Detail} {raw : RawTransaction} {contract : Contract} {events : Events}

/-- A transaction that was asked for is read back from the record, once the node shows it. -/
theorem resolve_reads_back (hsent : ((c.build tx).run net sent).2 = sent ++ [request])
    (hlimit : tx.data = [] → tx.amount < u64Limit)
    (hreports : Reports net' earlier (naming (Quantity.strip hash)) receipt detail)
    (hevents : Answers net'
      (earlier ++ [receiptRequest (naming (Quantity.strip hash)),
        detailRequest (naming (Quantity.strip hash))])
      (eventsRequest (Quantity.strip hash)) Events.record.reader events)
    (hcodes : detail.returnCodes ≠ []) (hraw : detail.rawData = some raw)
    (hcontract : raw.contracts.head? = some contract)
    (hrepeats : Repeats tx request contract.parameter.value) :
    ∃ r sent', (c.resolve hash).run net' earlier = (.ok r, sent') ∧ Executed r ∧
      ReadsAs r.tx tx := by
  obtain ⟨code, codes, hcode⟩ := List.exists_cons_of_ne_nil hcodes
  have hshows : Shows detail raw code := ⟨hraw, by rw [hcode]; rfl⟩
  obtain ⟨hdata, hreads⟩ := readsAs_of_repeats (isQuestion_of_build hsent) hlimit hrepeats
  have hsummary : c.summary receipt detail = _ := summary_of_data hshows hcontract hdata
  have hsound := (summarizes c receipt detail).sound
  rw [hsummary] at hsound
  obtain ⟨-, hexecuted⟩ := hsound (logsOf events)
  exact ⟨_, _, run_resolve_of_awaiting rfl hreports hsummary hevents, hexecuted, hreads⟩

end ReadBack

/-- The largest amount that is read back, between two accounts in different forms. -/
theorem resolve_reads_back_of_transfer :
    let tx : Transaction :=
      { sender := Address.evmHex ⟨1⟩, recipient := Address.base58 ⟨2⟩,
        amount := 18446744073709551615, data := [], fee := none, chainId := 1 }
    ∃ net r sent', ((Client.standard 1).resolve "ab").run net [] = (.ok r, sent') ∧
      Executed r ∧ ReadsAs r.tx tx := by
  intro tx
  have hsender : IsAccount tx.sender ⟨1⟩ :=
    ⟨Address.parse_of_sameText (.inr (.inr rfl)), by decide⟩
  have hrecipient : IsAccount tx.recipient ⟨2⟩ := ⟨Address.parse_base58 _, by decide⟩
  have hrequest := transferRequest_eq_ok_iff.2 ⟨⟨1⟩, ⟨2⟩, 18446744073709551615, hsender, hrecipient,
    by decide, by decide, rfl, rfl⟩
  let value := transferMembers ⟨1⟩ ⟨2⟩ (.natural 18446744073709551615)
  let contract : Contract := { kind := "", parameter := ⟨value, ""⟩ }
  let detail : Detail := ⟨"", some ⟨[contract], none, none⟩, ["SUCCESS"]⟩
  let net := reporter (textBytes "\x7b\x7d")
    (textBytes "\x7b\"ret\":[\x7b\"contractRet\":\"SUCCESS\"\x7d]," ++
      textBytes "\"raw_data\":\x7b\"contract\":[\x7b\"parameter\":\x7b\"value\":\x7b" ++
      textBytes "\"owner_address\":\"410000000000000000000000000000000000000001\"," ++
      textBytes "\"to_address\":\"410000000000000000000000000000000000000002\"," ++
      textBytes "\"amount\":18446744073709551615\x7d\x7d\x7d]\x7d\x7d")
    (textBytes "\x7b\x7d")
  have hreports : Reports net [] (naming (Quantity.strip "ab"))
      ⟨"", none, none, none, none⟩ detail :=
    reports_reporter (by decide +kernel) (by decide +kernel)
  have hnone : Json.parse Events.record.reader (textBytes "\x7b\x7d") = .ok ⟨[], false⟩ := by
    decide
  have hlimit : 18446744073709551615 < u64Limit := by decide
  have hrepeats : Repeats tx _ value :=
    ⟨_, ⟨1⟩, ⟨2⟩, _, _, rfl, TransferRequest.standsIn_render _, Json.isNumber_natural hlimit,
      fun _ => rfl⟩
  have hsent : (((Client.standard 1).build tx).run net []).2 = [] ++ [_] :=
    sent_build_of_transfer rfl hrequest
  obtain ⟨r, sent', hrun, hexecuted, hreads⟩ := resolve_reads_back hsent (fun _ => by decide)
    hreports (answers_reporter hnone) (by decide) rfl rfl hrepeats
  exact ⟨net, r, sent', hrun, hexecuted, hreads⟩

end Tronkit.Client
