import Tronkit.Client.Token
import Tronkit.Proofs.Abi.Call
import Tronkit.Proofs.Address
import Tronkit.Proofs.Client.Account
import Tronkit.Proofs.Client.Operation
import Tronkit.Proofs.Node.Report
import Tronkit.Proofs.Number.Quantity

/-!
# Numbers of a token

The balance of an account, the supply and the decimals of a token are the results of constant calls.
The interface of tokens declares each of them as one number, which is the first word of the result.
The supply and the decimals are read from a result of one word, so they are that number. The balance
is read from all of the result: behind a word of a number other than zero, any more bytes change it,
and it may have more than 256 bits.
-/

namespace Tronkit.Client

open Node

/-! ## Readings of a result -/

inductive TokenNumber
  | balance (owner : String)
  | supply
  | decimals

namespace TokenNumber

def method : TokenNumber → String
  | balance _ => "balanceOf"
  | supply => "totalSupply"
  | decimals => "decimals"

def ask (c : Client) (contract : String) : TokenNumber → Exchange ClientError Nat
  | balance owner => c.tokenBalance contract owner
  | supply => tokenSupply contract
  | decimals => tokenDecimals contract

def Reads (s : String) (n : Nat) : TokenNumber → Prop
  | balance _ => Quantity.readNat s = .ok n
  | supply => Blob.readNat s = .ok n
  | decimals => Blob.readNat s = .ok n ∧ n < 256

def IsWord (q : TokenNumber) : Prop := ∀ owner, q ≠ balance owner

variable {q : TokenNumber} {s : String} {n : Nat}

theorem Reads.word (h : q.Reads s n) (hq : q.IsWord) : Blob.readNat s = .ok n := by
  cases q with
  | balance owner => exact absurd rfl (hq owner)
  | supply => exact h
  | decimals => exact h.1

theorem Reads.lt (h : q.Reads s n) : n < Nat.pow 16 s.toList.length := by
  cases q with
  | balance owner => exact Quantity.readNat_lt h
  | supply => exact Blob.readNat_lt h
  | decimals => exact Blob.readNat_lt h.1

theorem Reads.text {bs : Bytes} (h : q.Reads (Hex.text bs) n) : n = bs.toNat := by
  cases q with
  | balance owner =>
    have hread : Quantity.readNat (Hex.text bs) = .ok n := h
    have hne : bs ≠ [] := by
      rintro rfl
      cases hread
    rw [Hex.readNat_text hne] at hread
    exact (Except.ok.inj hread).symm
  | supply => exact (Hex.readWord_text_eq_ok_iff.1 h).2
  | decimals => exact (Hex.readWord_text_eq_ok_iff.1 h.1).2

end TokenNumber

theorem asks_constantCall (contract owner selector parameter : String) :
    (constantCall contract owner selector parameter).Asks fun answer s => ∃ a,
      Json.parse ConstantAnswer.record.reader answer = .ok a ∧
        a.constantResult.head? = some s := by
  refine .after fun _ _ => (Operation.asks_ofNode (Wallet.asks_triggerConstant _)).mono ?_
  rintro answer s ⟨a, hparse, -, hs⟩
  exact ⟨a, hparse, hs⟩

theorem decimals_eq (r : Except NumberError Nat) :
    (do let n ← ofNumber r
        if n < 256 then pure n
        else .fail (.invalidResponse ("decimals " ++ decimalText n ++ " do not fit into u8"))) =
      Exchange.ofExcept (do
        let n ← r.mapError ClientError.ofNumber
        if n < 256 then pure n
        else .error (.invalidResponse ("decimals " ++ decimalText n ++ " do not fit into u8"))) := by
  have htail : ∀ n : Nat, (if n < 256 then pure n
      else .fail (.invalidResponse ("decimals " ++ decimalText n ++ " do not fit into u8"))) =
        Exchange.ofExcept (if n < 256 then pure n
          else .error (ClientError.invalidResponse
            ("decimals " ++ decimalText n ++ " do not fit into u8"))) := by
    intro n
    split
    · rfl
    · rfl
  simp only [ofNumber, htail, Exchange.ofExcept_bind_ofExcept]

theorem TokenNumber.asks_ask (c : Client) (contract : String) (q : TokenNumber) :
    (q.ask c contract).Asks fun answer n => ∃ a s,
      Json.parse ConstantAnswer.record.reader answer = .ok a ∧
        a.constantResult.head? = some s ∧ q.Reads s n := by
  cases q with
  | balance owner =>
    refine .after fun a _ => .after fun data _ => ?_
    refine ((asks_constantCall _ _ _ _).before fun s =>
      (Quantity.readNat s).mapError .ofNumber).mono ?_
    rintro answer n ⟨s, ⟨a, hparse, hs⟩, hread⟩
    exact ⟨a, s, hparse, hs, except_mapError_eq_ok_iff.1 hread⟩
  | supply =>
    refine ((asks_constantCall _ _ _ _).before fun s => (Blob.readNat s).mapError .ofNumber).mono ?_
    rintro answer n ⟨s, ⟨a, hparse, hs⟩, hread⟩
    exact ⟨a, s, hparse, hs, except_mapError_eq_ok_iff.1 hread⟩
  | decimals =>
    unfold ask tokenDecimals
    simp only [decimals_eq]
    refine ((asks_constantCall _ _ _ _).before _).mono ?_
    rintro answer n ⟨s, ⟨a, hparse, hs⟩, hread⟩
    obtain ⟨m, hm, hread⟩ := bind_eq_ok_iff.1 hread
    rw [except_mapError_eq_ok_iff] at hm
    split at hread
    · rename_i hlt
      cases hread
      exact ⟨a, s, hparse, hs, hm, hlt⟩
    · cases hread

/-! ## Results that are declared as a number -/

theorem exists_word_of_ofTokens {ts : List AbiToken} {n : Nat}
    (h : AbiValue.ofTokens ts = [.uint n]) : ∃ w : BitVec 256, ts = [.uint w] ∧ w.toNat = n := by
  rw [AbiValue.ofTokens_eq_map, List.map_eq_singleton_iff] at h
  obtain ⟨τ, rfl, hτ⟩ := h
  cases τ with
  | uint w =>
    rw [AbiValue.ofToken, AbiValue.uint.injEq] at hτ
    exact ⟨w, rfl, hτ⟩
  | _ => simp [AbiValue.ofToken] at hτ

section Decode

variable {c : Client} {method name : String} {bs : Bytes} {n : Nat}

theorem length_of_decode {f : AbiFunction} {values : List AbiValue}
    (hf : c.registry.method name method = .ok f) (h : c.decode method name bs = .ok values) :
    values.length = f.outputTypes.length := by
  obtain ⟨f', hf', hdecode⟩ := bind_eq_ok_iff.1 (except_mapError_eq_ok_iff.1 h)
  obtain rfl := Except.ok.inj (hf.symm.trans hf')
  obtain ⟨ts, hts, hvalues⟩ := bind_eq_ok_iff.1 hdecode
  rw [except_mapError_eq_ok_iff] at hts
  obtain rfl := Except.ok.inj hvalues
  rw [AbiValue.ofTokens_eq_map, List.length_map, AbiToken.length_of_decode hts]

theorem first_word_of_decode (h : c.decode method name bs = .ok [.uint n]) :
    32 ≤ bs.length ∧ n = Bytes.toNat (bs.take 32) := by
  obtain ⟨f, -, hdecode⟩ := bind_eq_ok_iff.1 (except_mapError_eq_ok_iff.1 h)
  obtain ⟨ts, hts, hvalues⟩ := bind_eq_ok_iff.1 hdecode
  rw [except_mapError_eq_ok_iff] at hts
  obtain ⟨w, rfl, rfl⟩ := exists_word_of_ofTokens (Except.ok.inj hvalues)
  obtain ⟨-, hlen, hw⟩ := AbiToken.decode_eq_uint_iff.1 hts
  exact ⟨hlen, hw⟩

theorem decode_eq_uint_iff {f : AbiFunction} {bits : Nat}
    (hf : c.registry.method name method = .ok f) (houtputs : f.outputTypes = [.uint bits]) :
    c.decode method name bs = .ok [.uint n] ↔ 32 ≤ bs.length ∧ n = Bytes.toNat (bs.take 32) := by
  refine ⟨first_word_of_decode, ?_⟩
  rintro ⟨hlen, rfl⟩
  have hlt := AbiToken.toNat_take_lt bs
  have hw : (BitVec.ofNat 256 (Bytes.toNat (bs.take 32))).toNat = Bytes.toNat (bs.take 32) :=
    (BitVec.toNat_ofNat ..).trans (Nat.mod_eq_of_lt hlt)
  have hread : AbiToken.decode f.outputTypes bs = .ok [.uint _] :=
    AbiToken.decode_eq_uint_iff.2 ⟨⟨bits, houtputs⟩, hlen, hw⟩
  rw [decode, Registry.decode, hf, ok_bind, hread, Exchange.mapError_ok, ok_bind,
    AbiValue.ofTokens_eq_map, List.map_singleton, AbiValue.ofToken, hw]
  rfl

end Decode

/-! ## A result that is read twice -/

def Results (net : Transport) (earlier : List Request) (request : Request) (s : String) : Prop :=
  ∃ a, Answers net earlier request ConstantAnswer.record.reader a ∧
    a.constantResult.head? = some s

section Agree

variable {c : Client} {q : TokenNumber} {contract s : String} {net : Transport}
  {sent : List Request} {request : Request} {m : Nat}

theorem reads_of_results (hrun : (q.ask c contract).run net sent = (.ok m, sent ++ [request]))
    (hresult : Results net sent request s) : q.Reads s m := by
  obtain ⟨request', response, hsent, hreply, -, a, s', hparse, hs, hreads⟩ :=
    q.asks_ask c contract hrun
  obtain ⟨b, ⟨response', hreply', -, hparse'⟩, hs'⟩ := hresult
  rw [List.append_cancel_left_eq, List.singleton_inj] at hsent
  subst hsent
  -- Both tell of the one response, and it is read in one way.
  obtain rfl := Except.ok.inj (hreply.symm.trans hreply')
  obtain rfl := Except.ok.inj (hparse.symm.trans hparse')
  obtain rfl := Option.some.inj (hs.symm.trans hs')
  exact hreads

/-- The number of a token is the declared one if its result is one word. Behind that word the
balance alone goes on, and then it is another number unless it is zero. -/
theorem token_number_of_result
    (hrun : (q.ask c contract).run net sent = (.ok m, sent ++ [request]))
    (hresult : Results net sent request s) :
    m < Nat.pow 16 s.toList.length ∧ (q.IsWord → m < Nat.pow 2 256) ∧
      ∀ bs n, s = Hex.text bs → c.decode q.method Standard.tokenName bs = .ok [.uint n] →
        m = bs.toNat ∧ n = Bytes.toNat (bs.take 32) ∧ (m = n ↔ bs.length = 32 ∨ m = 0) ∧
          (q.IsWord → m = n) := by
  have hreads := reads_of_results hrun hresult
  refine ⟨hreads.lt, fun hq => Blob.readNat_lt_word (hreads.word hq), ?_⟩
  rintro bs n rfl hdecode
  obtain ⟨hlen, rfl⟩ := first_word_of_decode hdecode
  have hm := hreads.text
  have hiff : m = Bytes.toNat (bs.take 32) ↔ bs.length = 32 ∨ m = 0 := by
    rw [hm]
    exact Bytes.toNat_eq_toNat_take_iff hlen
  refine ⟨hm, rfl, hiff, fun hq => hiff.2 (.inl ?_)⟩
  exact (Hex.readWord_text_eq_ok_iff.1 (hreads.word hq)).1

end Agree

/-! ## Results of one word and of more -/

def answerWith (bs : Bytes) : Response :=
  ⟨200, textBytes ("\x7b\"result\":\x7b\"result\":true\x7d,\"constant_result\":[\""
    ++ Hex.text bs ++ "\"]\x7d")⟩

def answering (bs : Bytes) : Transport := ⟨fun _ _ => .ok (answerWith bs)⟩

theorem run_constantCall_answering {contract : String} {a : Address} {bs : Bytes}
    (ha : readAddress contract = .ok a)
    (hparse : Json.parse ConstantAnswer.record.reader (answerWith bs).body =
      .ok ⟨⟨true, none, none⟩, [Hex.text bs], 0⟩) (owner selector parameter : String) :
    ∃ request, (constantCall contract owner selector parameter).run (answering bs) [] =
        (.ok (Hex.text bs), [request]) ∧ Results (answering bs) [] request (Hex.text bs) := by
  refine ⟨?request, ?run, ?results⟩
  case run =>
    rw [constantCall, Exchange.run_ofExcept_ok_bind ha, ofNode, Exchange.run_mapError,
      Wallet.run_triggerConstant rfl rfl hparse rfl rfl]
    rfl
  case results => exact ⟨_, ⟨answerWith bs, rfl, rfl, hparse⟩, rfl⟩

theorem readAddress_base58 (a : Address) : readAddress a.base58 = .ok a :=
  readAddress_eq_ok_iff.2 a.parse_base58

def million : Bytes := Bytes.ofNat 32 1000000

/-- A supply of a million is read from one word as it is declared. -/
theorem token_supply_of_million :
    ∃ request, (TokenNumber.supply.ask (standard 1) (Address.base58 ⟨2⟩)).run (answering million)
        [] = (.ok 1000000, [] ++ [request]) ∧
      Results (answering million) [] request (Hex.text million) ∧
      ∃ n, (standard 1).decode "totalSupply" Standard.tokenName million = .ok [.uint n] ∧
        1000000 = n := by
  have hparse : Json.parse ConstantAnswer.record.reader (answerWith million).body =
      .ok ⟨⟨true, none, none⟩, [Hex.text million], 0⟩ := by decide +kernel
  have hread : Blob.readNat (Hex.text million) = .ok 1000000 :=
    Hex.readWord_text_eq_ok_iff.2 ⟨by decide, by decide⟩
  obtain ⟨request, hcall, hresults⟩ := run_constantCall_answering (readAddress_base58 ⟨2⟩) hparse
    Address.empty.base58 "totalSupply()" ""
  have hrun : (TokenNumber.supply.ask (standard 1) (Address.base58 ⟨2⟩)).run (answering million)
      [] = (.ok 1000000, [] ++ [request]) := by
    rw [TokenNumber.ask, tokenSupply, Client.ask, Exchange.run_bind_of_ok (congrArg Prod.fst hcall),
      hcall, hread]
    rfl
  have hdecode : (standard 1).decode "totalSupply" Standard.tokenName million =
      .ok [.uint (Bytes.toNat (million.take 32))] :=
    (decode_eq_uint_iff (f := Standard.totalSupply) rfl rfl).2 ⟨by decide, rfl⟩
  obtain ⟨-, -, hagree⟩ := token_number_of_result hrun hresults
  obtain ⟨-, -, -, hword⟩ := hagree million _ rfl hdecode
  exact ⟨request, hrun, hresults, _, hdecode, hword nofun⟩

def longResult : Bytes := 1 :: Bytes.zeros 32

/-- The balance is another number than the declared one, and has more than 256 bits. -/
theorem token_balance_of_longResult :
    ∃ request, ((TokenNumber.balance (Address.base58 ⟨1⟩)).ask (standard 1)
        (Address.base58 ⟨2⟩)).run (answering longResult) [] =
          (.ok (Nat.pow 2 256), [] ++ [request]) ∧
      Results (answering longResult) [] request (Hex.text longResult) ∧
      (standard 1).decode "balanceOf" Standard.tokenName longResult =
        .ok [.uint (Nat.pow 2 248)] := by
  have hparse : Json.parse ConstantAnswer.record.reader (answerWith longResult).body =
      .ok ⟨⟨true, none, none⟩, [Hex.text longResult], 0⟩ := by decide +kernel
  have hread : Quantity.readNat (Hex.text longResult) = .ok (Nat.pow 2 256) := by
    rw [Hex.readNat_text (by decide)]
    decide
  have htokens : Registry.tokens "balanceOf" 0 Standard.balanceOf.inputTypes
      [.address (Address.base58 ⟨1⟩)] = .ok [.address ⟨1⟩] := by
    have htypes : Standard.balanceOf.inputTypes = [.address] := rfl
    rw [htypes, Registry.tokens, AbiArgument.token, Address.parse_base58]
    rfl
  have hencode : (standard 1).encode "balanceOf" Standard.tokenName
      [.address (Address.base58 ⟨1⟩)] =
        .ok (Standard.balanceOf.selector ++ AbiToken.encode [.address ⟨1⟩]) :=
    except_mapError_eq_ok_iff.2 ((Registry.encode_eq_ok_iff rfl).2 ⟨rfl, _, htokens, rfl⟩)
  obtain ⟨request, hcall, hresults⟩ := run_constantCall_answering (readAddress_base58 ⟨2⟩) hparse
    (Address.base58 ⟨1⟩) "balanceOf(address)" (Hex.text (AbiToken.encode [.address ⟨1⟩]))
  have hdrop : (Standard.balanceOf.selector ++ AbiToken.encode [.address ⟨1⟩]).drop 4 =
      AbiToken.encode [.address ⟨1⟩] := List.drop_left' Standard.balanceOf.length_selector
  refine ⟨request, ?run, hresults, ?decode⟩
  case run =>
    rw [TokenNumber.ask, tokenBalance, Exchange.run_ofExcept_ok_bind (readAddress_base58 ⟨1⟩),
      Exchange.run_ofExcept_ok_bind hencode, hdrop,
      Exchange.run_bind_of_ok (congrArg Prod.fst hcall), hcall, hread]
    rfl
  case decode =>
    exact (decode_eq_uint_iff (f := Standard.balanceOf) rfl rfl).2 ⟨by decide, by decide⟩

end Tronkit.Client
