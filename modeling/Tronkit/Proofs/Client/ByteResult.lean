import Tronkit.Proofs.Client.TokenNumber
import Tronkit.Proofs.Node.Inquiry

/-!
# Bytes of a contract

The code of a contract, what a dry run returns and the allowance of a token come as a text. The mark
`0x` in front says that the text is the digits of the bytes. Without it the text is not read at all:
it stands for its own characters. So digits without a mark are other bytes, and twice as many. An
allowance is then a number all the same, and the right one only for the word whose digits are all
threes.
-/

namespace Tronkit.Client

open Node

/-! ## Texts as results -/

def TellsText (net : Transport) (earlier : List Request) (request : Request) (s : String) : Prop :=
  ∃ response, net.reply earlier request = .ok response ∧ Status.isSuccess response.status ∧
    Rpc.readResult response.body = .ok (.string s)

def Makes {α : Type} (x : Exchange ClientError α) (s : String) (r : Except ClientError α) : Prop :=
  ∀ net sent request, (x.run net sent).2 = sent ++ [request] → TellsText net sent request s →
    (x.run net sent).1 = r

def allowanceOf (c : Client) (bs : Bytes) : Except ClientError Nat := do
  let values ← c.decode "allowance" Standard.tokenName bs
  (values.head?.bind AbiValue.asUint?).elim
    (.error (.invalidResponse ("unexpected allowance result 0x" ++ Hex.text bs))) .ok

structure TakesFor (c : Client) (s : String) (bs : Bytes) : Prop where
  code : ∀ address, Makes (ofNode (Rpc.code address)) s (.ok bs)
  call : ∀ tx, Makes (call tx) s (.ok bs)
  allowance : ∀ contract owner spender,
    Makes (c.tokenAllowance contract owner spender) s (c.allowanceOf bs)

def blobOf (method : String) (reply : Except TransportError Response) :
    Except ClientError Bytes :=
  (Rpc.resultText method reply >>= fun s =>
    (Rpc.readBlob s).mapError fun fault =>
      .invalidResponse (method ++ ": " ++ fault.message)).mapError .ofNode

theorem concludes_code (address : String) :
    (ofNode (Rpc.code address)).Concludes (Rpc.IsCall "eth_getCode") (blobOf "eth_getCode") :=
  (Rpc.concludes_callAs _ _ _).mapError _

theorem concludes_call (tx : Transaction) :
    (call tx).Concludes (Rpc.IsCall "eth_call") (blobOf "eth_call") :=
  .after fun _ _ => (Rpc.concludes_callAs _ _ _).mapError _

theorem concludes_tokenAllowance (c : Client) (contract owner spender : String) :
    (c.tokenAllowance contract owner spender).Concludes (Rpc.IsCall "eth_call")
      fun reply => blobOf "eth_call" reply >>= c.allowanceOf := by
  refine .after fun data _ => ?_
  simp only [Exchange.ofOption_eq_ofExcept, Exchange.ofExcept_bind_ofExcept]
  exact (concludes_call _).before c.allowanceOf

section Reads

variable {c : Client} {s : String} {bs : Bytes}

theorem blobOf_of_tellsText {net : Transport} {sent : List Request} {request : Request}
    (h : TellsText net sent request s) (hread : Rpc.readBlob s = .ok bs) (method : String) :
    blobOf method (net.reply sent request) = .ok bs := by
  obtain ⟨response, hreply, hstatus, hresult⟩ := h
  have htext : Rpc.resultText method (net.reply sent request) = .ok s := by
    rw [Rpc.resultText, bodyOf_eq_ok_iff.2 ⟨response, hreply, hstatus, rfl⟩, ok_bind, hresult]
    rfl
  rw [blobOf, htext, ok_bind, hread]
  rfl

theorem takesFor_of_readBlob (hread : Rpc.readBlob s = .ok bs) : c.TakesFor s bs where
  code address net sent request hsent htells := by
    rw [((concludes_code address).outcome hsent).2, blobOf_of_tellsText htells hread]
  call tx net sent request hsent htells := by
    rw [((concludes_call tx).outcome hsent).2, blobOf_of_tellsText htells hread]
  allowance contract owner spender net sent request hsent htells := by
    rw [((concludes_tokenAllowance c contract owner spender).outcome hsent).2,
      blobOf_of_tellsText htells hread, ok_bind]

end Reads

theorem readBlob_marked (bs : Bytes) : Rpc.readBlob ("0x" ++ Hex.text bs) = .ok bs := by
  rw [Rpc.readBlob, if_pos (by simp), Quantity.readBytes_mark_text]

theorem readBlob_unmarked (bs : Bytes) :
    Rpc.readBlob (Hex.text bs) = .ok (textBytes (Hex.text bs)) := by
  have hx : 'x' ∉ Hex.encode bs := fun hmem =>
    absurd (Hex.isHex_of_mem_encode bs 'x' hmem) (by decide)
  refine if_neg fun hmark => hx (List.mem_of_mem_take (i := 2) ?_)
  rw [Hex.text, String.toList_ofList] at hmark
  rw [hmark]
  decide

/-! ## Allowances -/

section Allowance

variable {c : Client} {f : AbiFunction} {bits : Nat}

theorem allowanceOf_eq_ok_iff (hf : c.registry.method Standard.tokenName "allowance" = .ok f)
    (houtputs : f.outputTypes = [.uint bits]) {bs : Bytes} {n : Nat} :
    c.allowanceOf bs = .ok n ↔ 32 ≤ bs.length ∧ n = Bytes.toNat (bs.take 32) := by
  rw [← decode_eq_uint_iff hf houtputs, allowanceOf]
  constructor
  · intro h
    obtain ⟨values, hdecode, hvalues⟩ := bind_eq_ok_iff.1 h
    -- One output is declared, so the first value is the only one.
    obtain ⟨v, rfl⟩ := List.length_eq_one_iff.1
      ((length_of_decode hf hdecode).trans (congrArg List.length houtputs))
    cases v with
    | uint m =>
      cases hvalues
      exact hdecode
    | _ => cases hvalues
  · intro h
    rw [h]
    rfl

/-- Digits with the mark are read as the bytes, and without it as their own characters. Those are
other bytes unless there are none, and allow another number unless the word is all threes. -/
theorem result_read_by_mark (hf : c.registry.method Standard.tokenName "allowance" = .ok f)
    (houtputs : f.outputTypes = [.uint bits]) (bs : Bytes) :
    c.TakesFor ("0x" ++ Hex.text bs) bs ∧ c.TakesFor (Hex.text bs) (textBytes (Hex.text bs)) ∧
      (textBytes (Hex.text bs) = bs ↔ bs = []) ∧
      ((∃ n, c.allowanceOf bs = .ok n ∧ c.allowanceOf (textBytes (Hex.text bs)) = .ok n) ↔
        bs.take 32 = List.replicate 32 0x33) := by
  refine ⟨takesFor_of_readBlob (readBlob_marked bs), takesFor_of_readBlob (readBlob_unmarked bs),
    ?bytes, ?number⟩
  case bytes =>
    constructor
    · intro h
      have hlen := congrArg List.length h
      rw [Hex.length_textBytes_text] at hlen
      exact List.length_eq_zero_iff.1 (by omega)
    · rintro rfl
      rfl
  case number =>
    simp only [allowanceOf_eq_ok_iff hf houtputs]
    constructor
    · rintro ⟨n, ⟨hlen, rfl⟩, hlen', hn⟩
      have hsame : (bs.take 32).length = ((textBytes (Hex.text bs)).take 32).length := by
        rw [List.length_take_of_le hlen, List.length_take_of_le hlen']
      exact (Hex.take_textBytes_text_iff hlen).1 ((Bytes.toNat_inj hsame).1 hn).symm
    · intro h
      have hlength := congrArg List.length h
      rw [List.length_take, List.length_replicate] at hlength
      have hlen : 32 ≤ bs.length := by omega
      refine ⟨_, ⟨hlen, rfl⟩, by simp; omega, ?_⟩
      rw [(Hex.take_textBytes_text_iff hlen).2 h]

end Allowance

theorem result_read_by_mark_of_million :
    (standard 1).registry.method Standard.tokenName "allowance" = .ok Standard.allowance ∧
      Standard.allowance.outputTypes = [.uint 256] ∧
      ¬∃ n, (standard 1).allowanceOf million = .ok n ∧
        (standard 1).allowanceOf (textBytes (Hex.text million)) = .ok n := by
  obtain ⟨-, -, -, hnumber⟩ :=
    result_read_by_mark (c := standard 1) (f := Standard.allowance) rfl rfl million
  exact ⟨rfl, rfl, mt hnumber.1 (by decide)⟩

def resultAnswer (s : String) : Response :=
  ⟨200, textBytes ("\x7b\"jsonrpc\":\"2.0\",\"result\":\"" ++ s ++ "\",\"id\":2023\x7d")⟩

theorem sent_code (address : String) (net : Transport) (sent : List Request) :
    ∃ request, ((ofNode (Rpc.code address)).run net sent).2 = sent ++ [request] := by
  rw [ofNode, Exchange.run_mapError, Rpc.code, Rpc.run_callAs]
  exact ⟨_, rfl⟩

/-- The code of one byte is read as the two characters of its digits. -/
theorem code_without_mark :
    let net (s : String) : Transport := ⟨fun _ _ => .ok (resultAnswer s)⟩
    ((ofNode (Rpc.code "")).run (net ("0x" ++ Hex.text [1])) []).1 = .ok [1] ∧
      ((ofNode (Rpc.code "")).run (net (Hex.text [1])) []).1 = .ok [0x30, 0x31] := by
  intro net
  have hmarked : Rpc.readResult (resultAnswer ("0x" ++ Hex.text [1])).body =
      .ok (.string ("0x" ++ Hex.text [1])) := by decide +kernel
  have hunmarked : Rpc.readResult (resultAnswer (Hex.text [1])).body =
      .ok (.string (Hex.text [1])) := by decide +kernel
  have hcode (s : String) (bs : Bytes) (hread : Rpc.readBlob s = .ok bs)
      (hresult : Rpc.readResult (resultAnswer s).body = .ok (.string s)) :
      ((ofNode (Rpc.code "")).run (net s) []).1 = .ok bs := by
    obtain ⟨request, hsent⟩ := sent_code "" (net s) []
    have htakes : (standard 1).TakesFor s bs := takesFor_of_readBlob hread
    exact htakes.code "" (net s) [] request hsent ⟨_, rfl, rfl, hresult⟩
  exact ⟨hcode _ _ (readBlob_marked [1]) hmarked, hcode _ _ (readBlob_unmarked [1]) hunmarked⟩

end Tronkit.Client
