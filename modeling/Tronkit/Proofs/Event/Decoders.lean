import Tronkit.Proofs.Abi.Events
import Tronkit.Proofs.Event.Positional
import Tronkit.Proofs.Number.Quantity

/-!
# The two decoders of token events

A token event is in the log of a block as words under the names of its parameters, and in the event
index as texts under their positions. Both are decoded as the event, so the two decoders agree on
the parties and on the value of every event, whatever texts the index has for them.
-/

namespace Tronkit.TokenEvent

open Json

def contract : TokenEvent → String
  | transfer c _ _ _ | approval c _ _ _ | approvalForAll c _ _ _ => c

def firstParty : TokenEvent → Address
  | transfer _ a _ _ | approval _ a _ _ | approvalForAll _ a _ _ => a

def secondParty : TokenEvent → Address
  | transfer _ _ b _ | approval _ _ b _ | approvalForAll _ _ b _ => b

def amount : TokenEvent → Nat
  | transfer _ _ _ v | approval _ _ _ v => v
  | approvalForAll _ _ _ approved => if approved then 1 else 0

def signature : TokenEvent → String
  | transfer .. => "Transfer(address,address,uint256)"
  | approval .. => "Approval(address,address,uint256)"
  | approvalForAll .. => "ApprovalForAll(address,address,bool)"

/-! ## The log of a block -/

def topics (e : TokenEvent) : List Bytes :=
  [Keccak.digest (textBytes e.signature), e.firstParty.topic, e.secondParty.topic]

def data (e : TokenEvent) : Bytes := Bytes.ofNat 32 e.amount

def declaration : TokenEvent → AbiEvent
  | transfer .. => Standard.transferEvent
  | approval .. => Standard.approvalEvent
  | approvalForAll .. => Standard.approvalForAllEvent

def token : TokenEvent → AbiToken
  | transfer _ _ _ v => .uint (BitVec.ofNat 256 v)
  | approval _ _ _ v => .uint (BitVec.ofNat 256 v)
  | approvalForAll _ _ _ approved => .bool approved

theorem declaration_mem (e : TokenEvent) : e.declaration ∈ Standard.events.events := by
  cases e with
  | transfer => exact .head _
  | approval => exact .tail _ (.head _)
  | approvalForAll => exact .tail _ (.tail _ (.head _))

theorem signature_declaration (e : TokenEvent) : e.declaration.signature = e.signature := by
  cases e with
  | transfer =>
    change Standard.transferEvent.signature = "Transfer(address,address,uint256)"
    decide
  | approval =>
    change Standard.approvalEvent.signature = "Approval(address,address,uint256)"
    decide
  | approvalForAll =>
    change Standard.approvalForAllEvent.signature = "ApprovalForAll(address,address,bool)"
    decide

theorem toNat_word {v : Nat} (h : v < Nat.pow 2 256) : (BitVec.ofNat 256 v).toNat = v :=
  Nat.mod_eq_of_lt h

theorem part_token {e : TokenEvent} (h : e.amount < Nat.pow 2 256) :
    e.token.part = .head (AbiToken.word e.amount) := by
  cases e with
  | transfer c a b v =>
    have hv : v < Nat.pow 2 256 := h
    rw [token, AbiToken.part, toNat_word hv]
    rfl
  | approval c a b v =>
    have hv : v < Nat.pow 2 256 := h
    rw [token, AbiToken.part, toNat_word hv]
    rfl
  | approvalForAll c a b approved => rfl

theorem encode_token {e : TokenEvent} (h : e.amount < Nat.pow 2 256) :
    AbiToken.encode [e.token] = e.data := by
  rw [AbiToken.encode, AbiToken.parts_eq_map, List.map_singleton, part_token h]
  simp [AbiToken.join, AbiToken.heads, AbiToken.tails, AbiToken.word, data]

theorem decode_declaration {e : TokenEvent} (h : e.amount < Nat.pow 2 256) :
    ∃ d, e.declaration.decode [e.firstParty.topic, e.secondParty.topic] e.data = .ok d ∧
      ofDecoded e.contract d = .ok e := by
  have hlen : (AbiToken.encode [e.token]).length < Nat.pow 2 32 := by
    rw [encode_token h, data, Bytes.length_ofNat]
    decide
  rw [← encode_token h]
  cases e with
  | transfer c a b v =>
    have hv : v < Nat.pow 2 256 := h
    refine ⟨_, AbiEvent.decode_ofParties (by decide) (.uint 256 _) hlen a b, ?_⟩
    rw [AbiValue.ofToken, toNat_word hv]
    rfl
  | approval c a b v =>
    have hv : v < Nat.pow 2 256 := h
    refine ⟨_, AbiEvent.decode_ofParties (by decide) (.uint 256 _) hlen a b, ?_⟩
    rw [AbiValue.ofToken, toNat_word hv]
    rfl
  | approvalForAll c a b approved =>
    exact ⟨_, AbiEvent.decode_ofParties (by decide) (.bool approved) hlen a b, rfl⟩

theorem ofLog_emitted {e : TokenEvent} (h : e.amount < Nat.pow 2 256) :
    ofLog .standard e.contract e.topics e.data = .ok e := by
  obtain ⟨d, hdecode, hevent⟩ := decode_declaration h
  rw [ofLog, topics, ← signature_declaration, ← AbiEvent.id,
    Registry.decodeLog_standard e.declaration_mem, hdecode]
  exact hevent

/-! ## The event index -/

/-- The text of a number: decimal digits, or hexadecimal digits behind `0x`. -/
inductive IsNumeral : String → Nat → Prop
  | decimal {cs : List Char} {n : Nat} (h : Digits.Denotes 10 cs n) : IsNumeral (String.ofList cs) n
  | hexadecimal {cs : List Char} {n : Nat} (h : Digits.Denotes 16 cs n) :
    IsNumeral (String.ofList ('0' :: 'x' :: cs)) n

def HasValue : TokenEvent → String → Prop
  | transfer _ _ _ v, s => IsNumeral s v
  | approval _ _ _ v, s => IsNumeral s v
  | approvalForAll _ _ _ approved, s => s = if approved then "true" else "false"

/-- The results of the event stand under their positions, the parties in any of the forms of an
address. -/
structure HasResults (e : TokenEvent) (results : List (String × String)) : Prop where
  first : ∃ s, results.lookup "0" = some s ∧ Address.parse s = .ok e.firstParty
  second : ∃ s, results.lookup "1" = some s ∧ Address.parse s = .ok e.secondParty
  third : ∃ s, results.lookup "2" = some s ∧ e.HasValue s

/-- The log of the event index: its data is the text of an object of texts, where of a repeated key
the last text counts. -/
structure IsIndexed (e : TokenEvent) (log : EventLog) : Prop where
  address : log.address = e.contract
  name : log.topics.head? = some (textBytes e.name)
  results : ∃ texts, Json.parse Reader.tree log.data = .ok (.object (ofTexts texts)) ∧
    e.HasResults texts.reverse

theorem readUint?_of_isNumeral {s : String} {n : Nat} (h : IsNumeral s n) :
    readUint? s = some n := by
  cases h with
  | @decimal cs n h =>
    have hmark : ∀ rest, cs ≠ '0' :: 'x' :: rest := by
      rintro rest rfl
      obtain ⟨ds, hds, -⟩ := Option.map_eq_some_iff.1 h.value
      exact Quantity.value?_of_mem hds 'x' (by simp) rfl
    rw [readUint?, String.toList_ofList]
    split
    · rename_i rest
      exact absurd rfl (hmark rest)
    · exact Quantity.number?_of_denotes h
  | hexadecimal h =>
    rw [readUint?, String.toList_ofList, Quantity.readNat_of_denotes h]
    rfl

section Results

variable {name s : String} {values : List String} {i : Nat}

theorem resultAt_of_getElem? (h : values[i]? = some s) : resultAt name values i = .ok s := by
  rw [resultAt, h]

theorem addressAt_of_getElem? {a : Address} (h : values[i]? = some s)
    (ha : Address.parse s = .ok a) : addressAt name values i = .ok a := by
  rw [addressAt, resultAt_of_getElem? h, ok_bind, ha]
  rfl

theorem uintAt_of_getElem? {n : Nat} (h : values[i]? = some s) (hn : IsNumeral s n) :
    uintAt name values i = .ok n := by
  rw [uintAt, resultAt_of_getElem? h, ok_bind, readUint?_of_isNumeral hn]
  rfl

end Results

theorem HasResults.getElem? {e : TokenEvent} {texts : List (String × String)}
    {values : List String} (h : e.HasResults texts)
    (hvalues : IsPositional (ofTexts texts) values) :
    (∃ s, values[0]? = some s ∧ Address.parse s = .ok e.firstParty) ∧
      (∃ s, values[1]? = some s ∧ Address.parse s = .ok e.secondParty) ∧
      ∃ s, values[2]? = some s ∧ e.HasValue s := by
  obtain ⟨⟨s₀, h₀, hfirst⟩, ⟨s₁, h₁, hsecond⟩, ⟨s₂, h₂, hthird⟩⟩ := h
  have hstored : ∀ {key s}, texts.lookup key = some s →
      (ofTexts texts).lookup key = some (.string s) := by
    intro key s hs
    rw [lookup_ofTexts, hs, Option.map_some]
  have hkey₀ : (ofTexts texts).lookup (decimalText 0) = some (.string s₀) := hstored h₀
  have hkey₁ : (ofTexts texts).lookup (decimalText 1) = some (.string s₁) := hstored h₁
  have hkey₂ : (ofTexts texts).lookup (decimalText 2) = some (.string s₂) := hstored h₂
  have hbelow₁ : ∀ j < 1, (ofTexts texts).lookup (decimalText j) ≠ none := by
    intro j hj
    obtain rfl : j = 0 := by omega
    simp [hkey₀]
  have hbelow₂ : ∀ j < 2, (ofTexts texts).lookup (decimalText j) ≠ none := by
    intro j hj
    rcases Nat.lt_succ_iff_lt_or_eq.1 hj with hj | rfl
    · exact hbelow₁ j hj
    · simp [hkey₁]
  exact ⟨⟨s₀, hvalues.getElem?_of_stored (fun j hj => nomatch hj) hkey₀, hfirst⟩,
    ⟨s₁, hvalues.getElem?_of_stored hbelow₁ hkey₁, hsecond⟩,
    ⟨s₂, hvalues.getElem?_of_stored hbelow₂ hkey₂, hthird⟩⟩

theorem HasResults.ofList {e : TokenEvent} {texts : List (String × String)}
    (h : e.HasResults texts.reverse) : e.HasResults (Keyed.ofList texts) := by
  obtain ⟨hfirst, hsecond, hthird⟩ := h
  simp only [← Keyed.lookup_ofList] at hfirst hsecond hthird
  exact ⟨hfirst, hsecond, hthird⟩

theorem ofEventLog_indexed {e : TokenEvent} {log : EventLog} (h : e.IsIndexed log) :
    ofEventLog log = .ok e := by
  obtain ⟨haddress, hname, texts, hparse, hresults⟩ := h
  obtain ⟨values, hvalues, hpositional⟩ := positionalResults_of_parse (parse_of_tree hparse)
  obtain ⟨⟨s₀, h₀, hfirst⟩, ⟨s₁, h₁, hsecond⟩, ⟨s₂, h₂, hthird⟩⟩ :=
    hresults.ofList.getElem? hpositional
  have htext : log.topics.head?.bind textOfBytes? = some e.name := by
    rw [hname, Option.bind_some, textOfBytes?_textBytes]
  rw [ofEventLog, htext, hvalues, haddress]
  cases e with
  | transfer c a b v =>
    simp only [name, ok_bind, pure_bind, addressAt_of_getElem? h₀ hfirst,
      addressAt_of_getElem? h₁ hsecond, uintAt_of_getElem? h₂ hthird]
    rfl
  | approval c a b v =>
    simp only [name, ok_bind, pure_bind, addressAt_of_getElem? h₀ hfirst,
      addressAt_of_getElem? h₁ hsecond, uintAt_of_getElem? h₂ hthird]
    rfl
  | approvalForAll c a b approved =>
    have happroved : equalsIgnoringCase s₂ "true" = approved := by
      rw [show s₂ = _ from hthird]
      cases approved <;> decide +kernel
    simp only [name, ok_bind, pure_bind, addressAt_of_getElem? h₀ hfirst,
      addressAt_of_getElem? h₁ hsecond, resultAt_of_getElem? h₂, happroved]
    rfl

/-- The log of a block and the log of the event index are decoded as the same event. -/
theorem decoders_agree (e : TokenEvent) (h : e.amount < Nat.pow 2 256) :
    ofLog .standard e.contract e.topics e.data = .ok e ∧
      ∀ log, e.IsIndexed log → ofEventLog log = .ok e :=
  ⟨ofLog_emitted h, fun _ hlog => ofEventLog_indexed hlog⟩

/-- A transfer, and its log in the index with blanks, an escape, a repeated key and one more key. -/
theorem decoders_agree_on_transfer :
    ∃ e log, e = transfer "c" ⟨1⟩ ⟨2⟩ 15 ∧ e.amount < Nat.pow 2 256 ∧ e.IsIndexed log ∧
      ofLog .standard e.contract e.topics e.data = .ok e ∧ ofEventLog log = .ok e := by
  let first := "0x0000000000000000000000000000000000000001"
  let second := "410000000000000000000000000000000000000002"
  let texts := [("to", ""), ("0", first), ("2", "9"), ("1", second), ("2", "0x0F")]
  let data := textBytes "\x7b \"to\":\"\", \"\\u0030\":\"0x0000000000000000000000000000000000000001\"," ++
    textBytes "\"2\":\"9\",\"1\":\"410000000000000000000000000000000000000002\"," ++
    textBytes "\"2\":\"0x0F\"\x7d"
  let log : EventLog := ⟨"c", [textBytes "Transfer"], data⟩
  have hdata : Json.parse Reader.tree data = .ok (.object (ofTexts texts)) := by decide +kernel
  have hfirst : Address.parse first = .ok ⟨1⟩ := by decide
  have hsecond : Address.parse second = .ok ⟨2⟩ := by decide
  have hthird : IsNumeral (String.ofList ['0', 'x', '0', 'F']) 15 :=
    .hexadecimal ⟨by decide, by decide⟩
  have hsmall : (transfer "c" ⟨1⟩ ⟨2⟩ 15).amount < Nat.pow 2 256 := by decide
  have hlog : (transfer "c" ⟨1⟩ ⟨2⟩ 15).IsIndexed log :=
    ⟨rfl, rfl, texts, hdata, ⟨first, rfl, hfirst⟩, ⟨second, rfl, hsecond⟩, ⟨"0x0F", rfl, hthird⟩⟩
  obtain ⟨hblock, hindex⟩ := decoders_agree _ hsmall
  exact ⟨_, log, rfl, hsmall, hlog, hblock, hindex log hlog⟩

end Tronkit.TokenEvent
