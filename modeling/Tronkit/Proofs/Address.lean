import Tronkit.Model.Address
import Tronkit.Proofs.Base58
import Tronkit.Proofs.Json.Strings
import Tronkit.Proofs.Text.Hex

/-!
# The texts of an address

Each reader of addresses accepts the forms of an address that it is meant for, and no other text.
An address has one base58 form, of 34 characters with a T in front: the value of its bytes and
checksum lies between `26 * 58 ^ 33` and `27 * 58 ^ 33`, and the checksum has no part in that.
-/

namespace Tronkit.Address

@[simp] theorem length_hashBytes (a : Address) : a.hashBytes.length = 20 := by
  simp [hashBytes]

theorem ofHash_hashBytes (a : Address) : ofHash a.hashBytes = a := by
  have hlt : a.hash.toNat < Nat.pow 256 20 := a.hash.isLt
  have h : Bytes.toNat a.hashBytes = a.hash.toNat := Bytes.toNat_ofNat_of_lt hlt
  simp [ofHash, h]

theorem hashBytes_ofHash {bs : Bytes} (h : bs.length = 20) : (ofHash bs).hashBytes = bs := by
  have hlt : bs.toNat < Nat.pow 256 20 := h ▸ Bytes.toNat_lt bs
  have hfit : bs.toNat < 2 ^ 160 := hlt
  have hval : (ofHash bs).hash.toNat = bs.toNat := by
    rw [ofHash, BitVec.toNat_ofNat, Nat.mod_eq_of_lt hfit]
  rw [hashBytes, hval, ← h, Bytes.ofNat_toNat]

theorem ofHash_eq_iff {bs : Bytes} {a : Address} (h : bs.length = 20) :
    ofHash bs = a ↔ bs = a.hashBytes := by
  constructor
  · intro ha
    rw [← ha, hashBytes_ofHash h]
  · intro hbs
    rw [hbs, ofHash_hashBytes]

theorem ofBytes?_eq_some_iff {bs : Bytes} {a : Address} :
    ofBytes? bs = some a ↔ bs = a.bytes := by
  constructor
  · intro h
    unfold ofBytes? at h
    split at h
    · rename_i hash
      split at h
      · rename_i hlen
        rw [Option.some.injEq, ofHash_eq_iff hlen] at h
        rw [h, bytes]
      · cases h
    · cases h
  · rintro rfl
    rw [bytes, ofBytes?, if_pos a.length_hashBytes, ofHash_hashBytes]

theorem length_bytes (a : Address) : a.bytes.length = 21 := by simp [bytes]

theorem ofList_eq_iff (s : String) (cs : List Char) : s = String.ofList cs ↔ s.toList = cs := by
  constructor
  · rintro rfl
    exact String.toList_ofList
  · rintro rfl
    exact String.ofList_toList.symm

theorem readBase58_eq_ok_iff {s : String} {a : Address} :
    readBase58 s = .ok a ↔ s = a.base58 := by
  rw [base58, ofList_eq_iff, ← Base58.decodeChecked_eq_ok_iff, readBase58]
  cases h : Base58.decodeChecked s.toList with
  | error e => simp
  | ok bs =>
    rw [Except.ok.injEq, ← ofBytes?_eq_some_iff]
    cases hbs : ofBytes? bs <;> simp [hbs]

theorem not_spells_mark (cs : List Char) (bs : Bytes) :
    ¬Hex.Spells ('0' :: 'x' :: cs) (Hex.encode bs) := by
  intro h
  have hmem : 'x' ∈ Hex.encode bs := by
    rw [← h]
    exact List.mem_map_of_mem (f := Char.toLower) (a := 'x') (by simp)
  obtain ⟨d, hd, hdigit⟩ := Hex.digit_of_mem_encode hmem
  have table : ∀ d < 16, 'x' ≠ Hex.digit d := by decide
  exact table d hd hdigit

theorem spells_stripMark {cs : List Char} {bs : Bytes} :
    Hex.Spells (stripMark cs) (Hex.encode bs) ↔
      Hex.Spells cs (Hex.encode bs) ∨
        ∃ ds, cs = '0' :: 'x' :: ds ∧ Hex.Spells ds (Hex.encode bs) := by
  unfold stripMark
  split
  · rename_i ds
    constructor
    · intro h
      exact .inr ⟨ds, rfl, h⟩
    · rintro (h | ⟨ds', hds, h⟩)
      · exact absurd h (not_spells_mark ds bs)
      · cases hds
        exact h
  · rename_i hmark
    constructor
    · exact Or.inl
    · rintro (h | ⟨ds, rfl, -⟩)
      · exact h
      · exact absurd rfl (hmark ds)

theorem readHex_of_decode {s : String} {bs : Bytes} {a : Address}
    (h : Hex.decode (stripMark s.toList) = .ok bs) :
    readHex s = .ok a ↔ bs = a.bytes ∨ bs = a.hashBytes := by
  rw [readHex, h]
  by_cases hlen : bs.length = 20
  · have hne : bs ≠ a.bytes := by
      intro hbs
      rw [hbs, length_bytes] at hlen
      exact absurd hlen (by decide)
    rw [← ofHash_eq_iff hlen]
    simp only [if_pos hlen, hne, false_or, Except.ok.injEq]
  · have hne : bs ≠ a.hashBytes := by
      intro hbs
      rw [hbs, length_hashBytes] at hlen
      exact hlen rfl
    rw [← ofBytes?_eq_some_iff]
    simp only [if_neg hlen, hne, or_false]
    cases ofBytes? bs <;> simp

theorem readHex_eq_ok_iff_spells {s : String} {a : Address} :
    readHex s = .ok a ↔
      Hex.Spells (stripMark s.toList) (Hex.encode a.bytes) ∨
        Hex.Spells (stripMark s.toList) (Hex.encode a.hashBytes) := by
  rw [← Hex.decode_eq_ok_iff, ← Hex.decode_eq_ok_iff]
  cases h : Hex.decode (stripMark s.toList) with
  | error e => simp [readHex, h]
  | ok bs => rw [readHex_of_decode h, Except.ok.injEq, Except.ok.injEq]

theorem readHex_eq_ok_iff {s : String} {a : Address} :
    readHex s = .ok a ↔
      Hex.SameText s a.hex ∨ Hex.SameText s ("0x" ++ a.hex) ∨
        Hex.SameText s (Hex.text a.hashBytes) ∨ Hex.SameText s a.evmHex := by
  rw [readHex_eq_ok_iff_spells, hex, evmHex, spells_stripMark, spells_stripMark,
    ← Hex.sameText_text_iff, ← Hex.sameText_text_iff, ← Hex.sameText_mark_iff,
    ← Hex.sameText_mark_iff, or_assoc]

theorem base58_shape (a : Address) :
    ∃ cs, a.base58.toList = 'T' :: cs ∧ cs.length = 33 := by
  have hlen : (a.hashBytes ++ Base58.checksum a.bytes).length = 24 := by
    rw [List.length_append, length_hashBytes, Base58.length_checksum]
  -- The bounds leave the checksum open: they hold for any 24 bytes behind the first.
  have hlow : 26 * Nat.pow 58 33 ≤ (0x41 : UInt8).toNat * Nat.pow 256 24 := by
    decide
  have hhigh : ((0x41 : UInt8).toNat + 1) * Nat.pow 256 24 ≤ (26 + 1) * Nat.pow 58 33 := by
    decide
  obtain ⟨cs, hcs, hk⟩ := Base58.encode_of_bounds (b := 0x41) (by decide)
    (a.hashBytes ++ Base58.checksum a.bytes) (d := 26) (k := 33) (by decide) (by decide)
    (hlen ▸ hlow) (hlen ▸ hhigh)
  refine ⟨cs, ?_, hk⟩
  rw [base58, String.toList_ofList, Base58.encodeChecked]
  exact hcs

theorem looksBase58_base58 (a : Address) : looksBase58 a.base58.toList = true := by
  obtain ⟨cs, hcs, hk⟩ := a.base58_shape
  have hsize : Utf8.size a.base58.toList = a.base58.toList.length := by
    rw [base58, String.toList_ofList, Base58.encodeChecked, Base58.size_encode]
  rw [looksBase58, hsize, hcs, List.length_cons, hk]
  rfl

theorem size_of_spells_bytes {cs : List Char} {a : Address}
    (h : Hex.Spells cs (Hex.encode a.bytes)) : Utf8.size cs = 42 := by
  rw [Hex.size_of_spells h, length_bytes]

theorem size_of_spells_hashBytes {cs : List Char} {a : Address}
    (h : Hex.Spells cs (Hex.encode a.hashBytes)) : Utf8.size cs = 40 := by
  rw [Hex.size_of_spells h, length_hashBytes]

theorem take_of_spells {cs : List Char} {a : Address} (h : Hex.Spells cs (Hex.encode a.bytes)) :
    cs.take 2 = ['4', '1'] := by
  have hdigits : Hex.encode a.bytes = '4' :: '1' :: Hex.encode a.hashBytes := by
    have hpair : Hex.pair 0x41 = ['4', '1'] := rfl
    rw [bytes, Hex.encode_cons, hpair, List.cons_append, List.cons_append, List.nil_append]
  rw [Hex.spells_iff_map_lower, hdigits] at h
  obtain ⟨c, l, rfl, hc, hl⟩ := List.map_eq_cons_iff.1 h
  obtain ⟨d, ds, rfl, hd, -⟩ := List.map_eq_cons_iff.1 hl
  rw [Hex.lower_eq_iff (by decide)] at hc hd
  rw [hc, hd]
  rfl

theorem looksTronHex_of_spells {cs : List Char} {a : Address}
    (h : Hex.Spells (stripMark cs) (Hex.encode a.bytes)) : looksTronHex cs = true := by
  simp only [looksTronHex, size_of_spells_bytes h, take_of_spells h]
  decide

theorem looksEvmHex_of_spells {cs : List Char} {a : Address}
    (h : Hex.Spells cs (Hex.encode a.hashBytes)) : looksEvmHex ('0' :: 'x' :: cs) = true := by
  have hlen : cs.length = 40 := by
    rw [← List.length_map (f := Char.toLower), h, Hex.length_encode, length_hashBytes]
  have hall : cs.all Digits.isHex = true := List.all_eq_true.2 (Hex.isHex_of_spells h)
  rw [looksEvmHex, hlen, hall]
  rfl

theorem parse_base58 (a : Address) : parse a.base58 = .ok a := by
  rw [parse, if_pos a.looksBase58_base58, readBase58_eq_ok_iff]

theorem base58_injective : Function.Injective base58 := by
  intro a b h
  have hparse := parse_base58 a
  rw [h, parse_base58] at hparse
  exact (Except.ok.inj hparse).symm

theorem looksBase58_mark (cs : List Char) : looksBase58 ('0' :: 'x' :: cs) = false := by
  simp [looksBase58]

theorem parse_of_readHex {s : String} {a : Address} (h : readHex s = .ok a)
    (hbase58 : looksBase58 s.toList = false)
    (hhex : looksTronHex s.toList = true ∨ looksEvmHex s.toList = true) : parse s = .ok a := by
  rw [parse, hbase58, if_neg Bool.false_ne_true, if_pos]
  · exact h
  · rw [Bool.or_eq_true]
    exact hhex

theorem parse_of_sameText {s : String} {a : Address}
    (h : Hex.SameText s a.hex ∨ Hex.SameText s ("0x" ++ a.hex) ∨ Hex.SameText s a.evmHex) :
    parse s = .ok a := by
  have hread : readHex s = .ok a := by
    rw [readHex_eq_ok_iff]
    rcases h with h | h | h
    · exact .inl h
    · exact .inr (.inl h)
    · exact .inr (.inr (.inr h))
  rcases h with h | h | h
  · rw [hex, Hex.sameText_text_iff] at h
    have hsize := size_of_spells_bytes h
    refine parse_of_readHex hread ?_ (.inl ?_)
    · simp [looksBase58, hsize]
    · exact looksTronHex_of_spells (spells_stripMark.2 (.inl h))
  · rw [hex, Hex.sameText_mark_iff] at h
    obtain ⟨cs, hcs, hspells⟩ := h
    refine parse_of_readHex hread ?_ (.inl ?_)
    · rw [hcs, looksBase58_mark]
    · exact looksTronHex_of_spells (spells_stripMark.2 (.inr ⟨cs, hcs, hspells⟩))
  · rw [evmHex, Hex.sameText_mark_iff] at h
    obtain ⟨cs, hcs, hspells⟩ := h
    refine parse_of_readHex hread ?_ (.inr ?_)
    · rw [hcs, looksBase58_mark]
    · rw [hcs, looksEvmHex_of_spells hspells]

theorem parse_hex (a : Address) : parse a.hex = .ok a := parse_of_sameText (.inl rfl)

/-- Digits of the hash alone are no address to `parse`: their size is neither that of the base58
form nor that of the form with the leading byte. -/
theorem not_parse_of_hashBytes {s : String} {a b : Address}
    (h : Hex.SameText s (Hex.text a.hashBytes)) : parse s ≠ .ok b := by
  rw [Hex.sameText_text_iff] at h
  have hsize := size_of_spells_hashBytes h
  have hmark : ∀ cs, s.toList ≠ '0' :: 'x' :: cs := by
    intro cs hcs
    rw [hcs] at h
    exact not_spells_mark cs _ h
  have hstrip : stripMark s.toList = s.toList := by
    unfold stripMark
    split
    · rename_i cs hcs
      exact absurd hcs (hmark cs)
    · rfl
  have hbase58 : looksBase58 s.toList = false := by simp [looksBase58, hsize]
  have htron : looksTronHex s.toList = false := by simp [looksTronHex, hstrip, hsize]
  have hevm : looksEvmHex s.toList = false := by
    unfold looksEvmHex
    split
    · rename_i cs hcs
      exact absurd hcs (hmark cs)
    · rfl
  rw [parse, hbase58, htron, hevm]
  intro hread
  cases hread

theorem parse_eq_ok_iff {s : String} {a : Address} :
    parse s = .ok a ↔
      s = a.base58 ∨
        Hex.SameText s a.hex ∨ Hex.SameText s ("0x" ++ a.hex) ∨ Hex.SameText s a.evmHex := by
  constructor
  · intro h
    have hparse := h
    unfold parse at h
    split at h
    · exact .inl (readBase58_eq_ok_iff.1 h)
    · split at h
      · rcases readHex_eq_ok_iff.1 h with hform | hform | hform | hform
        · exact .inr (.inl hform)
        · exact .inr (.inr (.inl hform))
        · exact absurd hparse (not_parse_of_hashBytes hform)
        · exact .inr (.inr (.inr hform))
      · cases h
  · rintro (rfl | h)
    · exact parse_base58 a
    · exact parse_of_sameText h

def Alike (s t : String) : Prop := ∃ a, parse s = .ok a ∧ parse t = .ok a

def Denotes (s : String) (a : Address) : Prop :=
  parse s = .ok a ∨ readBase58 s = .ok a ∨ readHex s = .ok a

theorem parse_or_readHex_of_denotes {s : String} {a : Address} (h : Denotes s a) :
    parse s = .ok a ∨ Hex.SameText s (Hex.text a.hashBytes) := by
  rcases h with h | h | h
  · exact .inl h
  · rw [readBase58_eq_ok_iff] at h
    exact .inl (parse_eq_ok_iff.2 (.inl h))
  · rcases readHex_eq_ok_iff.1 h with hform | hform | hform | hform
    · exact .inl (parse_of_sameText (.inl hform))
    · exact .inl (parse_of_sameText (.inr (.inl hform)))
    · exact .inr hform
    · exact .inl (parse_of_sameText (.inr (.inr hform)))

theorem denotes_unique {s : String} {a b : Address} (ha : Denotes s a) (hb : Denotes s b) :
    a = b := by
  rcases parse_or_readHex_of_denotes ha with ha | ha
  · rcases parse_or_readHex_of_denotes hb with hb | hb
    · exact Except.ok.inj (ha.symm.trans hb)
    · exact absurd ha (not_parse_of_hashBytes hb)
  · rcases parse_or_readHex_of_denotes hb with hb | hb
    · exact absurd hb (not_parse_of_hashBytes ha)
    · have hreada : readHex s = .ok a := readHex_eq_ok_iff.2 (.inr (.inr (.inl ha)))
      have hreadb : readHex s = .ok b := readHex_eq_ok_iff.2 (.inr (.inr (.inl hb)))
      exact Except.ok.inj (hreada.symm.trans hreadb)

theorem parse_render (a : Address) : Json.parse reader (Utf8.encode a.render) = .ok a := by
  have hstring := Json.stringAt_encode a.base58 []
  rw [List.append_nil] at hstring
  have hparse : parse? a.base58 = some a := by
    rw [parse?, parse_base58]
    rfl
  rw [Json.parse_eq_ok_iff]
  refine ⟨[], ?_, rfl⟩
  rw [reader, Json.Reader.filterMap_eq_ok_iff]
  exact ⟨a.base58, hstring, hparse⟩

/-- Each reader of addresses accepts the texts of an address and inverts them. The base58 form has
34 characters and begins with a T, a text stands for one address only, and an address has one
base58 form, in JSON as well. -/
theorem readers_exact :
    (∀ s a, parse s = .ok a ↔
      s = a.base58 ∨
        Hex.SameText s a.hex ∨ Hex.SameText s ("0x" ++ a.hex) ∨ Hex.SameText s a.evmHex) ∧
    (∀ s a, readBase58 s = .ok a ↔ s = a.base58) ∧
    (∀ s a, readHex s = .ok a ↔
      Hex.SameText s a.hex ∨ Hex.SameText s ("0x" ++ a.hex) ∨
        Hex.SameText s (Hex.text a.hashBytes) ∨ Hex.SameText s a.evmHex) ∧
    (∀ a : Address, a.base58.toList.length = 34 ∧ a.base58.toList.head? = some 'T') ∧
    (∀ s a b, Denotes s a → Denotes s b → a = b) ∧
    (∀ s t a, readBase58 s = .ok a → readBase58 t = .ok a → s = t) ∧
    (∀ a : Address, Json.parse reader (Utf8.encode a.render) = .ok a) := by
  refine ⟨fun s a => parse_eq_ok_iff, fun s a => readBase58_eq_ok_iff,
    fun s a => readHex_eq_ok_iff, ?_, fun s a b => denotes_unique, ?_, parse_render⟩
  · intro a
    obtain ⟨cs, hcs, hlen⟩ := a.base58_shape
    rw [hcs, List.length_cons, hlen]
    exact ⟨rfl, rfl⟩
  · intro s t a hs ht
    rw [readBase58_eq_ok_iff] at hs ht
    rw [hs, ht]

end Tronkit.Address
