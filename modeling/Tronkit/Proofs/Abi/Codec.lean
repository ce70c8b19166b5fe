import Tronkit.Abi.Decoding
import Tronkit.Proofs.Bytes
import Tronkit.Proofs.Text.Utf8

/-!
# Values are read as they were written

A value of a flat type is one head, and one tail where it is dynamic. The heads and the tails of a
sequence are two stretches of the same data, so the reader is followed with both of them in view:
at the place of the next head stand all heads that are left, and at the place of the next tail all
tails that are left. Each value takes its share from the front of both. Only the offset of a tail has
to fit into four bytes, so static values are read from data of any length. Data that is read as a
single number may go on behind the word of the number.
-/

namespace Tronkit.AbiToken

def At (data : Bytes) (place : Nat) (bs : Bytes) : Prop :=
  ∃ front rest, data = front ++ (bs ++ rest) ∧ front.length = place

variable {data bs cs : Bytes} {place offset : Nat}

theorem At.left (h : At data place (bs ++ cs)) : At data place bs := by
  obtain ⟨front, rest, rfl, hlen⟩ := h
  exact ⟨front, cs ++ rest, by rw [List.append_assoc], hlen⟩

theorem At.right (h : At data place (bs ++ cs)) : At data (place + bs.length) cs := by
  obtain ⟨front, rest, rfl, hlen⟩ := h
  refine ⟨front ++ bs, rest, ?_, ?_⟩
  · rw [List.append_assoc, List.append_assoc]
  · rw [List.length_append, hlen]

theorem At.le_length (h : At data place bs) : place + bs.length ≤ data.length := by
  obtain ⟨front, rest, rfl, rfl⟩ := h
  rw [List.length_append, List.length_append]
  omega

theorem At.slice? (h : At data place bs) : data.slice? place bs.length = some bs := by
  have hle := h.le_length
  obtain ⟨front, rest, rfl, rfl⟩ := h
  rw [Bytes.slice?, if_pos hle, List.drop_left, List.take_left]

theorem At.natAt? {n : Nat} (h : At data place (word n)) (hn : n < Nat.pow 256 32) :
    natAt? data place = some n := by
  have hslice := h.slice?
  rw [length_word] at hslice
  rw [AbiToken.natAt?, wordAt?, hslice, Option.map_some, word, Bytes.toNat_ofNat_of_lt hn]

theorem At.sizeAt? {n : Nat} (h : At data place (word n)) (hn : n < Nat.pow 2 32) :
    sizeAt? data place = some n := by
  have hle : Nat.pow 2 32 ≤ Nat.pow 256 32 := by decide
  rw [AbiToken.sizeAt?, h.natAt? (by omega), Option.filter_some, if_pos (by simpa using hn)]

theorem At.countedAt? (hword : At data offset (word place)) (hbs : At data place (counted bs))
    (hdata : data.length < Nat.pow 2 32) : countedAt? data offset = some bs := by
  have hsize : At data place (word bs.length) := hbs.left
  have hbytes : At data (place + 32) bs := by
    have h := hbs.right
    rw [length_word, Bytes.padWords] at h
    exact h.left
  have hle := hbytes.le_length
  simp only [AbiToken.countedAt?, hword.sizeAt? (show place < Nat.pow 2 32 by omega),
    hsize.sizeAt? (show bs.length < Nat.pow 2 32 by omega), Option.bind_eq_bind, Option.bind_some]
  exact hbytes.slice?

/-- Tokens of the types that are no sequences. -/
inductive Fits : AbiType → AbiToken → Prop
  | address (a : Address) : Fits .address (.address a)
  | uint (bits : Nat) (w : BitVec 256) : Fits (.uint bits) (.uint w)
  | int (bits : Nat) (w : BitVec 256) : Fits (.int bits) (.int w)
  | bool (b : Bool) : Fits .bool (.bool b)
  | string (s : String) : Fits .string (.string s)
  | bytes (bs : Bytes) : Fits .bytes (.bytes bs)
  | fixedBytes {size : Nat} {bs : Bytes} (hlen : bs.length = size) (hpos : 1 ≤ size)
      (hle : size ≤ 32) : Fits (.fixedBytes size) (.fixedBytes bs)

def Stands (data : Bytes) (offset place : Nat) : Part → Prop
  | .head bs => At data offset bs
  | .tail bs => At data offset (word place) ∧ At data place bs

theorem length_padWords_of_le {size : Nat} (hlen : bs.length = size) (hpos : 1 ≤ size)
    (hle : size ≤ 32) : (Bytes.padWords bs).length = 32 := by
  rw [Bytes.padWords, Bytes.zeros, List.length_append, List.length_replicate, hlen]
  omega

theorem Fits.headSize {t : AbiType} {τ : AbiToken} (h : Fits t τ) : (part τ).headSize = 32 := by
  cases h with
  | fixedBytes hlen hpos hle => exact length_padWords_of_le hlen hpos hle
  | address | uint | int | bool => simp [part, Part.headSize]
  | string | bytes => rfl

theorem Fits.read {t : AbiType} {τ : AbiToken} (h : Fits t τ)
    (hpart : Stands data offset place (part τ))
    (hdata : (part τ).isTail = true → data.length < Nat.pow 2 32) :
    read t data offset = some (τ, offset + 32) := by
  have hword : ∀ w : BitVec 256, w.toNat < Nat.pow 256 32 := fun w => w.isLt
  cases h with
  | address a =>
    simp only [part, Stands] at hpart
    have hlt : a.hash.toNat < Nat.pow 256 20 := a.hash.isLt
    have hle : Nat.pow 256 20 ≤ Nat.pow 256 32 := by decide
    have hn := hpart.natAt? (by omega)
    rw [AbiToken.read, hn, Option.map_some, BitVec.ofNat_toNat, BitVec.setWidth_eq]
    rfl
  | uint bits w =>
    simp only [part, Stands] at hpart
    rw [AbiToken.read, hpart.natAt? (hword w), Option.map_some, BitVec.ofNat_toNat,
      BitVec.setWidth_eq]
    rfl
  | int bits w =>
    simp only [part, Stands] at hpart
    rw [AbiToken.read, hpart.natAt? (hword w), Option.map_some, BitVec.ofNat_toNat,
      BitVec.setWidth_eq]
    rfl
  | bool b =>
    simp only [part, Stands] at hpart
    have hlt : (if b then 1 else 0) < 256 := by cases b <;> decide
    have hle : 256 ≤ Nat.pow 256 32 := by decide
    have hn := hpart.natAt? (by omega)
    rw [AbiToken.read, boolAt?, hn, Option.filter_some, if_pos (by simpa using hlt)]
    cases b <;> rfl
  | string s =>
    simp only [part, Stands] at hpart
    obtain ⟨hhead, htail⟩ := hpart
    rw [AbiToken.read, hhead.countedAt? htail (hdata rfl), Option.map_some, lossyText_textBytes]
    rfl
  | bytes bs =>
    simp only [part, Stands] at hpart
    obtain ⟨hhead, htail⟩ := hpart
    rw [AbiToken.read, hhead.countedAt? htail (hdata rfl), Option.map_some]
    rfl
  | fixedBytes hlen hpos hle =>
    simp only [part, Stands] at hpart
    rw [Bytes.padWords] at hpart
    rw [AbiToken.read, ← hlen, hpart.left.slice?, Option.map_some]
    rfl

theorem stands_cons {p : Part} {ps : List Part} (hheads : At data offset (heads place (p :: ps)))
    (htails : At data place (tails (p :: ps))) :
    Stands data offset place p ∧ ∃ next, At data (offset + p.headSize) (heads next ps) ∧
      At data next (tails ps) := by
  cases p with
  | head bs => exact ⟨hheads.left, place, hheads.right, htails⟩
  | tail bs =>
    have hrest := hheads.right
    rw [length_word] at hrest
    exact ⟨⟨hheads.left, htails.left⟩, place + bs.length, hrest, htails.right⟩

theorem readAll_of_fits {types : List AbiType} {ts : List AbiToken}
    (hfits : List.Forall₂ Fits types ts) (hheads : At data offset (heads place (ts.map part)))
    (htails : At data place (tails (ts.map part)))
    (hdata : ∀ τ ∈ ts, (part τ).isTail = true → data.length < Nat.pow 2 32) :
    readAll types data offset = some (ts, offset + 32 * ts.length) := by
  induction hfits generalizing offset place with
  | nil => rfl
  | @cons t τ types ts hfit hfits ih =>
    obtain ⟨hpart, next, hheads', htails'⟩ := stands_cons hheads htails
    rw [hfit.headSize] at hheads'
    have hread := hfit.read hpart (hdata τ List.mem_cons_self)
    have hrest := ih hheads' htails' fun τ' hτ' => hdata τ' (List.mem_cons_of_mem τ hτ')
    have hoffset : offset + 32 + 32 * ts.length = offset + 32 * (τ :: ts).length := by
      rw [List.length_cons]
      omega
    simp only [readAll, hread, hrest, hoffset, Option.bind_eq_bind, Option.bind_some,
      Option.pure_def]

theorem at_join (ps : List Part) :
    At (join ps) 0 (heads (headsSize ps) ps) ∧ At (join ps) (headsSize ps) (tails ps) := by
  refine ⟨⟨[], tails ps, rfl, rfl⟩, heads (headsSize ps) ps, [], ?_, length_heads _ ps⟩
  rw [List.append_nil, join]

theorem headsSize_of_fits {types : List AbiType} {ts : List AbiToken}
    (hfits : List.Forall₂ Fits types ts) : headsSize (ts.map part) = 32 * ts.length := by
  induction hfits with
  | nil => rfl
  | cons hfit hfits ih =>
    rw [List.map_cons, headsSize, hfit.headSize, ih, List.length_cons]
    omega

theorem encode_ne_nil {types : List AbiType} {ts : List AbiToken}
    (hfits : List.Forall₂ Fits types ts) (hts : ts ≠ []) : encode ts ≠ [] := by
  intro hnil
  have hsize := headsSize_of_fits hfits
  have hpos := List.length_pos_iff.2 hts
  have hlen := length_heads (headsSize (ts.map part)) (ts.map part)
  rw [encode, parts_eq_map, join, List.append_eq_nil_iff] at hnil
  rw [hnil.1, List.length_nil] at hlen
  omega

/-- Encoded values are read as themselves, as long as their offsets fit into four bytes. -/
theorem decode_encode {types : List AbiType} {ts : List AbiToken}
    (hfits : List.Forall₂ Fits types ts)
    (hlen : ∀ τ ∈ ts, (part τ).isTail = true → (encode ts).length < Nat.pow 2 32) :
    decode types (encode ts) = .ok ts := by
  have hjoin : encode ts = join (ts.map part) := by rw [encode, parts_eq_map]
  obtain ⟨hheads, htails⟩ := at_join (ts.map part)
  rw [← hjoin] at hheads htails
  have hread := readAll_of_fits hfits hheads htails hlen
  have hempty : (encode ts = [] && !types.all AbiType.admitsEmpty) = false := by
    by_cases hts : ts = []
    · subst hts
      cases hfits
      rfl
    · simp [encode_ne_nil hfits hts]
  rw [decode, hempty, if_neg Bool.false_ne_true, hread]

/-! ## A single number -/

theorem natAt?_zero_eq_some_iff {n : Nat} :
    natAt? data 0 = some n ↔ 32 ≤ data.length ∧ n = Bytes.toNat (data.take 32) := by
  rw [AbiToken.natAt?, wordAt?, Bytes.slice?, Nat.zero_add, List.drop_zero]
  by_cases hlen : 32 ≤ data.length
  · simp [hlen, eq_comm]
  · simp [hlen]

theorem toNat_take_lt (data : Bytes) : Bytes.toNat (data.take 32) < Nat.pow 2 256 := by
  have hlt := Bytes.toNat_lt (data.take 32)
  have hle : Nat.pow 256 (data.take 32).length ≤ Nat.pow 256 32 :=
    Nat.pow_le_pow_right (by decide) (List.length_take_le _ _)
  have hpow : Nat.pow 256 32 = Nat.pow 2 256 := by decide
  omega

theorem read_uint_eq_some_iff {bits next : Nat} {w : BitVec 256} :
    read (.uint bits) data 0 = some (.uint w, next) ↔
      32 ≤ data.length ∧ w.toNat = Bytes.toNat (data.take 32) ∧ next = 32 := by
  have hlt := toNat_take_lt data
  rw [AbiToken.read, inWord, Option.map_map, Option.map_eq_some_iff]
  simp only [natAt?_zero_eq_some_iff, Function.comp, Prod.mk.injEq, AbiToken.uint.injEq,
    Nat.zero_add]
  constructor
  · rintro ⟨n, ⟨hlen, rfl⟩, rfl, rfl⟩
    exact ⟨hlen, BitVec.toNat_ofNat .. ▸ Nat.mod_eq_of_lt hlt, rfl⟩
  · rintro ⟨hlen, hw, rfl⟩
    exact ⟨_, ⟨hlen, rfl⟩, by rw [← hw, BitVec.ofNat_toNat, BitVec.setWidth_eq], rfl⟩

theorem exists_uint_of_read {t : AbiType} {w : BitVec 256} {next : Nat}
    (h : read t data offset = some (.uint w, next)) : ∃ bits, t = .uint bits := by
  cases t with
  | uint bits => exact ⟨bits, rfl⟩
  | address | int | bool | fixedBytes | bytes | string => simp [AbiToken.read, inWord] at h
  | array t => simp [AbiToken.read, Option.bind_eq_some_iff] at h
  | fixedArray t size =>
    rw [AbiToken.read] at h
    split at h <;> simp [Option.bind_eq_some_iff] at h
  | tuple types =>
    rw [AbiToken.read] at h
    split at h <;> simp [Option.bind_eq_some_iff] at h

theorem length_of_readAll {types : List AbiType} {ts : List AbiToken} {next : Nat}
    (h : readAll types data offset = some (ts, next)) : ts.length = types.length := by
  induction types generalizing offset ts with
  | nil =>
    cases h
    rfl
  | cons t types ih =>
    obtain ⟨⟨τ, mid⟩, -, h⟩ := Option.bind_eq_some_iff.1 h
    obtain ⟨⟨ts', next'⟩, hrest, h⟩ := Option.bind_eq_some_iff.1 h
    cases h
    rw [List.length_cons, List.length_cons, ih hrest]

theorem readAll_eq_uint_iff {types : List AbiType} {w : BitVec 256} :
    (∃ next, readAll types data 0 = some ([.uint w], next)) ↔
      (∃ bits, types = [.uint bits]) ∧ 32 ≤ data.length ∧
        w.toNat = Bytes.toNat (data.take 32) := by
  constructor
  · rintro ⟨next, h⟩
    obtain ⟨t, rfl⟩ := List.length_eq_one_iff.1 (length_of_readAll h).symm
    obtain ⟨⟨τ, mid⟩, hread, h⟩ := Option.bind_eq_some_iff.1 h
    cases h
    obtain ⟨bits, rfl⟩ := exists_uint_of_read hread
    obtain ⟨hlen, hw, -⟩ := read_uint_eq_some_iff.1 hread
    exact ⟨⟨bits, rfl⟩, hlen, hw⟩
  · rintro ⟨⟨bits, rfl⟩, hlen, hw⟩
    refine ⟨32, ?_⟩
    rw [readAll, read_uint_eq_some_iff.2 ⟨hlen, hw, rfl⟩]
    rfl

theorem length_of_decode {types : List AbiType} {ts : List AbiToken}
    (h : decode types data = .ok ts) : ts.length = types.length := by
  unfold decode at h
  split at h
  · cases h
  · split at h
    · rename_i next hread
      cases h
      exact length_of_readAll hread
    · cases h

theorem decode_eq_uint_iff {types : List AbiType} {w : BitVec 256} :
    decode types data = .ok [.uint w] ↔
      (∃ bits, types = [.uint bits]) ∧ 32 ≤ data.length ∧
        w.toNat = Bytes.toNat (data.take 32) := by
  rw [← readAll_eq_uint_iff, decode]
  constructor
  · intro h
    split at h
    · cases h
    · split at h
      · rename_i next hread
        cases h
        exact ⟨next, hread⟩
      · cases h
  · intro h
    obtain ⟨-, hlen, -⟩ := readAll_eq_uint_iff.1 h
    obtain ⟨next, hread⟩ := h
    have hdata : data ≠ [] := List.length_pos_iff.1 (by omega)
    rw [decide_eq_false hdata, Bool.false_and, if_neg Bool.false_ne_true, hread]

end Tronkit.AbiToken
