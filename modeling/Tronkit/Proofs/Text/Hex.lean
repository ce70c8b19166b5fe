import Tronkit.Text.Hex
import Tronkit.Proofs.Text.Utf8
import Mathlib.Tactic.ByContra

/-!
# Which texts are hexadecimal

A text is read as the given bytes exactly if it spells their digits, where letters may stand in
either case. Nothing else is read, and no text is read in two ways.
-/

namespace Tronkit.Hex

/-- The text of the given digits, but for the case of its letters. -/
def Spells (cs digits : List Char) : Prop := cs.map Char.toLower = digits

theorem value?_ascii : ∀ n < 128, ∀ d < 16,
    Digits.value? 16 (Char.ofNat n) = some d ↔ (Char.ofNat n).toLower = digit d := by decide

theorem toNat_digit_lt : ∀ d < 16, (digit d).toNat < 128 := by decide

theorem value?_of_le {c : Char} (h : 128 ≤ c.toNat) : Digits.value? 16 c = none := by
  have h9 : ¬c ≤ '9' := by
    intro hle
    have hn : c.toNat ≤ 57 := hle
    omega
  have hz : ¬c ≤ 'z' := by
    intro hle
    have hn : c.toNat ≤ 122 := hle
    omega
  have hZ : ¬c ≤ 'Z' := by
    intro hle
    have hn : c.toNat ≤ 90 := hle
    omega
  simp [Digits.value?, h9, hz, hZ]

theorem toLower_of_le {c : Char} (h : 128 ≤ c.toNat) : c.toLower = c := by
  have hZ : ¬c.val ≤ 'Z'.val := by
    intro hle
    have hn : c.toNat ≤ 90 := hle
    omega
  exact dif_neg fun hupper => hZ hupper.2

theorem value?_eq_some_iff {c : Char} {d : Nat} :
    Digits.value? 16 c = some d ↔ d < 16 ∧ c.toLower = digit d := by
  by_cases hc : c.toNat < 128
  · have table := value?_ascii c.toNat hc
    rw [Char.ofNat_toNat] at table
    constructor
    · intro h
      have hd := Digits.value?_lt h
      exact ⟨hd, (table d hd).1 h⟩
    · rintro ⟨hd, h⟩
      exact (table d hd).2 h
  · have hle : 128 ≤ c.toNat := by omega
    rw [value?_of_le hle, toLower_of_le hle]
    constructor
    · intro h
      cases h
    · rintro ⟨hd, rfl⟩
      have := toNat_digit_lt d hd
      omega

theorem ascii_of_toLower {c : Char} {d : Nat} (hd : d < 16) (h : c.toLower = digit d) :
    c.toNat < 128 := by
  by_contra hc
  have hle : 128 ≤ c.toNat := by omega
  rw [toLower_of_le hle] at h
  have hlt := toNat_digit_lt d hd
  rw [← h] at hlt
  omega

theorem spells_of_decodePairs {i : Nat} {cs : List Char} {bs : Bytes}
    (h : decodePairs i cs = .ok bs) : Spells cs (encode bs) := by
  fun_induction decodePairs i cs generalizing bs with
  | case1 =>
    cases h
    rfl
  | case2 => cases h
  | case3 i c d rest high low hc hd ih =>
    cases hrest : decodePairs (i + 2) rest with
    | error e =>
      rw [hrest] at h
      cases h
    | ok tail =>
      rw [hrest] at h
      cases h
      obtain ⟨hl, hdl⟩ := value?_eq_some_iff.1 hc
      obtain ⟨hh, hch⟩ := value?_eq_some_iff.1 hd
      have hb : (UInt8.ofNat (16 * high + low)).toNat = 16 * high + low :=
        Utf8.toNat_ofNat_of_lt (by omega)
      have hdiv : (16 * high + low) / 16 = high := by omega
      have hmod : (16 * high + low) % 16 = low := by omega
      have htail : rest.map Char.toLower = encode tail := ih hrest
      rw [Spells, encode_cons, pair, hb, hdiv, hmod, List.map_cons, List.map_cons, hch, hdl, htail]
      rfl
  | case4 => cases h
  | case5 => cases h

theorem decodePairs_of_spells {cs : List Char} {bs : Bytes} (h : Spells cs (encode bs)) (i : Nat) :
    decodePairs i cs = .ok bs := by
  induction bs generalizing cs i with
  | nil =>
    obtain rfl : cs = [] := by simpa [Spells] using h
    rfl
  | cons b bs ih =>
    have hb : b.toNat < 256 := b.toNat_lt
    rw [encode_cons] at h
    obtain ⟨c, d, rest, rfl, hc, hd, hrest⟩ : ∃ c d rest, cs = c :: d :: rest ∧
        c.toLower = digit (b.toNat / 16) ∧ d.toLower = digit (b.toNat % 16) ∧
        Spells rest (encode bs) := by
      match cs, h with
      | c :: d :: rest, h =>
        simp only [Spells, pair, List.map_cons, List.cons_append, List.nil_append,
          List.cons.injEq] at h
        exact ⟨c, d, rest, rfl, h.1, h.2.1, h.2.2⟩
      | [c], h => simp [Spells, pair] at h
      | [], h => simp [Spells, pair] at h
    have hc' := value?_eq_some_iff.2 ⟨by omega, hc⟩
    have hd' := value?_eq_some_iff.2 ⟨by omega, hd⟩
    have hback : UInt8.ofNat (16 * (b.toNat / 16) + b.toNat % 16) = b := by
      rw [Nat.div_add_mod, UInt8.ofNat_toNat]
    simp only [decodePairs, hc', hd', ih hrest (i + 2), hback]
    rfl

def halves (bs : Bytes) : List Nat := bs.flatMap fun b => [b.toNat / 16, b.toNat % 16]

@[simp] theorem halves_cons (b : UInt8) (bs : Bytes) :
    halves (b :: bs) = b.toNat / 16 :: b.toNat % 16 :: halves bs := rfl

theorem lt_of_mem_halves {bs : Bytes} : ∀ d ∈ halves bs, d < 16 := by
  intro d hd
  obtain ⟨b, -, hb⟩ := List.mem_flatMap.1 hd
  have hlt : b.toNat < 256 := b.toNat_lt
  simp only [List.mem_cons, List.not_mem_nil, or_false] at hb
  omega

theorem encode_eq_map (bs : Bytes) : encode bs = (halves bs).map digit := by
  rw [halves, List.map_flatMap]
  rfl

theorem halves_getElem? (bs : Bytes) (i : Nat) :
    (halves bs)[i]? = bs[i / 2]?.map fun b =>
      if i % 2 = 0 then b.toNat / 16 else b.toNat % 16 := by
  induction bs generalizing i with
  | nil => rfl
  | cons b bs ih =>
    match i with
    | 0 => rfl
    | 1 => rfl
    | i + 2 =>
      have hdiv : (i + 2) / 2 = i / 2 + 1 := by omega
      rw [halves_cons, List.getElem?_cons_succ, List.getElem?_cons_succ, ih, hdiv,
        List.getElem?_cons_succ, Nat.add_mod_right]

theorem digit_of_mem_encode {c : Char} {bs : Bytes} (h : c ∈ encode bs) :
    ∃ d < 16, c = digit d := by
  rw [encode_eq_map] at h
  obtain ⟨d, hd, rfl⟩ := List.mem_map.1 h
  exact ⟨d, lt_of_mem_halves d hd, rfl⟩

theorem size_of_spells {cs : List Char} {bs : Bytes} (h : Spells cs (encode bs)) :
    Utf8.size cs = 2 * bs.length := by
  have hascii : ∀ c ∈ cs, c.toNat < 128 := by
    intro c hc
    have hmem : c.toLower ∈ encode bs := by
      rw [← h]
      exact List.mem_map_of_mem hc
    obtain ⟨d, hd, hdigit⟩ := digit_of_mem_encode hmem
    exact ascii_of_toLower hd hdigit
  have hlen : cs.length = 2 * bs.length := by
    rw [← length_encode bs, ← h, List.length_map]
  rw [← hlen]
  exact Utf8.size_of_ascii hascii

theorem decode_eq_ok_iff {cs : List Char} {bs : Bytes} :
    decode cs = .ok bs ↔ Spells cs (encode bs) := by
  constructor
  · intro h
    unfold decode at h
    split at h
    · cases h
    · exact spells_of_decodePairs h
  · intro h
    have hsize := size_of_spells h
    rw [decode, hsize, if_neg (by omega)]
    exact decodePairs_of_spells h 0

theorem spells_encode (bs : Bytes) : Spells (encode bs) (encode bs) :=
  decode_eq_ok_iff.1 (decode_encode bs)

theorem spells_append {cs : List Char} {as bs : Bytes} (h : Spells cs (encode (as ++ bs))) :
    ∃ front rest, cs = front ++ rest ∧ Spells front (encode as) ∧ Spells rest (encode bs) := by
  rw [Spells, encode_append] at h
  exact List.map_eq_append_iff.1 h

theorem isHex_of_toLower {c : Char} {d : Nat} (hd : d < 16) (h : c.toLower = digit d) :
    Digits.isHex c = true := by
  rw [Digits.isHex, value?_eq_some_iff.2 ⟨hd, h⟩, Option.isSome_some]

theorem isHex_of_spells {cs : List Char} {bs : Bytes} (h : Spells cs (encode bs)) :
    ∀ c ∈ cs, Digits.isHex c = true := by
  intro c hc
  have hmem : c.toLower ∈ encode bs := by
    rw [← h]
    exact List.mem_map_of_mem hc
  obtain ⟨d, hd, hdigit⟩ := digit_of_mem_encode hmem
  exact isHex_of_toLower hd hdigit

theorem isHex_of_mem_encode (bs : Bytes) : ∀ c ∈ encode bs, Digits.isHex c = true :=
  isHex_of_spells (spells_encode bs)

theorem exists_decodePairs {n : Nat} {cs : List Char} (hlen : cs.length = 2 * n)
    (hhex : ∀ c ∈ cs, Digits.isHex c = true) (i : Nat) :
    ∃ bs, decodePairs i cs = .ok bs ∧ bs.length = n := by
  induction n generalizing cs i with
  | zero =>
    obtain rfl : cs = [] := List.length_eq_zero_iff.1 hlen
    exact ⟨[], rfl, rfl⟩
  | succ n ih =>
    match cs, hlen with
    | c :: d :: rest, hlen =>
      simp only [List.length_cons] at hlen
      obtain ⟨high, hc⟩ := Option.isSome_iff_exists.1 (hhex c (by simp))
      obtain ⟨low, hd⟩ := Option.isSome_iff_exists.1 (hhex d (by simp))
      have hrest : ∀ e ∈ rest, Digits.isHex e = true := fun e he => hhex e (by simp [he])
      obtain ⟨bs, hread, hcount⟩ := ih (by omega) hrest (i + 2)
      refine ⟨UInt8.ofNat (16 * high + low) :: bs, ?_, ?_⟩
      · simp only [decodePairs, hc, hd, hread]
        rfl
      · rw [List.length_cons, hcount]

theorem exists_decode_iff {cs : List Char} {n : Nat} :
    (∃ bs, decode cs = .ok bs ∧ bs.length = n) ↔
      cs.length = 2 * n ∧ ∀ c ∈ cs, Digits.isHex c = true := by
  constructor
  · rintro ⟨bs, hread, rfl⟩
    have hspells := decode_eq_ok_iff.1 hread
    refine ⟨?_, isHex_of_spells hspells⟩
    rw [← length_encode bs, ← hspells, List.length_map]
  · rintro ⟨hlen, hhex⟩
    obtain ⟨bs, hread, hcount⟩ := exists_decodePairs hlen hhex 0
    exact ⟨bs, decode_eq_ok_iff.2 (spells_of_decodePairs hread), hcount⟩

/-! ## The text itself as bytes -/

def ascii (d : Nat) : UInt8 := UInt8.ofNat (digit d).toNat

theorem encodeChar_digit : ∀ d < 16, Utf8.encodeChar (digit d) = [ascii d] := by decide

theorem textBytes_text (bs : Bytes) : textBytes (text bs) = (halves bs).map ascii := by
  rw [textBytes, text, String.toList_ofList]
  induction bs with
  | nil => rfl
  | cons b bs ih =>
    have hb : b.toNat < 256 := b.toNat_lt
    rw [encode_cons, Utf8.encode_append, ih, pair, Utf8.encode_cons, Utf8.encode_cons,
      encodeChar_digit _ (by omega), encodeChar_digit _ (by omega)]
    rfl

@[simp] theorem length_textBytes_text (bs : Bytes) :
    (textBytes (text bs)).length = 2 * bs.length := by
  rw [textBytes, text, String.toList_ofList, length_utf8_encode]

theorem ascii_of_div : ∀ d < 16, (ascii d).toNat / 16 = d → ascii d = 0x33 := by decide

theorem getElem?_textBytes_text {bs : Bytes} {i : Nat} (h : bs[i / 2]? = some 0x33) :
    (textBytes (text bs))[i]? = some 0x33 := by
  rw [textBytes_text, List.getElem?_map, halves_getElem?, h]
  simp only [Option.map_some]
  split
  · rfl
  · rfl

theorem take_eq_take_iff {α : Type} {k : Nat} {as bs : List α} :
    as.take k = bs.take k ↔ ∀ i < k, as[i]? = bs[i]? := by
  simp only [List.ext_getElem?_iff, List.getElem?_take]
  refine forall_congr' fun i => ?_
  by_cases hi : i < k
  · simp [hi]
  · simp [hi]

/-- Bytes begin like their own text only as long as they are all the digit three. -/
theorem take_textBytes_text_iff {k : Nat} {bs : Bytes} (hk : k ≤ bs.length) :
    (textBytes (text bs)).take k = bs.take k ↔ bs.take k = List.replicate k 0x33 := by
  have hthrees : List.replicate k 0x33 = (List.replicate k (0x33 : UInt8)).take k := by simp
  rw [hthrees, take_eq_take_iff, take_eq_take_iff]
  have hreplicate : ∀ i < k, (List.replicate k (0x33 : UInt8))[i]? = some 0x33 :=
    fun i hi => List.getElem?_replicate_of_lt hi
  constructor
  · intro h i hi
    rw [hreplicate i hi]
    -- The digits of a byte are told by one that stands before it, but for those of the first.
    induction i using Nat.strongRecOn with
    | ind i ih =>
      cases i with
      | zero =>
        obtain ⟨b, rest, rfl⟩ := List.exists_cons_of_length_pos (Nat.lt_of_lt_of_le hi hk)
        have hb : b.toNat < 256 := b.toNat_lt
        have hfirst : ascii (b.toNat / 16) = b := by
          simpa [textBytes_text] using h 0 hi
        have hthree := ascii_of_div (b.toNat / 16) (by omega) (by rw [hfirst])
        rw [List.getElem?_cons_zero, ← hthree, hfirst]
      | succ i =>
        rw [← h (i + 1) hi]
        exact getElem?_textBytes_text (ih ((i + 1) / 2) (by omega) (by omega))
  · intro h i hi
    rw [h i hi, hreplicate i hi]
    refine getElem?_textBytes_text ?_
    rw [h (i / 2) (by omega), hreplicate (i / 2) (by omega)]

def lower (c : Char) : Char := if Digits.isHex c then c.toLower else c

theorem lower_eq_digit_iff {c : Char} {d : Nat} (hd : d < 16) :
    lower c = digit d ↔ c.toLower = digit d := by
  by_cases hc : Digits.isHex c = true
  · rw [lower, if_pos hc]
  · have hdigit : (digit d).toLower = digit d := by
      have table : ∀ n < 16, (digit n).toLower = digit n := by decide
      exact table d hd
    rw [lower, if_neg hc]
    constructor
    · rintro rfl
      exact hdigit
    · intro h
      exact absurd (isHex_of_toLower hd h) hc

theorem lower_ascii : ∀ n < 128, ("0123456789x".toList.all fun c =>
    lower (Char.ofNat n) = c ↔ Char.ofNat n = c) = true := by decide

theorem lower_eq_iff {c d : Char} (hd : d ∈ "0123456789x".toList) : lower c = d ↔ c = d := by
  by_cases hc : c.toNat < 128
  · have table := of_decide_eq_true (List.all_eq_true.1 (lower_ascii c.toNat hc) d hd)
    rwa [Char.ofNat_toNat] at table
  · have hhex : ¬Digits.isHex c = true := by
      rw [Digits.isHex, value?_of_le (by omega)]
      decide
    rw [lower, if_neg hhex]

theorem spells_iff_map_lower {cs : List Char} {bs : Bytes} :
    Spells cs (encode bs) ↔ cs.map lower = encode bs := by
  have hmap : ∀ ds : List Nat, (∀ d ∈ ds, d < 16) →
      (cs.map Char.toLower = ds.map digit ↔ cs.map lower = ds.map digit) := by
    induction cs with
    | nil => simp
    | cons c cs ih =>
      intro ds hds
      cases ds with
      | nil => simp
      | cons d ds =>
        rw [List.map_cons, List.map_cons, List.map_cons, List.cons.injEq, List.cons.injEq,
          lower_eq_digit_iff (hds d (by simp)), ih ds fun e he => hds e (by simp [he])]
  rw [Spells, encode_eq_map]
  exact hmap _ lt_of_mem_halves

theorem map_lower_encode (bs : Bytes) : (encode bs).map lower = encode bs :=
  spells_iff_map_lower.1 (spells_encode bs)

def SameText (s t : String) : Prop := s.toList.map lower = t.toList.map lower

instance (s t : String) : Decidable (SameText s t) := inferInstanceAs (Decidable (_ = _))

theorem sameText_text_iff {s : String} {bs : Bytes} :
    SameText s (text bs) ↔ Spells s.toList (encode bs) := by
  rw [SameText, text, String.toList_ofList, map_lower_encode, spells_iff_map_lower]

theorem sameText_mark_iff {s : String} {bs : Bytes} :
    SameText s ("0x" ++ text bs) ↔
      ∃ cs, s.toList = '0' :: 'x' :: cs ∧ Spells cs (encode bs) := by
  have hmark : ("0x" ++ text bs).toList.map lower = '0' :: 'x' :: encode bs := by
    have htext : (text bs).toList = encode bs := String.toList_ofList
    rw [String.toList_append, htext, List.map_append, map_lower_encode]
    rfl
  rw [SameText, hmark]
  constructor
  · intro h
    obtain ⟨c, l, hs, hc, hl⟩ := List.map_eq_cons_iff.1 h
    obtain ⟨d, cs, rfl, hd, hcs⟩ := List.map_eq_cons_iff.1 hl
    rw [lower_eq_iff (by decide)] at hc hd
    subst hc hd
    exact ⟨cs, hs, spells_iff_map_lower.2 hcs⟩
  · rintro ⟨cs, hs, h⟩
    rw [hs, List.map_cons, List.map_cons, spells_iff_map_lower.1 h,
      (lower_eq_iff (by decide)).2 rfl, (lower_eq_iff (by decide)).2 rfl]

end Tronkit.Hex
