import Tronkit.Base58
import Tronkit.Proofs.Bytes
import Tronkit.Proofs.Text.Utf8

/-!
# Base58 is one to one

Writing bytes in base 58 and reading them again gives the same bytes, and a text that can be read
is the text of what it is read as. So bytes have one text and a text stands for one sequence of
bytes; with a checksum this holds as well, whatever the digest is.
-/

namespace Tronkit.Base58

open Digits (fold rebase rebase_rebase lt_of_mem_rebase)

theorem length_alphabet : alphabet.length = 58 := by decide

theorem digit_eq_getElem {d : Nat} (hd : d < alphabet.length) : digit d = alphabet[d] := by
  rw [digit, List.getD_eq_getElem?_getD, List.getElem?_eq_getElem hd, Option.getD_some]

theorem toNat_digit_lt : ∀ d < 58, (digit d).toNat < 128 := by
  intro d hd
  have h : (alphabet.all fun c => c.toNat < 128) = true := by decide
  have hmem : digit d ∈ alphabet := by
    rw [digit_eq_getElem (length_alphabet ▸ hd)]
    exact List.getElem_mem _
  exact of_decide_eq_true (List.all_eq_true.1 h _ hmem)

theorem value?_eq_some_iff {c : Char} {d : Nat} : value? c = some d ↔ d < 58 ∧ c = digit d := by
  constructor
  · intro h
    obtain ⟨hd, hc, -⟩ := List.idxOf?_eq_some_iff.1 h
    exact ⟨length_alphabet ▸ hd, (digit_eq_getElem hd).trans hc |>.symm⟩
  · rintro ⟨hd, rfl⟩
    exact value?_digit d hd

theorem digit_injective {d e : Nat} (hd : d < 58) (he : e < 58) (h : digit d = digit e) :
    d = e := by
  have hv := value?_digit d hd
  rw [h, value?_digit e he] at hv
  exact (Option.some.inj hv).symm

theorem digit_eq_one_iff {d : Nat} (hd : d < 58) : digit d = '1' ↔ d = 0 := by
  constructor
  · intro h
    exact digit_injective hd (by omega) (h.trans rfl)
  · rintro rfl
    rfl

theorem values_map_digit (i : Nat) {ds : List Nat} (h : ∀ d ∈ ds, d < 58) :
    values i (ds.map digit) = .ok ds := by
  induction ds generalizing i with
  | nil => rfl
  | cons d ds ih =>
    have hd := value?_digit d (h d (by simp))
    have hds := ih (i + 1) fun e he => h e (by simp [he])
    simp only [List.map_cons, values, hd, hds]
    rfl

theorem of_values {i : Nat} {cs : List Char} {ds : List Nat} (h : values i cs = .ok ds) :
    cs = ds.map digit ∧ ∀ d ∈ ds, d < 58 := by
  induction cs generalizing i ds with
  | nil =>
    cases h
    simp
  | cons c cs ih =>
    simp only [values] at h
    split at h
    · rename_i d hc
      cases hrest : values (i + 1) cs with
      | error e =>
        rw [hrest] at h
        cases h
      | ok es =>
        rw [hrest] at h
        cases h
        obtain ⟨hd, rfl⟩ := value?_eq_some_iff.1 hc
        obtain ⟨rfl, hes⟩ := ih hrest
        refine ⟨rfl, ?_⟩
        intro e he
        rcases List.mem_cons.1 he with rfl | he
        · exact hd
        · exact hes e he
    · cases h

theorem leading_bytes (bs : Bytes) :
    List.replicate (leading 0 bs) '1' = ((bs.map UInt8.toNat).takeWhile (· = 0)).map digit := by
  induction bs with
  | nil => rfl
  | cons b bs ih =>
    by_cases hb : b = 0
    · subst hb
      simpa [leading, List.replicate_succ] using ⟨rfl, ih⟩
    · have hn : ¬b.toNat = 0 := fun h => hb (UInt8.toNat_inj.1 h)
      simp [leading, hb, hn]

theorem leading_digits {ds : List Nat} (h : ∀ d ∈ ds, d < 58) :
    Bytes.zeros (leading '1' (ds.map digit)) = (ds.takeWhile (· = 0)).map UInt8.ofNat := by
  induction ds with
  | nil => rfl
  | cons d ds ih =>
    have hds := ih fun e he => h e (by simp [he])
    by_cases hd : d = 0
    · subst hd
      have h1 : digit 0 = '1' := rfl
      simpa [leading, Bytes.zeros, List.replicate_succ, h1] using hds
    · have h1 : ¬digit d = '1' := fun e => hd ((digit_eq_one_iff (h d (by simp))).1 e)
      simp [leading, Bytes.zeros, hd, h1]

theorem encode_eq_rebase (bs : Bytes) :
    encode bs = (rebase 256 58 (bs.map UInt8.toNat)).map digit := by
  rw [encode, leading_bytes, Bytes.toNat_eq_fold, rebase, List.map_append]

theorem decode_map_digit {ds : List Nat} (h : ∀ d ∈ ds, d < 58) :
    decode (ds.map digit) = .ok ((rebase 58 256 ds).map UInt8.ofNat) := by
  rw [decode, values_map_digit 0 h, rebase, List.map_append, ← leading_digits h]
  rfl

theorem decode_encode (bs : Bytes) : decode (encode bs) = .ok bs := by
  rw [encode_eq_rebase, decode_map_digit fun d => lt_of_mem_rebase (by decide),
    rebase_rebase (by decide) (by decide) Bytes.lt_of_mem_toNat, Bytes.map_ofNat_toNat]

theorem decode_eq_ok_iff {cs : List Char} {bs : Bytes} : decode cs = .ok bs ↔ cs = encode bs := by
  constructor
  · intro h
    cases hv : values 0 cs with
    | error e =>
      rw [decode, hv] at h
      cases h
    | ok ds =>
      obtain ⟨rfl, hds⟩ := of_values hv
      rw [decode_map_digit hds] at h
      cases h
      have hlt : ∀ d ∈ rebase 58 256 ds, d < 256 := fun d => lt_of_mem_rebase (by decide)
      rw [encode_eq_rebase, Bytes.map_toNat_ofNat hlt, rebase_rebase (by decide) (by decide) hds]
  · rintro rfl
    exact decode_encode bs

theorem withoutChecksum_eq_ok_iff {bs content : Bytes} :
    withoutChecksum bs = .ok content ↔ bs = content ++ checksum content := by
  constructor
  · intro h
    unfold withoutChecksum at h
    split at h
    · cases h
    · simp only at h
      split at h
      · rename_i hsum
        cases h
        rw [hsum, List.take_append_drop]
      · cases h
  · rintro rfl
    exact withoutChecksum_append content

theorem decodeChecked_eq_ok_iff {cs : List Char} {bs : Bytes} :
    decodeChecked cs = .ok bs ↔ cs = encodeChecked bs := by
  rw [encodeChecked, ← decode_eq_ok_iff]
  cases h : decode cs with
  | error e =>
    rw [decodeChecked, h]
    constructor <;> intro h' <;> cases h'
  | ok all =>
    rw [decodeChecked, h, Except.ok.injEq, ← withoutChecksum_eq_ok_iff]
    rfl

theorem size_encode (bs : Bytes) : Utf8.size (encode bs) = (encode bs).length := by
  apply Utf8.size_of_ascii
  intro c hc
  rw [encode_eq_rebase] at hc
  obtain ⟨d, hd, rfl⟩ := List.mem_map.1 hc
  exact toNat_digit_lt d (lt_of_mem_rebase (by decide) hd)

theorem encode_of_bounds {b : UInt8} (hb : b ≠ 0) (bs : Bytes) {d k : Nat} (h0 : 0 < d)
    (hd : d < 58) (hl : d * Nat.pow 58 k ≤ b.toNat * Nat.pow 256 bs.length)
    (hh : (b.toNat + 1) * Nat.pow 256 bs.length ≤ (d + 1) * Nat.pow 58 k) :
    ∃ cs, encode (b :: bs) = digit d :: cs ∧ cs.length = k := by
  have hlt := Bytes.toNat_lt bs
  have hval := Bytes.toNat_cons b bs
  rw [Nat.succ_mul] at hh
  have hlow : d * Nat.pow 58 k ≤ Bytes.toNat (b :: bs) := by omega
  have hhigh : Bytes.toNat (b :: bs) < (d + 1) * Nat.pow 58 k := by omega
  have h58 : 2 ≤ 58 := by decide
  obtain ⟨es, hes, hlen⟩ := Digits.ofNat_of_bounds h58 h0 hd k hlow hhigh
  refine ⟨es.map digit, ?_, by simp [hlen]⟩
  have hn : leading 0 (b :: bs) = 0 := by simp [leading, hb]
  rw [encode, hn, hes]
  rfl

end Tronkit.Base58
