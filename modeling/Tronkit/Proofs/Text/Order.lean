import Tronkit.Proofs.Base58
import Tronkit.Proofs.Number.Quantity

/-!
# The order of digits and of their texts

Two numbers with as many digits are compared at the first digit in which they differ. So their texts
are in the order of the numbers wherever a greater digit is written as a greater byte, as it is in
base 256, 16 and 58. A checksum behind the digits has no part in that.
-/

namespace Tronkit

def Digits.Ascends (base : Nat) (written : Nat → UInt8) : Prop :=
  ∀ d < base, ∀ e < base, d < e → written d < written e

namespace Digits.Ascends

variable {base d e : Nat} {written : Nat → UInt8}

theorem of_succ (h : ∀ d < base, d + 1 < base → written d < written (d + 1)) :
    Ascends base written := by
  intro d hd e he hde
  induction e, hde using Nat.le_induction with
  | base => exact h d hd he
  | succ e _ ih =>
    have hlt : e < base := Nat.lt_of_succ_lt he
    exact UInt8.lt_trans (ih hlt) (h e hlt he)

theorem lt_iff (h : Ascends base written) (hd : d < base) (he : e < base) :
    written d < written e ↔ d < e := by
  refine ⟨fun hlt => ?_, h d hd e he⟩
  rcases Nat.lt_trichotomy d e with hde | rfl | hed
  · exact hde
  · exact absurd hlt (UInt8.lt_irrefl _)
  · exact absurd (h e he d hd hed) (UInt8.lt_asymm hlt)

theorem eq_iff (h : Ascends base written) (hd : d < base) (he : e < base) :
    written d = written e ↔ d = e := by
  refine ⟨fun heq => ?_, congrArg written⟩
  have hde : ¬d < e := by
    rw [← h.lt_iff hd he, heq]
    exact UInt8.lt_irrefl _
  have hed : ¬e < d := by
    rw [← h.lt_iff he hd, heq]
    exact UInt8.lt_irrefl _
  omega

theorem map_lt_map_iff (h : Ascends base written) {ds es : List Nat}
    (hlen : ds.length = es.length) (hds : ∀ d ∈ ds, d < base) (hes : ∀ e ∈ es, e < base) :
    ds.map written < es.map written ↔ fold base ds < fold base es := by
  induction ds generalizing es with
  | nil =>
    obtain rfl : es = [] := List.length_eq_zero_iff.1 hlen.symm
    simp
  | cons d ds ih =>
    obtain ⟨e, es, rfl⟩ := List.exists_cons_of_length_eq_add_one hlen.symm
    rw [List.forall_mem_cons] at hds hes
    have htails : ds.length = es.length := Nat.succ.inj hlen
    have hd := fold_lt hds.2
    have he := fold_lt hes.2
    rw [List.map_cons, List.map_cons, List.cons_lt_cons_iff, h.lt_iff hds.1 hes.1,
      h.eq_iff hds.1 hes.1, ih htails hds.2 hes.2, fold_cons, fold_cons, htails]
    rw [htails] at hd
    -- The rest is worth less than one in the place of the first digit.
    rcases Nat.lt_trichotomy d e with hde | rfl | hed
    · have hstep := Nat.mul_le_mul_right (Nat.pow base es.length) hde
      rw [Nat.succ_mul] at hstep
      omega
    · omega
    · have hstep := Nat.mul_le_mul_right (Nat.pow base es.length) hed
      rw [Nat.succ_mul] at hstep
      omega

end Digits.Ascends

namespace Bytes

theorem ascends : Digits.Ascends 256 UInt8.ofNat := by
  intro d hd e he hde
  rwa [UInt8.lt_iff_toNat_lt, Utf8.toNat_ofNat_of_lt hd, Utf8.toNat_ofNat_of_lt he]

theorem lt_iff_toNat_lt {as bs : Bytes} (h : as.length = bs.length) :
    as < bs ↔ as.toNat < bs.toNat := by
  have hlen : (as.map UInt8.toNat).length = (bs.map UInt8.toNat).length := by
    rw [List.length_map, List.length_map, h]
  have hmap := ascends.map_lt_map_iff hlen lt_of_mem_toNat lt_of_mem_toNat
  rwa [map_ofNat_toNat, map_ofNat_toNat, ← toNat_eq_fold, ← toNat_eq_fold] at hmap

end Bytes

theorem Utf8.encode_map {char : Nat → Char} {written : Nat → UInt8} {ds : List Nat}
    (h : ∀ d ∈ ds, encodeChar (char d) = [written d]) :
    encode (ds.map char) = ds.map written := by
  induction ds with
  | nil => rfl
  | cons d ds ih =>
    rw [List.forall_mem_cons] at h
    rw [List.map_cons, encode_cons, h.1, ih h.2, List.map_cons]
    rfl

namespace Hex

theorem ascends_ascii : Digits.Ascends 16 ascii := .of_succ (by decide)

theorem text_lt_iff {as bs : Bytes} (h : as.length = bs.length) :
    textBytes (text as) < textBytes (text bs) ↔ as < bs := by
  have hlen : (halves as).length = (halves bs).length := by
    have hsize : ∀ cs : Bytes, (halves cs).length = 2 * cs.length := fun cs => by
      rw [← length_encode, encode_eq_map, List.length_map]
    rw [hsize, hsize, h]
  rw [textBytes_text, textBytes_text,
    ascends_ascii.map_lt_map_iff hlen lt_of_mem_halves lt_of_mem_halves, fold_halves, fold_halves,
    Bytes.lt_iff_toNat_lt h]

end Hex

namespace Base58

def ascii (d : Nat) : UInt8 := UInt8.ofNat (digit d).toNat

theorem encodeChar_digit : ∀ d < 58, Utf8.encodeChar (digit d) = [ascii d] := by decide

theorem ascends_ascii : Digits.Ascends 58 ascii := .of_succ (by decide)

theorem encode_lt_iff {as bs : Bytes} (h : (encode as).length = (encode bs).length) :
    Utf8.encode (encode as) < Utf8.encode (encode bs) ↔ as.toNat < bs.toNat := by
  have hlt : ∀ cs : Bytes, ∀ d ∈ Digits.rebase 256 58 (cs.map UInt8.toNat), d < 58 :=
    fun cs d => Digits.lt_of_mem_rebase (by decide)
  have hwritten : ∀ cs : Bytes, Utf8.encode (encode cs) =
      (Digits.rebase 256 58 (cs.map UInt8.toNat)).map ascii := by
    intro cs
    rw [encode_eq_rebase, Utf8.encode_map fun d hd => encodeChar_digit d (hlt cs d hd)]
  rw [encode_eq_rebase, encode_eq_rebase, List.length_map, List.length_map] at h
  rw [hwritten, hwritten, ascends_ascii.map_lt_map_iff h (hlt as) (hlt bs),
    Digits.fold_rebase (by decide), Digits.fold_rebase (by decide), ← Bytes.toNat_eq_fold,
    ← Bytes.toNat_eq_fold]

/-- Checksums are compared only where there is nothing to compare any more. -/
theorem checked_lt_iff {as bs : Bytes} (h : as.length = bs.length) :
    Bytes.toNat (as ++ checksum as) < Bytes.toNat (bs ++ checksum bs) ↔ as < bs := by
  have hsum : ∀ cs : Bytes, Bytes.toNat (checksum cs) < Nat.pow 256 4 := by
    intro cs
    rw [← length_checksum cs]
    exact Bytes.toNat_lt _
  have ha := hsum as
  have hb := hsum bs
  rw [Bytes.lt_iff_toNat_lt h, Bytes.toNat_append, Bytes.toNat_append, length_checksum,
    length_checksum]
  rcases Nat.lt_trichotomy as.toNat bs.toNat with hlt | heq | hgt
  · have hstep := Nat.mul_le_mul_right (Nat.pow 256 4) hlt
    rw [Nat.succ_mul] at hstep
    omega
  · obtain rfl := (Bytes.toNat_inj h).1 heq
    omega
  · have hstep := Nat.mul_le_mul_right (Nat.pow 256 4) hgt
    rw [Nat.succ_mul] at hstep
    omega

end Base58
end Tronkit
