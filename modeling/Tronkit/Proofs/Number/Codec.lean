import Tronkit.Proofs.Number.Numeral

/-!
# Numbers and bytes in their written forms

Whatever is written of a number is read as the number, if it fits where it is read to: as a quantity
it always does, as a bounded one below `2 ^ 64`, and in a word below `2 ^ 256`. How many digits a
number has tells which power of the base it is below, so bounds on the value and on the number of
bytes are the same. Bytes are read from their digits and from nothing else.
-/

namespace Tronkit
namespace Digits

variable {base n k : Nat}

theorem length_ofNat_le_iff (hb : 2 ≤ base) : (ofNat base n).length ≤ k ↔ n < Nat.pow base k := by
  constructor
  · intro h
    have hlt : fold base (ofNat base n) < Nat.pow base (ofNat base n).length :=
      fold_lt fun d hd => lt_of_mem_ofNat hb hd
    rw [fold_ofNat hb] at hlt
    exact hlt.trans_le (Nat.pow_le_pow_right (by omega) h)
  · intro h
    -- Each digit that is taken off takes a factor off the bound.
    induction k generalizing n with
    | zero =>
      obtain rfl : n = 0 := Nat.lt_one_iff.1 h
      exact Nat.le_refl 0
    | succ k ih =>
      rcases Nat.eq_zero_or_pos n with rfl | hn
      · exact Nat.zero_le _
      · have hdiv : n / base < Nat.pow base k := (Nat.div_lt_iff_lt_mul (by omega)).2 h
        rw [ofNat_of_pos hb hn, List.length_append, List.length_singleton]
        exact Nat.succ_le_succ (ih hdiv)

end Digits

namespace Unsigned

variable {base limit n : Nat} {cs : List Char}

theorem readDigits_of_values {ds : List Nat} (hbase : 0 < base)
    (hds : Digits.values? base cs = some ds) {value : Nat} (hvalue : value < limit)
    (hn : ds.foldl (fun n d => base * n + d) value = n) :
    readDigits base limit value cs = if n < limit then .ok n else .error .tooLarge := by
  induction cs generalizing ds value with
  | nil =>
    cases hds
    obtain rfl : value = n := hn
    exact (if_pos hvalue).symm
  | cons c cs ih =>
    obtain ⟨d, hd, hds⟩ := Option.bind_eq_some_iff.1 hds
    obtain ⟨ds', hds', hds⟩ := Option.bind_eq_some_iff.1 hds
    cases hds
    rw [List.foldl_cons] at hn
    simp only [readDigits, hd]
    by_cases hlimit : limit ≤ base * value + d
    · have hle := le_foldl hbase ds' (base * value + d)
      rw [if_pos hlimit, if_neg (by omega)]
    · rw [if_neg hlimit]
      exact ih hds' (Nat.lt_of_not_le hlimit) hn

theorem read_of_denotes (hbase : 0 < base) (hlimit : 0 < limit) (h : Digits.Denotes base cs n) :
    read base limit cs = if n < limit then .ok n else .error .tooLarge := by
  obtain ⟨ds, hds, hn⟩ := Option.map_eq_some_iff.1 h.value
  have hplus := Quantity.plus_notMem_of_denotes h
  unfold read
  split
  · exact absurd rfl h.nonempty
  · exact absurd List.mem_cons_self hplus
  · exact absurd List.mem_cons_self hplus
  · exact readDigits_of_values hbase hds hlimit hn

end Unsigned

namespace Quantity

theorem readU64_write (n : Nat) :
    readU64 (write n) =
      if n < Nat.pow 2 64 then .ok n else .error (.invalidQuantity (write n) .tooLarge) := by
  have hdenotes : Digits.Denotes 16 (Nat.toDigits 16 n) n :=
    Digits.denotes_toDigits (by decide) (Nat.le_refl 16) n
  have hdigits : stripMark (write n).toList = Nat.toDigits 16 n := by
    rw [write, mark_append, String.toList_ofList]
    rfl
  rw [readU64, hdigits]
  split
  · rename_i hnil
    exact absurd hnil hdenotes.nonempty
  · rw [Unsigned.read_of_denotes (by decide) (by decide) hdenotes, u64Limit]
    split
    · rfl
    · rfl

/-! ## Words -/

theorem toNat_bytes (n : Nat) : (bytes n).toNat = n := by
  have hlt : ∀ d ∈ Digits.ofNat 256 n, d < 256 := fun d hd => Digits.lt_of_mem_ofNat (by decide) hd
  rw [Bytes.toNat_eq_fold, bytes, Bytes.map_toNat_ofNat hlt, Digits.fold_ofNat (by decide)]

theorem length_bytes_le_iff {n : Nat} : (bytes n).length ≤ wordBytes ↔ n < Nat.pow 2 256 := by
  have hpow : Nat.pow 256 wordBytes = Nat.pow 2 256 := by decide
  rw [bytes, List.length_map, Digits.length_ofNat_le_iff (by decide), hpow]

theorem word_eq (n : Nat) :
    word n = if n < Nat.pow 2 256 then .ok (BitVec.ofNat 256 n) else .error (.tooWide n) := by
  simp only [word, toNat_bytes]
  by_cases h : n < Nat.pow 2 256
  · rw [if_neg (Nat.not_lt.2 (length_bytes_le_iff.2 h)), if_pos h]
  · rw [if_pos (Nat.lt_of_not_le (mt length_bytes_le_iff.1 h)), if_neg h]

theorem ofWord_eq (w : BitVec 256) : ofWord w = w.toNat := by
  have hpow : Nat.pow 256 wordBytes = 2 ^ 256 := by decide
  exact Bytes.toNat_ofNat_of_lt (hpow ▸ w.isLt)

theorem map_ofWord_word (n : Nat) :
    (word n).map ofWord = if n < Nat.pow 2 256 then .ok n else .error (.tooWide n) := by
  rw [word_eq]
  split
  · rename_i h
    have hback : (BitVec.ofNat 256 n).toNat = n := Nat.mod_eq_of_lt h
    rw [Except.map, ofWord_eq, hback]
  · rfl

theorem word_ofWord (w : BitVec 256) : word (ofWord w) = .ok w := by
  rw [ofWord_eq, word_eq, if_pos w.isLt, BitVec.ofNat_toNat, BitVec.setWidth_eq]

/-! ## Bytes -/

theorem exists_mark (s : String) :
    ∃ mark ∈ ["", "0x", "0X"], s.toList = mark.toList ++ stripMark s.toList := by
  generalize s.toList = cs
  unfold stripMark
  split
  · exact ⟨"0x", by simp, rfl⟩
  · exact ⟨"0X", by simp, rfl⟩
  · exact ⟨"", by simp, rfl⟩

theorem readBytes_eq_ok_iff {s : String} {bs : Bytes} :
    readBytes s = .ok bs ↔
      ∃ mark ∈ ["", "0x", "0X"], ∃ digits, s = mark ++ digits ∧
        Hex.SameText digits (Hex.text bs) := by
  rw [readBytes, except_mapError_eq_ok_iff, Hex.decode_eq_ok_iff]
  constructor
  · intro h
    obtain ⟨mark, hmark, hs⟩ := exists_mark s
    refine ⟨mark, hmark, strip s, ?_, ?_⟩
    · rw [← String.toList_inj, String.toList_append, strip, String.toList_ofList]
      exact hs
    · rw [Hex.sameText_text_iff, strip, String.toList_ofList]
      exact h
  · rintro ⟨mark, hmark, digits, rfl, hdigits⟩
    rw [stripMark_marked hmark hdigits]
    exact Hex.sameText_text_iff.1 hdigits

/-- A number comes back from its quantity, from its bounded quantity below `2 ^ 64` and from its
word below `2 ^ 256`, and is too large for these from there on. Words come back from their numbers.
Bytes are read from their digits, in letters of either case and with or without a mark, and from no
other text. -/
theorem written_forms_exact :
    (∀ n, readNat (write n) = .ok n) ∧
    (∀ n, readU64 (write n) =
      if n < Nat.pow 2 64 then .ok n else .error (.invalidQuantity (write n) .tooLarge)) ∧
    (∀ n, (word n).map ofWord = if n < Nat.pow 2 256 then .ok n else .error (.tooWide n)) ∧
    (∀ w, word (ofWord w) = .ok w) ∧
    ∀ s bs, readBytes s = .ok bs ↔
      ∃ mark ∈ ["", "0x", "0X"], ∃ digits, s = mark ++ digits ∧
        Hex.SameText digits (Hex.text bs) :=
  ⟨readNat_write, readU64_write, map_ofWord_word, word_ofWord, fun _ _ => readBytes_eq_ok_iff⟩

end Quantity
end Tronkit
