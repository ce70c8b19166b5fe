import Tronkit.Bytes
import Tronkit.Proofs.Text.Digits

/-!
# Bytes as numbers

Bytes are the digits of a number in base 256. A field of fixed width and the numbers below
`256 ^ width` are in one-to-one correspondence.
-/

namespace Tronkit.Bytes

theorem map_ofNat_toNat (bs : Bytes) : (bs.map UInt8.toNat).map UInt8.ofNat = bs := by
  simp [Function.comp_def]

theorem map_toNat_ofNat {ds : List Nat} (h : ∀ d ∈ ds, d < 256) :
    (ds.map UInt8.ofNat).map UInt8.toNat = ds := by
  rw [List.map_map]
  refine (List.map_congr_left fun d hd => ?_).trans (List.map_id ds)
  rw [Function.comp_apply, UInt8.toNat_ofNat', Nat.mod_eq_of_lt (h d hd), id]

theorem toNat_eq_fold (bs : Bytes) : bs.toNat = Digits.fold 256 (bs.map UInt8.toNat) := by
  simp [toNat, Digits.fold, List.foldl_map]

theorem lt_of_mem_toNat {bs : Bytes} : ∀ d ∈ bs.map UInt8.toNat, d < 256 := by
  intro d hd
  obtain ⟨b, -, rfl⟩ := List.mem_map.1 hd
  exact b.toNat_lt

theorem toNat_lt (bs : Bytes) : bs.toNat < Nat.pow 256 bs.length := by
  have h : Digits.fold 256 (bs.map UInt8.toNat) < Nat.pow 256 (bs.map UInt8.toNat).length :=
    Digits.fold_lt lt_of_mem_toNat
  rwa [← toNat_eq_fold, List.length_map] at h

theorem toNat_cons (b : UInt8) (bs : Bytes) :
    toNat (b :: bs) = b.toNat * Nat.pow 256 bs.length + bs.toNat := by
  rw [toNat_eq_fold, toNat_eq_fold, List.map_cons, Digits.fold_cons, List.length_map]

theorem toNat_append (as bs : Bytes) :
    toNat (as ++ bs) = as.toNat * Nat.pow 256 bs.length + bs.toNat := by
  induction bs using List.reverseRecOn with
  | nil =>
    rw [List.append_nil, toNat_nil]
    exact (Nat.mul_one _).symm
  | append_singleton bs b ih =>
    have hstep : Nat.pow 256 (bs ++ [b]).length = Nat.pow 256 bs.length * 256 := by
      rw [List.length_append, List.length_singleton]
      rfl
    rw [← List.append_assoc, toNat_append_singleton, ih, toNat_append_singleton, hstep,
      ← Nat.mul_assoc]
    omega

/-- Bytes behind the first `k` change the number, unless all of it is zero. -/
theorem toNat_eq_toNat_take_iff {k : Nat} {bs : Bytes} (hk : k ≤ bs.length) :
    bs.toNat = toNat (bs.take k) ↔ bs.length = k ∨ bs.toNat = 0 := by
  have hsplit : bs.toNat =
      toNat (bs.take k) * Nat.pow 256 (bs.drop k).length + toNat (bs.drop k) := by
    rw [← toNat_append, List.take_append_drop]
  constructor
  · intro h
    by_cases hlen : bs.length = k
    · exact .inl hlen
    obtain ⟨m, hm⟩ : ∃ m, (bs.drop k).length = m + 1 := ⟨bs.length - k - 1, by simp; omega⟩
    have hpow : Nat.pow 256 (m + 1) = Nat.pow 256 m * 256 := rfl
    have hpos : 0 < Nat.pow 256 m := Nat.pow_pos (by decide)
    have hle : toNat (bs.take k) ≤ toNat (bs.take k) * Nat.pow 256 m :=
      Nat.le_mul_of_pos_right _ hpos
    rw [hm, hpow, ← Nat.mul_assoc] at hsplit
    exact .inr (by omega)
  · rintro (rfl | hzero)
    · rw [List.take_length]
    · have hpos : 0 < Nat.pow 256 (bs.drop k).length := Nat.pow_pos (by decide)
      have hle := Nat.le_mul_of_pos_right (toNat (bs.take k)) hpos
      omega

theorem ofNat_toNat (bs : Bytes) : ofNat bs.length bs.toNat = bs := by
  induction bs using List.reverseRecOn with
  | nil => rfl
  | append_singleton bs b ih =>
    have hb : b.toNat < 256 := b.toNat_lt
    have hdiv : (256 * toNat bs + b.toNat) / 256 = toNat bs := by omega
    have hlast : UInt8.ofNat (256 * toNat bs + b.toNat) = b := by
      apply UInt8.toNat_inj.1
      simp
    rw [List.length_append, List.length_singleton, ofNat, toNat_append_singleton, hdiv, ih, hlast]

theorem toNat_inj {as bs : Bytes} (hlen : as.length = bs.length) :
    as.toNat = bs.toNat ↔ as = bs := by
  constructor
  · intro h
    rw [← ofNat_toNat as, ← ofNat_toNat bs, hlen, h]
  · rintro rfl
    rfl

theorem toNat_ofNat_of_lt {width n : Nat} (h : n < Nat.pow 256 width) :
    toNat (ofNat width n) = n := by
  rw [toNat_ofNat, Nat.mod_eq_of_lt h]

theorem ofNat_zero (width : Nat) : ofNat width 0 = zeros width := by
  induction width with
  | zero => rfl
  | succ width ih =>
    rw [ofNat, Nat.zero_div, ih, zeros, zeros, List.replicate_succ']
    rfl

theorem toNat_eq_zero_iff {bs : Bytes} : bs.toNat = 0 ↔ bs = zeros bs.length := by
  have hzero : toNat (zeros bs.length) = 0 := by rw [← ofNat_zero, toNat_ofNat, Nat.zero_mod]
  rw [← hzero]
  exact toNat_inj (by rw [zeros, List.length_replicate])

theorem zeros_append_ofNat (k : Nat) {width n : Nat} (h : n < Nat.pow 256 width) :
    zeros k ++ ofNat width n = ofNat (k + width) n := by
  induction width generalizing n with
  | zero =>
    obtain rfl : n = 0 := Nat.lt_one_iff.1 h
    rw [ofNat, List.append_nil, Nat.add_zero, ofNat_zero]
  | succ width ih =>
    have hstep : Nat.pow 256 (width + 1) = Nat.pow 256 width * 256 := rfl
    have hdiv : n / 256 < Nat.pow 256 width := by
      rw [hstep] at h
      exact Nat.div_lt_of_lt_mul (Nat.mul_comm .. ▸ h)
    rw [ofNat, ← List.append_assoc, ih hdiv, ← Nat.add_assoc, ofNat]

end Tronkit.Bytes
