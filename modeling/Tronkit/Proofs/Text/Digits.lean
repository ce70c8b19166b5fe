import Tronkit.Text.Digits
import Mathlib.Data.List.Induction
import Mathlib.Data.List.TakeWhile

/-!
# Numerals in a base

The digits of a number are the only digits of the base that denote it and do not begin with a
zero. Between two bases a sequence of digits is therefore carried over and back without loss, if
each leading zero is carried over by itself. The first digit and the number of digits are known
from bounds on the number.
-/

namespace Tronkit.Digits

variable {base : Nat}

theorem fold_append_singleton (base : Nat) (ds : List Nat) (d : Nat) :
    fold base (ds ++ [d]) = base * fold base ds + d := by
  simp [fold, List.foldl_append]

theorem fold_cons (base d : Nat) (ds : List Nat) :
    fold base (d :: ds) = d * Nat.pow base ds.length + fold base ds := by
  induction ds using List.reverseRecOn with
  | nil => simp [fold]
  | append_singleton ds e ih =>
    rw [← List.cons_append, fold_append_singleton, fold_append_singleton, ih, List.length_append,
      List.length_singleton]
    have hstep : Nat.pow base (ds.length + 1) = Nat.pow base ds.length * base := rfl
    rw [hstep, Nat.mul_add, ← Nat.mul_assoc, ← Nat.mul_assoc, Nat.mul_comm base d,
      Nat.mul_right_comm, Nat.add_assoc]

theorem fold_lt {ds : List Nat} (h : ∀ d ∈ ds, d < base) :
    fold base ds < Nat.pow base ds.length := by
  induction ds with
  | nil => exact Nat.one_pos
  | cons d ds ih =>
    have hd : d + 1 ≤ base := h d (by simp)
    have hds := ih fun e he => h e (by simp [he])
    have hstep : Nat.pow base (d :: ds).length = base * Nat.pow base ds.length := Nat.pow_succ'
    rw [fold_cons, hstep]
    have hmul := Nat.mul_le_mul_right (Nat.pow base ds.length) hd
    rw [Nat.succ_mul] at hmul
    omega

theorem ofNatInto_eq_append (base fuel n : Nat) (acc : List Nat) :
    ofNatInto base fuel n acc = ofNatInto base fuel n [] ++ acc := by
  induction fuel generalizing n acc with
  | zero => rfl
  | succ fuel ih =>
    simp only [ofNatInto]
    split
    · rfl
    · rw [ih _ (_ :: acc), ih _ [_], List.append_assoc]
      rfl

theorem ofNatInto_of_le (hb : 2 ≤ base) {fuel n : Nat} (h : n ≤ fuel) :
    ofNatInto base fuel n [] = ofNat base n := by
  -- both recursions take the same digit off and go on with a smaller number
  induction n using Nat.strongRecOn generalizing fuel with
  | ind n ih =>
    unfold ofNat
    cases fuel with
    | zero =>
      obtain rfl : n = 0 := by omega
      rfl
    | succ fuel =>
      cases n with
      | zero => rfl
      | succ n =>
        have hlt : (n + 1) / base < n + 1 := Nat.div_lt_self (by omega) (by omega)
        simp only [ofNatInto, if_neg (Nat.succ_ne_zero n)]
        rw [ofNatInto_eq_append, ofNatInto_eq_append base n, ih _ hlt (by omega),
          ih _ hlt (by omega)]

theorem ofNat_zero (base : Nat) : ofNat base 0 = [] := rfl

theorem ofNat_of_pos (hb : 2 ≤ base) {n : Nat} (hn : 0 < n) :
    ofNat base n = ofNat base (n / base) ++ [n % base] := by
  obtain ⟨m, rfl⟩ : ∃ m, n = m + 1 := ⟨n - 1, by omega⟩
  have hlt : (m + 1) / base < m + 1 := Nat.div_lt_self hn (by omega)
  rw [ofNat, ofNatInto, if_neg (Nat.succ_ne_zero m), ofNatInto_eq_append,
    ofNatInto_of_le hb (by omega)]

theorem ofNat_of_digit (hb : 2 ≤ base) {d : Nat} (h0 : 0 < d) (hd : d < base) :
    ofNat base d = [d] := by
  rw [ofNat_of_pos hb h0, Nat.div_eq_of_lt hd, Nat.mod_eq_of_lt hd]
  rfl

theorem ofNat_add (hb : 2 ≤ base) {n d : Nat} (hn : 0 < n) (hd : d < base) :
    ofNat base (base * n + d) = ofNat base n ++ [d] := by
  have hpos : 0 < base * n := Nat.mul_pos (by omega) hn
  rw [ofNat_of_pos hb (by omega), Nat.mul_add_div (by omega), Nat.div_eq_of_lt hd,
    Nat.mul_add_mod, Nat.mod_eq_of_lt hd]
  rfl

theorem lt_of_mem_ofNat (hb : 2 ≤ base) {n d : Nat} (h : d ∈ ofNat base n) : d < base := by
  induction n using Nat.strongRecOn with
  | ind n ih =>
    rcases Nat.eq_zero_or_pos n with rfl | hn
    · simp [ofNat_zero] at h
    · rw [ofNat_of_pos hb hn, List.mem_append, List.mem_singleton] at h
      rcases h with h | rfl
      · exact ih _ (Nat.div_lt_self hn (by omega)) h
      · exact Nat.mod_lt _ (by omega)

theorem toDigits_eq_map_ofNat (hb : 2 ≤ base) {n : Nat} (hn : 0 < n) :
    Nat.toDigits base n = (ofNat base n).map Nat.digitChar := by
  induction n using Nat.strongRecOn with
  | ind n ih =>
    rw [Nat.toDigits_eq_if hb]
    split
    · rename_i hlt
      rw [ofNat_of_digit hb hn hlt]
      rfl
    · have hpos : 0 < n / base := Nat.div_pos (by omega) (by omega)
      rw [ih (n / base) (Nat.div_lt_self hn hb) hpos, ofNat_of_pos hb hn, List.map_append]
      rfl

theorem exists_digit_of_mem_toDigits (hb : 2 ≤ base) {n : Nat} {c : Char}
    (h : c ∈ Nat.toDigits base n) : ∃ d < base, c = Nat.digitChar d := by
  rcases Nat.eq_zero_or_pos n with rfl | hn
  · rw [Nat.toDigits_zero] at h
    exact ⟨0, by omega, List.mem_singleton.1 h⟩
  · rw [toDigits_eq_map_ofNat hb hn] at h
    obtain ⟨d, hd, rfl⟩ := List.mem_map.1 h
    exact ⟨d, lt_of_mem_ofNat hb hd, rfl⟩

/-- A number is written without the zeros that may stand before its digits. -/
theorem ofNat_fold (hb : 2 ≤ base) {ds : List Nat} (h : ∀ d ∈ ds, d < base) :
    ofNat base (fold base ds) = ds.dropWhile (· = 0) := by
  induction ds using List.reverseRecOn with
  | nil => rfl
  | append_singleton ds d ih =>
    have hd : d < base := h d (by simp)
    have hds := ih fun e he => h e (by simp [he])
    rw [fold_append_singleton, List.dropWhile_append, ← hds]
    rcases Nat.eq_zero_or_pos (fold base ds) with hz | hpos
    · rw [hz, ofNat_zero, Nat.mul_zero, Nat.zero_add]
      rcases Nat.eq_zero_or_pos d with rfl | hd0
      · rfl
      · rw [ofNat_of_digit hb hd0 hd]
        simp [Nat.pos_iff_ne_zero.1 hd0]
    · have hne : ofNat base (fold base ds) ≠ [] := by
        rw [ofNat_of_pos hb hpos]
        simp
      rw [ofNat_add hb hpos hd]
      simp [hne]

theorem dropWhile_ofNat (hb : 2 ≤ base) (n : Nat) :
    (ofNat base n).dropWhile (· = 0) = ofNat base n := by
  have h : ofNat base (fold base (ofNat base n)) = (ofNat base n).dropWhile (· = 0) :=
    ofNat_fold hb fun d hd => lt_of_mem_ofNat hb hd
  rw [fold_ofNat hb] at h
  exact h.symm

def rebase (source target : Nat) (ds : List Nat) : List Nat :=
  ds.takeWhile (· = 0) ++ ofNat target (fold source ds)

theorem takeWhile_rebase {source target : Nat} (ht : 2 ≤ target) (ds : List Nat) :
    (rebase source target ds).takeWhile (· = 0) = ds.takeWhile (· = 0) := by
  have hz : ∀ d ∈ ds.takeWhile (· = 0), decide (d = 0) = true := by
    intro d hd
    exact List.mem_takeWhile_imp (p := fun e => decide (e = 0)) hd
  have hnone : (ofNat target (fold source ds)).takeWhile (· = 0) = [] := by
    have h := List.takeWhile_append_dropWhile (p := fun d : Nat => decide (d = 0))
      (l := ofNat target (fold source ds))
    rw [dropWhile_ofNat ht] at h
    exact List.append_left_eq_self.1 h
  rw [rebase, List.takeWhile_append_of_pos hz, hnone, List.append_nil]

theorem fold_zeros_append (base : Nat) {zs : List Nat} (hz : ∀ z ∈ zs, z = 0) (ds : List Nat) :
    fold base (zs ++ ds) = fold base ds := by
  induction zs with
  | nil => rfl
  | cons z zs ih =>
    obtain rfl : z = 0 := hz z (by simp)
    have h := ih fun y hy => hz y (by simp [hy])
    simpa [fold] using h

theorem fold_rebase {source target : Nat} (ht : 2 ≤ target) (ds : List Nat) :
    fold target (rebase source target ds) = fold source ds := by
  rw [rebase, fold_zeros_append, fold_ofNat ht]
  intro z hz
  simpa using List.mem_takeWhile_imp hz

theorem rebase_rebase {source target : Nat} (hs : 2 ≤ source) (ht : 2 ≤ target) {ds : List Nat}
    (h : ∀ d ∈ ds, d < source) : rebase target source (rebase source target ds) = ds := by
  rw [rebase, takeWhile_rebase ht, fold_rebase ht, ofNat_fold hs h,
    List.takeWhile_append_dropWhile]

theorem lt_of_mem_rebase {source target d : Nat} (ht : 2 ≤ target) {ds : List Nat}
    (h : d ∈ rebase source target ds) : d < target := by
  rw [rebase, List.mem_append] at h
  rcases h with h | h
  · have hz : d = 0 := by simpa using List.mem_takeWhile_imp h
    omega
  · exact lt_of_mem_ofNat ht h

theorem ofNat_of_bounds (hb : 2 ≤ base) {d : Nat} (h0 : 0 < d) (hd : d < base) (k : Nat) {n : Nat}
    (hl : d * Nat.pow base k ≤ n) (hh : n < (d + 1) * Nat.pow base k) :
    ∃ es, ofNat base n = d :: es ∧ es.length = k := by
  induction k generalizing n with
  | zero =>
    obtain rfl : n = d := by
      simp only [Nat.pow_eq, Nat.pow_zero, Nat.mul_one] at hl hh
      omega
    exact ⟨[], ofNat_of_digit hb h0 hd, rfl⟩
  | succ k ih =>
    have hstep : Nat.pow base (k + 1) = Nat.pow base k * base := rfl
    rw [hstep, ← Nat.mul_assoc] at hl hh
    have hl' : d * Nat.pow base k ≤ n / base := (Nat.le_div_iff_mul_le (by omega)).2 hl
    have hh' : n / base < (d + 1) * Nat.pow base k := (Nat.div_lt_iff_lt_mul (by omega)).2 hh
    obtain ⟨es, hes, hlen⟩ := ih hl' hh'
    have hpos : 0 < n := by
      have hp : 0 < Nat.pow base k := Nat.pow_pos (by omega)
      have h1 : 0 < d * Nat.pow base k := Nat.mul_pos h0 hp
      have h2 := Nat.div_le_self n base
      omega
    refine ⟨es ++ [n % base], ?_, by simp [hlen]⟩
    rw [ofNat_of_pos hb hpos, hes]
    rfl

end Tronkit.Digits
