import Tronkit.Proofs.Address
import Tronkit.Proofs.Text.Order
import Mathlib.Data.List.Sort

/-!
# The order of addresses

Addresses are in the order of their hashes, and so are their bytes and their texts in either form.
The base58 form is that of a number of 25 bytes, the last four of which follow from the others; all
forms have the same length, so the numbers are in the order of the forms. Whichever form is compared,
addresses come in one sequence, with repeats or without.
-/

namespace Tronkit

section Repeats

variable {α : Type} [DecidableEq α] {R : α → α → Prop} {a : α} {as : List α}

theorem eraseReps_loop (a : α) (as kept : List α) :
    List.eraseRepsBy.loop (· == ·) a as kept = kept.reverse ++ (a :: as).eraseReps := by
  induction as generalizing a kept with
  | nil => simp [List.eraseReps, List.eraseRepsBy, List.eraseRepsBy.loop]
  | cons b as ih =>
    simp only [List.eraseReps, List.eraseRepsBy, List.eraseRepsBy.loop]
    cases a == b with
    | true => rw [ih a kept, ih a []]; simp
    | false => rw [ih b (a :: kept), ih b [a]]; simp

theorem eraseReps_cons_cons (a b : α) (as : List α) :
    (a :: b :: as).eraseReps = if a = b then (b :: as).eraseReps else a :: (b :: as).eraseReps := by
  by_cases h : a = b
  · subst h
    simp [List.eraseReps, List.eraseRepsBy, List.eraseRepsBy.loop]
  · have hne : (a == b) = false := beq_eq_false_iff_ne.2 h
    rw [if_neg h, List.eraseReps, List.eraseRepsBy, List.eraseRepsBy.loop, hne]
    exact eraseReps_loop b as [a]

theorem mem_eraseReps : a ∈ as.eraseReps ↔ a ∈ as := by
  induction as with
  | nil => rfl
  | cons b as ih =>
    cases as with
    | nil => rfl
    | cons c as =>
      rw [eraseReps_cons_cons]
      split
      · rename_i h
        rw [ih, h]
        simp
      · rw [List.mem_cons, ih, ← List.mem_cons]

/-- Repeats stand side by side in a sequence in order, so none of them is left. -/
theorem pairwise_eraseReps (hR : ∀ a b, R a b → R b a → a = b) (h : as.Pairwise R) :
    as.eraseReps.Pairwise fun a b => R a b ∧ a ≠ b := by
  induction as with
  | nil => exact .nil
  | cons a as ih =>
    obtain ⟨hfirst, hrest⟩ := List.pairwise_cons.1 h
    cases as with
    | nil => exact List.pairwise_singleton _ _
    | cons b as =>
      rw [eraseReps_cons_cons]
      split
      · exact ih hrest
      · rename_i hne
        refine List.pairwise_cons.2 ⟨fun c hc => ?_, ih hrest⟩
        have hmem := mem_eraseReps.1 hc
        refine ⟨hfirst c hmem, ?_⟩
        rintro rfl
        rcases List.mem_cons.1 hmem with rfl | hlater
        · exact hne rfl
        · have hba := (List.pairwise_cons.1 hrest).1 a hlater
          exact hne (hR a b (hfirst b List.mem_cons_self) hba)

end Repeats

namespace Address

inductive Form
  | bytes
  | hex
  | base58

def Form.spell : Form → Address → Bytes
  | bytes, a => a.bytes
  | hex, a => textBytes a.hex
  | base58, a => textBytes a.base58

variable {a b : Address} {as l : List Address}

theorem compare_eq_lt_iff : compare a b = .lt ↔ a.hash.toNat < b.hash.toNat := Nat.compare_eq_lt

theorem isLE_compare_iff : (compare a b).isLE = true ↔ a.hash.toNat ≤ b.hash.toNat :=
  Nat.isLE_compare

theorem eq_iff_toNat_hash : a = b ↔ a.hash.toNat = b.hash.toNat := by
  cases a
  cases b
  rw [Address.mk.injEq, BitVec.toNat_inj]

theorem length_base58 (a : Address) : (Base58.encodeChecked a.bytes).length = 34 := by
  obtain ⟨cs, hcs, hlen⟩ := a.base58_shape
  rw [base58, String.toList_ofList] at hcs
  rw [hcs, List.length_cons, hlen]

theorem bytes_lt_iff : a.bytes < b.bytes ↔ a.hash.toNat < b.hash.toNat := by
  have hhash : ∀ c : Address, Bytes.toNat c.hashBytes = c.hash.toNat :=
    fun c => Bytes.toNat_ofNat_of_lt c.hash.isLt
  have hlen : a.hashBytes.length = b.hashBytes.length := by
    rw [length_hashBytes, length_hashBytes]
  rw [bytes, bytes, List.cons_lt_cons_iff, Bytes.lt_iff_toNat_lt hlen, hhash, hhash]
  simp

theorem Form.spell_lt_iff (form : Form) :
    form.spell a < form.spell b ↔ a.hash.toNat < b.hash.toNat := by
  have hlen : a.bytes.length = b.bytes.length := by rw [length_bytes, length_bytes]
  rw [← bytes_lt_iff]
  cases form with
  | bytes => rfl
  | hex => exact Hex.text_lt_iff hlen
  | base58 =>
    have htexts := (length_base58 a).trans (length_base58 b).symm
    simp only [Form.spell, textBytes, Address.base58, String.toList_ofList]
    exact (Base58.encode_lt_iff htexts).trans (Base58.checked_lt_iff hlen)

theorem Form.spell_eq_iff (form : Form) : form.spell a = form.spell b ↔ a = b := by
  refine ⟨fun h => ?_, congrArg form.spell⟩
  have hirrefl : ∀ bs : Bytes, ¬bs < bs := List.lt_irrefl
  have hab := form.spell_lt_iff (a := a) (b := b)
  have hba := form.spell_lt_iff (a := b) (b := a)
  rw [h, iff_false_left (hirrefl _)] at hab hba
  rw [eq_iff_toNat_hash]
  omega

def inOrder (as : List Address) : List Address := as.mergeSort fun a b => (compare a b).isLE

theorem sorted_eq (as : List Address) : sorted as = (inOrder as).eraseReps := by
  have hle : (fun a b : Address => decide (a.hash.toNat ≤ b.hash.toNat)) =
      fun a b => (compare a b).isLE := by
    funext a b
    rw [Bool.eq_iff_iff, decide_eq_true_iff, isLE_compare_iff]
  rw [sorted, hle, inOrder]

theorem pairwise_inOrder (as : List Address) :
    (inOrder as).Pairwise fun a b => a.hash.toNat ≤ b.hash.toNat := by
  have htrans : ∀ a b c : Address, (compare a b).isLE = true → (compare b c).isLE = true →
      (compare a c).isLE = true := by
    intro a b c
    rw [isLE_compare_iff, isLE_compare_iff, isLE_compare_iff]
    exact Nat.le_trans
  have htotal : ∀ a b : Address, ((compare a b).isLE || (compare b a).isLE) = true := by
    intro a b
    rw [Bool.or_eq_true, isLE_compare_iff, isLE_compare_iff]
    exact Nat.le_total _ _
  simpa only [inOrder, isLE_compare_iff] using List.pairwise_mergeSort htrans htotal as

theorem pairwise_sorted (as : List Address) :
    (sorted as).Pairwise fun a b => a.hash.toNat < b.hash.toNat := by
  rw [sorted_eq]
  refine (pairwise_eraseReps (fun a b hab hba => ?_) (pairwise_inOrder as)).imp ?_
  · rw [eq_iff_toNat_hash]
    omega
  · rintro a b ⟨hle, hne⟩
    rw [ne_eq, eq_iff_toNat_hash] at hne
    omega

theorem mem_sorted : a ∈ sorted as ↔ a ∈ as := by
  rw [sorted_eq, mem_eraseReps]
  exact (List.mergeSort_perm as _).mem_iff

theorem eq_inOrder_iff (form : Form) :
    l = inOrder as ↔ l.Perm as ∧ l.Pairwise fun a b => ¬form.spell b < form.spell a := by
  simp only [form.spell_lt_iff, Nat.not_lt]
  constructor
  · rintro rfl
    exact ⟨List.mergeSort_perm as _, pairwise_inOrder as⟩
  · rintro ⟨hperm, hpairwise⟩
    refine List.Perm.eq_of_pairwise (fun a b _ _ hab hba => ?_) hpairwise (pairwise_inOrder as)
      (hperm.trans (List.mergeSort_perm as _).symm)
    rw [eq_iff_toNat_hash]
    omega

theorem eq_sorted_iff (form : Form) :
    l = sorted as ↔
      (∀ a, a ∈ l ↔ a ∈ as) ∧ l.Pairwise fun a b => form.spell a < form.spell b := by
  simp only [form.spell_lt_iff]
  constructor
  · rintro rfl
    exact ⟨fun a => mem_sorted, pairwise_sorted as⟩
  · rintro ⟨hmem, hpairwise⟩
    have hirrefl : Std.Irrefl fun a b : Address => a.hash.toNat < b.hash.toNat :=
      ⟨fun a => Nat.lt_irrefl _⟩
    have hantisymm : Std.Antisymm fun a b : Address => a.hash.toNat < b.hash.toNat :=
      ⟨fun a b hab hba => absurd hab (Nat.lt_asymm hba)⟩
    exact hpairwise.eq_of_mem_iff (pairwise_sorted as) fun a => (hmem a).trans mem_sorted.symm

/-- An address is before another if it is in any of the forms, and is the other if it is in any of
them. So there is one sequence of addresses in order, with their repeats or without, by whichever
form they are compared. -/
theorem orders_coincide (form : Form) :
    (∀ a b : Address, compare a b = .lt ↔ form.spell a < form.spell b) ∧
    (∀ a b : Address, a = b ↔ form.spell a = form.spell b) ∧
    (∀ as l : List Address, l = inOrder as ↔
      l.Perm as ∧ l.Pairwise fun a b => ¬form.spell b < form.spell a) ∧
    ∀ as l : List Address, l = sorted as ↔
      (∀ a, a ∈ l ↔ a ∈ as) ∧ l.Pairwise fun a b => form.spell a < form.spell b := by
  refine ⟨fun a b => ?_, fun a b => form.spell_eq_iff.symm, fun as l => eq_inOrder_iff form,
    fun as l => eq_sorted_iff form⟩
  rw [compare_eq_lt_iff, form.spell_lt_iff]

end Address
end Tronkit
