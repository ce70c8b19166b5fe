import Tronkit.Proofs.Json.Natural

/-!
# Numbers in values of any form

The digits of a natural number read as that number, as long as it fits into 64 bits. Beyond that a
value of any form holds a floating point number in its place.
-/

namespace Tronkit.Json

namespace Reader

theorem le_foldl_digits (ds : List Nat) (v : Nat) :
    v ≤ ds.foldl (fun n d => 10 * n + d) v := by
  induction ds generalizing v with
  | nil => exact Nat.le_refl v
  | cons d ds ih =>
    have hstep : v ≤ 10 * v + d := by omega
    exact hstep.trans (ih (10 * v + d))

theorem significand_of_lt {ds : List Nat} {v : Nat}
    (h : ds.foldl (fun n d => 10 * n + d) v < u64Limit) :
    significand v 0 ds = (ds.foldl (fun n d => 10 * n + d) v, 0) := by
  induction ds generalizing v with
  | nil => rfl
  | cons d ds ih =>
    -- The number only grows, so it fits at each digit if it fits at the last one.
    have hfits : 10 * v + d < u64Limit := (le_foldl_digits ds _).trans_lt h
    rw [significand, if_pos (by simpa using hfits), ih h]
    rfl

theorem significand_of_dropped {ds : List Nat} {v dropped : Nat} (h : 0 < dropped) :
    0 < (significand v dropped ds).2 := by
  induction ds generalizing dropped with
  | nil => exact h
  | cons d ds ih =>
    have hdropped : ¬dropped = 0 := by omega
    rw [significand, if_neg (by simp [hdropped])]
    exact ih (Nat.succ_pos dropped)

theorem significand_of_le {ds : List Nat} {v : Nat} (hv : v < u64Limit)
    (h : u64Limit ≤ ds.foldl (fun n d => 10 * n + d) v) : 0 < (significand v 0 ds).2 := by
  induction ds generalizing v with
  | nil => exact absurd hv (Nat.not_lt.2 h)
  | cons d ds ih =>
    rw [significand]
    split
    · rename_i hfits
      have hfits' : 10 * v + d < u64Limit := by simpa using hfits
      exact ih hfits' h
    · exact significand_of_dropped (Nat.succ_pos 0)

theorem number?_of_lt {ds : List Nat} (h : Digits.fold 10 ds < u64Limit) :
    number? ⟨false, ds, none, none⟩ = some (.natural (Digits.fold 10 ds)) := by
  rw [number?, significand_of_lt h]
  rfl

/-- A number that takes more than 64 bits is a floating point number, if it is in its range. -/
theorem number?_of_le {ds : List Nat} (h : u64Limit ≤ Digits.fold 10 ds) {v : Json}
    (hv : number? ⟨false, ds, none, none⟩ = some v) : ∃ x, v = .double x := by
  have hpos : 0 < u64Limit := by decide
  have hdropped := significand_of_le hpos h
  obtain ⟨whole, dropped, hcut⟩ : ∃ whole dropped, significand 0 0 ds = (whole, dropped) :=
    ⟨_, _, rfl⟩
  rw [hcut] at hdropped
  have hne : ¬dropped = 0 := Nat.pos_iff_ne_zero.1 hdropped
  simp only [number?, hcut, if_neg hne] at hv
  obtain ⟨x, -, hx⟩ := Option.map_eq_some_iff.1 hv
  exact ⟨x, hx.symm⟩

theorem digitChar_bare : ∀ d < 10,
    let b := UInt8.ofNat (Nat.digitChar d).toNat
    b ≠ 0x22 ∧ b ≠ 0x74 ∧ b ≠ 0x66 ∧ b ≠ 0x5B ∧ b ≠ 0x7B := by decide

theorem scalar_digits (n : Nat) {rest : Bytes} (h : Ends rest) :
    scalar (Utf8.encode (Render.natural n) ++ rest) =
      (ofOption (number? ⟨false, decimalDigits n, none, none⟩)).map (·, rest) := by
  have hnumeral := numeral?_decimalDigits n h
  obtain ⟨d, bs, hd, hbytes⟩ := encode_natural_cons n
  have hnull := (digitChar_plain d hd).2.2
  obtain ⟨hquote, htrue, hfalse, -, -⟩ := digitChar_bare d hd
  rw [scalar, skipBlanks_natural]
  rw [hbytes, List.cons_append] at hnumeral ⊢
  simp only [if_neg hquote, if_neg hnull, if_neg htrue, if_neg hfalse, hnumeral, ofOption, ok_bind]
  cases number? ⟨false, decimalDigits n, none, none⟩ <;> rfl

theorem tree_of_front {b : UInt8} (hblank : isBlank b = false) (harray : b ≠ 0x5B)
    (hobject : b ≠ 0x7B) (depth : Nat) (bs : Bytes) : tree depth (b :: bs) = scalar (b :: bs) := by
  cases depth with
  | zero => rfl
  | succ depth =>
    rw [tree, skipBlanks_cons hblank]
    split
    · rename_i hcons
      exact absurd (List.cons.inj hcons).1 harray
    · rename_i hcons
      exact absurd (List.cons.inj hcons).1 hobject
    · rfl

theorem tree_digits (n depth : Nat) (rest : Bytes) :
    tree depth (Utf8.encode (Render.natural n) ++ rest) =
      scalar (Utf8.encode (Render.natural n) ++ rest) := by
  obtain ⟨d, bs, hd, hbytes⟩ := encode_natural_cons n
  obtain ⟨-, -, -, hbracket, hbrace⟩ := digitChar_bare d hd
  rw [hbytes, List.cons_append]
  exact tree_of_front (digitChar_plain d hd).2.1 hbracket hbrace depth _

end Reader

/-- The value is what a number is read as that is written in digits alone. -/
def IsNumber (n : Nat) (v : Json) : Prop := parseText Reader.value (decimalText n) = .ok v

theorem isNumber_iff {n : Nat} {v : Json} :
    IsNumber n v ↔
      ∃ w, Reader.number? ⟨false, decimalDigits n, none, none⟩ = some w ∧ plain? w = some v := by
  have htext : textBytes (decimalText n) = Utf8.encode (Render.natural n) ++ [] :=
    (List.append_nil _).symm
  have hends : Ends [] := trivial
  rw [IsNumber, parseText, parse_eq_ok_iff, htext]
  simp only [Reader.value, Reader.filterMap_eq_ok_iff, Reader.tree_digits,
    Reader.scalar_digits n hends, except_map_eq_ok_iff, Reader.ofOption_eq_ok_iff]
  constructor
  · rintro ⟨rest, ⟨w, ⟨w', hw, hsame⟩, hv⟩, -⟩
    cases hsame
    exact ⟨_, hw, hv⟩
  · rintro ⟨w, hw, hv⟩
    exact ⟨[], ⟨w, ⟨w, hw, rfl⟩, hv⟩, rfl⟩

theorem isNumber_natural {n : Nat} (hn : n < u64Limit) : IsNumber n (.natural n) := by
  have hfits : Digits.fold 10 (decimalDigits n) < u64Limit := by rwa [fold_decimalDigits]
  have hread := Reader.number?_of_lt hfits
  rw [fold_decimalDigits] at hread
  exact isNumber_iff.2 ⟨_, hread, rfl⟩

theorem IsNumber.eq_natural {n : Nat} {v : Json} (h : IsNumber n v) (hn : n < u64Limit) :
    v = .natural n := Except.ok.inj (h.symm.trans (isNumber_natural hn))

theorem IsNumber.exists_double {n : Nat} {v : Json} (h : IsNumber n v) (hn : u64Limit ≤ n) :
    ∃ x, v = .double x := by
  have hlarge : u64Limit ≤ Digits.fold 10 (decimalDigits n) := by rwa [fold_decimalDigits]
  obtain ⟨w, hw, hv⟩ := isNumber_iff.1 h
  obtain ⟨x, rfl⟩ := Reader.number?_of_le hlarge hw
  exact ⟨x, (Option.some.inj hv).symm⟩

end Tronkit.Json
