import Tronkit.Json.BigNumber
import Tronkit.Proofs.Json.Natural
import Tronkit.Proofs.Number.Numeral

/-!
# Written integers of any size

Texts without the mark of a quantity are read as numbers if they consist of decimal digits, behind a
minus sign where a number may be negative. A number is written as a string of its decimal digits,
with a sign in front if it is negative, and it is read from that string as the same number, whatever
its size.
-/

namespace Tronkit.Json.BigNumber

open Digits (IsNumeralOf)

theorem exact_reader {α : Type} (read : String → Except NumberError α) : (reader read).Exact :=
  Reader.exact_verbatim.check _

/-- The text is a decimal numeral, or a minus sign and the numeral of the opposite number. -/
def IsIntegerOf (z : Int) (cs : List Char) : Prop :=
  ∃ n ds, IsNumeralOf 10 n ds ∧ (cs = ds ∧ z = n ∨ cs = '-' :: ds ∧ z = -n)

variable {cs : List Char} {s : String} {n : Nat} {z : Int}

/-! ## Digits -/

theorem isDecimal_of_value? {c : Char} (h : Digits.value? 10 c ≠ none) :
    Digits.isDecimal c = true := by
  obtain ⟨d, hd⟩ := Option.ne_none_iff_exists'.1 h
  obtain ⟨hvalue, hlt⟩ := Option.filter_eq_some_iff.1 hd
  simp only [decide_eq_true_eq] at hlt
  split at hvalue
  · rename_i hc
    simp [Digits.isDecimal, hc]
  · -- A letter stands for ten or more.
    split at hvalue
    · cases hvalue
      omega
    · split at hvalue
      · cases hvalue
        omega
      · cases hvalue

theorem decimal?_eq_some_iff : decimal? cs = some n ↔ IsNumeralOf 10 n cs := by
  rw [← Digits.denotes_iff_isNumeralOf (by decide)]
  constructor
  · intro h
    unfold decimal? at h
    split at h
    · cases h
    · rename_i hne
      split at h
      · exact ⟨hne, h⟩
      · cases h
  · intro h
    have hall : cs.all Digits.isDecimal = true :=
      List.all_eq_true.2 fun c hc => isDecimal_of_value? (Quantity.value?_of_denotes h c hc)
    rw [decimal?, if_neg h.nonempty, if_pos hall, h.value]

theorem isQuantity_of_notMem (hx : 'x' ∉ cs) (hX : 'X' ∉ cs) : isQuantity cs = false := by
  unfold isQuantity
  split
  · exact absurd (by simp) hx
  · exact absurd (by simp) hX
  · rfl

theorem readUnsigned_eq_ok_iff (h : isQuantity s.toList = false) :
    readUnsigned s = .ok n ↔ IsNumeralOf 10 n s.toList := by
  rw [readUnsigned, h, if_neg Bool.false_ne_true, ← decimal?_eq_some_iff]
  split
  · rename_i m hm
    rw [hm, Except.ok.injEq, Option.some.injEq]
  · rename_i hnone
    rw [hnone]
    constructor <;> intro h <;> cases h

theorem isNumeralOf_natural (n : Nat) : IsNumeralOf 10 n (Render.natural n) := by
  have table : ∀ d < 10, (Nat.digitChar d).toLower = Nat.digitChar d := by decide
  refine ⟨decimalDigits n, decimalDigits_ne_nil n, fun _ => lt_of_mem_decimalDigits, ?_, ?_⟩
  · rw [render_natural, List.map_map]
    exact List.map_congr_left fun d hd => table d (lt_of_mem_decimalDigits hd)
  · rw [← Digits.fold_eq_ofDigits, fold_decimalDigits]

/-! ## Signs -/

theorem IsIntegerOf.mem {c : Char} (h : IsIntegerOf z cs) (hc : c ∈ cs) :
    c = '-' ∨ Digits.value? 10 c ≠ none := by
  obtain ⟨n, ds, hn, ⟨rfl, -⟩ | ⟨rfl, -⟩⟩ := h
  · exact .inr (hn.value?_ne_none (by decide) c hc)
  · exact (List.mem_cons.1 hc).imp_right (hn.value?_ne_none (by decide) c)

theorem IsIntegerOf.of_isNumeralOf (h : IsNumeralOf 10 n cs) : IsIntegerOf n cs :=
  ⟨n, cs, h, .inl ⟨rfl, rfl⟩⟩

theorem IsIntegerOf.notMem (h : IsIntegerOf z cs) : 'x' ∉ cs ∧ 'X' ∉ cs :=
  ⟨fun hx => absurd (h.mem hx) (by decide), fun hX => absurd (h.mem hX) (by decide)⟩

theorem map_lift_eq_ok_iff {x : Except NumberError Nat} {f : Int → Int} :
    Except.map f (do return (← x : Nat)) = .ok z ↔ ∃ n : Nat, x = .ok n ∧ f n = z := by
  rw [except_map_eq_ok_iff]
  constructor
  · rintro ⟨w, hw, hz⟩
    obtain ⟨n, hn, hlift⟩ := bind_eq_ok_iff.1 hw
    cases hlift
    exact ⟨n, hn, hz⟩
  · rintro ⟨n, rfl, hz⟩
    exact ⟨n, rfl, hz⟩

theorem readSigned_eq_ok_iff (hx : 'x' ∉ s.toList) (hX : 'X' ∉ s.toList) :
    readSigned s = .ok z ↔ IsIntegerOf z s.toList := by
  unfold readSigned
  split
  · rename_i cs hcs
    rw [hcs] at hx hX
    have hquantity : isQuantity (String.ofList cs).toList = false := by
      rw [String.toList_ofList]
      exact isQuantity_of_notMem (List.not_mem_of_not_mem_cons hx) (List.not_mem_of_not_mem_cons hX)
    rw [map_lift_eq_ok_iff, hcs]
    simp only [readUnsigned_eq_ok_iff hquantity, String.toList_ofList]
    constructor
    · rintro ⟨n, hn, rfl⟩
      exact ⟨n, cs, hn, .inr ⟨rfl, rfl⟩⟩
    · rintro ⟨n, ds, hn, ⟨rfl, -⟩ | ⟨hds, rfl⟩⟩
      · exact absurd rfl (hn.value?_ne_none (by decide) '-' List.mem_cons_self)
      · cases hds
        exact ⟨n, hn, rfl⟩
  · rename_i hminus
    rw [map_lift_eq_ok_iff]
    simp only [readUnsigned_eq_ok_iff (isQuantity_of_notMem hx hX)]
    constructor
    · rintro ⟨n, hn, rfl⟩
      exact ⟨n, _, hn, .inl ⟨rfl, rfl⟩⟩
    · rintro ⟨n, ds, hn, ⟨rfl, rfl⟩ | ⟨hds, -⟩⟩
      · exact ⟨n, hn, rfl⟩
      · exact absurd hds (hminus ds)

theorem isIntegerOf_integer (z : Int) : IsIntegerOf z (Render.integer z) := by
  cases z with
  | ofNat n => exact .of_isNumeralOf (isNumeralOf_natural n)
  | negSucc n =>
    refine ⟨n + 1, _, isNumeralOf_natural (n + 1), .inr ⟨?_, rfl⟩⟩
    rw [Render.integer, integerText, String.toList_append]
    rfl

theorem readUnsigned_decimalText (n : Nat) : readUnsigned (decimalText n) = .ok n := by
  have hn : IsNumeralOf 10 n (decimalText n).toList := isNumeralOf_natural n
  obtain ⟨hx, hX⟩ := (IsIntegerOf.of_isNumeralOf hn).notMem
  exact (readUnsigned_eq_ok_iff (isQuantity_of_notMem hx hX)).2 hn

theorem readSigned_integerText (z : Int) : readSigned (integerText z) = .ok z := by
  have hz : IsIntegerOf z (integerText z).toList := isIntegerOf_integer z
  obtain ⟨hx, hX⟩ := hz.notMem
  exact (readSigned_eq_ok_iff hx hX).2 hz

/-! ## Strings of digits -/

theorem isRaw_string (s : String) : IsRaw (String.ofList (Render.string s)) := by
  rw [IsRaw, String.toList_ofList]
  exact ⟨written_string s, isPresent_string s⟩

theorem unquote_string (s : String) : unquote (String.ofList (Render.string s)) = .ok s := by
  have hquote : (String.ofList (Render.string s)).toList.head? = some '"' := by
    rw [String.toList_ofList]
    rfl
  rw [unquote, if_pos hquote]
  exact (reads_string maxDepth s).parseText

theorem reader_eq_ok_iff {α : Type} {read : String → Except NumberError α} {raw s : String}
    (hraw : IsRaw raw) (hs : unquote raw = .ok s) (depth : Nat) {rest rest' : Bytes} {a : α}
    (hends : Ends rest) :
    reader read depth (Utf8.encode raw.toList ++ rest) = .ok (a, rest') ↔
      rest' = rest ∧ read s = .ok a := by
  have hverbatim := reads_verbatim hraw depth rest hends
  rw [reader, Reader.check_of_ok hverbatim, hs, ok_bind, except_map_eq_ok_iff]
  simp only [except_mapError_eq_ok_iff, Prod.mk.injEq]
  constructor
  · rintro ⟨a', hread, rfl, rfl⟩
    exact ⟨rfl, hread⟩
  · rintro ⟨rfl, hread⟩
    exact ⟨a, hread, rfl, rfl⟩

theorem reads_reader {α : Type} {read : String → Except NumberError α} {s : String} {a : α}
    (h : read s = .ok a) (depth : Nat) : (reader read).Reads depth (Render.string s) a := by
  intro rest hends
  have hread := (reader_eq_ok_iff (isRaw_string s) (unquote_string s) depth hends).2 ⟨rfl, h⟩
  rwa [String.toList_ofList] at hread

theorem reads_quoted (n depth : Nat) : unsigned.Reads depth (quoted n) n :=
  reads_reader (readUnsigned_decimalText n) depth

theorem reads_quotedInteger (z : Int) (depth : Nat) : signed.Reads depth (quotedInteger z) z :=
  reads_reader (readSigned_integerText z) depth

end Tronkit.Json.BigNumber
