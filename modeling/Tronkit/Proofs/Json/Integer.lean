import Tronkit.Proofs.Json.BigNumber
import Tronkit.Proofs.Json.NumberToken
import Mathlib.Data.List.Basic

/-!
# Integers of any size from JSON

An integer is written as its decimal digits, bare or as a string, and read back from either. Of the
numbers of JSON those in digits alone are read as naturals, and as integers also those with a minus
sign in front of digits alone. A number with a fraction or an exponent is refused, whatever its
value, so that nothing is rounded.
-/

namespace Tronkit.Json

/-- In front of any end, the reader takes the text for the values of the given kind and for no
other value. -/
def Reader.Accepts {α : Type} (r : Reader α) (text : List Char) (P : α → Prop) : Prop :=
  ∀ depth rest, Ends rest → ∀ a rest',
    r depth (Utf8.encode text ++ rest) = .ok (a, rest') ↔ rest' = rest ∧ P a

theorem Reader.Accepts.reads {α : Type} {r : Reader α} {text : List Char} {P : α → Prop} {a : α}
    (h : r.Accepts text P) (ha : P a) (depth : Nat) : r.Reads depth text a :=
  fun rest hends => (h depth rest hends a rest).2 ⟨rfl, ha⟩

theorem Reader.Accepts.option {α : Type} {r : Reader α} {text : List Char} {P : α → Prop}
    (h : r.Accepts text P) (hpresent : IsPresent text) :
    (Reader.option r).Accepts text fun x => ∃ a, x = some a ∧ P a := by
  intro depth rest hends x rest'
  rw [Reader.option_of_isPresent hpresent, Reader.map_eq_ok_iff]
  constructor
  · rintro ⟨a, hread, rfl⟩
    obtain ⟨rfl, ha⟩ := (h depth rest hends a rest').1 hread
    exact ⟨rfl, a, rfl, ha⟩
  · rintro ⟨rfl, a, rfl, ha⟩
    exact ⟨a, (h depth rest' hends a rest').2 ⟨rfl, ha⟩, rfl⟩

namespace BigNumber

open Digits (IsNumeralOf)

variable {z : Int}

theorem quoted_eq (n : Nat) : quoted n = '"' :: Nat.toDigits 10 n ++ ['"'] := by
  have table : ∀ d < 10, escapeChar (Nat.digitChar d) = [Nat.digitChar d] := by decide
  have hplain : ∀ c ∈ Nat.toDigits 10 n, escapeChar c = [c] := by
    intro c hc
    rw [toDigits_eq_map] at hc
    obtain ⟨d, hd, rfl⟩ := List.mem_map.1 hc
    exact table d (lt_of_mem_decimalDigits hd)
  have hescape : (Nat.toDigits 10 n).flatMap escapeChar = Nat.toDigits 10 n :=
    (List.flatMap_congr hplain).trans (List.flatMap_singleton' _)
  rw [quoted, Render.string, decimalText, String.toList_ofList, hescape]

/-! ## Numbers -/

theorem accepts_reader {α : Type} (read : String → Except NumberError α) (t : NumberToken) :
    (reader read).Accepts t.text fun a => read (String.ofList t.text) = .ok a := by
  intro depth rest hends a rest'
  have hquote : ¬(String.ofList t.text).toList.head? = some '"' := by
    intro hhead
    rw [String.toList_ofList] at hhead
    exact absurd (t.text_subset (List.mem_of_mem_head? hhead)) (by decide)
  have hunquote : unquote (String.ofList t.text) = .ok (String.ofList t.text) := if_neg hquote
  have hread : reader read depth (Utf8.encode (String.ofList t.text).toList ++ rest) =
      .ok (a, rest') ↔ rest' = rest ∧ read (String.ofList t.text) = .ok a :=
    reader_eq_ok_iff t.isRaw_text hunquote depth hends
  rwa [String.toList_ofList] at hread

theorem notMem_text (t : NumberToken) :
    'x' ∉ (String.ofList t.text).toList ∧ 'X' ∉ (String.ofList t.text).toList := by
  rw [String.toList_ofList]
  exact ⟨fun hx => absurd (t.text_subset hx) (by decide),
    fun hX => absurd (t.text_subset hX) (by decide)⟩

theorem accepts_unsigned (t : NumberToken) :
    unsigned.Accepts t.text fun n => IsNumeralOf 10 n t.text := by
  obtain ⟨hx, hX⟩ := notMem_text t
  have hread := accepts_reader readUnsigned t
  simp only [readUnsigned_eq_ok_iff (isQuantity_of_notMem hx hX), String.toList_ofList] at hread
  exact hread

theorem accepts_signed (t : NumberToken) :
    signed.Accepts t.text fun z => IsIntegerOf z t.text := by
  obtain ⟨hx, hX⟩ := notMem_text t
  have hread := accepts_reader readSigned t
  simp only [readSigned_eq_ok_iff hx hX, String.toList_ofList] at hread
  exact hread

/-- A number with a fraction or an exponent is no integer, whatever its value. -/
theorem not_isIntegerOf_text {t : NumberToken} (h : t.fraction ≠ none ∨ t.exponent ≠ none) :
    ¬IsIntegerOf z t.text := by
  intro hz
  obtain ⟨c, hmem, hc⟩ := t.exists_mem_text h
  simp only [List.mem_cons, List.not_mem_nil, or_false] at hc
  have hplain := hz.mem hmem
  obtain rfl | rfl | rfl := hc
  · exact absurd hplain (by decide)
  · exact absurd hplain (by decide)
  · exact absurd hplain (by decide)

/-! ## Texts of one integer -/

theorem reads_natural (n depth : Nat) : unsigned.Reads depth (Render.natural n) n := by
  have haccepts := accepts_unsigned (NumberToken.ofInt n)
  rw [NumberToken.text_ofInt] at haccepts
  exact haccepts.reads (isNumeralOf_natural n) depth

theorem reads_integer (z : Int) (depth : Nat) : signed.Reads depth (Render.integer z) z := by
  have haccepts := accepts_signed (NumberToken.ofInt z)
  rw [NumberToken.text_ofInt] at haccepts
  exact haccepts.reads (isIntegerOf_integer z) depth

theorem isPresent_natural (n : Nat) : IsPresent (Render.natural n) := by
  have hpresent := (NumberToken.ofInt n).encode_text_cons
  rwa [NumberToken.text_ofInt] at hpresent

/-- Integers are written and read without loss. Every reader takes a natural from its digits and
from the quoted digits, the signed one takes also the negative integers, and of all numbers only
those without fraction and exponent are read, at any length. -/
theorem integers_exact :
    (∀ n, Render.natural n = Nat.toDigits 10 n ∧
      quoted n = '"' :: Nat.toDigits 10 n ++ ['"']) ∧
    (∀ n depth, ∀ text ∈ [Render.natural n, quoted n],
      unsigned.Reads depth text n ∧ (Reader.option unsigned).Reads depth text (some n) ∧
        signed.Reads depth text n) ∧
    (∀ z depth, ∀ text ∈ [Render.integer z, quotedInteger z], signed.Reads depth text z) ∧
    ∀ t : NumberToken,
      (unsigned.Accepts t.text fun n => IsNumeralOf 10 n t.text) ∧
      ((Reader.option unsigned).Accepts t.text fun x => ∃ n, x = some n ∧
        IsNumeralOf 10 n t.text) ∧
      (signed.Accepts t.text fun z => IsIntegerOf z t.text) ∧
      (t.fraction ≠ none ∨ t.exponent ≠ none →
        (∀ n, ¬IsNumeralOf 10 n t.text) ∧ ∀ z, ¬IsIntegerOf z t.text) := by
  have hsigned : ∀ z depth, ∀ text ∈ [Render.integer z, quotedInteger z],
      signed.Reads depth text z := by
    intro z depth
    exact List.forall_mem_cons.2 ⟨reads_integer z depth,
      List.forall_mem_singleton.2 (reads_quotedInteger z depth)⟩
  refine ⟨fun n => ⟨String.toList_ofList, quoted_eq n⟩, fun n depth => ?_, hsigned, fun t => ?_⟩
  · have hbare := reads_natural n depth
    have hquoted := reads_quoted n depth
    have hbareSigned := hsigned n depth (Render.natural n) List.mem_cons_self
    have hquotedSigned := reads_quotedInteger n depth
    exact List.forall_mem_cons.2 ⟨⟨hbare, hbare.option (isPresent_natural n), hbareSigned⟩,
      List.forall_mem_singleton.2 ⟨hquoted, hquoted.option (isPresent_string _), hquotedSigned⟩⟩
  · have hunsigned := accepts_unsigned t
    refine ⟨hunsigned, hunsigned.option t.encode_text_cons, accepts_signed t, fun hpart => ?_⟩
    exact ⟨fun n hn => not_isIntegerOf_text hpart (.of_isNumeralOf hn),
      fun z => not_isIntegerOf_text hpart⟩

end BigNumber
end Tronkit.Json
