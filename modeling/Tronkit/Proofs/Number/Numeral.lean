import Tronkit.Proofs.Except
import Tronkit.Proofs.Number.Blob
import Mathlib.Data.Nat.Digits.Defs

/-!
# Which texts are numbers

A numeral of a number consists of digits that denote it, with any zeros in front and with letters of
either case. Both readings of a quantity take the numerals of a number for the number, and a word of
a contract result is a numeral of 64 digits. Beyond numerals both readings let a plus sign lead, and
the unbounded one, by which words are read as well, passes over underscores behind the first digit.
-/

namespace Tronkit
namespace Digits

/-- The text consists of digits of the base, in letters of either case, and they denote the
number. -/
def IsNumeralOf (base n : Nat) (cs : List Char) : Prop :=
  ∃ ds, ds ≠ [] ∧ (∀ d ∈ ds, d < base) ∧ cs.map Char.toLower = ds.map Nat.digitChar ∧
    Nat.ofDigits base ds.reverse = n

variable {base n : Nat} {cs : List Char}

theorem fold_eq_ofDigits (base : Nat) (ds : List Nat) :
    fold base ds = Nat.ofDigits base ds.reverse := by
  rw [Nat.ofDigits_eq_foldr, List.foldr_reverse, fold]
  simp only [Nat.cast_id, Nat.add_comm]

theorem denotes_iff_isNumeralOf (hbase : base ≤ 16) :
    Denotes base cs n ↔ IsNumeralOf base n cs := by
  constructor
  · rintro ⟨hne, hvalue⟩
    obtain ⟨ds, hds, rfl⟩ := Option.map_eq_some_iff.1 hvalue
    obtain ⟨hlt, hcs⟩ := (values?_eq_some_iff hbase).1 hds
    refine ⟨ds, ?_, hlt, hcs, (fold_eq_ofDigits base ds).symm⟩
    rintro rfl
    exact hne (List.map_eq_nil_iff.1 hcs)
  · rintro ⟨ds, hne, hlt, hcs, hn⟩
    refine ⟨?_, ?_⟩
    · rintro rfl
      exact hne (List.map_eq_nil_iff.1 hcs.symm)
    · rw [(values?_eq_some_iff hbase).2 ⟨hlt, hcs⟩, Option.map_some, fold_eq_ofDigits, hn]

theorem IsNumeralOf.value?_ne_none (hbase : base ≤ 16) (h : IsNumeralOf base n cs) :
    ∀ c ∈ cs, value? base c ≠ none :=
  Quantity.value?_of_denotes ((denotes_iff_isNumeralOf hbase).2 h)

theorem IsNumeralOf.isHex (h : IsNumeralOf 16 n cs) : ∀ c ∈ cs, isHex c = true :=
  fun c hc => Option.isSome_iff_ne_none.2 (h.value?_ne_none (Nat.le_refl 16) c hc)

end Digits

/-! ## Quantities -/

namespace Quantity

variable {cs : List Char} {n : Nat}

abbrev digitsOf (s : String) : List Char := stripMark s.toList

/-- The text is of the given kind, or it is a plus sign with such a text behind it. -/
def BehindSign (P : List Char → Prop) (cs : List Char) : Prop :=
  ∃ ds, (cs = ds ∨ cs = '+' :: ds) ∧ P ds

/-- The text is a numeral of the number, once the underscores behind its first digit are left
out. -/
def IsGrouped (n : Nat) (cs : List Char) : Prop :=
  cs.head? ≠ some '_' ∧ Digits.IsNumeralOf 16 n (cs.filter (· ≠ '_'))

theorem behindSign_iff {P : List Char → Prop} (h : '+' ∉ cs) : BehindSign P cs ↔ P cs := by
  constructor
  · rintro ⟨ds, rfl | rfl, hds⟩
    · exact hds
    · exact absurd List.mem_cons_self h
  · intro hcs
    exact ⟨cs, .inl rfl, hcs⟩

theorem behindSign_congr {P Q : List Char → Prop} (hPQ : ∀ ds, '_' ∉ ds → (P ds ↔ Q ds))
    (h : '_' ∉ cs) : BehindSign P cs ↔ BehindSign Q cs := by
  have hsuffix : ∀ ds, (cs = ds ∨ cs = '+' :: ds) → '_' ∉ ds := by
    rintro ds (rfl | rfl) hmem
    · exact h hmem
    · exact h (List.mem_cons_of_mem _ hmem)
  exact exists_congr fun ds => and_congr_right fun hds => hPQ ds (hsuffix ds hds)

theorem isGrouped_iff (h : '_' ∉ cs) : IsGrouped n cs ↔ Digits.IsNumeralOf 16 n cs := by
  have hhead : cs.head? ≠ some '_' := fun hc => h (List.mem_of_mem_head? hc)
  rw [IsGrouped, filter_of_notMem h]
  exact and_iff_right hhead

theorem number?_iff_behindSign : number? 16 cs = some n ↔ BehindSign (IsGrouped n) cs := by
  rw [number?_eq_some_iff]
  refine exists_congr fun ds => and_congr_right fun _ => ?_
  rw [unsigned?_eq_some_iff, Digits.denotes_iff_isNumeralOf (Nat.le_refl 16), IsGrouped]

theorem readNat_eq_ok_iff {s : String} :
    readNat s = .ok n ↔ BehindSign (IsGrouped n) (digitsOf s) := by
  rw [← number?_iff_behindSign, digitsOf, readNat]
  split
  · rename_i hnil
    rw [hnil]
    constructor <;> intro h <;> cases h
  · split
    · rename_i m hm
      rw [hm, Except.ok.injEq, Option.some.injEq]
    · rename_i hnone
      rw [hnone]
      constructor <;> intro h <;> cases h

theorem readU64_eq_ok_iff {s : String} :
    readU64 s = .ok n ↔
      digitsOf s = [] ∧ n = 0 ∨
        BehindSign (Digits.IsNumeralOf 16 n) (digitsOf s) ∧ n < Nat.pow 2 64 := by
  unfold readU64
  split
  · rename_i hnil
    have hno : ¬BehindSign (Digits.IsNumeralOf 16 n) [] := by
      rintro ⟨ds, rfl | h, hds⟩
      · exact ((Digits.denotes_iff_isNumeralOf (Nat.le_refl 16)).2 hds).nonempty rfl
      · cases h
    simp [hnil, hno, eq_comm]
  · rename_i hnil
    rw [or_iff_right fun h => hnil h.1, except_mapError_eq_ok_iff,
      Unsigned.read_eq_ok_iff (by decide) (by decide)]
    simp only [BehindSign, Digits.denotes_iff_isNumeralOf (Nat.le_refl 16)]
    constructor
    · rintro ⟨ds, hds, hdenotes, hlt⟩
      exact ⟨⟨ds, hds, hdenotes⟩, hlt⟩
    · rintro ⟨⟨ds, hds, hdenotes⟩, hlt⟩
      exact ⟨ds, hds, hdenotes, hlt⟩

/-- What is read as a quantity. Without underscores the readings agree on what is not empty and
fits, and where there is no plus sign either, what they read are the numerals. -/
theorem quantity_read_iff (s : String) (n : Nat) :
    (readNat s = .ok n ↔ BehindSign (IsGrouped n) (digitsOf s)) ∧
    (readU64 s = .ok n ↔
      digitsOf s = [] ∧ n = 0 ∨
        BehindSign (Digits.IsNumeralOf 16 n) (digitsOf s) ∧ n < Nat.pow 2 64) ∧
    ('_' ∉ digitsOf s → digitsOf s ≠ [] →
      (readU64 s = .ok n ↔ readNat s = .ok n ∧ n < Nat.pow 2 64)) ∧
    ('_' ∉ digitsOf s → '+' ∉ digitsOf s →
      (readNat s = .ok n ↔ Digits.IsNumeralOf 16 n (digitsOf s)) ∧
      (readU64 s = .ok n ↔
        digitsOf s = [] ∧ n = 0 ∨ Digits.IsNumeralOf 16 n (digitsOf s) ∧ n < Nat.pow 2 64)) := by
  refine ⟨readNat_eq_ok_iff, readU64_eq_ok_iff, ?_, ?_⟩
  · intro hmark hne
    rw [readU64_eq_ok_iff, readNat_eq_ok_iff, behindSign_congr (fun _ => isGrouped_iff) hmark]
    exact or_iff_right fun h => hne h.1
  · intro hmark hplus
    rw [readNat_eq_ok_iff, readU64_eq_ok_iff, behindSign_iff hplus, behindSign_iff hplus,
      isGrouped_iff hmark]
    exact ⟨Iff.rfl, Iff.rfl⟩

/-- An underscore is passed over by one reading and refused by the other, and both pass over a plus
sign. Neither text is a numeral. -/
theorem quantity_beyond_numerals :
    readNat "0x1_0" = .ok 16 ∧
      readU64 "0x1_0" = .error (.invalidQuantity "0x1_0" .invalidDigit) ∧
      readNat "0x+1" = .ok 1 ∧ readU64 "0x+1" = .ok 1 ∧
      ∀ n, ¬Digits.IsNumeralOf 16 n (digitsOf "0x1_0") ∧
        ¬Digits.IsNumeralOf 16 n (digitsOf "0x+1") := by
  refine ⟨by decide, by decide, by decide, by decide, fun n => ?_⟩
  constructor
  · intro h
    exact absurd (h.isHex '_' (by decide)) (by decide)
  · intro h
    exact absurd (h.isHex '+' (by decide)) (by decide)

end Quantity

/-! ## Words -/

namespace Blob

open Quantity (digitsOf stripMark BehindSign IsGrouped)

theorem ascii_of_isHex {c : Char} (h : Digits.isHex c = true) : c.toNat < 128 := by
  by_contra hc
  rw [Digits.isHex, Hex.value?_of_le (Nat.le_of_not_lt hc)] at h
  cases h

theorem ascii_of_isGrouped {n : Nat} {cs : List Char} (h : IsGrouped n cs) :
    ∀ c ∈ cs, c.toNat < 128 := by
  intro c hc
  by_cases hmark : c = '_'
  · rw [hmark]
    decide
  · exact ascii_of_isHex (h.2.isHex c (List.mem_filter.2 ⟨hc, by simpa using hmark⟩))

theorem size_of_behindSign {n : Nat} {cs : List Char} (h : BehindSign (IsGrouped n) cs) :
    Utf8.size cs = cs.length := by
  obtain ⟨ds, rfl | rfl, hds⟩ := h
  · exact Utf8.size_of_ascii (ascii_of_isGrouped hds)
  · exact Utf8.size_of_ascii (List.forall_mem_cons.2 ⟨by decide, ascii_of_isGrouped hds⟩)

theorem readNat_iff_behindSign {s : String} {n : Nat} :
    readNat s = .ok n ↔
      (digitsOf s).length = wordDigits ∧ BehindSign (IsGrouped n) (digitsOf s) := by
  rw [readNat_eq_ok_iff, word?, Option.ite_none_right_eq_some, Quantity.number?_iff_behindSign]
  exact and_congr_left fun h => by rw [size_of_behindSign h]

theorem readNat_of_word {n : Nat} (hn : n < Nat.pow 2 256) {mark word : String}
    (hmark : mark ∈ ["", "0x", "0X"]) (hword : Hex.SameText word (Hex.text (AbiToken.word n))) :
    readNat (mark ++ word) = .ok n := by
  have hspells := Hex.sameText_text_iff.1 hword
  have hpow : Nat.pow 256 32 = Nat.pow 2 256 := by decide
  have hvalue : word? word.toList = some n := by
    rw [Hex.word?_of_spells hspells (AbiToken.length_word n), AbiToken.word,
      Bytes.toNat_ofNat_of_lt (by omega)]
  rw [word?, Quantity.stripMark_of_isHex (Hex.isHex_of_spells hspells)] at hvalue
  rw [readNat_eq_ok_iff, word?, Quantity.stripMark_marked hmark hword, hvalue]

/-- The word of a number is read as the number. Nothing else of its length is read but texts with
a plus sign or underscores: without them, what is read are the numerals. -/
theorem word_read_iff (s : String) (n : Nat) :
    (n < Nat.pow 2 256 → ∀ mark ∈ ["", "0x", "0X"], ∀ word,
      Hex.SameText word (Hex.text (AbiToken.word n)) → readNat (mark ++ word) = .ok n) ∧
    (readNat s = .ok n ↔ (digitsOf s).length = 64 ∧ BehindSign (IsGrouped n) (digitsOf s)) ∧
    ('_' ∉ digitsOf s → '+' ∉ digitsOf s →
      (readNat s = .ok n ↔
        (digitsOf s).length = 64 ∧ Digits.IsNumeralOf 16 n (digitsOf s))) := by
  refine ⟨fun hn mark hmark word hword => readNat_of_word hn hmark hword,
    readNat_iff_behindSign, fun hmark hplus => ?_⟩
  rw [readNat_iff_behindSign, Quantity.behindSign_iff hplus, Quantity.isGrouped_iff hmark]
  rfl

/-- A digit and underscores up to the length of a word are read, and so is a plus sign in front of
too few digits. Neither text is a numeral. -/
theorem word_beyond_numerals :
    let grouped := "1_______________________________________________________________"
    let signed := "+000000000000000000000000000000000000000000000000000000000000006"
    readNat grouped = .ok 1 ∧ readNat signed = .ok 6 ∧
      ∀ n, ¬Digits.IsNumeralOf 16 n (digitsOf grouped) ∧
        ¬Digits.IsNumeralOf 16 n (digitsOf signed) := by
  intro grouped signed
  refine ⟨by decide, by decide, fun n => ?_⟩
  constructor
  · intro h
    exact absurd (h.isHex '_' (by decide)) (by decide)
  · intro h
    exact absurd (h.isHex '+' (by decide)) (by decide)

end Blob
end Tronkit
