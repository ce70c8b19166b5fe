import Tronkit.Domain.Name
import Tronkit.Proofs.Except
import Tronkit.Proofs.Text.Split
import Mathlib.Data.Bool.AllAny

/-!
# The characters of a name in ASCII

The numerals of an encoded label have digits below 36 throughout, so that they are written in small
letters and decimal digits. All else in a name that was read is ASCII of the text that it was read
from, hyphens and full stops, and nothing that a name may not hold. A name in small ASCII letters
without an encoded label stays as it is.
-/

namespace Tronkit.Domain

variable {c : Char} {label cs name : List Char}

namespace Punycode

def digits : List Char := "abcdefghijklmnopqrstuvwxyz0123456789".toList

theorem digit_mem_digits : ∀ n < 36, digit n ∈ digits := by decide

theorem threshold_pos (bias k : Nat) : 1 ≤ threshold bias k := by
  unfold threshold
  omega

theorem threshold_le (bias k : Nat) : threshold bias k ≤ 26 := by
  unfold threshold
  omega

/-- A distance has fewer digits than its value, so the fuel is never used up before it. -/
theorem mem_digits_of_mem_numeral {bias fuel k delta : Nat} (hfuel : delta ≤ fuel)
    (h : c ∈ numeral bias fuel k delta) : c ∈ digits := by
  induction fuel generalizing k delta with
  | zero =>
    obtain rfl : delta = 0 := by omega
    rw [List.mem_singleton.1 h]
    exact digit_mem_digits 0 (by decide)
  | succ fuel ih =>
    have hpos := threshold_pos bias k
    have hle := threshold_le bias k
    simp only [numeral] at h
    split at h
    · rw [List.mem_singleton.1 h]
      exact digit_mem_digits delta (by omega)
    · rename_i hlt
      rcases List.mem_cons.1 h with rfl | h
      · have hmod : (delta - threshold bias k) % (36 - threshold bias k) < 36 - threshold bias k :=
          Nat.mod_lt _ (by omega)
        exact digit_mem_digits _ (by omega)
      · have hdiv : (delta - threshold bias k) / (36 - threshold bias k) ≤
            delta - threshold bias k := Nat.div_le_self _ _
        exact ih (by omega) h

theorem mem_digits_of_mem_encodeOne {n : Nat} {s : Coder} (hs : ∀ c ∈ s.out, c ∈ digits)
    (d : Char) : ∀ c ∈ (encodeOne n s d).out, c ∈ digits := by
  intro c hc
  unfold encodeOne at hc
  split at hc
  · exact hs c hc
  split at hc
  · rcases List.mem_append.1 hc with hc | hc
    · exact hs c hc
    · exact mem_digits_of_mem_numeral (Nat.le_refl s.delta) hc
  · exact hs c hc

theorem mem_digits_of_mem_encodeFrom {low : Nat} {ns : List Nat} {s : Coder}
    (hs : ∀ c ∈ s.out, c ∈ digits) : ∀ c ∈ (encodeFrom label low ns s).out, c ∈ digits := by
  have hfold : ∀ (n : Nat) (text : List Char) (s : Coder), (∀ c ∈ s.out, c ∈ digits) →
      ∀ c ∈ (text.foldl (encodeOne n) s).out, c ∈ digits := by
    intro n text
    induction text with
    | nil => exact fun _ hs => hs
    | cons d text ih => exact fun _ hs => ih _ (mem_digits_of_mem_encodeOne hs d)
  induction ns generalizing low s with
  | nil => exact hs
  | cons n ns ih => exact ih (hfold n label _ hs)

theorem mem_encode (h : c ∈ encode label) :
    (c ∈ label ∧ isAscii c = true) ∨ c = '-' ∨ c ∈ digits := by
  unfold encode at h
  rcases List.mem_append.1 h with h | h
  · rcases List.mem_append.1 h with h | h
    · exact .inl (List.mem_filter.1 h)
    · split at h
      · cases h
      · exact .inr (.inl (List.mem_singleton.1 h))
  · exact .inr (.inr (mem_digits_of_mem_encodeFrom (List.forall_mem_nil _) c h))

end Punycode

theorem Label.mem_ascii {read : Label} (h : Label.read? label = some read) (hc : c ∈ read.ascii) :
    (c ∈ label ∧ Punycode.isAscii c = true) ∨ c = '-' ∨ c ∈ Punycode.digits := by
  have hgiven : label.all Punycode.isAscii = true → read.ascii = label →
      c ∈ label ∧ Punycode.isAscii c = true := by
    intro hascii hsame
    rw [hsame] at hc
    exact ⟨hc, List.all_eq_true.1 hascii c hc⟩
  unfold Label.read? at h
  split at h
  · unfold Label.decode? at h
    split at h
    · rename_i hchecked
      simp only [Bool.and_eq_true] at hchecked
      obtain ⟨shown, -, h⟩ := Option.bind_eq_some_iff.1 h
      split at h
      · cases h
        exact .inl (hgiven hchecked.1.1 rfl)
      · cases h
    · cases h
  split at h
  · rename_i hascii
    cases h
    exact .inl (hgiven hascii rfl)
  split at h
  · cases h
    rcases List.mem_append.1 hc with hc | hc
    · have hmark : ∀ c ∈ Label.encodedMark, c = '-' ∨ c ∈ Punycode.digits :=
        List.all_iff_forall_prop.1 (by decide)
      exact .inr (hmark c hc)
    · exact Punycode.mem_encode hc
  · cases h

theorem of_mem_toAscii? (h : toAscii? cs = some name) :
    ∀ c ∈ name, isForbidden c = false ∧ Punycode.isAscii c = true := by
  have hmarks : ∀ c ∈ ['.', '-'] ++ Punycode.digits,
      isForbidden c = false ∧ Punycode.isAscii c = true := List.all_iff_forall_prop.1 (by decide)
  obtain ⟨shown, -, h⟩ := Option.bind_eq_some_iff.1 h
  split at h
  · cases h
  rename_i hallowed
  obtain ⟨labels, hlabels, h⟩ := Option.bind_eq_some_iff.1 h
  obtain ⟨-, h⟩ := Option.ite_none_right_eq_some.1 h
  cases h
  intro c hc
  obtain hdot | ⟨ascii, hmem, hc⟩ := Split.mem_flatten_intersperse hc
  · rw [List.mem_singleton.1 hdot]
    exact hmarks '.' (by decide)
  obtain ⟨read, hread, rfl⟩ := List.mem_map.1 hmem
  obtain ⟨label, hlabel, hlabelRead⟩ := exists_of_mem_right (mapM_eq_some_iff.1 hlabels) read hread
  rcases Label.mem_ascii hlabelRead hc with ⟨hc, hascii⟩ | rfl | hdigit
  · refine ⟨Bool.eq_false_iff.2 fun hforbidden => hallowed ?_, hascii⟩
    exact List.any_eq_true.2 ⟨c, Split.mem_of_mem_all hlabel hc, hforbidden⟩
  · exact hmarks '-' (by decide)
  · exact hmarks c (List.mem_append_right _ hdigit)

/-! ## Names that stay as they are -/

theorem ofChar_of_isAscii (h : Punycode.isAscii c = true) :
    Direction.ofChar c ≠ .leftward ∧ Direction.ofChar c ≠ .arabicDigit := by
  rw [Direction.ofChar, if_pos (of_decide_eq_true h), Direction.ofAscii]
  split
  · exact ⟨nofun, nofun⟩
  · split <;> exact ⟨nofun, nofun⟩

theorem isLeftward_of_ascii (h : ∀ c ∈ label, Punycode.isAscii c = true) :
    Label.isLeftward ⟨label, label⟩ = false := by
  rw [Bool.eq_false_iff]
  intro hleftward
  obtain ⟨c, hc, hdirection⟩ := List.any_eq_true.1 hleftward
  have hright := ofChar_of_isAscii (h c hc)
  simp [hright.1, hright.2] at hdirection

theorem meaningOf?_of_ascii (h : ∀ c ∈ cs, Punycode.isAscii c = true ∧ c.toLower = c) :
    meaningOf? cs = some cs := by
  have hmap : cs.mapM map? = some (cs.map fun c => [c]) := by
    refine mapM_eq_some_iff.2 (List.forall₂_map_right_iff.2 (List.forall₂_same.2 fun c hc => ?_))
    obtain ⟨hascii, hlower⟩ := h c hc
    rw [map?_ascii (of_decide_eq_true hascii), hlower]
  have hlow : ∀ c ∈ cs, c.toNat < 0x300 := fun c hc => by
    have hascii : c.toNat < 0x80 := of_decide_eq_true (h c hc).1
    omega
  rw [meaningOf?, hmap, Option.map_some, ← List.flatMap_def, List.flatMap_singleton',
    Canonical.normalize_of_low hlow]

theorem toAscii?_of_plain
    (hchars : ∀ c ∈ cs, isForbidden c = false ∧ Punycode.isAscii c = true ∧ c.toLower = c)
    (hlabels : ∀ label ∈ Split.all '.' cs, Label.isEncoded label = false) :
    toAscii? cs = some cs := by
  have hmeaning := meaningOf?_of_ascii fun c hc => (hchars c hc).2
  have hallowed : ¬cs.any isForbidden = true := by
    rw [List.any_eq_true]
    rintro ⟨c, hc, hforbidden⟩
    rw [(hchars c hc).1] at hforbidden
    cases hforbidden
  have hascii : ∀ label ∈ Split.all '.' cs, ∀ c ∈ label, Punycode.isAscii c = true :=
    fun label hlabel c hc => (hchars c (Split.mem_of_mem_all hlabel hc)).2.1
  have hread : (Split.all '.' cs).mapM Label.read? =
      some ((Split.all '.' cs).map fun label => ⟨label, label⟩) := by
    refine mapM_eq_some_iff.2 (List.forall₂_map_right_iff.2 (List.forall₂_same.2 ?_))
    intro label hlabel
    exact Label.read?_ascii (hlabels label hlabel) (List.all_eq_true.2 (hascii label hlabel))
  have hordered : ((Split.all '.' cs).map fun label => (⟨label, label⟩ : Label)).any
      Label.isLeftward = false := by
    rw [Bool.eq_false_iff, ne_eq, List.any_eq_true]
    rintro ⟨read, hmem, hleftward⟩
    obtain ⟨label, hlabel, rfl⟩ := List.mem_map.1 hmem
    rw [isLeftward_of_ascii (hascii label hlabel)] at hleftward
    cases hleftward
  rw [toAscii?, hmeaning]
  simp only [Option.bind_eq_bind, Option.bind_some, if_neg hallowed, hread, hordered,
    Bool.not_false, Bool.true_or, if_true, List.map_map]
  have hkept : (Split.all '.' cs).map (Label.ascii ∘ fun label => ⟨label, label⟩) =
      Split.all '.' cs := List.map_id _
  rw [hkept, joinLabels, Split.flatten_intersperse_all]

end Tronkit.Domain
