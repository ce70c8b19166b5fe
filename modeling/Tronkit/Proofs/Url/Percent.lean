import Tronkit.Url.Percent
import Tronkit.Proofs.Text.Utf8
import Mathlib.Data.Bool.AllAny
import Mathlib.Data.List.Basic

/-!
# What percent encoding leaves behind

An encoded text holds nothing that its part of a URL may not hold, so encoding it again changes
nothing. A text without percent signs stands for itself.
-/

namespace Tronkit.Percent

variable {inSet : Char → Bool} {cs : List Char} {c : Char}

def marks : List Char := "%0123456789ABCDEF".toList

theorem upperDigit_mem_marks : ∀ n < 16, upperDigit n ∈ marks := by decide

theorem mem_marks_of_mem_triple {b : UInt8} (h : c ∈ triple b) : c ∈ marks := by
  have hb : b.toNat < 256 := b.toNat_lt
  simp only [triple, List.mem_cons, List.not_mem_nil, or_false] at h
  rcases h with rfl | rfl | rfl
  · decide
  · exact upperDigit_mem_marks _ (by omega)
  · exact upperDigit_mem_marks _ (by omega)

theorem mem_encode (h : c ∈ encode inSet cs) : (c ∈ cs ∧ inSet c = false) ∨ c ∈ marks := by
  obtain ⟨d, hd, hc⟩ := List.mem_flatMap.1 h
  split at hc
  · obtain ⟨b, -, hb⟩ := List.mem_flatMap.1 hc
    exact .inr (mem_marks_of_mem_triple hb)
  · rename_i hset
    obtain rfl := List.mem_singleton.1 hc
    exact .inl ⟨hd, Bool.eq_false_iff.2 hset⟩

/-- Whatever holds of the characters that are kept and of the marks holds throughout. -/
theorem forall_mem_encode {P : Char → Prop} (hkept : ∀ c ∈ cs, inSet c = false → P c)
    (hmarks : ∀ c ∈ marks, P c) : ∀ c ∈ encode inSet cs, P c := by
  intro c hc
  rcases mem_encode hc with ⟨hmem, hset⟩ | hmem
  · exact hkept c hmem hset
  · exact hmarks c hmem

theorem encode_append (inSet : Char → Bool) (as bs : List Char) :
    encode inSet (as ++ bs) = encode inSet as ++ encode inSet bs := List.flatMap_append

theorem encode_eq_nil_iff : encode inSet cs = [] ↔ cs = [] := by
  cases cs with
  | nil => simp [encode]
  | cons c cs =>
    have hne : (if inSet c then (Utf8.encodeChar c).flatMap triple else [c]) ≠ [] := by
      split
      · obtain ⟨b, bs, hb⟩ := List.exists_cons_of_length_pos (Utf8.length_encodeChar_pos c)
        rw [hb]
        exact List.cons_ne_nil _ _
      · exact List.cons_ne_nil _ _
    simp only [encode, List.flatMap_cons, List.append_eq_nil_iff, hne, false_and, reduceCtorEq]

/-- The first character is kept, or a percent sign stands in its place. -/
theorem head?_encode (inSet : Char → Bool) (cs : List Char) :
    (encode inSet cs).head? = cs.head?.map fun c => if inSet c then '%' else c := by
  cases cs with
  | nil => rfl
  | cons c cs =>
    rw [encode, List.flatMap_cons, List.head?_cons, Option.map_some]
    split
    · obtain ⟨b, bs, hb⟩ := List.exists_cons_of_length_pos (Utf8.length_encodeChar_pos c)
      rw [hb]
      rfl
    · rfl

theorem forall_mem_getLast?_encode {P : Char → Prop} (hlast : ∀ c ∈ cs.getLast?, P c)
    (hmarks : ∀ c ∈ marks, P c) : ∀ c ∈ (encode inSet cs).getLast?, P c := by
  rcases List.eq_nil_or_concat cs with rfl | ⟨front, last, rfl⟩
  · exact nofun
  · have hne : encode inSet [last] ≠ [] := fun hnil =>
      List.cons_ne_nil _ _ (encode_eq_nil_iff.1 hnil)
    rw [List.concat_eq_append, encode_append, List.getLast?_append_of_ne_nil _ hne]
    intro c hc
    refine forall_mem_encode (fun d hd _ => ?_) hmarks c (List.mem_of_mem_getLast? hc)
    rw [List.mem_singleton.1 hd]
    exact hlast last (by rw [List.concat_eq_append, List.getLast?_concat]; rfl)

section Sets

theorem inFragment_of_inPath (h : inPath c = false) : inFragment c = false := by
  simp only [inPath, Bool.or_eq_false_iff] at h
  exact h.1.1.1.1

theorem isControl_of_inFragment (h : inFragment c = false) : isControl c = false := by
  simp only [inFragment, Bool.or_eq_false_iff] at h
  exact h.1.1.1.1.1

theorem inPath_of_inUserinfo (h : inUserinfo c = false) : inPath c = false := by
  simp only [inUserinfo, Bool.or_eq_false_iff] at h
  exact h.1

theorem isControl_of_inQuery {special : Bool} (h : inQuery special c = false) :
    isControl c = false := by
  simp only [inQuery, Bool.or_eq_false_iff] at h
  exact h.1.1.1.1.1.1

theorem inQuery_of_special (h : inQuery true c = false) (special : Bool) :
    inQuery special c = false := by
  simp only [inQuery, Bool.or_eq_false_iff, Bool.true_and] at h ⊢
  exact ⟨h.1, by rw [h.2, Bool.and_false]⟩

end Sets

theorem decode_of_notMem (h : '%' ∉ cs) : decode cs = Utf8.encode cs := by
  induction cs with
  | nil => rfl
  | cons c cs ih =>
    rw [List.mem_cons, not_or] at h
    have hdecode : decode (c :: cs) = Utf8.encodeChar c ++ decode cs := by
      conv =>
        lhs
        unfold decode
      split
      · split
        · exact absurd rfl h.1
        · rfl
      · rfl
    rw [hdecode, ih h.2, Utf8.encode_cons]

end Tronkit.Percent
