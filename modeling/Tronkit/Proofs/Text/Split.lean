import Tronkit.Text.Split
import Mathlib.Data.List.TakeWhile

/-!
# What is split and put together again

The parts of a text hold no separator, and with one separator between them they are the text. A
separator between two texts parts all that is split from them, so what holds of every part of a text
holds of it on both sides of any separator.
-/

namespace Tronkit.Split

variable {separator : Char} {cs : List Char}

theorem all_eq_splitOn (separator : Char) (cs : List Char) :
    all separator cs = cs.splitOn separator := by
  induction cs with
  | nil => rfl
  | cons c cs ih =>
    rw [List.splitOn_eq_splitOnP, List.splitOnP_cons_eq_if_modifyHead, ← List.splitOn_eq_splitOnP,
      ← ih]
    by_cases hc : c = separator
    · simp [all, hc]
    · obtain ⟨part, rest, hparts⟩ := List.exists_cons_of_ne_nil (all_ne_nil separator cs)
      simp only [all] at hparts
      simp [all, hc, hparts]

theorem all_cons_self (separator : Char) (cs : List Char) :
    all separator (separator :: cs) = [] :: all separator cs := by
  simp [all]

theorem all_cons_of_ne {c : Char} (h : c ≠ separator) (cs : List Char) :
    ∃ part rest, all separator cs = part :: rest ∧
      all separator (c :: cs) = (c :: part) :: rest := by
  obtain ⟨part, rest, hparts⟩ := List.exists_cons_of_ne_nil (all_ne_nil separator cs)
  refine ⟨part, rest, hparts, ?_⟩
  simp only [all] at hparts
  simp [all, h, hparts]

theorem all_append (separator : Char) (front back : List Char) :
    all separator (front ++ separator :: back) = all separator front ++ all separator back := by
  induction front with
  | nil => exact all_cons_self separator back
  | cons c front ih =>
    by_cases hc : c = separator
    · rw [hc, List.cons_append, all_cons_self, all_cons_self, ih, List.cons_append]
    · obtain ⟨part, rest, hfront, hsplit⟩ := all_cons_of_ne hc front
      obtain ⟨part', rest', hwhole, hsplit'⟩ :=
        all_cons_of_ne hc (front ++ separator :: back)
      rw [ih, hfront, List.cons_append, List.cons.injEq] at hwhole
      rw [List.cons_append, hsplit', hsplit, List.cons_append, ← hwhole.1, ← hwhole.2]

theorem notMem_of_mem_all {part : List Char} (h : part ∈ all separator cs) : separator ∉ part := by
  induction cs generalizing part with
  | nil =>
    obtain rfl : part = [] := by simpa [all] using h
    exact List.not_mem_nil
  | cons c cs ih =>
    by_cases hc : c = separator
    · rw [hc, all_cons_self, List.mem_cons] at h
      rcases h with rfl | h
      · exact List.not_mem_nil
      · exact ih h
    · obtain ⟨first, rest, hparts, hsplit⟩ := all_cons_of_ne hc cs
      rw [hsplit, List.mem_cons] at h
      rcases h with rfl | h
      · rw [List.mem_cons, not_or]
        exact ⟨Ne.symm hc, ih (by rw [hparts]; exact List.mem_cons_self)⟩
      · exact ih (by rw [hparts]; exact List.mem_cons_of_mem _ h)

theorem mem_of_mem_all {part : List Char} (h : part ∈ all separator cs) {c : Char}
    (hc : c ∈ part) : c ∈ cs := by
  have hmem : c ∈ (all separator cs).flatten := List.mem_flatten_of_mem h hc
  rw [flatten_all] at hmem
  exact (List.mem_filter.1 hmem).1

theorem mem_all_of_mem {c : Char} (hc : c ∈ cs) (hne : c ≠ separator) :
    ∃ part ∈ all separator cs, c ∈ part := by
  rw [← List.mem_flatten, flatten_all]
  exact List.mem_filter.2 ⟨hc, decide_eq_true hne⟩

theorem flatten_intersperse_all (separator : Char) (cs : List Char) :
    ((all separator cs).intersperse [separator]).flatten = cs := by
  rw [all_eq_splitOn]
  exact List.intercalate_splitOn separator

theorem all_intercalate {parts : List (List Char)} (h : ∀ part ∈ parts, separator ∉ part)
    (hne : parts ≠ []) : all separator ([separator].intercalate parts) = parts := by
  rw [all_eq_splitOn, List.splitOn_intercalate separator h hne]

theorem mem_flatten_intersperse {c : Char} {between : List Char} {parts : List (List Char)}
    (h : c ∈ (parts.intersperse between).flatten) : c ∈ between ∨ ∃ part ∈ parts, c ∈ part := by
  induction parts with
  | nil => cases h
  | cons part rest ih =>
    cases rest with
    | nil => exact .inr ⟨part, List.mem_cons_self, by simpa using h⟩
    | cons next rest =>
      rw [List.intersperse_cons_cons, List.flatten_cons, List.flatten_cons] at h
      rcases List.mem_append.1 h with h | h
      · exact .inr ⟨part, List.mem_cons_self, h⟩
      rcases List.mem_append.1 h with h | h
      · exact .inl h
      · obtain hbetween | ⟨other, hother, hc⟩ := ih h
        · exact .inl hbetween
        · exact .inr ⟨other, List.mem_cons_of_mem part hother, hc⟩

theorem first_eq_some_iff {separator : Char} {cs front back : List Char} :
    first separator cs = (front, some back) ↔
      cs = front ++ separator :: back ∧ separator ∉ front := by
  constructor
  · intro h
    unfold first at h
    split at h
    · cases h
    · rename_i c rest hdrop
      have hhead := List.head?_dropWhile_not (fun d => decide (d ≠ separator)) cs
      rw [hdrop] at hhead
      obtain rfl : c = separator := by simpa using hhead
      cases h
      refine ⟨?_, fun hmem => ?_⟩
      · rw [← hdrop, List.takeWhile_append_dropWhile]
      · simpa using List.mem_takeWhile_imp hmem
  · rintro ⟨rfl, hfront⟩
    have hall : ∀ c ∈ front, decide (c ≠ separator) = true :=
      fun c hc => decide_eq_true fun e => hfront (e ▸ hc)
    rw [first, List.dropWhile_append_of_pos hall, List.takeWhile_append_of_pos hall]
    simp

theorem first_of_notMem (h : separator ∉ cs) : first separator cs = (cs, none) := by
  have hall : ∀ c ∈ cs, decide (c ≠ separator) = true :=
    fun c hc => decide_eq_true fun e => h (e ▸ hc)
  rw [first, List.dropWhile_eq_nil_iff.2 hall]

theorem first_eq_none_iff {front : List Char} :
    first separator cs = (front, none) ↔ cs = front ∧ separator ∉ cs := by
  constructor
  · intro h
    unfold first at h
    split at h
    · rename_i hdrop
      cases h
      refine ⟨rfl, fun hmem => ?_⟩
      simpa using List.dropWhile_eq_nil_iff.1 hdrop _ hmem
    · cases h
  · rintro ⟨rfl, h⟩
    exact first_of_notMem h

end Tronkit.Split
