import Tronkit.Event
import Tronkit.Proofs.Json.Natural
import Tronkit.Proofs.Json.Texts
import Mathlib.Data.List.Nodup
import Mathlib.Data.List.Perm.Subperm

/-!
# Results by position

The event index keeps the results of an event as texts under keys, and those under `"0"`, `"1"` and
so on are taken in their order. There are fewer keys than numbers, so a gap is met before the keys
are used up.
-/

namespace Tronkit.TokenEvent

open Json

variable {results : List (String × String)}

theorem lookup_of_positional {fuel position i : Nat} {v : String}
    (h : (positional results fuel position)[i]? = some v) :
    results.lookup (decimalText (position + i)) = some v := by
  induction fuel generalizing position i with
  | zero =>
    rw [positional, List.getElem?_nil] at h
    cases h
  | succ fuel ih =>
    rw [positional] at h
    split at h
    · rename_i w hw
      cases i with
      | zero =>
        rw [List.getElem?_cons_zero] at h
        rw [Nat.add_zero, hw, h]
      | succ i =>
        rw [List.getElem?_cons_succ] at h
        have hnext := ih h
        rwa [Nat.add_right_comm] at hnext
    · rw [List.getElem?_nil] at h
      cases h

theorem gap_or_spent (results : List (String × String)) (fuel position : Nat) :
    results.lookup (decimalText (position + (positional results fuel position).length)) = none ∨
      (positional results fuel position).length = fuel := by
  induction fuel generalizing position with
  | zero => exact .inr rfl
  | succ fuel ih =>
    rw [positional]
    split
    · rcases ih (position + 1) with hgap | hspent
      · rw [Nat.add_right_comm] at hgap
        exact .inl hgap
      · exact .inr (congrArg Nat.succ hspent)
    · rename_i hnone
      exact .inl hnone

theorem exists_gap (results : List (String × String)) :
    ∃ i ≤ results.length, results.lookup (decimalText i) = none := by
  by_contra hnone
  have hkeys : (List.range (results.length + 1)).map decimalText ⊆ results.map Prod.fst := by
    intro key hkey
    obtain ⟨i, hi, rfl⟩ := List.mem_map.1 hkey
    by_contra hmem
    refine hnone ⟨i, Nat.le_of_lt_succ (List.mem_range.1 hi), List.lookup_eq_none_iff.2 ?_⟩
    intro m hm
    exact bne_iff_ne.2 fun e => hmem (e ▸ List.mem_map_of_mem hm)
  have hnodup : ((List.range (results.length + 1)).map decimalText).Nodup :=
    List.nodup_range.map decimalText_injective
  have hle := (List.subperm_of_subset hnodup hkeys).length_le
  rw [List.length_map, List.length_map, List.length_range] at hle
  omega

/-- As many steps as there are keys lead to the first number that is no key. -/
theorem lookup_gap (results : List (String × String)) :
    results.lookup (decimalText (positional results results.length 0).length) = none := by
  rcases gap_or_spent results results.length 0 with hgap | hspent
  · rwa [Nat.zero_add] at hgap
  · obtain ⟨i, hi, hnone⟩ := exists_gap results
    -- All numbers below the last one are keys, so the gap is the last one.
    rcases Nat.lt_or_eq_of_le hi with hlt | rfl
    · have hlt' : i < (positional results results.length 0).length := hspent.symm ▸ hlt
      have hkey := lookup_of_positional (List.getElem?_eq_getElem hlt')
      rw [Nat.zero_add, hnone] at hkey
      cases hkey
    · rw [hspent, hnone]

/-- The values are those under `"0"`, `"1"` and so on, up to the first number that is no key. -/
structure IsPositional (results : List (String × Json)) (values : List String) : Prop where
  stored : ∀ i (h : i < values.length), results.lookup (decimalText i) = some (.string values[i])
  gap : results.lookup (decimalText values.length) = none

theorem IsPositional.getElem?_of_stored {results : List (String × Json)} {values : List String}
    (h : IsPositional results values) {i : Nat} {s : String}
    (hbelow : ∀ j < i, results.lookup (decimalText j) ≠ none)
    (hs : results.lookup (decimalText i) = some (.string s)) : values[i]? = some s := by
  have hlt : i < values.length := by
    by_contra hge
    rcases Nat.lt_or_eq_of_le (Nat.not_lt.1 hge) with hlt | heq
    · exact hbelow _ hlt h.gap
    · rw [← heq, h.gap] at hs
      cases hs
  have hstored := h.stored i hlt
  rw [hs, Option.some.injEq, string.injEq] at hstored
  rw [List.getElem?_eq_getElem hlt, ← hstored]

/-! ## The data of a log -/

theorem reads_resultTexts {texts : List (String × String)} (h : (texts.map Prod.fst).Nodup)
    (depth : Nat) :
    resultTexts.Reads (depth + 1) (Json.object (ofTexts texts)).render texts := by
  intro rest _
  have hbrace : skipBlanks (0x7B :: afterBrace (membersOf Render.string texts) rest) = _ :=
    skipBlanks_cons (by decide) _
  have hmembers := members_rendered (fun m (_ : m ∈ texts) => reads_string depth m.2) rest
  rw [render_ofTexts, encode_object, resultTexts, hbrace]
  simp only [hmembers, ok_bind, Keyed.ofList_of_nodup h]
  rfl

theorem parse_bytes {texts : List (String × String)} (h : (texts.map Prod.fst).Nodup) :
    Json.parse resultTexts (Json.object (ofTexts texts)).bytes = .ok texts :=
  (reads_resultTexts h 126).parse

theorem parse_of_tree {data : Bytes} {texts : List (String × String)}
    (h : Json.parse Reader.tree data = .ok (Json.object (ofTexts texts))) :
    Json.parse resultTexts data = .ok (Keyed.ofList texts) := by
  obtain ⟨rest, htree, hrest⟩ := parse_eq_ok_iff.1 h
  obtain ⟨t, hbrace, hmembers⟩ := Reader.members_of_tree htree
  have hread : resultTexts maxDepth data = .ok (Keyed.ofList texts, rest) := by
    rw [maxDepth, resultTexts, hbrace]
    simp only [hmembers, ok_bind]
    rfl
  exact parse_eq_ok_iff.2 ⟨rest, hread, hrest⟩

theorem positionalResults_of_parse {data : Bytes} {texts : List (String × String)}
    (h : Json.parse resultTexts data = .ok texts) :
    ∃ values, positionalResults data = .ok values ∧ IsPositional (ofTexts texts) values := by
  refine ⟨positional texts texts.length 0, by rw [positionalResults, h], ?_, ?_⟩
  · intro i hi
    have hkey := lookup_of_positional (List.getElem?_eq_getElem hi)
    rw [Nat.zero_add] at hkey
    rw [lookup_ofTexts, hkey, Option.map_some]
  · rw [lookup_ofTexts, lookup_gap, Option.map_none]

end Tronkit.TokenEvent
