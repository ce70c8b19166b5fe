/-!
# Association lists

Entries under text keys, in the order in which the keys first came. `assign` replaces an entry
in its place; `lookup_assign` and `keys_assign` say what it does to the entries and to the keys.
`ofList` brings entries under one key together, and the last of them is found.
-/

namespace Tronkit.Keyed

variable {α : Type}

/-- Puts a value under a key, in the key's place if it has one. -/
def assign (key : String) (a : α) : List (String × α) → List (String × α)
  | [] => [(key, a)]
  | (k, b) :: rest => if k = key then (k, a) :: rest else (k, b) :: assign key a rest

def ofList (entries : List (String × α)) : List (String × α) :=
  entries.foldl (fun out (k, a) => assign k a out) []

theorem lookup_assign (key k : String) (a : α) (entries : List (String × α)) :
    (assign key a entries).lookup k = if k = key then some a else entries.lookup k := by
  induction entries with
  | nil =>
    simp only [assign, List.lookup_cons, List.lookup_nil]
    by_cases h : k = key
    · simp [h]
    · simp [h, beq_eq_false_iff_ne.2 h]
  | cons e rest ih =>
    obtain ⟨k', b⟩ := e
    by_cases h : k' = key
    · subst h
      by_cases h2 : k = k'
      · simp [assign, h2]
      · simp [assign, List.lookup_cons, h2, beq_eq_false_iff_ne.2 h2]
    · by_cases h2 : k = k'
      · simp [assign, h, h2]
      · simp [assign, List.lookup_cons, h, beq_eq_false_iff_ne.2 h2, ih]

theorem keys_assign (key : String) (a : α) (entries : List (String × α)) :
    (assign key a entries).map Prod.fst =
      if key ∈ entries.map Prod.fst then entries.map Prod.fst
      else entries.map Prod.fst ++ [key] := by
  induction entries with
  | nil => rfl
  | cons e rest ih =>
    obtain ⟨k, b⟩ := e
    by_cases h : k = key
    · simp [assign, h]
    · have flipped : ¬key = k := fun e => h e.symm
      simp only [assign, h, if_false, List.map_cons, ih, List.mem_cons, flipped, false_or]
      split <;> rfl

theorem nodup_keys_assign {key : String} {a : α} {entries : List (String × α)}
    (h : (entries.map Prod.fst).Nodup) : ((assign key a entries).map Prod.fst).Nodup := by
  rw [keys_assign]
  split
  · exact h
  · rename_i fresh
    rw [List.nodup_append]
    exact ⟨h, by simp, fun x hx y hy e => fresh (by simp at hy; rwa [← hy, ← e])⟩

theorem assign_of_fresh {key : String} {a : α} {entries : List (String × α)}
    (h : key ∉ entries.map Prod.fst) : assign key a entries = entries ++ [(key, a)] := by
  induction entries with
  | nil => rfl
  | cons e rest ih =>
    obtain ⟨k, b⟩ := e
    rw [List.map_cons, List.mem_cons, not_or] at h
    obtain ⟨hk, hrest⟩ := h
    have flipped : ¬k = key := fun e => hk e.symm
    rw [assign, if_neg flipped, ih hrest, List.cons_append]

theorem lookup_eq_some_iff_mem {entries : List (String × α)} (h : (entries.map Prod.fst).Nodup)
    {key : String} {a : α} : entries.lookup key = some a ↔ (key, a) ∈ entries := by
  induction entries with
  | nil => simp
  | cons e rest ih =>
    obtain ⟨k, b⟩ := e
    rw [List.map_cons, List.nodup_cons] at h
    obtain ⟨hfresh, hrest⟩ := h
    by_cases hk : key = k
    · subst hk
      have hnot : (key, a) ∉ rest := fun hmem => hfresh (List.mem_map.2 ⟨_, hmem, rfl⟩)
      simp [hnot, eq_comm]
    · simp [List.lookup_cons, beq_eq_false_iff_ne.2 hk, hk, ih hrest]

theorem lookup_reverse_eq_some_iff {entries : List (String × α)} {key : String} {a : α} :
    entries.reverse.lookup key = some a ↔
      ∃ front rest, entries = front ++ (key, a) :: rest ∧ key ∉ rest.map Prod.fst := by
  have hnone : ∀ rest : List (String × α),
      (∀ e ∈ rest, (key != e.1) = true) ↔ key ∉ rest.map Prod.fst := by
    intro rest
    simp only [bne_iff_ne, List.mem_map, not_exists, not_and]
    exact forall₂_congr fun e _ => ne_comm
  rw [List.lookup_eq_some_iff]
  constructor
  · rintro ⟨after, before, hsplit, hafter⟩
    refine ⟨before.reverse, after.reverse, ?_, ?_⟩
    · rw [List.reverse_eq_iff.1 hsplit]
      simp
    · rw [List.map_reverse, List.mem_reverse]
      exact (hnone after).1 hafter
  · rintro ⟨front, rest, rfl, hrest⟩
    refine ⟨rest.reverse, front.reverse, by simp, fun e he => ?_⟩
    exact (hnone rest).2 hrest e (List.mem_reverse.1 he)

/-! ## Entries brought together -/

theorem nodup_keys_foldl {entries out : List (String × α)} (h : (out.map Prod.fst).Nodup) :
    ((entries.foldl (fun out (k, a) => assign k a out) out).map Prod.fst).Nodup := by
  induction entries generalizing out with
  | nil => exact h
  | cons e rest ih => exact ih (nodup_keys_assign h)

theorem nodup_keys_ofList (entries : List (String × α)) :
    ((ofList entries).map Prod.fst).Nodup := nodup_keys_foldl List.nodup_nil

theorem foldl_assign_of_nodup {entries out : List (String × α)}
    (h : ((out ++ entries).map Prod.fst).Nodup) :
    entries.foldl (fun out (k, a) => assign k a out) out = out ++ entries := by
  induction entries generalizing out with
  | nil => rw [List.append_nil, List.foldl_nil]
  | cons e rest ih =>
    obtain ⟨k, a⟩ := e
    have hsplit : out ++ (k, a) :: rest = (out ++ [(k, a)]) ++ rest := by simp
    have hfresh : k ∉ out.map Prod.fst := by
      rw [List.map_append, List.map_cons, List.nodup_append] at h
      obtain ⟨-, -, hdisjoint⟩ := h
      exact fun hmem => hdisjoint _ hmem _ List.mem_cons_self rfl
    rw [hsplit] at h
    rw [hsplit, ← ih h, ← assign_of_fresh hfresh, List.foldl_cons]

theorem ofList_of_nodup {entries : List (String × α)} (h : (entries.map Prod.fst).Nodup) :
    ofList entries = entries := foldl_assign_of_nodup h

theorem lookup_foldl_assign (k : String) (entries out : List (String × α)) :
    (entries.foldl (fun out (k, a) => assign k a out) out).lookup k =
      (entries.reverse.lookup k).or (out.lookup k) := by
  induction entries generalizing out with
  | nil => rfl
  | cons e rest ih =>
    obtain ⟨key, a⟩ := e
    rw [List.foldl_cons, ih, lookup_assign, List.reverse_cons, List.lookup_append, Option.or_assoc]
    by_cases h : k = key
    · simp only [List.lookup_cons, h, beq_self_eq_true, if_true, Option.some_or]
    · simp only [List.lookup_cons, List.lookup_nil, h, beq_eq_false_iff_ne.2 h, if_false,
        Option.none_or]

/-- Of repeated keys the last one counts. -/
theorem lookup_ofList (k : String) (entries : List (String × α)) :
    (ofList entries).lookup k = entries.reverse.lookup k := by
  rw [ofList, lookup_foldl_assign, List.lookup_nil, Option.or_none]

end Tronkit.Keyed
