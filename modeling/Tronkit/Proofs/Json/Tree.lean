import Tronkit.Proofs.Json.Number

/-!
# Values are read from their own text

A value of any form is read back from the text that is written for it, if its numbers are natural and
fit into 64 bits, if no object has a key twice or the key that marks a text for a value, and if it
nests no deeper than a reader goes.
-/

namespace Tronkit.Json

/-- The value is the same behind its text, to a reader that goes down to the given depth. -/
inductive Legible : (depth : Nat) → Json → Prop
  | null (depth : Nat) : Legible depth .null
  | bool (depth : Nat) (b : Bool) : Legible depth (.bool b)
  | natural (depth : Nat) {n : Nat} (h : n < u64Limit) : Legible depth (.natural n)
  | string (depth : Nat) (s : String) : Legible depth (.string s)
  | array {depth : Nat} {vs : List Json} (h : ∀ v ∈ vs, Legible depth v) :
      Legible (depth + 1) (.array vs)
  | object {depth : Nat} {ms : List (String × Json)} (hnodup : (ms.map Prod.fst).Nodup)
      (hmark : embeddingKey ∉ ms.map Prod.fst) (h : ∀ m ∈ ms, Legible depth m.2) :
      Legible (depth + 1) (.object ms)

theorem Legible.object_of_keys {depth : Nat} {ms : List (String × Json)} (keys : List String)
    (hnodup : (embeddingKey :: keys).Nodup) (hkeys : ms.map Prod.fst = keys)
    (h : ∀ m ∈ ms, Legible depth m.2) : Legible (depth + 1) (.object ms) := by
  subst hkeys
  obtain ⟨hmark, hnodup⟩ := List.nodup_cons.1 hnodup
  exact .object hnodup hmark h

theorem Reader.tree_skipBlanks (depth : Nat) (bs : Bytes) :
    Reader.tree depth (skipBlanks bs) = Reader.tree depth bs := by
  cases depth with
  | zero => rw [Reader.tree, Reader.tree, Reader.scalar, Reader.scalar, skipBlanks_skipBlanks]
  | succ depth => rw [Reader.tree, Reader.tree, skipBlanks_skipBlanks]

theorem Legible.reads_tree {depth : Nat} {v : Json} (h : Legible depth v) :
    Reader.tree.Reads depth v.render v := by
  induction h with
  | null depth => exact fun rest _ => Reader.tree_of_front (by decide) (by decide) (by decide) depth _
  | bool depth b =>
    intro rest _
    cases b
    · exact Reader.tree_of_front (by decide) (by decide) (by decide) depth _
    · exact Reader.tree_of_front (by decide) (by decide) (by decide) depth _
  | @natural depth n hn =>
    intro rest hends
    have hfits : Digits.fold 10 (decimalDigits n) < u64Limit := by rwa [fold_decimalDigits]
    have hrender : render (.natural n) = Render.natural n := rfl
    rw [hrender, Reader.tree_digits, Reader.scalar_digits n hends, Reader.number?_of_lt hfits,
      fold_decimalDigits]
    rfl
  | string depth s =>
    intro rest _
    have hrender : render (.string s) = Render.string s := rfl
    obtain ⟨bs, hbytes⟩ : ∃ bs, Utf8.encode (Render.string s) = 0x22 :: bs := ⟨_, encode_string s⟩
    have hread := stringAt_encode s rest
    rw [hrender]
    rw [hbytes, List.cons_append] at hread ⊢
    rw [Reader.tree_of_front (by decide) (by decide) (by decide), Reader.scalar,
      skipBlanks_cons (by decide)]
    simp only [if_true, hread, ok_bind]
    rfl
  | @array depth vs _ ih =>
    intro rest _
    have hrender : render (.array vs) = Render.array (vs.map render) := by
      rw [render, renderElements_eq_map]
    have hread := elements_rendered Reader.exact_tree ih rest
    rw [hrender, encode_array, Reader.tree, skipBlanks_cons (by decide)]
    simp only [hread, ok_bind]
    rfl
  | @object depth ms _ _ _ ih =>
    intro rest _
    have hrender : render (.object ms) = Render.object (membersOf render ms) := by
      rw [render, renderMembers_eq_map]
    have hread := members_rendered ih rest
    rw [hrender, encode_object, Reader.tree, skipBlanks_cons (by decide)]
    simp only [hread, ok_bind]
    rfl

theorem expandElements?_of_forall {read : String → Option Json} {vs : List Json}
    (h : ∀ v ∈ vs, expand? read v = some v) : expandElements? read vs = some vs := by
  induction vs with
  | nil => rfl
  | cons v vs ih =>
    obtain ⟨hv, hvs⟩ := List.forall_mem_cons.1 h
    rw [expandElements?, hv, ih hvs]
    rfl

theorem expandMembers?_of_forall {read : String → Option Json} {ms : List (String × Json)}
    (h : ∀ m ∈ ms, expand? read m.2 = some m.2) : expandMembers? read ms = some ms := by
  induction ms with
  | nil => rfl
  | cons m ms ih =>
    obtain ⟨hm, hms⟩ := List.forall_mem_cons.1 h
    rw [expandMembers?, hm, ih hms]
    rfl

theorem mergedElements_eq_map (vs : List Json) : mergedElements vs = vs.map merged := by
  induction vs with
  | nil => rfl
  | cons v vs ih => rw [mergedElements, ih, List.map_cons]

theorem mergedMembers_eq_map (ms : List (String × Json)) :
    mergedMembers ms = ms.map fun m => (m.1, merged m.2) := by
  induction ms with
  | nil => rfl
  | cons m ms ih => rw [mergedMembers, ih, List.map_cons]

theorem Legible.expand? {depth : Nat} {v : Json} (h : Legible depth v)
    (read : String → Option Json) : Json.expand? read v = some v := by
  induction h with
  | array _ ih => rw [Json.expand?, expandElements?_of_forall ih, Option.map_some]
  | @object depth ms _ hmark _ ih =>
    cases ms with
    | nil => rfl
    | cons m ms =>
      obtain ⟨hm, hms⟩ := List.forall_mem_cons.1 ih
      have hne : m.1 ≠ embeddingKey := fun e => hmark (e ▸ List.mem_cons_self)
      unfold Json.expand?
      simp only [if_neg hne, hm, expandMembers?_of_forall hms]
      rfl
  | null | bool | natural | string => rfl

theorem Legible.merged {depth : Nat} {v : Json} (h : Legible depth v) : Json.merged v = v := by
  induction h with
  | @array depth vs _ ih =>
    have hvs : vs.map Json.merged = vs.map id := List.map_congr_left ih
    rw [Json.merged, mergedElements_eq_map, hvs, List.map_id]
  | @object depth ms hnodup _ _ ih =>
    have hms : ms.map (fun m => (m.1, Json.merged m.2)) = ms.map id :=
      List.map_congr_left fun m hm => Prod.ext rfl (ih m hm)
    rw [Json.merged, mergedMembers_eq_map, hms, List.map_id, Keyed.ofList_of_nodup hnodup]
  | null | bool | natural | string => rfl

theorem Legible.parse {v : Json} (h : Legible maxDepth v) :
    Json.parse Reader.value v.bytes = .ok v := by
  have hplain : plain? v = some v := by
    rw [plain?, h.expand?, Option.map_some, h.merged]
  refine Reader.Reads.parse (r := Reader.value) fun rest hends => ?_
  exact Reader.filterMap_eq_ok_iff.2 ⟨v, h.reads_tree rest hends, hplain⟩

end Tronkit.Json
