import Tronkit.Json.Reader
import Tronkit.Proofs.Except

/-!
# Inversion of readers

What a composed reader gives comes from what its parts give. Each statement is an equivalence, so
it serves to run a reader on a known text as well as to take a successful run apart.
-/

namespace Tronkit.Json

theorem parse_eq_ok_iff {α : Type} {r : Reader α} {bs : Bytes} {a : α} :
    parse r bs = .ok a ↔ ∃ rest, r maxDepth bs = .ok (a, rest) ∧ skipBlanks rest = [] := by
  unfold parse
  constructor
  · intro h
    split at h
    · cases h
    · rename_i b rest hread
      split at h
      · rename_i hrest
        cases h
        exact ⟨rest, hread, hrest⟩
      · cases h
  · rintro ⟨rest, hread, hrest⟩
    rw [hread]
    exact if_pos hrest

namespace Reader

theorem ofOption_eq_ok_iff {α : Type} {x : Option α} {a : α} :
    ofOption x = .ok a ↔ x = some a := by
  cases x with
  | none =>
    constructor <;> intro h <;> cases h
  | some b =>
    rw [ofOption, Except.ok.injEq, Option.some.injEq]

theorem check_of_ok {α β : Type} {r : Reader α} {f : α → Except ReadError β} {depth : Nat}
    {bs rest : Bytes} {a : α} (h : r depth bs = .ok (a, rest)) :
    r.check f depth bs = (f a).map (·, rest) := by
  rw [check, h]

theorem check_of_error {α β : Type} {r : Reader α} {f : α → Except ReadError β} {depth : Nat}
    {bs : Bytes} {e : ReadError} (h : r depth bs = .error e) : r.check f depth bs = .error e := by
  rw [check, h]

theorem check_eq_ok_iff {α β : Type} {r : Reader α} {f : α → Except ReadError β} {depth : Nat}
    {bs rest : Bytes} {b : β} :
    r.check f depth bs = .ok (b, rest) ↔ ∃ a, r depth bs = .ok (a, rest) ∧ f a = .ok b := by
  cases hread : r depth bs with
  | error e =>
    rw [check_of_error hread]
    constructor
    · intro h
      cases h
    · rintro ⟨a, h, -⟩
      cases h
  | ok p =>
    obtain ⟨a, rest'⟩ := p
    rw [check_of_ok hread, except_map_eq_ok_iff]
    constructor
    · rintro ⟨b', hf, h⟩
      cases h
      exact ⟨a, rfl, hf⟩
    · rintro ⟨a', h, hf⟩
      cases h
      exact ⟨b, hf, rfl⟩

theorem map_eq_ok_iff {α β : Type} {r : Reader α} {f : α → β} {depth : Nat} {bs rest : Bytes}
    {b : β} : r.map f depth bs = .ok (b, rest) ↔ ∃ a, r depth bs = .ok (a, rest) ∧ f a = b := by
  rw [map, check_eq_ok_iff]
  simp only [Except.ok.injEq]

theorem filterMap_eq_ok_iff {α β : Type} {r : Reader α} {f : α → Option β} {depth : Nat}
    {bs rest : Bytes} {b : β} :
    r.filterMap f depth bs = .ok (b, rest) ↔ ∃ a, r depth bs = .ok (a, rest) ∧ f a = some b := by
  rw [filterMap, check_eq_ok_iff]
  simp only [ofOption_eq_ok_iff]

theorem option_eq_some {α : Type} {r : Reader α} {depth : Nat} {bs rest : Bytes} {a : α}
    (h : Reader.option r depth bs = .ok (some a, rest)) :
    r depth (skipBlanks bs) = .ok (a, rest) := by
  unfold Reader.option at h
  split at h
  · obtain ⟨t, -, h⟩ := bind_eq_ok_iff.1 h
    cases h
  · obtain ⟨a', hread, ha⟩ := map_eq_ok_iff.1 h
    cases ha
    exact hread

/-! ## What is read -/

def Yields {α : Type} (r : Reader α) (P : α → Prop) : Prop :=
  ∀ ⦃depth bs a rest⦄, r depth bs = .ok (a, rest) → P a

section Yields

variable {α : Type} {r : Reader α} {P : α → Prop}

theorem Yields.option (h : r.Yields P) :
    (Reader.option r).Yields fun x => ∀ a, x = some a → P a := by
  intro depth bs x rest hread a ha
  subst ha
  exact h (option_eq_some hread)

theorem items_yields {depth fuel : Nat} {bs rest : Bytes} {as : List α} (h : r.Yields P)
    (hread : items (r depth) fuel bs = .ok (as, rest)) : ∀ a ∈ as, P a := by
  induction fuel generalizing bs as with
  | zero => cases hread
  | succ fuel ih =>
    rw [items, bind_eq_ok_iff] at hread
    obtain ⟨⟨a, mid⟩, ha, hread⟩ := hread
    simp only at hread
    split at hread
    · obtain ⟨⟨as', rest'⟩, has, hread⟩ := bind_eq_ok_iff.1 hread
      cases hread
      exact List.forall_mem_cons.2 ⟨h ha, ih has⟩
    · cases hread
      exact List.forall_mem_singleton.2 (h ha)
    · cases hread

theorem Yields.list (h : r.Yields P) : (Reader.list r).Yields fun as => ∀ a ∈ as, P a := by
  intro depth bs as rest hread
  cases depth with
  | zero => cases hread
  | succ depth =>
    rw [Reader.list] at hread
    split at hread
    · rw [elements] at hread
      split at hread
      · cases hread
        exact List.forall_mem_nil P
      · exact items_yields h hread
    · cases hread

theorem object_yields : object.Yields fun ms => (ms.map Prod.fst).Nodup := by
  intro depth bs ms rest hread
  cases depth with
  | zero => cases hread
  | succ depth =>
    rw [object] at hread
    split at hread
    · obtain ⟨⟨entries, mid⟩, -, hread⟩ := bind_eq_ok_iff.1 hread
      cases hread
      exact Keyed.nodup_keys_ofList entries
    · cases hread

end Yields

/-! ## Members of one form -/

section Members

variable {α β : Type} {value : Step β} {value' : Step α} {g : α → β}

theorem pairs_of_map (h : ∀ {bs a rest}, value bs = .ok (g a, rest) → value' bs = .ok (a, rest))
    {fuel : Nat} {bs rest : Bytes} {ms : List (String × α)}
    (hread : pairs value fuel bs = .ok (ms.map fun m => (m.1, g m.2), rest)) :
    pairs value' fuel bs = .ok (ms, rest) := by
  induction fuel generalizing bs ms with
  | zero => cases hread
  | succ fuel ih =>
    rw [pairs, bind_eq_ok_iff] at hread
    obtain ⟨⟨k, place⟩, hkey, hread⟩ := hread
    obtain ⟨⟨b, mid⟩, hb, hread⟩ := bind_eq_ok_iff.1 hread
    rw [pairs, hkey, ok_bind]
    simp only at hread ⊢
    cases ms with
    | nil =>
      split at hread
      · obtain ⟨⟨ms', rest'⟩, -, hread⟩ := bind_eq_ok_iff.1 hread
        cases hread
      · cases hread
      · cases hread
    | cons m ms =>
      obtain ⟨key, a⟩ := m
      split at hread
      · rename_i t hcomma
        obtain ⟨⟨ms', rest'⟩, hms, hread⟩ := bind_eq_ok_iff.1 hread
        cases hread
        rw [h hb, ok_bind, hcomma]
        simp only [ih hms, ok_bind]
        rfl
      · rename_i t hclose
        obtain ⟨hkb, rfl⟩ := Prod.mk.inj (Except.ok.inj hread)
        obtain ⟨hmember, hnil⟩ := List.cons.inj hkb
        cases hmember
        rw [h hb, ok_bind, hclose, ← List.map_eq_nil_iff.1 hnil.symm]
        rfl
      · cases hread

theorem members_of_map
    (h : ∀ {bs a rest}, value bs = .ok (g a, rest) → value' bs = .ok (a, rest))
    {bs rest : Bytes} {ms : List (String × α)}
    (hread : members value bs = .ok (ms.map fun m => (m.1, g m.2), rest)) :
    members value' bs = .ok (ms, rest) := by
  unfold members at hread ⊢
  split at hread
  · obtain ⟨hnil, rfl⟩ := Prod.mk.inj (Except.ok.inj hread)
    rw [List.map_eq_nil_iff.1 hnil.symm]
  · exact pairs_of_map h hread

end Members

end Reader
end Tronkit.Json
