import Tronkit.Json.Record
import Tronkit.Proofs.Json.Place

/-!
# What a record reads

The value of a record is a function of the places of its fields: for each field, the value at its
place or the default if the text has no such field. `Semantics` gives that function together with
what holds of the slots while the fields come in, whatever their order is. It is built from single
fields as records are.
-/

namespace Tronkit.Json

abbrev Places := String → Option Bytes

def Places.put (M : Places) (name : String) (place : Bytes) : Places := fun k =>
  if k = name then some place else M k

namespace Record

def names {α : Type} (r : Record α) : List String := r.fields.map Field.name

/-- The slots of a record during reading, and its value in the end. `holds` relates the slots to
the places of the fields that were read; `reads` says that the value at a place suits a field. -/
structure Semantics {α : Type} (r : Record α) where
  holds : Nat → Places → r.Slots → Prop
  reads : Nat → String → Bytes → Bytes → Prop
  value : Nat → Places → Option α
  nodup : r.names.Nodup
  start : ∀ depth, holds depth (fun _ => none) r.start
  congr : ∀ {depth M M' s}, holds depth M s → (∀ k ∈ r.names, M' k = M k) → holds depth M' s
  filled : ∀ {depth M s f}, holds depth M s → f ∈ r.fields → f.filled s = (M f.name).isSome
  read : ∀ {depth M s s' f place rest}, holds depth M s → f ∈ r.fields →
    f.read s depth place = .ok (s', rest) → holds depth (M.put f.name place) s'
  accept : ∀ {depth f place rest}, f ∈ r.fields → reads depth f.name place rest →
    ∀ s, ∃ s', f.read s depth place = .ok (s', rest)
  known : ∀ {depth k place rest}, reads depth k place rest → k ∈ r.names
  exact : ∀ {f s}, f ∈ r.fields → (f.read s).Exact
  finish : ∀ {depth M s}, holds depth M s → r.finish s = value depth M

namespace Semantics

variable {α β : Type}

def const (a : α) : Semantics (Record.const a) where
  holds _ _ _ := True
  reads _ _ _ _ := False
  value _ _ := some a
  nodup := List.nodup_nil
  start _ := trivial
  congr _ _ := trivial
  filled _ hf := nomatch hf
  read _ _ _ := trivial
  accept hf := nomatch hf
  known h := h.elim
  exact hf := nomatch hf
  finish _ := rfl

theorem isSome_of_field? {r : Reader α} {depth : Nat} {place : Option Bytes} {s : Option α}
    (h : r.field? depth place = some s) : s.isSome = place.isSome := by
  cases place with
  | none =>
    cases h
    rfl
  | some p =>
    obtain ⟨a, -, rfl⟩ := Option.map_eq_some_iff.1 h
    rfl

theorem field?_of_read {r : Reader α} {depth : Nat} {place rest : Bytes} {s : Option α}
    (h : r.map some depth place = .ok (s, rest)) : r.field? depth (some place) = some s := by
  obtain ⟨a, ha, rfl⟩ := Reader.map_eq_ok_iff.1 h
  rw [Reader.field?, Reader.front?_of_ok ha, Option.map_some]

def slot (name : String) {r : Reader α} (hr : r.Exact) (finish : Option α → Option β) :
    Semantics (Record.slot name r finish) where
  holds depth M s := r.field? depth (M name) = some s
  reads depth k place rest := k = name ∧ ∃ a, r depth place = .ok (a, rest)
  value depth M := (r.field? depth (M name)).bind finish
  nodup := List.pairwise_singleton _ name
  start _ := rfl
  congr h hM := by
    rw [hM name (List.mem_singleton.2 rfl)]
    exact h
  filled := by
    intro depth M s f h hf
    obtain rfl := List.mem_singleton.1 hf
    exact isSome_of_field? h
  read := by
    intro depth M s s' f place rest h hf hread
    obtain rfl := List.mem_singleton.1 hf
    rw [Places.put, if_pos rfl]
    exact field?_of_read hread
  accept := by
    rintro depth f place rest hf ⟨-, a, ha⟩ s
    obtain rfl := List.mem_singleton.1 hf
    exact ⟨some a, Reader.map_eq_ok_iff.2 ⟨a, ha, rfl⟩⟩
  known h := List.mem_singleton.2 h.1
  exact := by
    intro f s hf
    obtain rfl := List.mem_singleton.1 hf
    exact hr.map some
  finish := by
    intro depth M s h
    rw [h]
    rfl

def required (name : String) {r : Reader α} (hr : r.Exact) : Semantics (.required name r) :=
  slot name hr id

def withDefault (name : String) (default : α) {r : Reader α} (hr : r.Exact) :
    Semantics (.withDefault name default r) :=
  slot name hr fun value => some (value.getD default)

def optional (name : String) {r : Reader α} (hr : r.Exact) : Semantics (.optional name r) :=
  withDefault name none hr.option

theorem names_apply (f : Record (α → β)) (r : Record α) :
    (f.apply r).names = f.names ++ r.names := by
  simp only [names, Record.apply, List.map_append, List.map_map]
  rfl

theorem mem_names {r : Record α} {f : Field r.Slots} (hf : f ∈ r.fields) : f.name ∈ r.names :=
  List.mem_map_of_mem hf

theorem mem_apply {f : Record (α → β)} {r : Record α} {g : Field (f.apply r).Slots}
    (hg : g ∈ (f.apply r).fields) :
    (∃ g' ∈ f.fields, g = g'.lift Prod.fst fun t s => (s, t.2)) ∨
      ∃ g' ∈ r.fields, g = g'.lift Prod.snd fun t s => (t.1, s) := by
  rcases List.mem_append.1 hg with hg | hg
  · obtain ⟨g', hg', rfl⟩ := List.mem_map.1 hg
    exact .inl ⟨g', hg', rfl⟩
  · obtain ⟨g', hg', rfl⟩ := List.mem_map.1 hg
    exact .inr ⟨g', hg', rfl⟩

theorem put_of_ne {M : Places} {k name : String} {place : Bytes} (h : k ≠ name) :
    M.put name place k = M k := if_neg h

def apply {f : Record (α → β)} {r : Record α} (sf : Semantics f) (sr : Semantics r)
    (hdisjoint : ∀ k ∈ f.names, k ∉ r.names) : Semantics (f.apply r) where
  holds depth M s := sf.holds depth M s.1 ∧ sr.holds depth M s.2
  reads depth k place rest := sf.reads depth k place rest ∨ sr.reads depth k place rest
  value depth M := do pure ((← sf.value depth M) (← sr.value depth M))
  nodup := by
    rw [names_apply, List.nodup_append]
    refine ⟨sf.nodup, sr.nodup, fun a ha b hb hab => ?_⟩
    exact hdisjoint a ha (hab ▸ hb)
  start depth := ⟨sf.start depth, sr.start depth⟩
  congr h hM := by
    rw [names_apply] at hM
    exact ⟨sf.congr h.1 fun k hk => hM k (by simp [hk]),
      sr.congr h.2 fun k hk => hM k (by simp [hk])⟩
  filled := by
    intro depth M s g h hg
    rcases mem_apply hg with ⟨g', hg', rfl⟩ | ⟨g', hg', rfl⟩
    · exact sf.filled h.1 hg'
    · exact sr.filled h.2 hg'
  read := by
    intro depth M s s' g place rest h hg hread
    rcases mem_apply hg with ⟨g', hg', rfl⟩ | ⟨g', hg', rfl⟩
    · obtain ⟨t, ht, rfl⟩ := Reader.map_eq_ok_iff.1 hread
      refine ⟨sf.read h.1 hg' ht, sr.congr h.2 fun k hk => ?_⟩
      exact put_of_ne fun hkg => hdisjoint _ (mem_names hg') (hkg ▸ hk)
    · obtain ⟨t, ht, rfl⟩ := Reader.map_eq_ok_iff.1 hread
      refine ⟨sf.congr h.1 fun k hk => ?_, sr.read h.2 hg' ht⟩
      exact put_of_ne fun hkg => hdisjoint k hk (hkg ▸ mem_names hg')
  accept := by
    intro depth g place rest hg hreads s
    rcases mem_apply hg with ⟨g', hg', rfl⟩ | ⟨g', hg', rfl⟩
    · rcases hreads with hreads | hreads
      · obtain ⟨t, ht⟩ := sf.accept hg' hreads s.1
        exact ⟨_, Reader.map_eq_ok_iff.2 ⟨t, ht, rfl⟩⟩
      · exact absurd (sr.known hreads) (hdisjoint _ (mem_names hg'))
    · rcases hreads with hreads | hreads
      · exact absurd (mem_names hg') (hdisjoint _ (sf.known hreads))
      · obtain ⟨t, ht⟩ := sr.accept hg' hreads s.2
        exact ⟨_, Reader.map_eq_ok_iff.2 ⟨t, ht, rfl⟩⟩
  known h := by
    rw [names_apply, List.mem_append]
    exact h.imp sf.known sr.known
  exact := by
    intro g s hg
    rcases mem_apply hg with ⟨g', hg', rfl⟩ | ⟨g', hg', rfl⟩
    · exact (sf.exact hg').map _
    · exact (sr.exact hg').map _
  finish h := by simp only [Record.apply, sf.finish h.1, sr.finish h.2]

variable {r : Record α} {depth : Nat}

theorem value_const {a b : α} {M : Places} : (const a).value depth M = some b ↔ a = b := by
  rw [const, Option.some.injEq]

theorem value_apply {f : Record (α → β)} {sf : Semantics f} {sr : Semantics r}
    {h : ∀ k ∈ f.names, k ∉ r.names} {M : Places} {b : β} :
    (sf.apply sr h).value depth M = some b ↔
      ∃ g a, sf.value depth M = some g ∧ sr.value depth M = some a ∧ g a = b := by
  simp only [apply, Option.bind_eq_bind, Option.bind_eq_some_iff, Option.pure_def,
    Option.some.injEq]
  constructor
  · rintro ⟨g, hg, a, ha, hb⟩
    exact ⟨g, a, hg, ha, hb⟩
  · rintro ⟨g, a, hg, ha, hb⟩
    exact ⟨g, hg, a, ha, hb⟩

theorem value_required {name : String} {r : Reader α} {hr : r.Exact} {M : Places} {a : α} :
    (required name hr).value depth M = some a ↔ r.field? depth (M name) = some (some a) := by
  rw [required, slot, Option.bind_eq_some_iff]
  constructor
  · rintro ⟨x, hx, rfl⟩
    exact hx
  · intro h
    exact ⟨some a, h, rfl⟩

theorem value_withDefault {name : String} {default : α} {r : Reader α} {hr : r.Exact}
    {M : Places} {a : α} : (withDefault name default hr).value depth M = some a ↔
      ∃ x, r.field? depth (M name) = some x ∧ x.getD default = a := by
  rw [withDefault, slot, Option.bind_eq_some_iff]
  simp only [Option.some.injEq]

theorem value_optional {name : String} {r : Reader α} {hr : r.Exact} {M : Places} {a : Option α} :
    (optional name hr).value depth M = some a ↔
      ∃ x, (Reader.option r).field? depth (M name) = some x ∧ x.getD none = a :=
  value_withDefault

theorem mem_of_find? {σ : Type} {fields : List (Field σ)} {k : String} {f : Field σ}
    (h : Field.find? fields k = some f) : f ∈ fields ∧ f.name = k := by
  have hname := List.find?_some (p := fun f : Field σ => decide (f.name = k)) h
  exact ⟨List.mem_of_find?_eq_some h, of_decide_eq_true hname⟩

theorem not_mem_of_find? {r : Record α} {k : String} (h : Field.find? r.fields k = none) :
    k ∉ r.names := by
  intro hk
  obtain ⟨f, hf, rfl⟩ := List.mem_map.1 hk
  have hne := List.find?_eq_none.1 h f hf
  exact hne (decide_eq_true rfl)

theorem readMember_ok (sem : Semantics r) {M : Places} {s s' : r.Slots} {k : String}
    {place rest : Bytes} (hholds : sem.holds depth M s) (hread :
      Field.readMember r.fields depth s k place = .ok (s', rest)) :
    Passes none place rest ∧ (k ∈ r.names → M k = none) ∧ sem.holds depth (M.put k place) s' := by
  unfold Field.readMember at hread
  split at hread
  · rename_i f hfind
    obtain ⟨hf, rfl⟩ := mem_of_find? hfind
    split at hread
    · cases hread
    · rename_i hunfilled
      rw [sem.filled hholds hf, Bool.not_eq_true, Option.isSome_eq_false_iff,
        Option.isNone_iff_eq_none] at hunfilled
      exact ⟨sem.exact hf hread, fun _ => hunfilled, sem.read hholds hf hread⟩
  · rename_i hfind
    obtain ⟨rest', hskip, h⟩ := bind_eq_ok_iff.1 hread
    rw [Reader.ofOption_eq_ok_iff, skipValue?_eq_some_iff] at hskip
    cases h
    have hk := not_mem_of_find? hfind
    exact ⟨hskip, fun hmem => absurd hmem hk,
      sem.congr hholds fun k' hk' => put_of_ne fun e => hk (e ▸ hk')⟩

/-- All members from one on: the slots come to hold the places that are found in the text. -/
theorem readMembers_ok (sem : Semantics r) {fuel : Nat} {M : Places} {s s' : r.Slots}
    {bs rest : Bytes} (hholds : sem.holds depth M s)
    (hread : Field.readMembers r.fields depth fuel s bs = .ok (s', rest)) :
    Passes (some .member) bs rest ∧
      sem.holds depth (fun k => (M k).or (memberAt? k fuel bs)) s' := by
  induction fuel generalizing M s bs with
  | zero => cases hread
  | succ fuel ih =>
    -- A key that was read before would have been refused, so no place is set twice.
    rw [Field.readMembers, bind_eq_ok_iff] at hread
    obtain ⟨⟨k, place⟩, hkey, hread⟩ := hread
    obtain ⟨⟨s₁, mid⟩, hmember, hread⟩ := bind_eq_ok_iff.1 hread
    obtain ⟨hvalue, hnew, hholds₁⟩ := sem.readMember_ok hholds hmember
    obtain ⟨afterKey, hstring, hcolon⟩ := key_eq_ok_iff.1 hkey
    obtain ⟨t, c, hfront, hcut, -⟩ := stringAt_eq_ok_iff.1 hstring
    have hput : ∀ k' ∈ r.names, k' = k → M.put k place k' = (M k').or (some place) := by
      rintro k' hk' rfl
      rw [Places.put, if_pos rfl, hnew hk', Option.none_or]
    simp only at hread
    split at hread
    · rename_i next hcomma
      obtain ⟨hrest, hholds'⟩ := ih hholds₁ hread
      refine ⟨.member hfront hcut hcolon hvalue (.moreMembers hcomma hrest), ?_⟩
      refine sem.congr hholds' fun k' hk' => ?_
      by_cases hkk : k' = k
      · rw [hput k' hk' hkk, hkk, memberAt?_of_key hkey, Option.or_assoc, Option.some_or]
      · rw [memberAt?_of_comma hkey (Ne.symm hkk) hvalue hcomma, put_of_ne hkk]
    · rename_i next hclose
      cases hread
      refine ⟨.member hfront hcut hcolon hvalue (.endMembers hclose), ?_⟩
      refine sem.congr hholds₁ fun k' hk' => ?_
      by_cases hkk : k' = k
      · rw [hput k' hk' hkk, hkk, memberAt?_of_key hkey]
      · rw [memberAt?_of_close hkey (Ne.symm hkk) hvalue hclose, put_of_ne hkk, Option.or_none]
    · cases hread

theorem readNamed_ok (sem : Semantics r) {s : r.Slots} {bs t rest : Bytes}
    (hfront : skipBlanks bs = 0x7B :: t)
    (hread : Field.readNamed r.fields depth r.start t = .ok (s, rest)) :
    Passes none bs rest ∧ sem.holds depth (fun k => memberAt? k t.length t) s := by
  unfold Field.readNamed at hread
  split at hread
  · rename_i u hclose
    cases hread
    refine ⟨.emptyObject hfront hclose, sem.congr (sem.start depth) fun k _ => ?_⟩
    exact memberAt?_of_empty hclose k _
  · obtain ⟨hmembers, hholds⟩ := sem.readMembers_ok (sem.start depth) hread
    refine ⟨.object hfront hmembers, sem.congr hholds fun k _ => ?_⟩
    rw [Option.none_or]

def positions (fields : List String) (M : Places) (bs : Bytes) : Places := fun k =>
  if k ∈ fields then nextElementAt? (fields.idxOf k) bs else M k

theorem positions_of_close {fields : List String} {M : Places} {bs rest : Bytes}
    (hclose : skipBlanks bs = 0x5D :: rest) (hM : ∀ k ∈ fields, M k = none) (k : String) :
    positions fields M bs k = M k := by
  unfold positions
  split
  · rename_i hk
    rw [nextElementAt?_of_close hclose, hM k hk]
  · rfl

theorem elementAt?_eq_positions {name k : String} {fields : List String} {place rest : Bytes}
    (hvalue : Passes none place rest) (hname : name ∉ fields) (hk : k ∈ name :: fields)
    (M : Places) :
    elementAt? ((name :: fields).idxOf k) place = positions fields (M.put name place) rest k := by
  unfold positions
  by_cases hkn : k = name
  · subst hkn
    rw [if_neg hname, List.idxOf_cons_self, elementAt?_zero hvalue, Places.put, if_pos rfl]
  · have hmem : k ∈ fields := (List.mem_cons.1 hk).resolve_left hkn
    have hbeq : (name == k) = false := beq_false_of_ne (Ne.symm hkn)
    rw [if_pos hmem, List.idxOf_cons, hbeq, cond_false, elementAt?_succ hvalue]

theorem positions_of_comma {name : String} {fields : List String} {M : Places}
    {bs place rest : Bytes} (hcomma : skipBlanks bs = 0x2C :: place)
    (hvalue : Passes none place rest) (hname : name ∉ fields) (k : String) :
    positions (name :: fields) M bs k = positions fields (M.put name place) rest k := by
  by_cases hk : k ∈ name :: fields
  · rw [← elementAt?_eq_positions hvalue hname hk, positions, if_pos hk,
      nextElementAt?_of_comma hcomma]
  · obtain ⟨hkn, hmem⟩ := not_or.1 (mt List.mem_cons.2 hk)
    rw [positions, positions, if_neg hk, if_neg hmem, put_of_ne hkn]

theorem readElements_ok (sem : Semantics r) {fields : List (Field r.Slots)}
    (hfields : ∀ f ∈ fields, f ∈ r.fields) (hnodup : (fields.map Field.name).Nodup) {M : Places}
    {s s' : r.Slots} {bs rest : Bytes} (hM : ∀ k ∈ fields.map Field.name, M k = none)
    (hholds : sem.holds depth M s)
    (hread : Field.readElements depth fields s bs = .ok (s', rest)) :
    Passes (some .nextElement) bs rest ∧
      sem.holds depth (positions (fields.map Field.name) M bs) s' := by
  induction fields generalizing M s bs with
  | nil =>
    rw [Field.readElements] at hread
    split at hread
    · rename_i t hclose
      cases hread
      exact ⟨.endElements hclose, sem.congr hholds fun k _ => positions_of_close hclose hM k⟩
    · cases hread
  | cons f fields ih =>
    rw [Field.readElements] at hread
    split at hread
    · rename_i t hclose
      cases hread
      exact ⟨.endElements hclose, sem.congr hholds fun k _ => positions_of_close hclose hM k⟩
    · rename_i place hcomma
      obtain ⟨⟨s₁, mid⟩, hvalue, hread⟩ := bind_eq_ok_iff.1 hread
      have hf := hfields f (by simp)
      obtain ⟨hname, hnodup'⟩ := List.nodup_cons.1 hnodup
      have hpasses := sem.exact hf hvalue
      have hM' : ∀ k ∈ fields.map Field.name, M.put f.name place k = none := by
        intro k hk
        have hne : k ≠ f.name := fun e => hname (e ▸ hk)
        rw [put_of_ne hne]
        exact hM k (List.mem_cons_of_mem _ hk)
      obtain ⟨hrest, hholds'⟩ := ih (fun g hg => hfields g (by simp [hg])) hnodup' hM'
        (sem.read hholds hf hvalue) hread
      refine ⟨.moreElements hcomma (.element hpasses hrest), sem.congr hholds' fun k _ => ?_⟩
      exact positions_of_comma hcomma hpasses hname k
    · cases hread

theorem readPositional_ok (sem : Semantics r) {s : r.Slots} {bs t rest : Bytes}
    (hfront : skipBlanks bs = 0x5B :: t)
    (hread : Field.readPositional depth r.fields r.start t = .ok (s, rest)) :
    Passes none bs rest ∧ sem.holds depth (fun k => elementAt? (r.names.idxOf k) t) s := by
  have hempty : ∀ {u}, skipBlanks t = 0x5D :: u → s = r.start → rest = u →
      Passes none bs rest ∧ sem.holds depth (fun k => elementAt? (r.names.idxOf k) t) s := by
    rintro u hclose rfl rfl
    exact ⟨.emptyArray hfront hclose,
      sem.congr (sem.start depth) fun k _ => elementAt?_of_empty hclose _⟩
  have hall : ∀ f ∈ r.fields, f ∈ r.fields := fun f hf => hf
  have hnodup := sem.nodup
  unfold names at hempty hnodup ⊢
  cases hfields : r.fields with
  | nil =>
    rw [hfields, Field.readPositional, Field.readElements] at hread
    rw [hfields] at hempty
    split at hread
    · rename_i u hclose
      cases hread
      exact hempty hclose rfl rfl
    · cases hread
  | cons f fields =>
    rw [hfields, Field.readPositional] at hread
    rw [hfields] at hempty hnodup
    obtain ⟨hname, hnodup'⟩ := List.nodup_cons.1 hnodup
    have hf : f ∈ r.fields := by simp [hfields]
    split at hread
    · rename_i u hclose
      cases hread
      exact hempty hclose rfl rfl
    · obtain ⟨⟨s₁, mid⟩, hvalue, hread⟩ := bind_eq_ok_iff.1 hread
      have hpasses := sem.exact hf hvalue
      have hM : ∀ k ∈ fields.map Field.name, Places.put (fun _ => none) f.name t k = none := by
        intro k hk
        have hne : k ≠ f.name := fun e => hname (e ▸ hk)
        exact put_of_ne hne
      obtain ⟨hrest, hholds⟩ := sem.readElements_ok (fun g hg => by simp [hfields, hg]) hnodup' hM
        (sem.read (sem.start depth) hf hvalue) hread
      refine ⟨.array hfront (.element hpasses hrest), sem.congr hholds fun k hk => ?_⟩
      rw [names, hfields] at hk
      exact elementAt?_eq_positions hpasses hname hk _

def placesIn (r : Record α) (bs : Bytes) : Places := fun k => fieldAt? k (r.names.idxOf k) bs

theorem finish_ok (sem : Semantics r) {M : Places} {s : r.Slots} {rest rest' : Bytes} {a : α}
    (hholds : sem.holds depth M s)
    (h : (do pure (← Reader.ofOption (r.finish s), rest') : Except ReadError (α × Bytes)) =
      .ok (a, rest)) : rest = rest' ∧ sem.value depth M = some a := by
  obtain ⟨a', hfinish, h⟩ := bind_eq_ok_iff.1 h
  cases h
  rw [Reader.ofOption_eq_ok_iff, sem.finish hholds] at hfinish
  exact ⟨rfl, hfinish⟩

/-- What a record reads is the value of the places of its fields, and the text is one value. -/
theorem reader_ok (sem : Semantics r) {bs rest : Bytes} {a : α}
    (hread : r.reader (depth + 1) bs = .ok (a, rest)) :
    Passes none bs rest ∧ sem.value depth (placesIn r bs) = some a := by
  rw [Record.reader] at hread
  split at hread
  · rename_i t hfront
    obtain ⟨⟨s, rest'⟩, hslots, hread⟩ := bind_eq_ok_iff.1 hread
    obtain ⟨hpasses, hholds⟩ := sem.readNamed_ok hfront hslots
    have hplaces : ∀ k ∈ r.names, placesIn r bs k = memberAt? k t.length t :=
      fun k _ => fieldAt?_of_brace hfront k _
    obtain ⟨rfl, hvalue⟩ := sem.finish_ok (sem.congr hholds hplaces) hread
    exact ⟨hpasses, hvalue⟩
  · rename_i t hfront
    obtain ⟨⟨s, rest'⟩, hslots, hread⟩ := bind_eq_ok_iff.1 hread
    obtain ⟨hpasses, hholds⟩ := sem.readPositional_ok hfront hslots
    have hplaces : ∀ k ∈ r.names, placesIn r bs k = elementAt? (r.names.idxOf k) t :=
      fun k _ => fieldAt?_of_bracket hfront k _
    obtain ⟨rfl, hvalue⟩ := sem.finish_ok (sem.congr hholds hplaces) hread
    exact ⟨hpasses, hvalue⟩
  · cases hread

theorem exact_reader (sem : Semantics r) : r.reader.Exact := by
  intro depth bs a rest hread
  cases depth with
  | zero => cases hread
  | succ depth => exact (sem.reader_ok hread).1

end Semantics
end Record
end Tronkit.Json
