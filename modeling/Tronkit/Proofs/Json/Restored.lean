import Tronkit.Proofs.Json.Written

/-!
# Written records are read

A record is written as an object with one member for each field, in the order of the fields, and a
field may be left out if its value is the one that its absence stands for. `Restores` says of such
members that the record is read from them as a value. It is built from single fields as records
are, so a record is read back if each of its fields is.
-/

namespace Tronkit.Json

theorem lookup_eq_none_of_keys {ms : List (String × List Char)} {names : List String}
    (h : (ms.map Prod.fst).Sublist names) {key : String} (hkey : key ∉ names) :
    ms.lookup key = none := by
  rw [List.lookup_eq_none_iff]
  intro m hm
  have hne : key ≠ m.1 := fun e => hkey (e ▸ h.subset (List.mem_map_of_mem hm))
  exact bne_iff_ne.2 hne

namespace Record.Semantics

variable {α β : Type} {r : Record α} {depth : Nat}

structure Restores (sem : Semantics r) (depth : Nat) (ms : List (String × List Char)) (a : α) :
    Prop where
  suits : ∀ m ∈ ms, sem.Suits depth m
  keys : (ms.map Prod.fst).Sublist r.names
  value : ∀ M : Places, (∀ k ∈ r.names, Standing (ms.lookup k) (M k)) →
    sem.value depth M = some a

namespace Restores

theorem const (a : α) : (Semantics.const a).Restores depth [] a where
  suits _ hm := nomatch hm
  keys := List.nil_sublist _
  value _ _ := rfl

theorem required {name : String} {r : Reader α} {hr : r.Exact} {text : List Char} {a : α}
    (h : r.Reads depth text a) : (Semantics.required name hr).Restores depth [(name, text)] a where
  suits m hm := by
    obtain rfl := List.mem_singleton.1 hm
    exact .slot hr h
  keys := List.Sublist.refl _
  value M hM := by
    have hstanding := hM name (List.mem_singleton.2 rfl)
    rw [List.lookup_cons_self] at hstanding
    exact value_required.2 (hstanding.field?_some h)

theorem leftOut {name : String} {default : α} {r : Reader α} {hr : r.Exact}
    {text : Option (List Char)} {a : α} (habsent : text = none → default = a)
    (h : ∀ t, text = some t → r.Reads depth t a) :
    (Semantics.withDefault name default hr).Restores depth (Render.optional name text) a where
  suits m hm := by
    obtain ⟨k, t⟩ := m
    obtain ⟨rfl, ht⟩ := mem_optional.1 hm
    exact .slot hr (h t ht)
  keys := keys_optional_sublist name text
  value M hM := by
    have hstanding := hM name (List.mem_singleton.2 rfl)
    rw [lookup_optional, if_pos rfl] at hstanding
    rw [value_withDefault]
    cases text with
    | none => exact ⟨none, hstanding.field?_none, habsent rfl⟩
    | some t => exact ⟨some a, hstanding.field?_some (h t rfl), rfl⟩

theorem withDefault {name : String} {default : α} {r : Reader α} {hr : r.Exact}
    {text : List Char} {a : α} (h : r.Reads depth text a) :
    (Semantics.withDefault name default hr).Restores depth [(name, text)] a := by
  have habsent : some text = none → default = a := nofun
  have hread : ∀ t, some text = some t → r.Reads depth t a := by
    intro t ht
    exact Option.some.inj ht ▸ h
  exact leftOut habsent hread

theorem optional {name : String} {r : Reader α} {hr : r.Exact} {write : α → List Char}
    {value : Option α} (hpresent : ∀ a, value = some a → IsPresent (write a))
    (h : ∀ a, value = some a → r.Reads depth (write a) a) :
    (Semantics.optional name hr).Restores depth (Render.optional name (value.map write)) value := by
  refine leftOut (fun hnone => (Option.map_eq_none_iff.1 hnone).symm) fun t ht => ?_
  obtain ⟨a, rfl, rfl⟩ := Option.map_eq_some_iff.1 ht
  exact (h a rfl).option (hpresent a rfl)

theorem apply {f : Record (α → β)} {sf : Semantics f} {sem : Semantics r}
    {hdisjoint : ∀ k ∈ f.names, k ∉ r.names} {ms ms' : List (String × List Char)} {g : α → β}
    {a : α} (hf : sf.Restores depth ms g) (hr : sem.Restores depth ms' a) :
    (sf.apply sem hdisjoint).Restores depth (ms ++ ms') (g a) where
  suits m hm := by
    rcases List.mem_append.1 hm with hm | hm
    · exact .left (hf.suits m hm)
    · exact .right (hr.suits m hm)
  keys := by
    rw [names_apply, List.map_append]
    exact hf.keys.append hr.keys
  value M hM := by
    simp only [names_apply, List.mem_append, List.lookup_append] at hM
    have hleft : ∀ k ∈ f.names, Standing (ms.lookup k) (M k) := by
      intro k hk
      have h := hM k (.inl hk)
      rwa [lookup_eq_none_of_keys hr.keys (hdisjoint k hk), Option.or_none] at h
    have hright : ∀ k ∈ r.names, Standing (ms'.lookup k) (M k) := by
      intro k hk
      have hk' : k ∉ f.names := fun hmem => hdisjoint k hmem hk
      have h := hM k (.inr hk)
      rwa [lookup_eq_none_of_keys hf.keys hk', Option.none_or] at h
    exact value_apply.2 ⟨g, a, hf.value M hleft, hr.value M hright, rfl⟩

theorem reads {sem : Semantics r} {ms : List (String × List Char)} {a : α}
    (h : sem.Restores depth ms a) : r.reader.Reads (depth + 1) (Render.object ms) a :=
  sem.reads_object h.suits (h.keys.nodup sem.nodup) fun M hM => h.value M fun k _ => hM k

end Restores
end Record.Semantics

theorem isPresent_object (ms : List (String × List Char)) : IsPresent (Render.object ms) := by
  have hbytes := encode_object ms []
  rw [List.append_nil] at hbytes
  exact ⟨0x7B, _, hbytes, by decide, by decide⟩

end Tronkit.Json
