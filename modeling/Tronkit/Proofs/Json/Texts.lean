import Tronkit.Proofs.Json.Written

/-!
# Objects of texts

An object whose values are all texts is one to a reader of any values and to a reader of texts
alone. The two find the same members in it, whatever blanks and escapes it is written with.
-/

namespace Tronkit.Json

def ofTexts (texts : List (String × String)) : List (String × Json) :=
  texts.map fun m => (m.1, string m.2)

theorem keys_ofTexts (texts : List (String × String)) :
    (ofTexts texts).map Prod.fst = texts.map Prod.fst := by
  rw [ofTexts, List.map_map]
  rfl

theorem lookup_ofTexts (key : String) (texts : List (String × String)) :
    (ofTexts texts).lookup key = (texts.lookup key).map string := by
  induction texts with
  | nil => rfl
  | cons m texts ih =>
    rw [ofTexts, List.map_cons, List.lookup_cons, List.lookup_cons]
    cases key == m.1 with
    | true => rfl
    | false => exact ih

theorem exists_texts {ms : List (String × Json)} (h : ∀ m ∈ ms, ∃ s, m.2 = string s) :
    ∃ texts, ms = ofTexts texts := by
  induction ms with
  | nil => exact ⟨[], rfl⟩
  | cons m ms ih =>
    obtain ⟨hm, hms⟩ := List.forall_mem_cons.1 h
    obtain ⟨key, v⟩ := m
    obtain ⟨s, rfl⟩ : ∃ s, v = string s := hm
    obtain ⟨texts, rfl⟩ := ih hms
    exact ⟨(key, s) :: texts, rfl⟩

theorem render_ofTexts (texts : List (String × String)) :
    (object (ofTexts texts)).render = Render.object (membersOf Render.string texts) := by
  rw [render, renderMembers_eq_map, ofTexts, List.map_map]
  rfl

namespace Reader

/-! ## Values of any form that are texts -/

theorem number?_form {n : Numeral} {v : Json} (h : number? n = some v) :
    (∃ z, v = integer z) ∨ ∃ x, v = double x := by
  have hdouble : ∀ {y : Option Binary64}, y.map double = some v → ∃ x, v = double x := by
    intro y hy
    obtain ⟨x, -, hx⟩ := Option.map_eq_some_iff.1 hy
    exact ⟨x, hx.symm⟩
  obtain ⟨whole, dropped, hcut⟩ : ∃ whole dropped, significand 0 0 n.whole = (whole, dropped) :=
    ⟨_, _, rfl⟩
  simp only [number?, hcut] at h
  split at h
  · split at h
    · split at h
      · exact .inl ⟨_, (Option.some.inj h).symm⟩
      · split at h
        · exact .inl ⟨_, (Option.some.inj h).symm⟩
        · exact .inr (hdouble h)
    · exact .inr (hdouble h)
  · exact .inr (hdouble h)

theorem stringAt_skipBlanks (bs : Bytes) : stringAt (skipBlanks bs) = stringAt bs := by
  rw [stringAt, stringAt, skipBlanks_skipBlanks]

theorem scalar_form {bs rest : Bytes} {v : Json} (h : scalar bs = .ok (v, rest)) :
    (∀ s, v = Json.string s → stringAt bs = .ok (s, rest)) ∧ ∀ ms, v ≠ Json.object ms := by
  unfold scalar at h
  split at h
  · cases h
  · rename_i b t hfront
    rw [← hfront] at h
    split at h
    · obtain ⟨⟨s, mid⟩, hstring, h⟩ := bind_eq_ok_iff.1 h
      rw [stringAt_skipBlanks] at hstring
      cases h
      refine ⟨fun s' hs => ?_, nofun⟩
      cases hs
      exact hstring
    · repeat' split at h
      · obtain ⟨mid, -, h⟩ := bind_eq_ok_iff.1 h
        cases h
        exact ⟨nofun, nofun⟩
      · obtain ⟨mid, -, h⟩ := bind_eq_ok_iff.1 h
        cases h
        exact ⟨nofun, nofun⟩
      · obtain ⟨mid, -, h⟩ := bind_eq_ok_iff.1 h
        cases h
        exact ⟨nofun, nofun⟩
      · obtain ⟨⟨n, mid⟩, -, h⟩ := bind_eq_ok_iff.1 h
        obtain ⟨w, hw, h⟩ := bind_eq_ok_iff.1 h
        rw [ofOption_eq_ok_iff] at hw
        cases h
        rcases number?_form hw with ⟨z, rfl⟩ | ⟨x, rfl⟩
        · exact ⟨nofun, nofun⟩
        · exact ⟨nofun, nofun⟩

theorem stringAt_of_tree {depth : Nat} {bs rest : Bytes} {s : String}
    (h : tree depth bs = .ok (Json.string s, rest)) : stringAt bs = .ok (s, rest) := by
  cases depth with
  | zero => exact (scalar_form h).1 s rfl
  | succ depth =>
    rw [tree] at h
    split at h
    · obtain ⟨⟨vs, mid⟩, -, h⟩ := bind_eq_ok_iff.1 h
      cases h
    · obtain ⟨⟨ms, mid⟩, -, h⟩ := bind_eq_ok_iff.1 h
      cases h
    · rw [← stringAt_skipBlanks]
      exact (scalar_form h).1 s rfl

theorem members_of_tree {depth : Nat} {bs rest : Bytes} {texts : List (String × String)}
    (h : tree (depth + 1) bs = .ok (Json.object (ofTexts texts), rest)) :
    ∃ t, skipBlanks bs = 0x7B :: t ∧ members (string depth) t = .ok (texts, rest) := by
  rw [tree] at h
  split at h
  · obtain ⟨⟨vs, mid⟩, -, h⟩ := bind_eq_ok_iff.1 h
    cases h
  · rename_i t hbrace
    obtain ⟨⟨ms, mid⟩, hms, h⟩ := bind_eq_ok_iff.1 h
    cases h
    exact ⟨t, hbrace, members_of_map (fun hs => stringAt_of_tree hs) hms⟩
  · exact absurd rfl ((scalar_form h).2 _)

end Reader
end Tronkit.Json
