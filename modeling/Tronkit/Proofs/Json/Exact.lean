import Tronkit.Proofs.Json.Passing

/-!
# Readers take one value

A reader of values is exact if what it takes is one value, no less and no more. So a reader that
is asked for a value and a reader that passes over it leave the same rest.
-/

namespace Tronkit.Json

theorem stringAt_eq_ok_iff {bs rest : Bytes} {s : String} :
    Reader.stringAt bs = .ok (s, rest) ↔
      ∃ t c, skipBlanks bs = 0x22 :: t ∧ content? t = some (c, rest) ∧ contentText? c = some s := by
  constructor
  · intro h
    unfold Reader.stringAt at h
    split at h
    · rename_i t hfront
      obtain ⟨p, hcut, h⟩ := bind_eq_ok_iff.1 h
      obtain ⟨c, rest'⟩ := p
      obtain ⟨s', htext, h⟩ := bind_eq_ok_iff.1 h
      rw [Reader.ofOption_eq_ok_iff] at hcut htext
      cases h
      exact ⟨t, c, hfront, hcut, htext⟩
    · cases h
  · rintro ⟨t, c, hfront, hcut, htext⟩
    exact stringAt_of_content hfront hcut htext

theorem key_eq_ok_iff {bs rest : Bytes} {k : String} :
    Reader.key bs = .ok (k, rest) ↔
      ∃ mid, Reader.stringAt bs = .ok (k, mid) ∧ skipBlanks mid = 0x3A :: rest := by
  unfold Reader.key
  rw [bind_eq_ok_iff]
  constructor
  · rintro ⟨⟨k', mid⟩, hkey, h⟩
    simp only at h
    split at h
    · rename_i t hcolon
      cases h
      exact ⟨mid, hkey, hcolon⟩
    · cases h
  · rintro ⟨mid, hkey, hcolon⟩
    refine ⟨(k, mid), hkey, ?_⟩
    simp only [hcolon]
    rfl

namespace Reader

def Exact {α : Type} (r : Reader α) : Prop :=
  ∀ ⦃depth bs a rest⦄, r depth bs = .ok (a, rest) → Passes none bs rest

theorem Exact.check {α β : Type} {r : Reader α} (h : r.Exact) (f : α → Except ReadError β) :
    (r.check f).Exact := by
  intro depth bs b rest hread
  obtain ⟨a, ha, -⟩ := check_eq_ok_iff.1 hread
  exact h ha

theorem Exact.map {α β : Type} {r : Reader α} (h : r.Exact) (f : α → β) : (r.map f).Exact :=
  h.check _

theorem Exact.filterMap {α β : Type} {r : Reader α} (h : r.Exact) (f : α → Option β) :
    (r.filterMap f).Exact :=
  h.check _

theorem passes_of_stringAt {bs rest : Bytes} {s : String} (h : stringAt bs = .ok (s, rest)) :
    Passes none bs rest := by
  obtain ⟨t, c, hfront, hcut, -⟩ := stringAt_eq_ok_iff.1 h
  exact .string hfront hcut

theorem exact_string : Reader.string.Exact := fun _ _ _ _ => passes_of_stringAt

theorem exact_bool : Reader.bool.Exact := by
  intro depth bs b rest h
  unfold Reader.bool at h
  simp only at h
  split at h
  · rename_i r htrue
    cases h
    exact .true (after?_eq_some_iff.1 htrue)
  · rename_i r _ hfalse
    cases h
    exact .false (after?_eq_some_iff.1 hfalse)
  · cases h

theorem Exact.option {α : Type} {r : Reader α} (h : r.Exact) : (Reader.option r).Exact := by
  intro depth bs a rest hread
  unfold Reader.option at hread
  split at hread
  · rename_i t hfront
    obtain ⟨r', hnull, hread⟩ := bind_eq_ok_iff.1 hread
    rw [ofOption_eq_ok_iff, after?_eq_some_iff] at hnull
    cases hread
    exact .null (hfront.trans hnull)
  · obtain ⟨a', ha, -⟩ := map_eq_ok_iff.1 hread
    exact passes_skipBlanks.1 (h ha)

theorem items_passes {α : Type} {item : Step α}
    (hitem : ∀ {bs a rest}, item bs = .ok (a, rest) → Passes none bs rest) {fuel : Nat}
    {bs rest : Bytes} {as : List α} (h : items item fuel bs = .ok (as, rest)) :
    Passes (some .element) bs rest := by
  induction fuel generalizing bs as with
  | zero => cases h
  | succ fuel ih =>
    rw [items, bind_eq_ok_iff] at h
    obtain ⟨⟨a, mid⟩, ha, h⟩ := h
    simp only at h
    split at h
    · rename_i t hcomma
      obtain ⟨⟨as', rest'⟩, has, h⟩ := bind_eq_ok_iff.1 h
      cases h
      exact .element (hitem ha) (.moreElements hcomma (ih has))
    · rename_i t hclose
      cases h
      exact .element (hitem ha) (.endElements hclose)
    · cases h

theorem passes_of_elements {α : Type} {item : Step α}
    (hitem : ∀ {bs a rest}, item bs = .ok (a, rest) → Passes none bs rest) {bs t rest : Bytes}
    {as : List α} (hfront : skipBlanks bs = 0x5B :: t) (h : elements item t = .ok (as, rest)) :
    Passes none bs rest := by
  unfold elements at h
  split at h
  · rename_i u hclose
    cases h
    exact .emptyArray hfront hclose
  · exact .array hfront (items_passes hitem h)

theorem Exact.list {α : Type} {r : Reader α} (h : r.Exact) : (Reader.list r).Exact := by
  intro depth bs as rest hread
  cases depth with
  | zero => cases hread
  | succ depth =>
    rw [Reader.list] at hread
    split at hread
    · rename_i t hfront
      exact passes_of_elements (fun ha => h ha) hfront hread
    · cases hread

theorem exact_verbatim : Reader.verbatim.Exact := by
  intro depth bs s rest h
  obtain ⟨rest', hskip, h⟩ := bind_eq_ok_iff.1 h
  obtain ⟨s', htext, h⟩ := bind_eq_ok_iff.1 h
  rw [ofOption_eq_ok_iff] at hskip
  cases h
  exact passes_skipBlanks.1 (skipValue?_eq_some_iff.1 hskip)

theorem exact_natBelow (limit : Nat) : (Reader.natBelow limit).Exact := by
  intro depth bs n rest h
  obtain ⟨p, hcut, h⟩ := bind_eq_ok_iff.1 h
  obtain ⟨numeral, mid⟩ := p
  rw [ofOption_eq_ok_iff] at hcut
  simp only at h
  split at h
  · split at h
    · cases h
      exact .numeral hcut
    · cases h
  · cases h

theorem exact_byte : Reader.byte.Exact := (exact_natBelow 256).map UInt8.ofNat

theorem exact_choice {α : Type} (names : List (String × α)) : (Reader.choice names).Exact := by
  intro depth bs a rest h
  unfold Reader.choice at h
  split at h
  · rename_i t hfront
    split at h
    · cases h
    · obtain ⟨⟨k, place⟩, hkey, h⟩ := bind_eq_ok_iff.1 h
      obtain ⟨a', -, h⟩ := bind_eq_ok_iff.1 h
      obtain ⟨mid, hnull, h⟩ := bind_eq_ok_iff.1 h
      rw [ofOption_eq_ok_iff, after?_eq_some_iff] at hnull
      obtain ⟨afterKey, hstring, hcolon⟩ := key_eq_ok_iff.1 hkey
      obtain ⟨u, c, hquote, hcut, -⟩ := stringAt_eq_ok_iff.1 hstring
      split at h
      · rename_i v hclose
        cases h
        exact .object hfront (.member hquote hcut hcolon (.null hnull) (.endMembers hclose))
      · cases h
  · obtain ⟨⟨k, mid⟩, hstring, h⟩ := bind_eq_ok_iff.1 h
    obtain ⟨a', -, h⟩ := bind_eq_ok_iff.1 h
    cases h
    exact passes_skipBlanks.1 (passes_of_stringAt hstring)

/-! ## Values of any form -/

theorem word_eq_ok {w bs rest : Bytes} {v v' : Json}
    (h : (do pure (v, ← ofOption (after? w bs)) : Except ReadError (Json × Bytes)) =
      .ok (v', rest)) : bs = w ++ rest := by
  obtain ⟨mid, hword, h⟩ := bind_eq_ok_iff.1 h
  rw [ofOption_eq_ok_iff, after?_eq_some_iff] at hword
  cases h
  exact hword

theorem passes_of_scalar {bs rest : Bytes} {v : Json} (h : scalar bs = .ok (v, rest)) :
    Passes none bs rest := by
  unfold scalar at h
  split at h
  · cases h
  · rename_i b t hfront
    rw [← hfront] at h
    split at h
    · obtain ⟨⟨s, mid⟩, hstring, h⟩ := bind_eq_ok_iff.1 h
      cases h
      exact passes_skipBlanks.1 (passes_of_stringAt hstring)
    · split at h
      · exact .null (word_eq_ok h)
      · split at h
        · exact .true (word_eq_ok h)
        · split at h
          · exact .false (word_eq_ok h)
          · obtain ⟨⟨n, mid⟩, hcut, h⟩ := bind_eq_ok_iff.1 h
            obtain ⟨w, -, h⟩ := bind_eq_ok_iff.1 h
            rw [ofOption_eq_ok_iff] at hcut
            cases h
            exact .numeral hcut

theorem pairs_passes {α : Type} {value : Step α}
    (hvalue : ∀ {bs a rest}, value bs = .ok (a, rest) → Passes none bs rest) {fuel : Nat}
    {bs rest : Bytes} {ms : List (String × α)} (h : pairs value fuel bs = .ok (ms, rest)) :
    Passes (some .member) bs rest := by
  induction fuel generalizing bs ms with
  | zero => cases h
  | succ fuel ih =>
    rw [pairs, bind_eq_ok_iff] at h
    obtain ⟨⟨k, place⟩, hkey, h⟩ := h
    obtain ⟨⟨a, mid⟩, ha, h⟩ := bind_eq_ok_iff.1 h
    obtain ⟨afterKey, hstring, hcolon⟩ := key_eq_ok_iff.1 hkey
    obtain ⟨t, c, hquote, hcut, -⟩ := stringAt_eq_ok_iff.1 hstring
    simp only at h
    split at h
    · rename_i u hcomma
      obtain ⟨⟨ms', rest'⟩, hms, h⟩ := bind_eq_ok_iff.1 h
      cases h
      exact .member hquote hcut hcolon (hvalue ha) (.moreMembers hcomma (ih hms))
    · rename_i u hclose
      cases h
      exact .member hquote hcut hcolon (hvalue ha) (.endMembers hclose)
    · cases h

theorem passes_of_members {α : Type} {value : Step α}
    (hvalue : ∀ {bs a rest}, value bs = .ok (a, rest) → Passes none bs rest) {bs t rest : Bytes}
    {ms : List (String × α)} (hfront : skipBlanks bs = 0x7B :: t)
    (h : members value t = .ok (ms, rest)) : Passes none bs rest := by
  unfold members at h
  split at h
  · rename_i u hclose
    cases h
    exact .emptyObject hfront hclose
  · exact .object hfront (pairs_passes hvalue h)

theorem exact_tree : tree.Exact := by
  intro depth
  induction depth with
  | zero => exact fun _ _ _ h => passes_of_scalar h
  | succ depth ih =>
    intro bs v rest h
    rw [tree] at h
    split at h
    · rename_i t hfront
      obtain ⟨⟨vs, mid⟩, hvs, h⟩ := bind_eq_ok_iff.1 h
      cases h
      exact passes_of_elements (fun ha => ih ha) hfront hvs
    · rename_i t hfront
      obtain ⟨⟨ms, mid⟩, hms, h⟩ := bind_eq_ok_iff.1 h
      cases h
      exact passes_of_members (fun ha => ih ha) hfront hms
    · exact passes_skipBlanks.1 (passes_of_scalar h)

theorem exact_value : value.Exact := exact_tree.filterMap plain?

theorem exact_object : object.Exact := by
  intro depth bs ms rest h
  cases depth with
  | zero => cases h
  | succ depth =>
    rw [object] at h
    split at h
    · rename_i t hfront
      obtain ⟨⟨ms', mid⟩, hms, h⟩ := bind_eq_ok_iff.1 h
      cases h
      exact passes_of_members (fun ha => exact_value ha) hfront hms
    · cases h

end Reader
end Tronkit.Json
