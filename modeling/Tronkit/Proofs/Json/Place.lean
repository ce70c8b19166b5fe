import Tronkit.Proofs.Json.Exact

/-!
# Places of values

The place of a value is the rest of the text that begins with it. A member of an object has its
place behind its key, an element of an array behind the elements before it. Nothing here knows
what the values are meant for: all that stands before a place is passed over. The keys of an object
tell it apart from a value of any other form.
-/

namespace Tronkit.Json

def memberAt? (key : String) : (fuel : Nat) → Bytes → Option Bytes
  | 0, _ => none
  | fuel + 1, bs =>
    match Reader.key bs with
    | .error _ => none
    | .ok (k, place) =>
      if k = key then some place
      else (skipValue? place).bind fun rest =>
        match skipBlanks rest with
        | 0x2C :: rest => memberAt? key fuel rest
        | _ => none

def elementAt? : (index : Nat) → Bytes → Option Bytes
  | 0, bs =>
    match skipBlanks bs with
    | 0x5D :: _ => none
    | _ => some bs
  | index + 1, bs => (skipValue? bs).bind fun rest =>
    match skipBlanks rest with
    | 0x2C :: rest => elementAt? index rest
    | _ => none

/-- The place of a field in a value of either form: the member with its key, or the element with
its index. -/
def fieldAt? (key : String) (index : Nat) (bs : Bytes) : Option Bytes :=
  match skipBlanks bs with
  | 0x7B :: rest => memberAt? key rest.length rest
  | 0x5B :: rest => elementAt? index rest
  | _ => none

/-- Passes over a value of any form. -/
def Reader.passing : Reader Unit := fun _ bs =>
  (ofOption (skipValue? bs)).map fun rest => ((), rest)

/-- The keys of an object in their order. A value of any other form has none, not even an empty
list of them. -/
def keys? (bs : Bytes) : Option (List String) :=
  match skipBlanks bs with
  | 0x7B :: rest => (Reader.members (Reader.passing 0) rest).toOption.map fun p => p.1.map Prod.fst
  | _ => none

theorem fieldAt?_of_brace {bs t : Bytes} (h : skipBlanks bs = 0x7B :: t) (key : String)
    (index : Nat) : fieldAt? key index bs = memberAt? key t.length t := by
  rw [fieldAt?, h]
  rfl

theorem fieldAt?_of_bracket {bs t : Bytes} (h : skipBlanks bs = 0x5B :: t) (key : String)
    (index : Nat) : fieldAt? key index bs = elementAt? index t := by
  rw [fieldAt?, h]
  rfl

theorem fieldAt?_skipBlanks (key : String) (index : Nat) (bs : Bytes) :
    fieldAt? key index (skipBlanks bs) = fieldAt? key index bs := by
  rw [fieldAt?, fieldAt?, skipBlanks_skipBlanks]

def valueText? (place : Bytes) : Option Bytes :=
  let bs := skipBlanks place
  (skipValue? bs).map fun rest => bs.take (bs.length - rest.length)

namespace Reader

def front? {α : Type} (r : Reader α) (depth : Nat) (place : Bytes) : Option α :=
  (r depth place).toOption.map Prod.fst

theorem front?_of_ok {α : Type} {r : Reader α} {depth : Nat} {place rest : Bytes} {a : α}
    (h : r depth place = .ok (a, rest)) : r.front? depth place = some a := by
  rw [front?, h]
  rfl

theorem front?_eq_some {α : Type} {r : Reader α} {depth : Nat} {place : Bytes} {a : α}
    (h : r.front? depth place = some a) : ∃ rest, r depth place = .ok (a, rest) := by
  unfold front? at h
  cases hread : r depth place with
  | error e =>
    rw [hread] at h
    cases h
  | ok p =>
    rw [hread] at h
    cases h
    exact ⟨p.2, rfl⟩

def field? {α : Type} (r : Reader α) (depth : Nat) : Option Bytes → Option (Option α)
  | none => some none
  | some place => (r.front? depth place).map some

theorem Yields.field? {α : Type} {r : Reader α} {P : α → Prop} (h : r.Yields P) {depth : Nat}
    {place : Option Bytes} {x : Option α} (hfield : r.field? depth place = some x) :
    ∀ a, x = some a → P a := by
  intro a ha
  subst ha
  cases place with
  | none => cases hfield
  | some place =>
    obtain ⟨a', hfront, ha⟩ := Option.map_eq_some_iff.1 hfield
    cases ha
    obtain ⟨rest, hread⟩ := front?_eq_some hfront
    exact h hread

end Reader

theorem memberAt?_of_key {k : String} {bs place : Bytes} (h : Reader.key bs = .ok (k, place))
    (fuel : Nat) : memberAt? k (fuel + 1) bs = some place := by
  rw [memberAt?, h]
  exact if_pos rfl

theorem memberAt?_of_empty {bs rest : Bytes} (h : skipBlanks bs = 0x7D :: rest) (key : String)
    (fuel : Nat) : memberAt? key fuel bs = none := by
  have hkey : Reader.key bs = .error .malformed := by
    rw [Reader.key, Reader.stringAt, h]
    rfl
  cases fuel with
  | zero => rfl
  | succ fuel => rw [memberAt?, hkey]

theorem memberAt?_of_comma {k key : String} {bs place rest next : Bytes}
    (hkey : Reader.key bs = .ok (k, place)) (hne : k ≠ key) (hvalue : Passes none place rest)
    (hcomma : skipBlanks rest = 0x2C :: next) (fuel : Nat) :
    memberAt? key (fuel + 1) bs = memberAt? key fuel next := by
  simp only [memberAt?, hkey, if_neg hne, skipValue?_eq_some_iff.2 hvalue, Option.bind_some, hcomma]

theorem memberAt?_of_close {k key : String} {bs place rest next : Bytes}
    (hkey : Reader.key bs = .ok (k, place)) (hne : k ≠ key) (hvalue : Passes none place rest)
    (hclose : skipBlanks rest = 0x7D :: next) (fuel : Nat) :
    memberAt? key (fuel + 1) bs = none := by
  simp only [memberAt?, hkey, if_neg hne, skipValue?_eq_some_iff.2 hvalue, Option.bind_some, hclose]
  rfl

def nextElementAt? (index : Nat) (bs : Bytes) : Option Bytes :=
  match skipBlanks bs with
  | 0x2C :: rest => elementAt? index rest
  | _ => none

theorem elementAt?_of_empty {bs rest : Bytes} (h : skipBlanks bs = 0x5D :: rest) (index : Nat) :
    elementAt? index bs = none := by
  have hskip : skipValue? bs = none := by
    cases hs : skipValue? bs with
    | none => rfl
    | some t => exact absurd h ((skipValue?_eq_some_iff.1 hs).front_ne rest)
  cases index with
  | zero =>
    rw [elementAt?, h]
    rfl
  | succ index =>
    rw [elementAt?, hskip]
    rfl

theorem elementAt?_succ {bs rest : Bytes} (h : Passes none bs rest) (index : Nat) :
    elementAt? (index + 1) bs = nextElementAt? index rest := by
  rw [elementAt?, skipValue?_eq_some_iff.2 h, Option.bind_some]
  rfl

theorem elementAt?_zero {bs rest : Bytes} (h : Passes none bs rest) :
    elementAt? 0 bs = some bs := by
  rw [elementAt?]
  split
  · rename_i t hclose
    exact absurd hclose (h.front_ne t)
  · rfl

theorem nextElementAt?_of_comma {bs rest : Bytes} (h : skipBlanks bs = 0x2C :: rest)
    (index : Nat) : nextElementAt? index bs = elementAt? index rest := by
  rw [nextElementAt?, h]
  rfl

theorem nextElementAt?_of_close {bs rest : Bytes} (h : skipBlanks bs = 0x5D :: rest)
    (index : Nat) : nextElementAt? index bs = none := by
  rw [nextElementAt?, h]
  rfl

theorem valueText?_of_passes {bs rest : Bytes} (h : Passes none bs rest) :
    ∃ v, skipBlanks bs = v ++ rest ∧ valueText? bs = some v := by
  have hskip := passes_skipBlanks.2 h
  obtain ⟨v, -, hv, -⟩ := hskip.local
  refine ⟨v, hv, ?_⟩
  have hlen : (skipBlanks bs).length - rest.length = v.length := by
    rw [hv, List.length_append]
    omega
  rw [valueText?, skipValue?_eq_some_iff.2 hskip, Option.map_some, hlen, hv, List.take_left]

end Tronkit.Json
