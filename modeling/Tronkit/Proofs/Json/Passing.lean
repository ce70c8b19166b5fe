import Tronkit.Proofs.Json.Lexeme
import Tronkit.Proofs.Json.Strings

/-!
# Passing over a value

`Passes` says what it is to pass over one part of a value, with one rule for each kind of part.
`skip?` does so within its fuel, and twice the bytes that are passed over are fuel enough. A part
is passed over in the same way in front of any end, so the text of a value stays a value wherever
it is copied to.
-/

namespace Tronkit.Json

inductive Passes : Option Skipped → Bytes → Bytes → Prop
  | string {bs t c rest : Bytes} (hfront : skipBlanks bs = 0x22 :: t)
      (hcut : content? t = some (c, rest)) : Passes none bs rest
  | null {bs rest : Bytes} (hfront : skipBlanks bs = nullWord ++ rest) : Passes none bs rest
  | true {bs rest : Bytes} (hfront : skipBlanks bs = trueWord ++ rest) : Passes none bs rest
  | false {bs rest : Bytes} (hfront : skipBlanks bs = falseWord ++ rest) : Passes none bs rest
  | numeral {bs rest : Bytes} {n : Numeral} (hcut : numeral? (skipBlanks bs) = some (n, rest)) :
      Passes none bs rest
  | emptyArray {bs t rest : Bytes} (hfront : skipBlanks bs = 0x5B :: t)
      (hclose : skipBlanks t = 0x5D :: rest) : Passes none bs rest
  | array {bs t rest : Bytes} (hfront : skipBlanks bs = 0x5B :: t)
      (helements : Passes (some .element) t rest) : Passes none bs rest
  | emptyObject {bs t rest : Bytes} (hfront : skipBlanks bs = 0x7B :: t)
      (hclose : skipBlanks t = 0x7D :: rest) : Passes none bs rest
  | object {bs t rest : Bytes} (hfront : skipBlanks bs = 0x7B :: t)
      (hmembers : Passes (some .member) t rest) : Passes none bs rest
  | element {bs mid rest : Bytes} (hvalue : Passes none bs mid)
      (hnext : Passes (some .nextElement) mid rest) : Passes (some .element) bs rest
  | moreElements {bs t rest : Bytes} (hfront : skipBlanks bs = 0x2C :: t)
      (helement : Passes (some .element) t rest) : Passes (some .nextElement) bs rest
  | endElements {bs rest : Bytes} (hfront : skipBlanks bs = 0x5D :: rest) :
      Passes (some .nextElement) bs rest
  | member {bs t c u v mid rest : Bytes} (hfront : skipBlanks bs = 0x22 :: t)
      (hcut : content? t = some (c, u)) (hcolon : skipBlanks u = 0x3A :: v)
      (hvalue : Passes none v mid) (hnext : Passes (some .nextMember) mid rest) :
      Passes (some .member) bs rest
  | moreMembers {bs t rest : Bytes} (hfront : skipBlanks bs = 0x2C :: t)
      (hmember : Passes (some .member) t rest) : Passes (some .nextMember) bs rest
  | endMembers {bs rest : Bytes} (hfront : skipBlanks bs = 0x7D :: rest) :
      Passes (some .nextMember) bs rest

/-! ## One value passed over by `skip?` -/

theorem skip?_skipBlanks (fuel : Nat) (st : Option Skipped) (bs : Bytes) :
    skip? fuel st (skipBlanks bs) = skip? fuel st bs := by
  induction fuel generalizing st bs with
  | zero => rfl
  | succ fuel ih =>
    cases st with
    | none => rw [skip?, skip?, skipBlanks_skipBlanks]
    | some s =>
      cases s with
      | element => rw [skip?, skip?, ih]
      | member => rw [skip?, skip?, skipBlanks_skipBlanks]
      | nextElement => rw [skip?, skip?, skipBlanks_skipBlanks]
      | nextMember => rw [skip?, skip?, skipBlanks_skipBlanks]

theorem passes_of_front {fuel : Nat} {bs t rest : Bytes} {b : UInt8}
    (hfront : skipBlanks bs = b :: t)
    (ih : ∀ {st bs rest}, skip? fuel st bs = some rest → Passes st bs rest)
    (h : skip? (fuel + 1) none bs = some rest) : Passes none bs rest := by
  simp only [skip?, hfront] at h
  by_cases hquote : b = 0x22
  · rw [if_pos hquote] at h
    obtain ⟨p, hp, rfl⟩ := Option.map_eq_some_iff.1 h
    exact .string (hquote ▸ hfront) hp
  rw [if_neg hquote] at h
  by_cases hopen : b = 0x5B
  · rw [if_pos hopen] at h
    subst hopen
    split at h
    · rename_i r hclose
      cases h
      exact .emptyArray hfront hclose
    · rw [skip?_skipBlanks] at h
      exact .array hfront (ih h)
  rw [if_neg hopen] at h
  by_cases hbrace : b = 0x7B
  · rw [if_pos hbrace] at h
    subst hbrace
    split at h
    · rename_i r hclose
      cases h
      exact .emptyObject hfront hclose
    · rw [skip?_skipBlanks] at h
      exact .object hfront (ih h)
  rw [if_neg hbrace] at h
  by_cases hnull : b = 0x6E
  · rw [if_pos hnull, after?_eq_some_iff] at h
    exact .null (hfront.trans h)
  rw [if_neg hnull] at h
  by_cases htrue : b = 0x74
  · rw [if_pos htrue, after?_eq_some_iff] at h
    exact .true (hfront.trans h)
  rw [if_neg htrue] at h
  by_cases hfalse : b = 0x66
  · rw [if_pos hfalse, after?_eq_some_iff] at h
    exact .false (hfront.trans h)
  rw [if_neg hfalse] at h
  obtain ⟨p, hp, rfl⟩ := Option.map_eq_some_iff.1 h
  rw [← hfront] at hp
  exact .numeral hp

theorem passes_of_skip? {fuel : Nat} {st : Option Skipped} {bs rest : Bytes}
    (h : skip? fuel st bs = some rest) : Passes st bs rest := by
  induction fuel generalizing st bs rest with
  | zero => cases h
  | succ fuel ih =>
    cases st with
    | none =>
      cases hfront : skipBlanks bs with
      | nil =>
        rw [skip?, hfront] at h
        cases h
      | cons b t => exact passes_of_front hfront ih h
    | some s =>
      cases s with
      | element =>
        rw [skip?] at h
        obtain ⟨mid, hvalue, hnext⟩ := Option.bind_eq_some_iff.1 h
        exact .element (ih hvalue) (ih hnext)
      | nextElement =>
        rw [skip?] at h
        split at h
        · rename_i t hfront
          exact .moreElements hfront (ih h)
        · rename_i t hfront
          cases h
          exact .endElements hfront
        · cases h
      | member =>
        rw [skip?] at h
        split at h
        · rename_i t hfront
          obtain ⟨p, hcut, h⟩ := Option.bind_eq_some_iff.1 h
          split at h
          · rename_i v hcolon
            obtain ⟨mid, hvalue, hnext⟩ := Option.bind_eq_some_iff.1 h
            exact .member hfront hcut hcolon (ih hvalue) (ih hnext)
          · cases h
        · cases h
      | nextMember =>
        rw [skip?] at h
        split at h
        · rename_i t hfront
          exact .moreMembers hfront (ih h)
        · rename_i t hfront
          cases h
          exact .endMembers hfront
        · cases h

/-! ## The bytes that are passed over -/

theorem front_local {bs u rest : Bytes} (hu : u ≠ []) (h : skipBlanks bs = u ++ rest) :
    ∃ v, v ≠ [] ∧ bs = v ++ rest ∧ ∀ rest', skipBlanks (v ++ rest') = u ++ rest' := by
  obtain ⟨w, hw, hskip⟩ := exists_blanks bs
  rw [h] at hw
  refine ⟨w ++ u, by simp [hu], by rw [hw, List.append_assoc], fun rest' => ?_⟩
  obtain ⟨b, t, rfl⟩ := List.exists_cons_of_ne_nil hu
  have hb : Stops isBlank (b :: t ++ rest) := h ▸ stops_skipBlanks bs
  have hb' : Stops isBlank (b :: t ++ rest') := hb
  rw [List.append_assoc, hskip, skipBlanks_of_stops hb']

theorem front_local_cons {bs t : Bytes} {b : UInt8} (h : skipBlanks bs = b :: t) :
    ∃ v, v ≠ [] ∧ bs = v ++ t ∧ ∀ t', skipBlanks (v ++ t') = b :: t' :=
  front_local (u := [b]) (by simp) h

theorem not_continuesNumeral_of_isBlank {b : UInt8} (h : isBlank b = true) :
    continuesNumeral b = false := by
  simp only [isBlank, Bool.or_eq_true, decide_eq_true_eq] at h
  rcases h with ((rfl | rfl) | rfl) | rfl <;> decide

theorem ends_of_skipBlanks {bs t : Bytes} {b : UInt8} (h : skipBlanks bs = b :: t)
    (hb : continuesNumeral b = false) : Ends bs := by
  cases bs with
  | nil => trivial
  | cons c bs =>
    cases hc : isBlank c with
    | true => exact not_continuesNumeral_of_isBlank hc
    | false =>
      have hstop : Stops isBlank (c :: bs) := hc
      rw [skipBlanks_of_stops hstop] at h
      cases h
      exact hb

theorem Passes.ends_nextElement {bs rest : Bytes} (h : Passes (some .nextElement) bs rest) :
    Ends bs := by
  cases h with
  | moreElements hfront helement => exact ends_of_skipBlanks hfront (by decide)
  | endElements hfront => exact ends_of_skipBlanks hfront (by decide)

theorem Passes.ends_nextMember {bs rest : Bytes} (h : Passes (some .nextMember) bs rest) :
    Ends bs := by
  cases h with
  | moreMembers hfront hmember => exact ends_of_skipBlanks hfront (by decide)
  | endMembers hfront => exact ends_of_skipBlanks hfront (by decide)

/-- A part takes some bytes, and it takes the same bytes in front of any end. -/
theorem Passes.local {st : Option Skipped} {bs rest : Bytes} (h : Passes st bs rest) :
    ∃ v, v ≠ [] ∧ bs = v ++ rest ∧ ∀ rest', Ends rest' → Passes st (v ++ rest') rest' := by
  -- Only a numeral asks what stands behind it, and what a part goes on with never continues one.
  induction h with
  | @string bs t c rest hfront hcut =>
    obtain ⟨w, hw, rfl, hskip⟩ := front_local_cons hfront
    obtain ⟨rfl, hcut'⟩ := content?_eq_some hcut
    refine ⟨w ++ (c ++ [0x22]), by simp, by simp, fun rest' _ => ?_⟩
    rw [List.append_assoc, List.append_assoc]
    exact .string (hskip _) (hcut' rest')
  | @null bs rest hfront =>
    obtain ⟨v, hv, hbs, hskip⟩ := front_local (by decide) hfront
    exact ⟨v, hv, hbs, fun rest' _ => .null (hskip rest')⟩
  | @true bs rest hfront =>
    obtain ⟨v, hv, hbs, hskip⟩ := front_local (by decide) hfront
    exact ⟨v, hv, hbs, fun rest' _ => .true (hskip rest')⟩
  | @false bs rest hfront =>
    obtain ⟨v, hv, hbs, hskip⟩ := front_local (by decide) hfront
    exact ⟨v, hv, hbs, fun rest' _ => .false (hskip rest')⟩
  | @numeral bs rest n hcut =>
    obtain ⟨u, hfront, hu, hcut'⟩ := numeral?_eq_some hcut
    obtain ⟨v, hv, hbs, hskip⟩ := front_local hu hfront
    refine ⟨v, hv, hbs, fun rest' hends => .numeral (n := n) ?_⟩
    rw [hskip, hcut' rest' hends]
  | @emptyArray bs t rest hfront hclose =>
    obtain ⟨w, hw, rfl, hskip⟩ := front_local_cons hfront
    obtain ⟨v, -, rfl, hskip'⟩ := front_local_cons hclose
    refine ⟨w ++ v, by simp [hw], by rw [List.append_assoc], fun rest' _ => ?_⟩
    rw [List.append_assoc]
    exact .emptyArray (hskip _) (hskip' rest')
  | @array bs t rest hfront helements ih =>
    obtain ⟨w, hw, rfl, hskip⟩ := front_local_cons hfront
    obtain ⟨v, -, rfl, hlocal⟩ := ih
    refine ⟨w ++ v, by simp [hw], by rw [List.append_assoc], fun rest' hends => ?_⟩
    rw [List.append_assoc]
    exact .array (hskip _) (hlocal rest' hends)
  | @emptyObject bs t rest hfront hclose =>
    obtain ⟨w, hw, rfl, hskip⟩ := front_local_cons hfront
    obtain ⟨v, -, rfl, hskip'⟩ := front_local_cons hclose
    refine ⟨w ++ v, by simp [hw], by rw [List.append_assoc], fun rest' _ => ?_⟩
    rw [List.append_assoc]
    exact .emptyObject (hskip _) (hskip' rest')
  | @object bs t rest hfront hmembers ih =>
    obtain ⟨w, hw, rfl, hskip⟩ := front_local_cons hfront
    obtain ⟨v, -, rfl, hlocal⟩ := ih
    refine ⟨w ++ v, by simp [hw], by rw [List.append_assoc], fun rest' hends => ?_⟩
    rw [List.append_assoc]
    exact .object (hskip _) (hlocal rest' hends)
  | @element bs mid rest hvalue hnext ihvalue ihnext =>
    obtain ⟨v, hv, rfl, hlocal⟩ := ihvalue
    obtain ⟨v', -, rfl, hlocal'⟩ := ihnext
    refine ⟨v ++ v', by simp [hv], by rw [List.append_assoc], fun rest' hends => ?_⟩
    rw [List.append_assoc]
    have hnext' := hlocal' rest' hends
    exact .element (hlocal _ hnext'.ends_nextElement) hnext'
  | @moreElements bs t rest hfront helement ih =>
    obtain ⟨w, hw, rfl, hskip⟩ := front_local_cons hfront
    obtain ⟨v, -, rfl, hlocal⟩ := ih
    refine ⟨w ++ v, by simp [hw], by rw [List.append_assoc], fun rest' hends => ?_⟩
    rw [List.append_assoc]
    exact .moreElements (hskip _) (hlocal rest' hends)
  | @endElements bs rest hfront =>
    obtain ⟨v, hv, hbs, hskip⟩ := front_local_cons hfront
    exact ⟨v, hv, hbs, fun rest' _ => .endElements (hskip rest')⟩
  | @member bs t c u v mid rest hfront hcut hcolon hvalue hnext ihvalue ihnext =>
    obtain ⟨w, hw, rfl, hskip⟩ := front_local_cons hfront
    obtain ⟨rfl, hcut'⟩ := content?_eq_some hcut
    obtain ⟨w', -, rfl, hskip'⟩ := front_local_cons hcolon
    obtain ⟨x, -, rfl, hlocal⟩ := ihvalue
    obtain ⟨y, -, rfl, hlocal'⟩ := ihnext
    refine ⟨w ++ (c ++ 0x22 :: (w' ++ (x ++ y))), by simp [hw], by simp, fun rest' hends => ?_⟩
    have hnext' := hlocal' rest' hends
    have hvalue' := hlocal (y ++ rest') hnext'.ends_nextMember
    simp only [List.append_assoc, List.cons_append]
    exact .member (hskip _) (hcut' _) (hskip' _) hvalue' hnext'
  | @moreMembers bs t rest hfront hmember ih =>
    obtain ⟨w, hw, rfl, hskip⟩ := front_local_cons hfront
    obtain ⟨v, -, rfl, hlocal⟩ := ih
    refine ⟨w ++ v, by simp [hw], by rw [List.append_assoc], fun rest' hends => ?_⟩
    rw [List.append_assoc]
    exact .moreMembers (hskip _) (hlocal rest' hends)
  | @endMembers bs rest hfront =>
    obtain ⟨v, hv, hbs, hskip⟩ := front_local_cons hfront
    exact ⟨v, hv, hbs, fun rest' _ => .endMembers (hskip rest')⟩

theorem Passes.length_lt {st : Option Skipped} {bs rest : Bytes} (h : Passes st bs rest) :
    rest.length < bs.length := by
  obtain ⟨v, hv, rfl, -⟩ := h.local
  have hpos := List.length_pos_iff.2 hv
  rw [List.length_append]
  omega

theorem length_skipBlanks_le (bs : Bytes) : (skipBlanks bs).length ≤ bs.length := by
  obtain ⟨w, hw, -⟩ := exists_blanks bs
  have hlen := congrArg List.length hw
  rw [List.length_append] at hlen
  omega

theorem length_lt_of_skipBlanks {bs t : Bytes} {b : UInt8} (h : skipBlanks bs = b :: t) :
    t.length < bs.length := by
  have hle := length_skipBlanks_le bs
  rw [h, List.length_cons] at hle
  omega

theorem Passes.front_ne {bs rest : Bytes} (h : Passes none bs rest) (t : Bytes) :
    skipBlanks bs ≠ 0x5D :: t := by
  intro hclose
  cases h with
  | string hfront | emptyArray hfront | array hfront | emptyObject hfront | object hfront =>
    rw [hclose] at hfront
    exact absurd (List.cons.inj hfront).1 (by decide)
  | null hfront | true hfront | false hfront =>
    rw [hclose] at hfront
    exact absurd (List.cons.inj hfront).1 (by decide)
  | numeral hcut =>
    obtain ⟨b, u, hb, hhead⟩ := numeral?_head hcut
    rw [hclose] at hb
    cases hb
    rcases hhead with h | h
    · exact absurd h (by decide)
    · exact absurd h (by decide)

theorem Passes.element_front_ne {bs rest : Bytes} (h : Passes (some .element) bs rest) (t : Bytes) :
    skipBlanks bs ≠ 0x5D :: t := by
  cases h with
  | element hvalue hnext => exact hvalue.front_ne t

theorem Passes.member_front_ne {bs rest : Bytes} (h : Passes (some .member) bs rest) (t : Bytes) :
    skipBlanks bs ≠ 0x7D :: t := by
  cases h with
  | member hfront =>
    rw [hfront]
    intro hclose
    exact absurd (List.cons.inj hclose).1 (by decide)

theorem skip?_numeral {fuel : Nat} {bs rest : Bytes} {n : Numeral}
    (hcut : numeral? (skipBlanks bs) = some (n, rest)) : skip? (fuel + 1) none bs = some rest := by
  obtain ⟨b, t, hfront, hhead⟩ := numeral?_head hcut
  have hne : b ≠ 0x22 ∧ b ≠ 0x5B ∧ b ≠ 0x7B ∧ b ≠ 0x6E ∧ b ≠ 0x74 ∧ b ≠ 0x66 := by
    refine ⟨?_, ?_, ?_, ?_, ?_, ?_⟩ <;> rintro rfl <;> revert hhead <;> decide
  rw [hfront] at hcut
  simp only [skip?, hfront, hne, if_false, hcut, Option.map_some]

theorem skip?_array {fuel : Nat} {bs t rest : Bytes} (hfront : skipBlanks bs = 0x5B :: t)
    (helements : Passes (some .element) t rest)
    (hread : skip? fuel (some .element) t = some rest) :
    skip? (fuel + 1) none bs = some rest := by
  rw [← skip?_skipBlanks] at hread
  simp only [skip?, hfront]
  rw [if_neg (by decide), if_pos trivial]
  split
  · rename_i r hclose
    exact absurd hclose (helements.element_front_ne r)
  · exact hread

theorem skip?_object {fuel : Nat} {bs t rest : Bytes} (hfront : skipBlanks bs = 0x7B :: t)
    (hmembers : Passes (some .member) t rest)
    (hread : skip? fuel (some .member) t = some rest) :
    skip? (fuel + 1) none bs = some rest := by
  rw [← skip?_skipBlanks] at hread
  simp only [skip?, hfront]
  rw [if_neg (by decide), if_neg (by decide), if_pos trivial]
  split
  · rename_i r hclose
    exact absurd hclose (hmembers.member_front_ne r)
  · exact hread

theorem Passes.exists_fuel {st : Option Skipped} {bs rest : Bytes} (h : Passes st bs rest)
    {fuel : Nat} (hfuel : 2 * (bs.length - rest.length) ≤ fuel) : ∃ k, fuel = k + 1 := by
  have hlt := h.length_lt
  exact ⟨fuel - 1, by omega⟩

theorem Passes.skip? {st : Option Skipped} {bs rest : Bytes} (h : Passes st bs rest) :
    ∀ fuel, 2 * (bs.length - rest.length) ≤ fuel → skip? fuel st bs = some rest := by
  -- Each rule takes a byte at least; two steps for a byte pay for a value and for the step to it.
  induction h with
  | @string bs t c rest hfront hcut =>
    intro fuel hfuel
    obtain ⟨k, rfl⟩ := (Passes.string hfront hcut).exists_fuel hfuel
    simp only [Json.skip?, hfront, if_pos, hcut, Option.map_some]
  | @null bs rest hfront =>
    intro fuel hfuel
    obtain ⟨k, rfl⟩ := (Passes.null hfront).exists_fuel hfuel
    simp only [Json.skip?, hfront]
    exact after?_append nullWord rest
  | @true bs rest hfront =>
    intro fuel hfuel
    obtain ⟨k, rfl⟩ := (Passes.true hfront).exists_fuel hfuel
    simp only [Json.skip?, hfront]
    exact after?_append trueWord rest
  | @false bs rest hfront =>
    intro fuel hfuel
    obtain ⟨k, rfl⟩ := (Passes.false hfront).exists_fuel hfuel
    simp only [Json.skip?, hfront]
    exact after?_append falseWord rest
  | @numeral bs rest n hcut =>
    intro fuel hfuel
    obtain ⟨k, rfl⟩ := (Passes.numeral hcut).exists_fuel hfuel
    exact skip?_numeral hcut
  | @emptyArray bs t rest hfront hclose =>
    intro fuel hfuel
    obtain ⟨k, rfl⟩ := (Passes.emptyArray hfront hclose).exists_fuel hfuel
    simp only [Json.skip?, hfront, hclose]
    rfl
  | @array bs t rest hfront helements ih =>
    intro fuel hfuel
    obtain ⟨k, rfl⟩ := (Passes.array hfront helements).exists_fuel hfuel
    have hlt := length_lt_of_skipBlanks hfront
    have hlt' := helements.length_lt
    exact skip?_array hfront helements (ih k (by omega))
  | @emptyObject bs t rest hfront hclose =>
    intro fuel hfuel
    obtain ⟨k, rfl⟩ := (Passes.emptyObject hfront hclose).exists_fuel hfuel
    simp only [Json.skip?, hfront, hclose]
    rfl
  | @object bs t rest hfront hmembers ih =>
    intro fuel hfuel
    obtain ⟨k, rfl⟩ := (Passes.object hfront hmembers).exists_fuel hfuel
    have hlt := length_lt_of_skipBlanks hfront
    have hlt' := hmembers.length_lt
    exact skip?_object hfront hmembers (ih k (by omega))
  | @element bs mid rest hvalue hnext ihvalue ihnext =>
    intro fuel hfuel
    obtain ⟨k, rfl⟩ := (Passes.element hvalue hnext).exists_fuel hfuel
    have hlt := hvalue.length_lt
    have hlt' := hnext.length_lt
    rw [Json.skip?, ihvalue k (by omega), Option.bind_some, ihnext k (by omega)]
  | @moreElements bs t rest hfront helement ih =>
    intro fuel hfuel
    obtain ⟨k, rfl⟩ := (Passes.moreElements hfront helement).exists_fuel hfuel
    have hlt := length_lt_of_skipBlanks hfront
    have hlt' := helement.length_lt
    simp only [Json.skip?, hfront]
    exact ih k (by omega)
  | @endElements bs rest hfront =>
    intro fuel hfuel
    obtain ⟨k, rfl⟩ := (Passes.endElements hfront).exists_fuel hfuel
    simp only [Json.skip?, hfront]
  | @member bs t c u v mid rest hfront hcut hcolon hvalue hnext ihvalue ihnext =>
    intro fuel hfuel
    obtain ⟨k, rfl⟩ := (Passes.member hfront hcut hcolon hvalue hnext).exists_fuel hfuel
    have hlt := length_lt_of_skipBlanks hfront
    have hlt' := length_lt_of_skipBlanks hcolon
    have hcutlen : u.length < t.length := by
      rw [(content?_eq_some hcut).1, List.length_append, List.length_cons]
      omega
    have hvaluelen := hvalue.length_lt
    have hnextlen := hnext.length_lt
    have hread := ihvalue k (by omega)
    have hread' := ihnext k (by omega)
    simp only [Json.skip?, hfront, hcut, Option.bind_some, hcolon, hread, hread']
  | @moreMembers bs t rest hfront hmember ih =>
    intro fuel hfuel
    obtain ⟨k, rfl⟩ := (Passes.moreMembers hfront hmember).exists_fuel hfuel
    have hlt := length_lt_of_skipBlanks hfront
    have hlt' := hmember.length_lt
    simp only [Json.skip?, hfront]
    exact ih k (by omega)
  | @endMembers bs rest hfront =>
    intro fuel hfuel
    obtain ⟨k, rfl⟩ := (Passes.endMembers hfront).exists_fuel hfuel
    simp only [Json.skip?, hfront]

theorem skipValue?_eq_some_iff {bs rest : Bytes} :
    skipValue? bs = some rest ↔ Passes none bs rest := by
  constructor
  · exact passes_of_skip?
  · intro h
    exact h.skip? _ (by omega)

theorem passes_skipBlanks {st : Option Skipped} {bs rest : Bytes} :
    Passes st (skipBlanks bs) rest ↔ Passes st bs rest := by
  constructor
  · intro h
    have hskip := h.skip? _ (Nat.le_refl _)
    rw [skip?_skipBlanks] at hskip
    exact passes_of_skip? hskip
  · intro h
    have hskip := h.skip? _ (Nat.le_refl _)
    rw [← skip?_skipBlanks] at hskip
    exact passes_of_skip? hskip

end Tronkit.Json
