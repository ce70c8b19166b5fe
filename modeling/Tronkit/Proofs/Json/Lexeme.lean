import Tronkit.Json.Lexeme

/-!
# Where lexemes end

A lexeme takes bytes from the front of a text and does not look at what follows, with one
exception: a numeral ends where no further byte can continue it. So a lexeme that was cut from one
text is cut in the same way from any other text that begins with it and goes on with a byte that
`Ends` allows.
-/

namespace Tronkit.Json

def Stops (p : UInt8 → Bool) : Bytes → Prop
  | [] => True
  | b :: _ => p b = false

theorem Stops.append {p : UInt8 → Bool} {u rest rest' : Bytes} (h : Stops p (u ++ rest))
    (h' : Stops p rest') : Stops p (u ++ rest') := by
  cases u with
  | nil => exact h'
  | cons b u => exact h

theorem Stops.mono {p q : UInt8 → Bool} {bs : Bytes} (h : Stops q bs)
    (hpq : ∀ b, p b = true → q b = true) : Stops p bs := by
  cases bs with
  | nil => trivial
  | cons b bs =>
    cases hp : p b with
    | false => exact hp
    | true =>
      have hq : q b = false := h
      rw [hpq b hp] at hq
      cases hq

/-! ## Blanks and words -/

theorem isBlank_of_mem_takeWhile (bs : Bytes) : ∀ b ∈ bs.takeWhile isBlank, isBlank b = true := by
  induction bs with
  | nil => simp
  | cons c bs ih =>
    intro b hb
    rw [List.takeWhile_cons] at hb
    split at hb
    · rename_i hc
      rcases List.mem_cons.1 hb with rfl | hb
      · exact hc
      · exact ih b hb
    · cases hb

theorem skipBlanks_of_blanks {w : Bytes} (hw : ∀ b ∈ w, isBlank b = true) (bs : Bytes) :
    skipBlanks (w ++ bs) = skipBlanks bs := by
  induction w with
  | nil => rfl
  | cons b w ih =>
    have hb := hw b (by simp)
    rw [List.cons_append, skipBlanks, List.dropWhile_cons, if_pos hb]
    exact ih fun c hc => hw c (by simp [hc])

theorem skipBlanks_of_stops {bs : Bytes} (h : Stops isBlank bs) : skipBlanks bs = bs := by
  cases bs with
  | nil => rfl
  | cons b bs =>
    have hb : isBlank b = false := h
    rw [skipBlanks, List.dropWhile_cons, hb, if_neg Bool.false_ne_true]

theorem skipBlanks_cons {b : UInt8} (h : isBlank b = false) (bs : Bytes) :
    skipBlanks (b :: bs) = b :: bs := skipBlanks_of_stops h

theorem stops_skipBlanks (bs : Bytes) : Stops isBlank (skipBlanks bs) := by
  induction bs with
  | nil => trivial
  | cons b bs ih =>
    rw [skipBlanks, List.dropWhile_cons]
    split
    · exact ih
    · rename_i hb
      exact Bool.eq_false_iff.2 hb

@[simp] theorem skipBlanks_skipBlanks (bs : Bytes) : skipBlanks (skipBlanks bs) = skipBlanks bs :=
  skipBlanks_of_stops (stops_skipBlanks bs)

theorem exists_blanks (bs : Bytes) :
    ∃ w, bs = w ++ skipBlanks bs ∧ ∀ rest, skipBlanks (w ++ rest) = skipBlanks rest :=
  ⟨bs.takeWhile isBlank, List.takeWhile_append_dropWhile.symm,
    skipBlanks_of_blanks (isBlank_of_mem_takeWhile bs)⟩

theorem after?_eq_some_iff {w bs rest : Bytes} : after? w bs = some rest ↔ bs = w ++ rest := by
  constructor
  · intro h
    induction w generalizing bs with
    | nil =>
      cases h
      rfl
    | cons c w ih =>
      cases bs with
      | nil => cases h
      | cons b bs =>
        rw [after?] at h
        split at h
        · rename_i hcb
          rw [hcb, ih h, List.cons_append]
        · cases h
  · rintro rfl
    exact after?_append w rest

/-! ## Numerals -/

def isDigit (b : UInt8) : Bool := (digit? b).isSome

def isExponentMark (b : UInt8) : Bool := b = 0x65 || b = 0x45

def continuesNumeral (b : UInt8) : Bool := isDigit b || b = 0x2E || isExponentMark b

def Ends (bs : Bytes) : Prop := Stops continuesNumeral bs

theorem Ends.digit {bs : Bytes} (h : Ends bs) : Stops isDigit bs :=
  h.mono fun b hb => by simp [continuesNumeral, hb]

theorem Ends.point {bs : Bytes} (h : Ends bs) : Stops (· = 0x2E) bs :=
  h.mono fun b hb => by simp [continuesNumeral, of_decide_eq_true hb]

theorem Ends.exponentMark {bs : Bytes} (h : Ends bs) : Stops isExponentMark bs :=
  h.mono fun b hb => by simp [continuesNumeral, hb]

theorem digitRun_of_stops {bs : Bytes} (h : Stops isDigit bs) : digitRun bs = ([], bs) := by
  cases bs with
  | nil => rfl
  | cons b bs =>
    have hb : digit? b = none := Option.isSome_eq_false_iff.1 h |> Option.isNone_iff_eq_none.1
    rw [digitRun, hb]

theorem digitRun_cons {b : UInt8} {d : Nat} (hb : digit? b = some d) (bs : Bytes) :
    digitRun (b :: bs) = (d :: (digitRun bs).1, (digitRun bs).2) := by
  rw [digitRun, hb]

theorem digitRun_eq {bs rest : Bytes} {ds : List Nat} (h : digitRun bs = (ds, rest)) :
    ∃ u, bs = u ++ rest ∧ (ds ≠ [] → u ≠ []) ∧ Stops isDigit rest ∧
      ∀ rest', Stops isDigit rest' → digitRun (u ++ rest') = (ds, rest') := by
  induction bs generalizing ds with
  | nil =>
    cases h
    exact ⟨[], rfl, fun hnil => absurd rfl hnil, trivial, fun rest' => digitRun_of_stops⟩
  | cons b bs ih =>
    cases hb : digit? b with
    | none =>
      have hstop : Stops isDigit (b :: bs) := by simp [Stops, isDigit, hb]
      rw [digitRun_of_stops hstop] at h
      cases h
      exact ⟨[], rfl, fun hnil => absurd rfl hnil, hstop, fun rest' => digitRun_of_stops⟩
    | some d =>
      rw [digitRun_cons hb] at h
      cases h
      obtain ⟨u, hu, -, hstop, hread⟩ := ih rfl
      refine ⟨b :: u, by rw [List.cons_append, ← hu], by simp, hstop, ?_⟩
      intro rest' hrest'
      rw [List.cons_append, digitRun_cons hb, hread rest' hrest']

theorem wholePart?_eq_some {bs rest : Bytes} {ds : List Nat} (h : wholePart? bs = some (ds, rest)) :
    digitRun bs = (ds, rest) ∧ ds ≠ [] ∧
      ∀ bs' rest', digitRun bs' = (ds, rest') → wholePart? bs' = some (ds, rest') := by
  obtain ⟨es, tail, hrun⟩ : ∃ es tail, digitRun bs = (es, tail) := ⟨_, _, rfl⟩
  rw [wholePart?, hrun] at h
  split at h
  · cases h
  · cases h
  · rename_i run hnil hzero
    cases h
    refine ⟨hrun, fun hds => hnil rest (by rw [hds]), fun bs' rest' hrun' => ?_⟩
    rw [wholePart?, hrun']
    split
    · rename_i hds
      cases hds
      exact absurd rfl (hnil rest)
    · rename_i hds
      cases hds
      exact absurd rfl (hzero _ _ rest)
    · rfl

theorem someDigits?_eq_some {bs rest : Bytes} {ds : List Nat}
    (h : someDigits? bs = some (ds, rest)) :
    digitRun bs = (ds, rest) ∧ ds ≠ [] ∧
      ∀ bs' rest', digitRun bs' = (ds, rest') → someDigits? bs' = some (ds, rest') := by
  obtain ⟨es, tail, hrun⟩ : ∃ es tail, digitRun bs = (es, tail) := ⟨_, _, rfl⟩
  rw [someDigits?, hrun] at h
  split at h
  · cases h
  · rename_i run hnil
    cases h
    refine ⟨hrun, fun hds => hnil rest (by rw [hds]), fun bs' rest' hrun' => ?_⟩
    rw [someDigits?, hrun']
    split
    · rename_i hds
      cases hds
      exact absurd rfl (hnil rest)
    · rfl

theorem fractionPart?_of_stops {bs : Bytes} (h : Stops (· = 0x2E) bs) :
    fractionPart? bs = some (none, bs) := by
  unfold fractionPart?
  split
  · cases h
  · rfl

theorem fractionPart?_eq_some {bs rest : Bytes} {fraction : Option (List Nat)}
    (h : fractionPart? bs = some (fraction, rest)) :
    ∃ u p, bs = u ++ rest ∧ (∀ b, p b = true → continuesNumeral b = true) ∧ Stops p rest ∧
      ∀ rest', Stops p rest' → fractionPart? (u ++ rest') = some (fraction, rest') := by
  unfold fractionPart? at h
  split at h
  · rename_i tail
    obtain ⟨p, hp, hf⟩ := Option.map_eq_some_iff.1 h
    obtain ⟨ds, rest⟩ := p
    cases hf
    obtain ⟨hrun, -, hsame⟩ := someDigits?_eq_some hp
    obtain ⟨u, hu, -, hstop, hread⟩ := digitRun_eq hrun
    refine ⟨0x2E :: u, isDigit, by rw [hu]; rfl, fun b hb => by simp [continuesNumeral, hb], hstop,
      fun rest' hrest' => ?_⟩
    rw [List.cons_append, fractionPart?, hsame _ _ (hread rest' hrest')]
    rfl
  · rename_i hpoint
    cases h
    refine ⟨[], (· = 0x2E), rfl, fun b hb => ?_, ?_, fun rest' => fractionPart?_of_stops⟩
    · simp [continuesNumeral, of_decide_eq_true hb]
    · cases bs with
      | nil => trivial
      | cons b bs =>
        refine decide_eq_false fun hb => ?_
        exact hpoint bs (by rw [hb])

theorem exponentPart?_of_stops {bs : Bytes} (h : Stops isExponentMark bs) :
    exponentPart? bs = some (none, bs) := by
  cases bs with
  | nil => rfl
  | cons b bs =>
    have hb : (b = 0x65 || b = 0x45) = false := h
    rw [exponentPart?, hb, if_neg Bool.false_ne_true]

theorem exponentPart?_of_mark {b : UInt8} (hb : isExponentMark b = true) (bs : Bytes) :
    exponentPart? (b :: bs) = (someDigits? (exponentSign bs).2).map fun p =>
      (some ((exponentSign bs).1, p.1), p.2) := by
  have hmark : (b = 0x65 || b = 0x45) = true := hb
  rw [exponentPart?, if_pos hmark]

theorem exponentSign_cons {b : UInt8} (hminus : b ≠ 0x2D) (hplus : b ≠ 0x2B) (bs : Bytes) :
    exponentSign (b :: bs) = (false, b :: bs) := by
  unfold exponentSign
  split
  · rename_i h
    cases h
    exact absurd rfl hminus
  · rename_i h
    cases h
    exact absurd rfl hplus
  · rfl

theorem sign_cons {b : UInt8} (hminus : b ≠ 0x2D) (bs : Bytes) :
    sign (b :: bs) = (false, b :: bs) := by
  unfold sign
  split
  · rename_i h
    cases h
    exact absurd rfl hminus
  · rfl

theorem exponentDigits {bs rest : Bytes} {ds : List Nat}
    (h : someDigits? (exponentSign bs).2 = some (ds, rest)) :
    ∃ u, bs = u ++ rest ∧ ∀ rest', Stops isDigit rest' →
      (exponentSign (u ++ rest')).1 = (exponentSign bs).1 ∧
        someDigits? (exponentSign (u ++ rest')).2 = some (ds, rest') := by
  obtain ⟨hrun, hne, hsame⟩ := someDigits?_eq_some h
  obtain ⟨u, hu, hpos, -, hread⟩ := digitRun_eq hrun
  by_cases hminus : ∃ t, bs = 0x2D :: t
  · obtain ⟨t, rfl⟩ := hminus
    have ht : t = u ++ rest := hu
    exact ⟨0x2D :: u, by rw [ht]; rfl, fun rest' hrest' => ⟨rfl, hsame _ _ (hread rest' hrest')⟩⟩
  by_cases hplus : ∃ t, bs = 0x2B :: t
  · obtain ⟨t, rfl⟩ := hplus
    have ht : t = u ++ rest := hu
    exact ⟨0x2B :: u, by rw [ht]; rfl, fun rest' hrest' => ⟨rfl, hsame _ _ (hread rest' hrest')⟩⟩
  -- The digits come first, so no sign can stand in their place.
  cases bs with
  | nil =>
    cases h
  | cons b t =>
    have hb : exponentSign (b :: t) = (false, b :: t) :=
      exponentSign_cons (fun e => hminus ⟨t, by rw [e]⟩) (fun e => hplus ⟨t, by rw [e]⟩) t
    rw [hb] at hu
    refine ⟨u, hu, fun rest' hrest' => ?_⟩
    obtain ⟨c, u', rfl⟩ := List.exists_cons_of_ne_nil (hpos hne)
    cases hu
    have hc : exponentSign (b :: (u' ++ rest')) = (false, b :: (u' ++ rest')) :=
      exponentSign_cons (fun e => hminus ⟨_, by rw [e]⟩) (fun e => hplus ⟨_, by rw [e]⟩) _
    rw [List.cons_append, hc, hb]
    exact ⟨rfl, hsame _ _ (hread rest' hrest')⟩

theorem exponentPart?_eq_some {bs rest : Bytes} {exponent : Option (Bool × List Nat)}
    (h : exponentPart? bs = some (exponent, rest)) :
    ∃ u, bs = u ++ rest ∧
      ∀ rest', Ends rest' → exponentPart? (u ++ rest') = some (exponent, rest') := by
  cases bs with
  | nil =>
    cases h
    exact ⟨[], rfl, fun rest' hrest' => exponentPart?_of_stops hrest'.exponentMark⟩
  | cons b bs =>
    cases hb : isExponentMark b with
    | false =>
      have hstop : Stops isExponentMark (b :: bs) := hb
      rw [exponentPart?_of_stops hstop] at h
      cases h
      exact ⟨[], rfl, fun rest' hrest' => exponentPart?_of_stops hrest'.exponentMark⟩
    | true =>
      rw [exponentPart?_of_mark hb] at h
      obtain ⟨p, hp, he⟩ := Option.map_eq_some_iff.1 h
      obtain ⟨ds, rest⟩ := p
      cases he
      obtain ⟨u, hu, hread⟩ := exponentDigits hp
      refine ⟨b :: u, by rw [hu]; rfl, fun rest' hrest' => ?_⟩
      obtain ⟨hsign, hdigits⟩ := hread rest' hrest'.digit
      rw [List.cons_append, exponentPart?_of_mark hb, hsign, hdigits]
      rfl

theorem wholeDigits {bs rest : Bytes} {ds : List Nat}
    (h : wholePart? (sign bs).2 = some (ds, rest)) :
    ∃ u, bs = u ++ rest ∧ u ≠ [] ∧ Stops isDigit rest ∧ ∀ rest', Stops isDigit rest' →
      (sign (u ++ rest')).1 = (sign bs).1 ∧
        wholePart? (sign (u ++ rest')).2 = some (ds, rest') := by
  obtain ⟨hrun, hne, hsame⟩ := wholePart?_eq_some h
  obtain ⟨u, hu, hpos, hstop, hread⟩ := digitRun_eq hrun
  by_cases hminus : ∃ t, bs = 0x2D :: t
  · obtain ⟨t, rfl⟩ := hminus
    have ht : t = u ++ rest := hu
    exact ⟨0x2D :: u, by rw [ht]; rfl, by simp, hstop,
      fun rest' hrest' => ⟨rfl, hsame _ _ (hread rest' hrest')⟩⟩
  cases bs with
  | nil => cases h
  | cons b t =>
    have hb : sign (b :: t) = (false, b :: t) := sign_cons (fun e => hminus ⟨t, by rw [e]⟩) t
    rw [hb] at hu
    refine ⟨u, hu, hpos hne, hstop, fun rest' hrest' => ?_⟩
    obtain ⟨c, u', rfl⟩ := List.exists_cons_of_ne_nil (hpos hne)
    cases hu
    have hc : sign (b :: (u' ++ rest')) = (false, b :: (u' ++ rest')) :=
      sign_cons (fun e => hminus ⟨_, by rw [e]⟩) _
    rw [List.cons_append, hc, hb]
    exact ⟨rfl, hsame _ _ (hread rest' hrest')⟩

theorem numeral?_eq_some_iff {bs rest : Bytes} {n : Numeral} :
    numeral? bs = some (n, rest) ↔
      ∃ afterWhole afterFraction, wholePart? (sign bs).2 = some (n.whole, afterWhole) ∧
        fractionPart? afterWhole = some (n.fraction, afterFraction) ∧
        exponentPart? afterFraction = some (n.exponent, rest) ∧ (sign bs).1 = n.negative := by
  obtain ⟨negative, whole, fraction, exponent⟩ := n
  simp only [numeral?, Option.bind_eq_bind, Option.bind_eq_some_iff, Prod.exists, Option.pure_def,
    Option.some.injEq, Prod.mk.injEq, Numeral.mk.injEq]
  constructor
  · rintro ⟨w, t, hw, f, t', hf, e, t'', he, ⟨hs, rfl, rfl, rfl⟩, rfl⟩
    exact ⟨t, t', hw, hf, he, hs⟩
  · rintro ⟨t, t', hw, hf, he, hs⟩
    exact ⟨whole, t, hw, fraction, t', hf, exponent, rest, he, ⟨hs, rfl, rfl, rfl⟩, rfl⟩

theorem numeral?_eq_some {bs rest : Bytes} {n : Numeral} (h : numeral? bs = some (n, rest)) :
    ∃ u, bs = u ++ rest ∧ u ≠ [] ∧
      ∀ rest', Ends rest' → numeral? (u ++ rest') = some (n, rest') := by
  obtain ⟨t, t', hw, hf, he, hs⟩ := numeral?_eq_some_iff.1 h
  obtain ⟨u, rfl, hu, hdigit, hreadw⟩ := wholeDigits hw
  obtain ⟨v, p, rfl, hp, hstop, hreadf⟩ := fractionPart?_eq_some hf
  obtain ⟨w, rfl, hreade⟩ := exponentPart?_eq_some he
  refine ⟨u ++ (v ++ w), by rw [List.append_assoc, List.append_assoc], by simp [hu], ?_⟩
  intro rest' hends
  have hdigit' : Stops isDigit (v ++ (w ++ rest')) := by
    rw [← List.append_assoc] at hdigit ⊢
    exact hdigit.append hends.digit
  have hstop' : Stops p (w ++ rest') := hstop.append (hends.mono hp)
  obtain ⟨hs', hw'⟩ := hreadw (v ++ (w ++ rest')) hdigit'
  rw [List.append_assoc, List.append_assoc, numeral?_eq_some_iff]
  exact ⟨_, _, hw', hreadf _ hstop', hreade rest' hends, hs'.trans hs⟩

theorem numeral?_head {bs rest : Bytes} {n : Numeral} (h : numeral? bs = some (n, rest)) :
    ∃ b t, bs = b :: t ∧ (b = 0x2D ∨ isDigit b = true) := by
  obtain ⟨t, t', hw, -, -, -⟩ := numeral?_eq_some_iff.1 h
  obtain ⟨hrun, hne, -⟩ := wholePart?_eq_some hw
  cases bs with
  | nil => exact absurd (congrArg Prod.fst hrun).symm hne
  | cons b bs =>
    refine ⟨b, bs, rfl, ?_⟩
    by_cases hminus : b = 0x2D
    · exact .inl hminus
    · rw [sign_cons hminus] at hrun
      refine .inr ?_
      cases hb : isDigit b with
      | true => rfl
      | false =>
        have hstop : Stops isDigit (b :: bs) := hb
        rw [digitRun_of_stops hstop] at hrun
        exact absurd (congrArg Prod.fst hrun).symm hne

end Tronkit.Json
