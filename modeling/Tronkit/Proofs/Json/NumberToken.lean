import Tronkit.Proofs.Json.Natural

/-!
# The grammar of numbers

A number has digits without a needless zero in front. A minus sign may lead, and a fraction and an
exponent may follow. In front of any end, the number as a whole is one numeral with these parts, so
its text is kept as it is.
-/

namespace Tronkit.Json

structure DigitRun where
  digits : List Nat
  ne_nil : digits ≠ []
  lt_ten : ∀ d ∈ digits, d < 10

structure ExponentPart where
  mark : Char
  sign : List Char
  power : DigitRun
  mark_mem : mark ∈ ['e', 'E']
  sign_mem : sign ∈ [[], ['+'], ['-']]

structure NumberToken where
  negative : Bool
  whole : DigitRun
  fraction : Option DigitRun
  exponent : Option ExponentPart
  plain : ∀ ds, whole.digits = 0 :: ds → ds = []

def DigitRun.text (r : DigitRun) : List Char := r.digits.map Nat.digitChar

def fractionText : Option DigitRun → List Char
  | none => []
  | some r => '.' :: r.text

def exponentText : Option ExponentPart → List Char
  | none => []
  | some e => e.mark :: (e.sign ++ e.power.text)

namespace NumberToken

def magnitude (t : NumberToken) : List Char :=
  t.whole.text ++ (fractionText t.fraction ++ exponentText t.exponent)

def text (t : NumberToken) : List Char :=
  if t.negative then '-' :: t.magnitude else t.magnitude

end NumberToken

/-! ## Parts -/

variable {rest : Bytes}

theorem DigitRun.digitRun (r : DigitRun) (h : Stops isDigit rest) :
    digitRun (Utf8.encode r.text ++ rest) = (r.digits, rest) := digitRun_map r.lt_ten h

theorem DigitRun.someDigits? (r : DigitRun) (h : Stops isDigit rest) :
    someDigits? (Utf8.encode r.text ++ rest) = some (r.digits, rest) := by
  rw [Json.someDigits?, r.digitRun h]
  split
  · rename_i hnil
    exact absurd (congrArg Prod.fst hnil) r.ne_nil
  · rfl

theorem DigitRun.encode_cons (r : DigitRun) :
    ∃ d < 10, ∃ bs, Utf8.encode r.text = UInt8.ofNat (Nat.digitChar d).toNat :: bs := by
  obtain ⟨d, ds, hds⟩ := List.exists_cons_of_ne_nil r.ne_nil
  have hd : d < 10 := r.lt_ten d (by rw [hds]; exact List.mem_cons_self)
  refine ⟨d, hd, Utf8.encode (ds.map Nat.digitChar), ?_⟩
  rw [DigitRun.text, hds, List.map_cons, Utf8.encode_cons, (digit?_digitChar d hd).1,
    List.singleton_append]

theorem encode_mark {c : Char} (h : c ∈ ['e', 'E']) :
    ∃ b, Utf8.encodeChar c = [b] ∧ isExponentMark b = true ∧ isDigit b = false ∧ b ≠ 0x2E := by
  simp only [List.mem_cons, List.not_mem_nil, or_false] at h
  obtain rfl | rfl := h
  · exact ⟨0x65, by decide⟩
  · exact ⟨0x45, by decide⟩

theorem stops_exponentText {p : UInt8 → Bool} (hp : ∀ b, p b = true → isDigit b = true ∨ b = 0x2E)
    (e : Option ExponentPart) (hends : Ends rest) :
    Stops p (Utf8.encode (exponentText e) ++ rest) := by
  cases e with
  | none =>
    refine hends.mono fun b hb => ?_
    rcases hp b hb with h | rfl
    · simp [continuesNumeral, h]
    · decide
  | some e =>
    obtain ⟨b, hb, -, hdigit, hpoint⟩ := encode_mark e.mark_mem
    rw [exponentText, Utf8.encode_cons, hb]
    refine Bool.eq_false_iff.2 fun hpb => ?_
    rcases hp b hpb with h | h
    · rw [hdigit] at h
      cases h
    · exact hpoint h

theorem stops_fractionText (f : Option DigitRun) (h : Stops isDigit rest) :
    Stops isDigit (Utf8.encode (fractionText f) ++ rest) := by
  cases f with
  | none => exact h
  | some r =>
    have hpoint : Utf8.encodeChar '.' = [0x2E] := by decide
    rw [fractionText, Utf8.encode_cons, hpoint]
    exact show isDigit 0x2E = false by decide

theorem fractionPart?_fractionText (f : Option DigitRun) (hdigit : Stops isDigit rest)
    (hpoint : Stops (· = 0x2E) rest) :
    fractionPart? (Utf8.encode (fractionText f) ++ rest) = some (f.map DigitRun.digits, rest) := by
  cases f with
  | none => exact fractionPart?_of_stops hpoint
  | some r =>
    have hbyte : Utf8.encodeChar '.' = [0x2E] := by decide
    rw [fractionText, Utf8.encode_cons, hbyte, List.append_assoc, List.singleton_append,
      fractionPart?, r.someDigits? hdigit]
    rfl

def ExponentPart.parts (e : ExponentPart) : Bool × List Nat := (e.sign = ['-'], e.power.digits)

theorem exponentSign_sign (e : ExponentPart) (rest : Bytes) :
    exponentSign (Utf8.encode (e.sign ++ e.power.text) ++ rest) =
      (decide (e.sign = ['-']), Utf8.encode e.power.text ++ rest) := by
  have hsign := e.sign_mem
  simp only [List.mem_cons, List.not_mem_nil, or_false] at hsign
  obtain h | h | h := hsign
  · obtain ⟨d, hd, bs, hbytes⟩ := e.power.encode_cons
    have table : ∀ d < 10, UInt8.ofNat (Nat.digitChar d).toNat ≠ 0x2D ∧
        UInt8.ofNat (Nat.digitChar d).toNat ≠ 0x2B := by decide
    rw [h, List.nil_append, hbytes]
    exact exponentSign_cons (table d hd).1 (table d hd).2 _
  · rw [h]
    rfl
  · rw [h]
    rfl

theorem exponentPart?_exponentText (e : Option ExponentPart) (hends : Ends rest) :
    exponentPart? (Utf8.encode (exponentText e) ++ rest) =
      some (e.map ExponentPart.parts, rest) := by
  cases e with
  | none => exact exponentPart?_of_stops hends.exponentMark
  | some e =>
    obtain ⟨b, hb, hmark, -, -⟩ := encode_mark e.mark_mem
    rw [exponentText, Utf8.encode_cons, hb, List.append_assoc, List.singleton_append,
      exponentPart?_of_mark hmark, exponentSign_sign, e.power.someDigits? hends.digit]
    rfl

/-! ## Characters -/

def numberChars : List Char := "0123456789-+.eE".toList

theorem DigitRun.text_subset (r : DigitRun) : r.text ⊆ numberChars := by
  have table : ∀ d < 10, Nat.digitChar d ∈ numberChars := by decide
  intro c hc
  obtain ⟨d, hd, rfl⟩ := List.mem_map.1 hc
  exact table d (r.lt_ten d hd)

theorem fractionText_subset (f : Option DigitRun) : fractionText f ⊆ numberChars := by
  cases f with
  | none => exact List.nil_subset _
  | some r => exact List.cons_subset.2 ⟨by decide, r.text_subset⟩

theorem exponentText_subset (e : Option ExponentPart) : exponentText e ⊆ numberChars := by
  cases e with
  | none => exact List.nil_subset _
  | some e =>
    have hmark : ['e', 'E'] ⊆ numberChars := by decide
    have hsign : ∀ s ∈ [[], ['+'], ['-']], s ⊆ numberChars := by decide
    exact List.cons_subset.2 ⟨hmark e.mark_mem,
      List.append_subset.2 ⟨hsign _ e.sign_mem, e.power.text_subset⟩⟩

/-! ## Numbers -/

namespace NumberToken

variable (t : NumberToken)

def numeral : Numeral :=
  ⟨t.negative, t.whole.digits, t.fraction.map DigitRun.digits, t.exponent.map ExponentPart.parts⟩

theorem encode_magnitude :
    Utf8.encode t.magnitude ++ rest = Utf8.encode t.whole.text ++
      (Utf8.encode (fractionText t.fraction) ++
        (Utf8.encode (exponentText t.exponent) ++ rest)) := by
  simp only [magnitude, Utf8.encode_append, List.append_assoc]

theorem sign_text (rest : Bytes) :
    sign (Utf8.encode t.text ++ rest) = (t.negative, Utf8.encode t.magnitude ++ rest) := by
  unfold text
  cases t.negative with
  | true => rfl
  | false =>
    obtain ⟨d, hd, bs, hbytes⟩ := t.whole.encode_cons
    rw [if_neg Bool.false_ne_true, encode_magnitude, hbytes]
    exact sign_cons (digitChar_plain d hd).1 _

theorem wholePart?_whole (h : Stops isDigit rest) :
    wholePart? (Utf8.encode t.whole.text ++ rest) = some (t.whole.digits, rest) := by
  rw [wholePart?, t.whole.digitRun h]
  split
  · rename_i hnil
    exact absurd (congrArg Prod.fst hnil) t.whole.ne_nil
  · rename_i hzero
    cases t.plain _ (congrArg Prod.fst hzero)
  · rfl

theorem numeral?_text (hends : Ends rest) :
    numeral? (Utf8.encode t.text ++ rest) = some (t.numeral, rest) := by
  have hdigit := stops_exponentText (p := isDigit) (fun _ => .inl) t.exponent hends
  have hpoint := stops_exponentText (p := (· = 0x2E)) (fun _ h => .inr (of_decide_eq_true h))
    t.exponent hends
  rw [numeral?_eq_some_iff, t.sign_text, encode_magnitude]
  exact ⟨_, _, t.wholePart?_whole (stops_fractionText t.fraction hdigit),
    fractionPart?_fractionText t.fraction hdigit hpoint,
    exponentPart?_exponentText t.exponent hends, rfl⟩

theorem encode_text_cons :
    ∃ b bs, Utf8.encode t.text = b :: bs ∧ isBlank b = false ∧ b ≠ 0x6E := by
  unfold text
  cases t.negative with
  | true => exact ⟨0x2D, Utf8.encode t.magnitude, rfl, by decide, by decide⟩
  | false =>
    obtain ⟨d, hd, bs, hbytes⟩ := t.whole.encode_cons
    obtain ⟨-, hblank, hnull⟩ := digitChar_plain d hd
    rw [if_neg Bool.false_ne_true, magnitude, Utf8.encode_append, hbytes]
    exact ⟨_, _, rfl, hblank, hnull⟩

theorem isRaw_text : IsRaw (String.ofList t.text) := by
  rw [IsRaw, String.toList_ofList]
  obtain ⟨b, bs, hbytes, hblank, hnull⟩ := t.encode_text_cons
  refine ⟨fun rest hends => ?_, b, bs, hbytes, hblank, hnull⟩
  have hskip : skipBlanks (Utf8.encode t.text ++ rest) = Utf8.encode t.text ++ rest := by
    rw [hbytes]
    exact skipBlanks_cons hblank _
  refine .numeral (n := t.numeral) ?_
  rw [hskip]
  exact t.numeral?_text hends

theorem magnitude_subset : t.magnitude ⊆ numberChars :=
  List.append_subset.2 ⟨t.whole.text_subset,
    List.append_subset.2 ⟨fractionText_subset t.fraction, exponentText_subset t.exponent⟩⟩

theorem text_subset : t.text ⊆ numberChars := by
  unfold text
  split
  · exact List.cons_subset.2 ⟨by decide, t.magnitude_subset⟩
  · exact t.magnitude_subset

/-- A fraction and an exponent each show a character that no other part has. -/
theorem exists_mem_text (h : t.fraction ≠ none ∨ t.exponent ≠ none) :
    ∃ c ∈ t.text, c ∈ ['.', 'e', 'E'] := by
  have hmagnitude : ∀ c ∈ t.magnitude, c ∈ t.text := by
    intro c hc
    unfold text
    split
    · exact List.mem_cons_of_mem _ hc
    · exact hc
  have hparts : ∃ c ∈ fractionText t.fraction ++ exponentText t.exponent, c ∈ ['.', 'e', 'E'] := by
    rcases h with hfraction | hexponent
    · obtain ⟨r, hr⟩ := Option.ne_none_iff_exists'.1 hfraction
      rw [hr]
      exact ⟨'.', List.mem_cons_self, by decide⟩
    · obtain ⟨e, he⟩ := Option.ne_none_iff_exists'.1 hexponent
      rw [he]
      exact ⟨e.mark, List.mem_append_right _ List.mem_cons_self,
        List.mem_cons_of_mem _ e.mark_mem⟩
  obtain ⟨c, hmem, hc⟩ := hparts
  exact ⟨c, hmagnitude c (List.mem_append_right _ hmem), hc⟩

/-! ## Integers as numbers -/

def ofInt (z : Int) : NumberToken where
  negative := z < 0
  whole := ⟨decimalDigits z.natAbs, decimalDigits_ne_nil _, fun _ => lt_of_mem_decimalDigits⟩
  fraction := none
  exponent := none
  plain ds h := by
    cases ds with
    | nil => rfl
    | cons d ds => exact absurd h (decimalDigits_ne_zero_cons _ d ds)

theorem text_ofInt (z : Int) : (ofInt z).text = Render.integer z := by
  have hmagnitude : (ofInt z).magnitude = Render.natural z.natAbs := by
    rw [render_natural]
    exact List.append_nil _
  rw [text, hmagnitude]
  cases z with
  | ofNat n => rfl
  | negSucc n =>
    have hnegative : (ofInt (Int.negSucc n)).negative = true :=
      decide_eq_true (Int.negSucc_lt_zero n)
    rw [if_pos hnegative, Render.integer, integerText, String.toList_append]
    rfl

end NumberToken
end Tronkit.Json
