import Tronkit.Proofs.Json.Reader
import Tronkit.Proofs.Text.Utf8

/-!
# Strings in JSON

A written string is read as the text it was written for, up to its closing quote and whatever
follows it. Written characters are of four kinds: those that stand for themselves, those with an
escape of one letter, controls with an escape of four digits, and those of several bytes.
-/

namespace Tronkit.Json

def IsPlain (b : UInt8) : Prop := 0x20 ≤ b ∧ b ≠ 0x22 ∧ b ≠ 0x5C

theorem content?_plain {b : UInt8} (h : IsPlain b) (rest : Bytes) :
    content? (b :: rest) = (content? rest).map (consTo [b]) := by
  obtain ⟨hl, hquote, hslash⟩ := h
  have hlow : ¬b < 0x20 := by simpa [UInt8.lt_iff_toNat_lt, UInt8.le_iff_toNat_le] using hl
  rw [content?.eq_4]
  · simp [hquote, hslash, hlow]
  · intro _ _ _ _ _ e
    exact absurd e hslash
  · intro _ _ e
    exact absurd e hslash

theorem unescape?_plain {b : UInt8} (h : IsPlain b) (rest : Bytes) :
    unescape? (b :: rest) = (unescape? rest).map ([b] ++ ·) := by
  obtain ⟨-, -, hslash⟩ := h
  rw [unescape?.eq_4]
  · cases unescape? rest <;> rfl
  · intro _ _ _ _ _ e
    exact absurd e hslash
  · intro _ _ e
    exact absurd e hslash

def Cut (bs c rest : Bytes) : Prop :=
  bs = c ++ 0x22 :: rest ∧ ∀ rest', content? (c ++ 0x22 :: rest') = some (c, rest')

theorem Cut.step {front tail c rest : Bytes}
    (hstep : ∀ r, content? (front ++ r) = (content? r).map (consTo front))
    (h : (content? tail).map (consTo front) = some (c, rest))
    (ih : ∀ {c}, content? tail = some (c, rest) → Cut tail c rest) :
    Cut (front ++ tail) c rest := by
  obtain ⟨p, hp, hc⟩ := Option.map_eq_some_iff.1 h
  obtain ⟨c', rest''⟩ := p
  cases hc
  obtain ⟨htail, hread⟩ := ih hp
  refine ⟨by rw [htail, List.append_assoc], fun rest' => ?_⟩
  rw [List.append_assoc, hstep, hread rest']
  rfl

theorem content?_eq_some {bs c rest : Bytes} (h : content? bs = some (c, rest)) :
    Cut bs c rest := by
  fun_induction content? bs generalizing c with
  | case1 => cases h
  | case2 x y z u tail hunit ih =>
    obtain ⟨n, hn⟩ := Option.isSome_iff_exists.1 hunit
    exact Cut.step (content?_unit hn) h ih
  | case3 => cases h
  | case4 e tail hne hletter ih =>
    obtain ⟨b, hb⟩ := Option.isSome_iff_exists.1 hletter
    exact Cut.step (content?_letter hb) h ih
  | case5 => cases h
  | case6 tail =>
    cases h
    exact ⟨rfl, content?_quote⟩
  | case7 => cases h
  | case8 b tail hunit hletter hquote hlow ih =>
    have hplain : IsPlain b := by
      simp only [Bool.or_eq_true, decide_eq_true_eq, not_or] at hlow
      exact ⟨by simpa [UInt8.not_lt] using hlow.1, hquote, hlow.2⟩
    exact Cut.step (content?_plain hplain) h ih

/-- Bytes that a string may hold as `front`, and that stand there for `meant`. -/
structure Holds (front meant : Bytes) : Prop where
  content : ∀ rest, content? (front ++ rest) = (content? rest).map (consTo front)
  unescape : ∀ rest, unescape? (front ++ rest) = (unescape? rest).map (meant ++ ·)

theorem Holds.nil : Holds [] [] where
  content rest := by
    rw [List.nil_append]
    cases content? rest <;> rfl
  unescape rest := by
    rw [List.nil_append]
    cases unescape? rest <;> rfl

theorem Holds.append {front meant front' meant' : Bytes} (h : Holds front meant)
    (h' : Holds front' meant') : Holds (front ++ front') (meant ++ meant') where
  content rest := by
    rw [List.append_assoc, h.content, h'.content]
    cases content? rest <;> simp [consTo]
  unescape rest := by
    rw [List.append_assoc, h.unescape, h'.unescape]
    cases unescape? rest <;> simp

theorem Holds.plain {bs : Bytes} (h : ∀ b ∈ bs, IsPlain b) : Holds bs bs := by
  induction bs with
  | nil => exact Holds.nil
  | cons b bs ih =>
    have hb := h b (by simp)
    have single : Holds [b] [b] := ⟨content?_plain hb, unescape?_plain hb⟩
    exact single.append (ih fun c hc => h c (by simp [hc]))

theorem Holds.letter {e b : UInt8} (h : escapedByte? e = some b) : Holds [0x5C, e] [b] :=
  ⟨content?_letter h, unescape?_letter h⟩

theorem controlDigits : ∀ n < 32,
    codeUnit? 0x30 0x30 (UInt8.ofNat (Nat.digitChar (n / 16)).toNat)
      (UInt8.ofNat (Nat.digitChar (n % 16)).toNat) = some n ∧
    (Nat.digitChar (n / 16)).toNat < 128 ∧ (Nat.digitChar (n % 16)).toNat < 128 := by decide

theorem encodeChar_of_lt {c : Char} (h : c.toNat < 128) :
    Utf8.encodeChar c = [UInt8.ofNat c.toNat] := by
  simp [Utf8.encodeChar, h]

theorem Holds.control {c : Char} (h : c.toNat < 0x20) :
    Holds (Utf8.encode ['\\', 'u', '0', '0', Nat.digitChar (c.toNat / 16),
      Nat.digitChar (c.toNat % 16)]) (Utf8.encodeChar c) := by
  obtain ⟨hunit, hhigh, hlow⟩ := controlDigits c.toNat h
  have hbytes : Utf8.encode ['\\', 'u', '0', '0', Nat.digitChar (c.toNat / 16),
      Nat.digitChar (c.toNat % 16)] = [0x5C, 0x75, 0x30, 0x30,
        UInt8.ofNat (Nat.digitChar (c.toNat / 16)).toNat,
        UInt8.ofNat (Nat.digitChar (c.toNat % 16)).toNat] := by
    simp only [Utf8.encode_cons, Utf8.encode_nil, encodeChar_of_lt hhigh, encodeChar_of_lt hlow]
    rfl
  have hself : Char.ofNat c.toNat = c := Char.ofNat_toNat c
  rw [hbytes]
  refine ⟨content?_unit hunit, fun rest => ?_⟩
  have hread := unescape?_unit hunit (by omega) rest
  rw [hself] at hread
  exact hread

theorem le_toNat_of_mem_encodeChar {c : Char} (h : 128 ≤ c.toNat) :
    ∀ b ∈ Utf8.encodeChar c, 0x80 ≤ b.toNat := by
  intro b hb
  have hc := Utf8.char_toNat_cases c
  have byte : ∀ k, k < 256 → (UInt8.ofNat k).toNat = k := fun k => Utf8.toNat_ofNat_of_lt
  unfold Utf8.encodeChar at hb
  simp only [if_neg (show ¬c.toNat < 0x80 by omega)] at hb
  split at hb
  · simp only [List.mem_cons, List.not_mem_nil, or_false] at hb
    rcases hb with rfl | rfl <;> rw [byte _ (by omega)] <;> omega
  · split at hb
    · simp only [List.mem_cons, List.not_mem_nil, or_false] at hb
      rcases hb with rfl | rfl | rfl <;> rw [byte _ (by omega)] <;> omega
    · simp only [List.mem_cons, List.not_mem_nil, or_false] at hb
      rcases hb with rfl | rfl | rfl | rfl <;> rw [byte _ (by omega)] <;> omega

theorem isPlain_of_le {b : UInt8} (hl : 0x20 ≤ b.toNat) (hquote : b.toNat ≠ 0x22)
    (hslash : b.toNat ≠ 0x5C) : IsPlain b := by
  refine ⟨?_, ?_, ?_⟩
  · simpa [UInt8.le_iff_toNat_le] using hl
  · rintro rfl
    exact hquote rfl
  · rintro rfl
    exact hslash rfl

theorem isPlain_of_mem_encodeChar {c : Char} (hl : 0x20 ≤ c.toNat) (hquote : c ≠ '"')
    (hslash : c ≠ '\\') : ∀ b ∈ Utf8.encodeChar c, IsPlain b := by
  intro b hb
  by_cases hc : c.toNat < 128
  · rw [encodeChar_of_lt hc, List.mem_singleton] at hb
    have hval : b.toNat = c.toNat := by rw [hb, Utf8.toNat_ofNat_of_lt (by omega)]
    have hself : Char.ofNat c.toNat = c := Char.ofNat_toNat c
    apply isPlain_of_le
    · omega
    · intro h
      rw [← hval, h] at hself
      exact hquote hself.symm
    · intro h
      rw [← hval, h] at hself
      exact hslash hself.symm
  · have hb' := le_toNat_of_mem_encodeChar (by omega) b hb
    exact isPlain_of_le (by omega) (by omega) (by omega)

theorem Holds.char (c : Char) :
    Holds (Utf8.encode (escapeChar c)) (Utf8.encodeChar c) := by
  by_cases hquote : c = '"'
  · subst hquote
    exact Holds.letter rfl
  by_cases hslash : c = '\\'
  · subst hslash
    exact Holds.letter rfl
  by_cases hn : c = '\n'
  · subst hn
    exact Holds.letter rfl
  by_cases hr : c = '\r'
  · subst hr
    exact Holds.letter rfl
  by_cases ht : c = '\t'
  · subst ht
    exact Holds.letter rfl
  by_cases hb : c = '\x08'
  · subst hb
    exact Holds.letter rfl
  by_cases hf : c = '\x0C'
  · subst hf
    exact Holds.letter rfl
  simp only [escapeChar, hquote, hslash, hn, hr, ht, hb, hf, if_false]
  by_cases hlow : c.toNat < 0x20
  · rw [if_pos hlow]
    exact Holds.control hlow
  · rw [if_neg hlow, Utf8.encode_cons, Utf8.encode_nil, List.append_nil]
    exact Holds.plain (isPlain_of_mem_encodeChar (by omega) hquote hslash)

theorem Holds.escaped (cs : List Char) :
    Holds (Utf8.encode (cs.flatMap escapeChar)) (Utf8.encode cs) := by
  induction cs with
  | nil => exact Holds.nil
  | cons c cs ih =>
    rw [List.flatMap_cons, Utf8.encode_append, Utf8.encode_cons]
    exact (Holds.char c).append ih

theorem content?_escaped (cs : List Char) (rest : Bytes) :
    content? (Utf8.encode (cs.flatMap escapeChar) ++ 0x22 :: rest) =
      some (Utf8.encode (cs.flatMap escapeChar), rest) := by
  rw [(Holds.escaped cs).content, content?_quote]
  simp [consTo]

theorem contentText?_escaped (s : String) :
    contentText? (Utf8.encode (s.toList.flatMap escapeChar)) = some s := by
  have h := (Holds.escaped s.toList).unescape []
  rw [List.append_nil] at h
  rw [contentText?, h]
  simpa [unescape?, textBytes] using textOfBytes?_textBytes s

theorem encode_string (s : String) :
    Utf8.encode (Render.string s) =
      0x22 :: (Utf8.encode (s.toList.flatMap escapeChar) ++ [0x22]) := by
  rw [Render.string, List.cons_append, Utf8.encode_cons, Utf8.encode_append]
  rfl

theorem stringAt_of_content {bs quoted content rest : Bytes} {s : String}
    (hquote : skipBlanks bs = 0x22 :: quoted) (hcut : content? quoted = some (content, rest))
    (htext : contentText? content = some s) : Reader.stringAt bs = .ok (s, rest) := by
  simp only [Reader.stringAt, hquote, hcut, Reader.ofOption, ok_bind, htext]
  rfl

theorem stringAt_encode (s : String) (rest : Bytes) :
    Reader.stringAt (Utf8.encode (Render.string s) ++ rest) = .ok (s, rest) := by
  rw [encode_string, List.cons_append, List.append_assoc, List.singleton_append]
  exact stringAt_of_content rfl (content?_escaped s.toList rest) (contentText?_escaped s)

end Tronkit.Json
