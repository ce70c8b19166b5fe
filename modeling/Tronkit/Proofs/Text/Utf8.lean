import Tronkit.Text.Utf8

/-!
# Reading UTF-8 undoes writing it

A written character is read as itself, whatever follows it, and bytes that can be read strictly
are the bytes of the text that they are read as. So a text survives the wire, and bytes that are
kept as a text come out as they came in.
-/

namespace Tronkit.Utf8

/-- What a lead byte begins: how many bytes follow, the bits it gives, and the range of the byte
behind it. -/
structure Pending.Begins (q : Pending) (due bits low high : Nat) : Prop where
  due_eq : q.due = due
  bits_eq : q.bits = bits
  low_eq : q.low.toNat = low
  high_eq : q.high.toNat = high

theorem toNat_ofNat_of_lt {n : Nat} (h : n < 256) : (UInt8.ofNat n).toNat = n := by
  simp [Nat.mod_eq_of_lt h]

theorem ofNat_eq_of_toNat {n : Nat} {b : UInt8} (h : n = b.toNat) : UInt8.ofNat n = b := by
  rw [h, UInt8.ofNat_toNat]

theorem toNat_ite_eq (b c x y : UInt8) :
    (if b = c then x else y).toNat = if b.toNat = c.toNat then x.toNat else y.toNat := by
  by_cases h : b = c
  · simp [h]
  · rw [if_neg h, if_neg fun e => h (UInt8.toNat_inj.1 e)]

theorem not_ascii {b : UInt8} (h : 0x80 ≤ b.toNat) : ¬b < 0x80 := by
  simpa [UInt8.lt_iff_toNat_lt] using h

theorem ofLead_two {b : UInt8} (hl : 0xC2 ≤ b.toNat) (hh : b.toNat < 0xE0) :
    ∃ q, Pending.ofLead b = some q ∧ q.Begins 1 (b.toNat - 0xC0) 0x80 0xBF := by
  have h1 : ¬b < 0xC2 := by simpa [UInt8.lt_iff_toNat_lt] using hl
  have h2 : b < 0xE0 := by simpa [UInt8.lt_iff_toNat_lt] using hh
  refine ⟨{ due := 1, bits := b.toNat - 0xC0 }, ?_, rfl, rfl, rfl, rfl⟩
  simp only [Pending.ofLead, h1, h2, if_true, if_false]

theorem ofLead_three {b : UInt8} (hl : 0xE0 ≤ b.toNat) (hh : b.toNat < 0xF0) :
    ∃ q, Pending.ofLead b = some q ∧ q.Begins 2 (b.toNat - 0xE0)
      (if b.toNat = 0xE0 then 0xA0 else 0x80) (if b.toNat = 0xED then 0x9F else 0xBF) := by
  have h1 : ¬b < 0xC2 := by simp [UInt8.lt_iff_toNat_lt]; omega
  have h2 : ¬b < 0xE0 := by simpa [UInt8.lt_iff_toNat_lt] using hl
  have h3 : b < 0xF0 := by simpa [UInt8.lt_iff_toNat_lt] using hh
  refine ⟨⟨2, b.toNat - 0xE0, if b = 0xE0 then 0xA0 else 0x80,
    if b = 0xED then 0x9F else 0xBF⟩, ?_, rfl, rfl, ?_, ?_⟩
  · simp only [Pending.ofLead, h1, h2, h3, if_true, if_false]
  · rw [toNat_ite_eq]
    simp
  · rw [toNat_ite_eq]
    simp

theorem ofLead_four {b : UInt8} (hl : 0xF0 ≤ b.toNat) (hh : b.toNat < 0xF5) :
    ∃ q, Pending.ofLead b = some q ∧ q.Begins 3 (b.toNat - 0xF0)
      (if b.toNat = 0xF0 then 0x90 else 0x80) (if b.toNat = 0xF4 then 0x8F else 0xBF) := by
  have h1 : ¬b < 0xC2 := by simp [UInt8.lt_iff_toNat_lt]; omega
  have h2 : ¬b < 0xE0 := by simp [UInt8.lt_iff_toNat_lt]; omega
  have h3 : ¬b < 0xF0 := by simpa [UInt8.lt_iff_toNat_lt] using hl
  have h4 : b < 0xF5 := by simpa [UInt8.lt_iff_toNat_lt] using hh
  refine ⟨⟨3, b.toNat - 0xF0, if b = 0xF0 then 0x90 else 0x80,
    if b = 0xF4 then 0x8F else 0xBF⟩, ?_, rfl, rfl, ?_, ?_⟩
  · simp only [Pending.ofLead, h1, h2, h3, h4, if_true, if_false]
  · rw [toNat_ite_eq]
    simp
  · rw [toNat_ite_eq]
    simp

theorem Pending.accepts_iff (p : Pending) (b : UInt8) :
    p.accepts b = true ↔ p.low.toNat ≤ b.toNat ∧ b.toNat ≤ p.high.toNat := by
  simp [Pending.accepts, UInt8.le_iff_toNat_le]

theorem accepts_push_iff (p : Pending) (a b : UInt8) :
    (p.push a).accepts b = true ↔ 0x80 ≤ b.toNat ∧ b.toNat < 0xC0 := by
  rw [Pending.accepts_iff]
  simp [Pending.push]
  omega

theorem units_lead {q : Pending} {b : UInt8} (rest : Bytes) (hb : 0x80 ≤ b.toNat)
    (hq : Pending.ofLead b = some q) : units none (b :: rest) = units (some q) rest := by
  simp [units, not_ascii hb, hq]

theorem units_last {p : Pending} {b : UInt8} (rest : Bytes) (hb : p.accepts b = true)
    (hd : p.due = 1) :
    units (some p) (b :: rest) =
      some (Char.ofNat (p.bits * 0x40 + (b.toNat - 0x80))) :: units none rest := by
  simp [units, hb, Pending.push, hd]

theorem units_more {p : Pending} {b : UInt8} (rest : Bytes) (hb : p.accepts b = true)
    (hd : 1 < p.due) : units (some p) (b :: rest) = units (some (p.push b)) rest := by
  have hdue : ¬p.due - 1 = 0 := by omega
  simp [units, hb, Pending.push, hdue]

theorem length_encodeChar_pos (c : Char) : 0 < (encodeChar c).length := by
  unfold encodeChar
  simp only
  split
  · simp
  · split
    · simp
    · split <;> simp

theorem char_toNat_cases (c : Char) :
    c.toNat < 0xD800 ∨ 0xDFFF < c.toNat ∧ c.toNat < 0x110000 := by
  have h := c.valid
  simp only [UInt32.isValidChar, Nat.isValidChar] at h
  exact h

theorem toNat_ofNat_of_valid {n : Nat} (h : n < 0xD800 ∨ 0xDFFF < n ∧ n < 0x110000) :
    (Char.ofNat n).toNat = n := by
  rw [Char.ofNat, dif_pos h]
  rfl

theorem encodeChar_one {n : Nat} (h : n < 0x80) : encodeChar (Char.ofNat n) = [UInt8.ofNat n] := by
  have hn := toNat_ofNat_of_valid (n := n) (by omega)
  simp only [encodeChar, hn, if_pos h]

theorem encodeChar_two {n : Nat} (hl : 0x80 ≤ n) (hh : n < 0x800) :
    encodeChar (Char.ofNat n) = [UInt8.ofNat (0xC0 + n / 0x40), UInt8.ofNat (0x80 + n % 0x40)] := by
  have hn := toNat_ofNat_of_valid (n := n) (by omega)
  simp only [encodeChar, hn, if_neg (show ¬n < 0x80 by omega), if_pos hh]

theorem encodeChar_three {n : Nat} (hl : 0x800 ≤ n) (hh : n < 0x10000)
    (hv : n < 0xD800 ∨ 0xDFFF < n) :
    encodeChar (Char.ofNat n) = [UInt8.ofNat (0xE0 + n / 0x1000),
      UInt8.ofNat (0x80 + n / 0x40 % 0x40), UInt8.ofNat (0x80 + n % 0x40)] := by
  have hn := toNat_ofNat_of_valid (n := n) (by omega)
  simp only [encodeChar, hn, if_neg (show ¬n < 0x80 by omega), if_neg (show ¬n < 0x800 by omega),
    if_pos hh]

theorem encodeChar_four {n : Nat} (hl : 0x10000 ≤ n) (hh : n < 0x110000) :
    encodeChar (Char.ofNat n) = [UInt8.ofNat (0xF0 + n / 0x40000),
      UInt8.ofNat (0x80 + n / 0x1000 % 0x40), UInt8.ofNat (0x80 + n / 0x40 % 0x40),
      UInt8.ofNat (0x80 + n % 0x40)] := by
  have hn := toNat_ofNat_of_valid (n := n) (by omega)
  simp only [encodeChar, hn, if_neg (show ¬n < 0x80 by omega), if_neg (show ¬n < 0x800 by omega),
    if_neg (show ¬n < 0x10000 by omega)]

theorem units_one {b : UInt8} (rest : Bytes) (h : b < 0x80) :
    units none (b :: rest) = some (Char.ofNat b.toNat) :: units none rest := by
  simp only [units, h, if_true]

theorem units_two {b c : UInt8} (rest : Bytes) (hb : 0xC2 ≤ b.toNat ∧ b.toNat < 0xE0)
    (hc : 0x80 ≤ c.toNat ∧ c.toNat < 0xC0) :
    units none (b :: c :: rest) =
      some (Char.ofNat ((b.toNat - 0xC0) * 0x40 + (c.toNat - 0x80))) :: units none rest := by
  obtain ⟨q, hq, hdue, hbits, hlow, hhigh⟩ := ofLead_two hb.1 hb.2
  have hacc : q.accepts c = true := (q.accepts_iff c).2 ⟨by omega, by omega⟩
  rw [units_lead _ (by omega) hq, units_last _ hacc hdue, hbits]

theorem units_three {b c d : UInt8} (rest : Bytes) (hb : 0xE0 ≤ b.toNat ∧ b.toNat < 0xF0)
    (hc : 0x80 ≤ c.toNat ∧ c.toNat < 0xC0) (hd : 0x80 ≤ d.toNat ∧ d.toNat < 0xC0)
    (hlow : b.toNat = 0xE0 → 0xA0 ≤ c.toNat) (hhigh : b.toNat = 0xED → c.toNat < 0xA0) :
    units none (b :: c :: d :: rest) =
      some (Char.ofNat (((b.toNat - 0xE0) * 0x40 + (c.toNat - 0x80)) * 0x40 + (d.toNat - 0x80)))
        :: units none rest := by
  obtain ⟨q, hq, hdue, hbits, hl, hh⟩ := ofLead_three hb.1 hb.2
  have hacc : q.accepts c = true := by
    rw [q.accepts_iff, hl, hh]
    constructor <;> split <;> omega
  rw [units_lead _ (by omega) hq, units_more _ hacc (by omega),
    units_last _ ((accepts_push_iff _ _ _).2 hd) (by simp [Pending.push, hdue])]
  simp only [Pending.push, hbits]

theorem units_four {b c d e : UInt8} (rest : Bytes) (hb : 0xF0 ≤ b.toNat ∧ b.toNat < 0xF5)
    (hc : 0x80 ≤ c.toNat ∧ c.toNat < 0xC0) (hd : 0x80 ≤ d.toNat ∧ d.toNat < 0xC0)
    (he : 0x80 ≤ e.toNat ∧ e.toNat < 0xC0) (hlow : b.toNat = 0xF0 → 0x90 ≤ c.toNat)
    (hhigh : b.toNat = 0xF4 → c.toNat < 0x90) :
    units none (b :: c :: d :: e :: rest) =
      some (Char.ofNat ((((b.toNat - 0xF0) * 0x40 + (c.toNat - 0x80)) * 0x40 + (d.toNat - 0x80))
        * 0x40 + (e.toNat - 0x80))) :: units none rest := by
  obtain ⟨q, hq, hdue, hbits, hl, hh⟩ := ofLead_four hb.1 hb.2
  have hacc : q.accepts c = true := by
    rw [q.accepts_iff, hl, hh]
    constructor <;> split <;> omega
  rw [units_lead _ (by omega) hq, units_more _ hacc (by omega),
    units_more _ ((accepts_push_iff _ _ _).2 hd) (by simp [Pending.push, hdue]),
    units_last _ ((accepts_push_iff _ _ _).2 he) (by simp [Pending.push, hdue])]
  simp only [Pending.push, hbits]

/-- A written character is read as itself, whatever follows it. The cases are the sizes that a
character can have. -/
theorem units_encodeChar (c : Char) (rest : Bytes) :
    units none (encodeChar c ++ rest) = some c :: units none rest := by
  obtain ⟨n, rfl, hn⟩ : ∃ n, c = Char.ofNat n ∧ (n < 0xD800 ∨ 0xDFFF < n ∧ n < 0x110000) :=
    ⟨c.toNat, (Char.ofNat_toNat c).symm, char_toNat_cases c⟩
  have byte : ∀ k, k < 256 → (UInt8.ofNat k).toNat = k := fun k => toNat_ofNat_of_lt
  by_cases h1 : n < 0x80
  · have e := byte n (by omega)
    have hlow : UInt8.ofNat n < 0x80 := by
      rw [UInt8.lt_iff_toNat_lt, e]
      exact h1
    rw [encodeChar_one h1, List.cons_append, List.nil_append, units_one _ hlow, e]
  have last := byte (0x80 + n % 0x40) (by omega)
  by_cases h2 : n < 0x800
  · have lead := byte (0xC0 + n / 0x40) (by omega)
    rw [encodeChar_two (by omega) h2, List.cons_append, List.cons_append, List.nil_append,
      units_two _ (by omega) (by omega), lead, last]
    rw [show (0xC0 + n / 0x40 - 0xC0) * 0x40 + (0x80 + n % 0x40 - 0x80) = n by omega]
  have middle := byte (0x80 + n / 0x40 % 0x40) (by omega)
  by_cases h3 : n < 0x10000
  · have lead := byte (0xE0 + n / 0x1000) (by omega)
    rw [encodeChar_three (by omega) h3 (by omega), List.cons_append, List.cons_append,
      List.cons_append, List.nil_append,
      units_three _ (by omega) (by omega) (by omega) (by omega) (by omega), lead, middle, last]
    rw [show ((0xE0 + n / 0x1000 - 0xE0) * 0x40 + (0x80 + n / 0x40 % 0x40 - 0x80)) * 0x40
      + (0x80 + n % 0x40 - 0x80) = n by omega]
  · have third := byte (0x80 + n / 0x1000 % 0x40) (by omega)
    have lead := byte (0xF0 + n / 0x40000) (by omega)
    rw [encodeChar_four (by omega) (by omega), List.cons_append, List.cons_append,
      List.cons_append, List.cons_append, List.nil_append,
      units_four _ (by omega) (by omega) (by omega) (by omega) (by omega) (by omega), lead, third,
      middle, last]
    rw [show (((0xF0 + n / 0x40000 - 0xF0) * 0x40 + (0x80 + n / 0x1000 % 0x40 - 0x80)) * 0x40
      + (0x80 + n / 0x40 % 0x40 - 0x80)) * 0x40 + (0x80 + n % 0x40 - 0x80) = n by omega]

theorem units_encode (cs : List Char) (rest : Bytes) :
    units none (encode cs ++ rest) = cs.map some ++ units none rest := by
  induction cs with
  | nil => rfl
  | cons c cs ih =>
    rw [encode_cons, List.append_assoc, units_encodeChar, ih]
    rfl

theorem collect_map_some (cs : List Char) : collect (cs.map some) = some cs := by
  induction cs with
  | nil => rfl
  | cons c cs ih => simp [collect, ih]

theorem decode?_encode (cs : List Char) : decode? (encode cs) = some cs := by
  have h := units_encode cs []
  simp only [List.append_nil] at h
  rw [decode?, h]
  simp [units, collect_map_some]

theorem decodeLossy_encode (cs : List Char) : decodeLossy (encode cs) = cs := by
  have h := units_encode cs []
  simp only [List.append_nil] at h
  rw [decodeLossy, h]
  simp [units, Function.comp_def]

theorem of_collect_units {p : Pending} {bs : Bytes} {cs : List Char}
    (h : collect (units (some p) bs) = some cs) :
    ∃ b rest, bs = b :: rest ∧ p.accepts b = true ∧
      ((p.push b).due ≠ 0 → collect (units (some (p.push b)) rest) = some cs) ∧
      ((p.push b).due = 0 → ∃ ds, cs = Char.ofNat (p.push b).bits :: ds ∧
        collect (units none rest) = some ds) := by
  cases bs with
  | nil => simp [units, collect] at h
  | cons b rest =>
    by_cases hb : p.accepts b = true
    · refine ⟨b, rest, rfl, hb, fun hd => ?_, fun hd => ?_⟩
      · simpa [units, hb, hd] using h
      · simp only [units, hb, hd, if_true, collect, Option.map_eq_some_iff] at h
        obtain ⟨ds, hds, rfl⟩ := h
        exact ⟨ds, rfl, hds⟩
    · exfalso
      simp only [units, hb] at h
      by_cases ha : b < 0x80
      · simp [ha, collect] at h
      · cases hq : Pending.ofLead b <;> simp [ha, hq, collect] at h

theorem ofLead_of_lt {b : UInt8} (h : b.toNat < 0xC2) : Pending.ofLead b = none := by
  have h1 : b < 0xC2 := by simpa [UInt8.lt_iff_toNat_lt] using h
  simp only [Pending.ofLead, h1, if_true]

theorem ofLead_of_le {b : UInt8} (h : 0xF5 ≤ b.toNat) : Pending.ofLead b = none := by
  have h1 : ¬b < 0xC2 := by simp [UInt8.lt_iff_toNat_lt]; omega
  have h2 : ¬b < 0xE0 := by simp [UInt8.lt_iff_toNat_lt]; omega
  have h3 : ¬b < 0xF0 := by simp [UInt8.lt_iff_toNat_lt]; omega
  have h4 : ¬b < 0xF5 := by simpa [UInt8.lt_iff_toNat_lt] using h
  simp only [Pending.ofLead, h1, h2, h3, h4, if_false]

/-- The bytes that were read as a character are the bytes of that character. The cases are those
of the lead byte; the range of the second byte keeps overlong forms and surrogates out. -/
theorem encodeChar_of_collect {b : UInt8} {rest : Bytes} {cs : List Char} (hb : 0x80 ≤ b.toNat)
    (h : collect (units none (b :: rest)) = some cs) :
    ∃ c ds tail, cs = c :: ds ∧ b :: rest = encodeChar c ++ tail ∧
      collect (units none tail) = some ds := by
  by_cases h1 : b.toNat < 0xC2
  · simp [units, not_ascii hb, ofLead_of_lt h1, collect] at h
  by_cases h2 : b.toNat < 0xE0
  · obtain ⟨q, hq, hdue, hbits, hlow, hhigh⟩ := ofLead_two (b := b) (by omega) h2
    rw [units_lead _ hb hq] at h
    obtain ⟨c, tail, rfl, hc, -, hlast⟩ := of_collect_units h
    rw [q.accepts_iff, hlow, hhigh] at hc
    obtain ⟨ds, rfl, hds⟩ := hlast (by simp [Pending.push, hdue])
    refine ⟨_, ds, tail, rfl, ?_, hds⟩
    simp only [Pending.push, hbits]
    rw [encodeChar_two (by omega) (by omega), List.cons_append, List.cons_append, List.nil_append,
      ofNat_eq_of_toNat (b := b) (by omega), ofNat_eq_of_toNat (b := c) (by omega)]
  by_cases h3 : b.toNat < 0xF0
  · obtain ⟨q, hq, hdue, hbits, hlow, hhigh⟩ := ofLead_three (b := b) (by omega) h3
    rw [units_lead _ hb hq] at h
    obtain ⟨c, tail, rfl, hc, hmore, -⟩ := of_collect_units h
    obtain ⟨d, tail, rfl, hd, -, hlast⟩ := of_collect_units (hmore (by simp [Pending.push, hdue]))
    rw [q.accepts_iff, hlow, hhigh] at hc
    rw [accepts_push_iff] at hd
    obtain ⟨ds, rfl, hds⟩ := hlast (by simp [Pending.push, hdue])
    refine ⟨_, ds, tail, rfl, ?_, hds⟩
    simp only [Pending.push, hbits]
    have hlow' : 0x80 ≤ c.toNat ∧ c.toNat < 0xC0 ∧ (b.toNat = 0xE0 → 0xA0 ≤ c.toNat) ∧
        (b.toNat = 0xED → c.toNat < 0xA0) := by
      split at hc <;> split at hc <;> omega
    rw [encodeChar_three (by omega) (by omega) (by omega), List.cons_append, List.cons_append,
      List.cons_append, List.nil_append, ofNat_eq_of_toNat (b := b) (by omega),
      ofNat_eq_of_toNat (b := c) (by omega), ofNat_eq_of_toNat (b := d) (by omega)]
  by_cases h4 : b.toNat < 0xF5
  · obtain ⟨q, hq, hdue, hbits, hlow, hhigh⟩ := ofLead_four (b := b) (by omega) h4
    rw [units_lead _ hb hq] at h
    obtain ⟨c, tail, rfl, hc, hmore, -⟩ := of_collect_units h
    obtain ⟨d, tail, rfl, hd, hmore, -⟩ := of_collect_units (hmore (by simp [Pending.push, hdue]))
    obtain ⟨e, tail, rfl, he, -, hlast⟩ := of_collect_units (hmore (by simp [Pending.push, hdue]))
    rw [q.accepts_iff, hlow, hhigh] at hc
    rw [accepts_push_iff] at hd he
    obtain ⟨ds, rfl, hds⟩ := hlast (by simp [Pending.push, hdue])
    refine ⟨_, ds, tail, rfl, ?_, hds⟩
    simp only [Pending.push, hbits]
    have hlow' : 0x80 ≤ c.toNat ∧ c.toNat < 0xC0 ∧ (b.toNat = 0xF0 → 0x90 ≤ c.toNat) ∧
        (b.toNat = 0xF4 → c.toNat < 0x90) := by
      split at hc <;> split at hc <;> omega
    rw [encodeChar_four (by omega) (by omega), List.cons_append, List.cons_append,
      List.cons_append, List.cons_append, List.nil_append, ofNat_eq_of_toNat (b := b) (by omega),
      ofNat_eq_of_toNat (b := c) (by omega), ofNat_eq_of_toNat (b := d) (by omega),
      ofNat_eq_of_toNat (b := e) (by omega)]
  · simp [units, not_ascii hb, ofLead_of_le (b := b) (by omega), collect] at h

theorem encodeChar_ascii {b : UInt8} (h : b < 0x80) : encodeChar (Char.ofNat b.toNat) = [b] := by
  rw [encodeChar_one (by simpa [UInt8.lt_iff_toNat_lt] using h), UInt8.ofNat_toNat]

theorem encode_of_collect : (bs : Bytes) → (cs : List Char) →
    collect (units none bs) = some cs → encode cs = bs
  | [], cs, h => by
    simp only [units, collect, Option.some.injEq] at h
    subst h
    rfl
  | b :: rest, cs, h => by
    by_cases hb : b < 0x80
    · simp only [units, hb, if_true, collect, Option.map_eq_some_iff] at h
      obtain ⟨ds, hds, rfl⟩ := h
      rw [encode_cons, encodeChar_ascii hb, encode_of_collect rest ds hds]
      rfl
    · have hb' : 0x80 ≤ b.toNat := by simpa [UInt8.lt_iff_toNat_lt] using hb
      obtain ⟨c, ds, tail, rfl, hbs, hds⟩ := encodeChar_of_collect hb' h
      have hpos := length_encodeChar_pos c
      -- The character takes at least one byte, so the recursion ends.
      have hlen : tail.length < (b :: rest).length := by
        rw [hbs, List.length_append]
        omega
      rw [encode_cons, encode_of_collect tail ds hds, ← hbs]
termination_by bs => bs.length
decreasing_by
  · exact Nat.lt_succ_self _
  · exact hlen

theorem decode?_eq_some_iff {bs : Bytes} {cs : List Char} : decode? bs = some cs ↔ encode cs = bs :=
  ⟨encode_of_collect bs cs, fun h => h ▸ decode?_encode cs⟩

theorem length_le_size (cs : List Char) : cs.length ≤ size cs := by
  induction cs with
  | nil => exact Nat.le_refl 0
  | cons c cs ih =>
    have hpos := length_encodeChar_pos c
    rw [size, encode_cons, List.length_append, ← size, List.length_cons]
    omega

theorem size_of_ascii {cs : List Char} (h : ∀ c ∈ cs, c.toNat < 128) :
    size cs = cs.length := by
  induction cs with
  | nil => rfl
  | cons c cs ih =>
    have hc : c.toNat < 128 := h c (by simp)
    have hcs := ih fun d hd => h d (by simp [hd])
    rw [size, encode_cons, List.length_append, ← size, hcs]
    simp [encodeChar, hc]
    omega

end Tronkit.Utf8

namespace Tronkit

theorem textOfBytes?_textBytes (s : String) : textOfBytes? (textBytes s) = some s := by
  simp [textOfBytes?, textBytes, Utf8.decode?_encode]

theorem textBytes_of_textOfBytes? {bs : Bytes} {s : String} (h : textOfBytes? bs = some s) :
    textBytes s = bs := by
  obtain ⟨cs, hcs, rfl⟩ := Option.map_eq_some_iff.1 h
  rw [textBytes, String.toList_ofList]
  exact Utf8.decode?_eq_some_iff.1 hcs

theorem textBytes_injective : Function.Injective textBytes := by
  intro s t h
  have hread := congrArg textOfBytes? h
  rw [textOfBytes?_textBytes, textOfBytes?_textBytes] at hread
  exact Option.some.inj hread

theorem lossyText_textBytes (s : String) : lossyText (textBytes s) = s := by
  simp [lossyText, textBytes, Utf8.decodeLossy_encode]

end Tronkit
