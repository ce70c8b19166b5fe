import Tronkit.Number.Blob
import Tronkit.Proofs.Bytes
import Tronkit.Proofs.Text.Hex

/-!
# Digits as quantities

Digits of a base are read as the number that they denote, with any zeros in front and in letters of
either case. A plus sign and an underscore are no digits, so a text of digits alone has neither. The
digits of bytes denote the number of the bytes. They are a quantity in any number, and a word of a
contract result if they are 64.
-/

namespace Tronkit

structure Digits.Denotes (base : Nat) (cs : List Char) (n : Nat) : Prop where
  nonempty : cs ≠ []
  value : (Digits.values? base cs).map (Digits.fold base) = some n

namespace Quantity

variable {base : Nat} {cs : List Char} {n : Nat}

theorem value?_of_mem {ds : List Nat} (h : Digits.values? base cs = some ds) :
    ∀ c ∈ cs, Digits.value? base c ≠ none := by
  induction cs generalizing ds with
  | nil => exact List.forall_mem_nil _
  | cons c cs ih =>
    obtain ⟨d, hd, h⟩ := Option.bind_eq_some_iff.1 h
    obtain ⟨ds', hds, -⟩ := Option.bind_eq_some_iff.1 h
    exact List.forall_mem_cons.2 ⟨by simp [hd], ih hds⟩

theorem value?_of_denotes (h : Digits.Denotes base cs n) :
    ∀ c ∈ cs, Digits.value? base c ≠ none := by
  obtain ⟨ds, hds, -⟩ := Option.map_eq_some_iff.1 h.value
  exact value?_of_mem hds

theorem plus_notMem_of_denotes (h : Digits.Denotes base cs n) : '+' ∉ cs :=
  fun hmem => value?_of_denotes h '+' hmem rfl

theorem filter_of_notMem (h : '_' ∉ cs) : cs.filter (· ≠ '_') = cs :=
  List.filter_eq_self.2 fun _ hc => decide_eq_true fun e => h (e ▸ hc)

theorem unsigned?_eq_some_iff :
    unsigned? base cs = some n ↔
      cs.head? ≠ some '_' ∧ Digits.Denotes base (cs.filter (· ≠ '_')) n := by
  unfold unsigned?
  split
  · constructor
    · intro h
      cases h
    · rintro ⟨-, hne, -⟩
      exact absurd rfl hne
  · constructor
    · intro h
      cases h
    · rintro ⟨hhead, -⟩
      exact absurd rfl hhead
  · rename_i cs hnil hmark
    obtain ⟨c, cs, rfl⟩ := List.exists_cons_of_ne_nil hnil
    have hc : c ≠ '_' := by
      rintro rfl
      exact hmark cs rfl
    have hfilter : (c :: cs).filter (· ≠ '_') ≠ [] := by
      rw [List.filter_cons_of_pos (by simpa using hc)]
      exact List.cons_ne_nil _ _
    constructor
    · intro h
      exact ⟨by simpa using hc, hfilter, h⟩
    · rintro ⟨-, -, h⟩
      exact h

theorem unsigned?_plus_ne (ds : List Char) : unsigned? base ('+' :: ds) ≠ some n := by
  intro h
  obtain ⟨-, hdenotes⟩ := unsigned?_eq_some_iff.1 h
  exact plus_notMem_of_denotes hdenotes (by simp)

theorem number?_eq_some_iff :
    number? base cs = some n ↔
      ∃ ds, (cs = ds ∨ cs = '+' :: ds) ∧ unsigned? base ds = some n := by
  unfold number?
  split
  · constructor
    · intro h
      cases h
    · rintro ⟨ds, rfl | h, hdigits⟩
      · exact absurd hdigits (unsigned?_plus_ne _)
      · cases h
        exact absurd hdigits (unsigned?_plus_ne _)
  · rename_i cs _
    constructor
    · intro h
      exact ⟨cs, .inr rfl, h⟩
    · rintro ⟨ds, rfl | h, hdigits⟩
      · exact absurd hdigits (unsigned?_plus_ne _)
      · cases h
        exact hdigits
  · rename_i hplus
    constructor
    · intro h
      exact ⟨cs, .inl rfl, h⟩
    · rintro ⟨ds, rfl | rfl, hdigits⟩
      · exact hdigits
      · exact absurd rfl (hplus ds)

theorem number?_of_denotes (h : Digits.Denotes base cs n) : number? base cs = some n := by
  have hmark : '_' ∉ cs := fun hmem => value?_of_denotes h '_' hmem rfl
  have hhead : cs.head? ≠ some '_' := fun hc => hmark (List.mem_of_mem_head? hc)
  have hdigits : unsigned? base cs = some n := by
    rw [unsigned?_eq_some_iff, filter_of_notMem hmark]
    exact ⟨hhead, h⟩
  exact number?_eq_some_iff.2 ⟨cs, .inl rfl, hdigits⟩

theorem readNat_of_denotes (h : Digits.Denotes 16 cs n) :
    readNat (String.ofList ('0' :: 'x' :: cs)) = .ok n := by
  have hnumber := number?_of_denotes h
  rw [readNat, String.toList_ofList]
  simp only [stripMark]
  split
  · exact absurd rfl h.nonempty
  · rw [hnumber]

end Quantity

/-! ## Bounded readings -/

namespace Unsigned

variable {base limit n : Nat} {cs : List Char}

theorem le_foldl (hbase : 0 < base) (ds : List Nat) (value : Nat) :
    value ≤ ds.foldl (fun n d => base * n + d) value := by
  induction ds generalizing value with
  | nil => exact Nat.le_refl value
  | cons d ds ih =>
    have hstep := Nat.le_mul_of_pos_left value hbase
    exact (hstep.trans (Nat.le_add_right _ d)).trans (ih _)

theorem readDigits_eq_ok_iff (hbase : 0 < base) {value : Nat} (hvalue : value < limit) :
    readDigits base limit value cs = .ok n ↔
      (Digits.values? base cs).map (List.foldl (fun n d => base * n + d) value) = some n ∧
        n < limit := by
  -- Digits make a value no smaller, so a value past the bound stays there.
  induction cs generalizing value with
  | nil =>
    simp only [readDigits, Digits.values?, Option.map_some, List.foldl_nil, Except.ok.injEq,
      Option.some.injEq]
    omega
  | cons c cs ih =>
    cases hc : Digits.value? base c with
    | none => simp [readDigits, Digits.values?, hc]
    | some d =>
      have hvalues : (Digits.values? base (c :: cs)).map
          (List.foldl (fun n d => base * n + d) value) =
            (Digits.values? base cs).map
              (List.foldl (fun n d => base * n + d) (base * value + d)) := by
        cases hcs : Digits.values? base cs <;> simp [Digits.values?, hc, hcs]
      rw [hvalues]
      simp only [readDigits, hc]
      by_cases hlimit : limit ≤ base * value + d
      · rw [if_pos hlimit]
        constructor
        · intro h
          cases h
        · rintro ⟨h, hn⟩
          obtain ⟨ds, -, rfl⟩ := Option.map_eq_some_iff.1 h
          have hle := le_foldl hbase ds (base * value + d)
          omega
      · rw [if_neg hlimit, ih (Nat.lt_of_not_le hlimit)]

theorem read_eq_ok_iff (hbase : 0 < base) (hlimit : 0 < limit) :
    read base limit cs = .ok n ↔
      ∃ ds, (cs = ds ∨ cs = '+' :: ds) ∧ Digits.Denotes base ds n ∧ n < limit := by
  have hdigits : ∀ ds, ds ≠ [] → (readDigits base limit 0 ds = .ok n ↔
      Digits.Denotes base ds n ∧ n < limit) := by
    intro ds hne
    rw [readDigits_eq_ok_iff hbase hlimit]
    exact and_congr_left fun _ => ⟨fun h => ⟨hne, h⟩, Digits.Denotes.value⟩
  have hplus : ∀ ds, ¬Digits.Denotes base ('+' :: ds) n :=
    fun ds h => Quantity.plus_notMem_of_denotes h List.mem_cons_self
  unfold read
  split
  · constructor
    · intro h
      cases h
    · rintro ⟨ds, rfl | h, hdenotes, -⟩
      · exact absurd rfl hdenotes.nonempty
      · cases h
  · constructor
    · intro h
      cases h
    · rintro ⟨ds, rfl | h, hdenotes, -⟩
      · exact absurd hdenotes (hplus [])
      · cases h
        exact absurd rfl hdenotes.nonempty
  · rename_i cs hne
    rw [hdigits cs hne]
    constructor
    · rintro ⟨hdenotes, hn⟩
      exact ⟨cs, .inr rfl, hdenotes, hn⟩
    · rintro ⟨ds, rfl | h, hdenotes, hn⟩
      · exact absurd hdenotes (hplus cs)
      · cases h
        exact ⟨hdenotes, hn⟩
  · rename_i hne hsign hcons
    rw [hdigits cs hne]
    constructor
    · rintro ⟨hdenotes, hn⟩
      exact ⟨cs, .inl rfl, hdenotes, hn⟩
    · rintro ⟨ds, rfl | rfl, hdenotes, hn⟩
      · exact ⟨hdenotes, hn⟩
      · exact absurd rfl (hcons ds)

end Unsigned

namespace Quantity

variable {base : Nat} {cs : List Char} {n : Nat}

/-! ## Bounds -/

theorem length_of_values? {ds : List Nat} (h : Digits.values? base cs = some ds) :
    ds.length = cs.length ∧ ∀ d ∈ ds, d < base := by
  induction cs generalizing ds with
  | nil =>
    cases h
    simp
  | cons c cs ih =>
    obtain ⟨d, hd, h⟩ := Option.bind_eq_some_iff.1 h
    obtain ⟨ds', hds, h⟩ := Option.bind_eq_some_iff.1 h
    cases h
    obtain ⟨hlen, hlt⟩ := ih hds
    exact ⟨by simp [hlen], List.forall_mem_cons.2 ⟨Digits.value?_lt hd, hlt⟩⟩

theorem pow_le_of_sublist (hbase : 0 < base) {cs ds : List Char} (h : cs.Sublist ds) :
    Nat.pow base cs.length ≤ Nat.pow base ds.length := Nat.pow_le_pow_right hbase h.length_le

theorem unsigned?_lt (hbase : 0 < base) (h : unsigned? base cs = some n) :
    n < Nat.pow base cs.length := by
  unfold unsigned? at h
  split at h
  · cases h
  · cases h
  · obtain ⟨ds, hds, rfl⟩ := Option.map_eq_some_iff.1 h
    obtain ⟨hlen, hlt⟩ := length_of_values? hds
    have hfold : Digits.fold base ds < Nat.pow base ds.length := Digits.fold_lt hlt
    rw [hlen] at hfold
    exact hfold.trans_le (pow_le_of_sublist hbase List.filter_sublist)

theorem number?_lt (hbase : 0 < base) (h : number? base cs = some n) :
    n < Nat.pow base cs.length := by
  unfold number? at h
  split at h
  · cases h
  · exact (unsigned?_lt hbase h).trans_le (pow_le_of_sublist hbase (List.sublist_cons_self _ _))
  · exact unsigned?_lt hbase h

theorem stripMark_sublist (cs : List Char) : (stripMark cs).Sublist cs := by
  unfold stripMark
  split
  · exact (List.sublist_cons_self _ _).trans (List.sublist_cons_self _ _)
  · exact (List.sublist_cons_self _ _).trans (List.sublist_cons_self _ _)
  · exact .refl _

theorem readNat_lt {s : String} (h : readNat s = .ok n) : n < Nat.pow 16 s.toList.length := by
  unfold readNat at h
  split at h
  · cases h
  · split at h
    · rename_i hn
      cases h
      exact (number?_lt (by decide) hn).trans_le
        (pow_le_of_sublist (by decide) (stripMark_sublist _))
    · cases h

theorem stripMark_of_isHex (h : ∀ c ∈ cs, Digits.isHex c = true) : stripMark cs = cs := by
  have hlower : 'x' ∉ cs := fun hmem => absurd (h 'x' hmem) (by decide)
  have hupper : 'X' ∉ cs := fun hmem => absurd (h 'X' hmem) (by decide)
  unfold stripMark
  split
  · simp at hlower
  · simp at hupper
  · rfl

end Quantity

theorem Blob.length_stripMark_of_word? {cs : List Char} {n : Nat} (h : word? cs = some n) :
    Quantity.number? 16 (Quantity.stripMark cs) = some n ∧
      (Quantity.stripMark cs).length ≤ wordDigits := by
  simp only [word?, Option.ite_none_right_eq_some] at h
  refine ⟨h.2, ?_⟩
  rw [← h.1]
  exact Utf8.length_le_size _

theorem Blob.readNat_eq_ok_iff {s : String} {n : Nat} :
    readNat s = .ok n ↔ word? s.toList = some n := by
  unfold readNat
  split
  · rename_i m hm
    simp [hm]
  · rename_i hnone
    simp [hnone]

theorem Blob.readNat_lt {s : String} {n : Nat} (h : readNat s = .ok n) :
    n < Nat.pow 16 s.toList.length := by
  obtain ⟨hnumber, -⟩ := length_stripMark_of_word? (readNat_eq_ok_iff.1 h)
  exact (Quantity.number?_lt (by decide) hnumber).trans_le
    (Quantity.pow_le_of_sublist (by decide) (Quantity.stripMark_sublist _))

theorem Blob.readNat_lt_word {s : String} {n : Nat} (h : readNat s = .ok n) :
    n < Nat.pow 2 256 := by
  obtain ⟨hnumber, hlen⟩ := length_stripMark_of_word? (readNat_eq_ok_iff.1 h)
  have hpow : Nat.pow 16 wordDigits = Nat.pow 2 256 := by decide
  rw [← hpow]
  exact (Quantity.number?_lt (by decide) hnumber).trans_le (Nat.pow_le_pow_right (by decide) hlen)

/-! ## Digits as characters -/

theorem Hex.digit_eq_digitChar : ∀ d < 16, digit d = Nat.digitChar d := by decide

theorem Hex.map_digit_eq {ds : List Nat} (h : ∀ d ∈ ds, d < 16) :
    ds.map digit = ds.map Nat.digitChar :=
  List.map_congr_left fun d hd => digit_eq_digitChar d (h d hd)

namespace Digits

variable {base : Nat}

theorem value?_eq_some_iff (hbase : base ≤ 16) {c : Char} {d : Nat} :
    value? base c = some d ↔ d < base ∧ c.toLower = Nat.digitChar d := by
  have hsixteen : value? base c = some d ↔ value? 16 c = some d ∧ d < base := by
    simp only [value?, Option.filter_eq_some_iff, decide_eq_true_eq]
    constructor
    · rintro ⟨hvalue, hd⟩
      exact ⟨⟨hvalue, by omega⟩, hd⟩
    · rintro ⟨⟨hvalue, -⟩, hd⟩
      exact ⟨hvalue, hd⟩
  rw [hsixteen, Hex.value?_eq_some_iff]
  constructor
  · rintro ⟨⟨hlt, hc⟩, hd⟩
    exact ⟨hd, by rw [hc, Hex.digit_eq_digitChar d hlt]⟩
  · rintro ⟨hd, hc⟩
    have hlt : d < 16 := by omega
    exact ⟨⟨hlt, by rw [hc, Hex.digit_eq_digitChar d hlt]⟩, hd⟩

theorem values?_eq_some_iff (hbase : base ≤ 16) {cs : List Char} {ds : List Nat} :
    values? base cs = some ds ↔
      (∀ d ∈ ds, d < base) ∧ cs.map Char.toLower = ds.map Nat.digitChar := by
  induction cs generalizing ds with
  | nil =>
    simp only [values?, Option.some.injEq, List.map_nil]
    constructor
    · rintro rfl
      exact ⟨List.forall_mem_nil _, rfl⟩
    · rintro ⟨-, h⟩
      exact (List.map_eq_nil_iff.1 h.symm).symm
  | cons c cs ih =>
    simp only [values?, Option.bind_eq_bind, Option.bind_eq_some_iff, Option.pure_def,
      Option.some.injEq]
    constructor
    · rintro ⟨d, hd, ds, hds, rfl⟩
      obtain ⟨hlt, hc⟩ := (value?_eq_some_iff hbase).1 hd
      obtain ⟨hall, hcs⟩ := ih.1 hds
      refine ⟨List.forall_mem_cons.2 ⟨hlt, hall⟩, ?_⟩
      rw [List.map_cons, List.map_cons, hc, hcs]
    · rintro ⟨hall, h⟩
      obtain ⟨d, ds, rfl, hd, hds⟩ := List.map_eq_cons_iff.1 h.symm
      obtain ⟨hlt, hall⟩ := List.forall_mem_cons.1 hall
      exact ⟨d, (value?_eq_some_iff hbase).2 ⟨hlt, hd.symm⟩, ds, ih.2 ⟨hall, hds.symm⟩, rfl⟩

theorem denotes_toDigits (hb : 2 ≤ base) (hbase : base ≤ 16) (n : Nat) :
    Denotes base (Nat.toDigits base n) n := by
  have hlower : ∀ d < 16, (Nat.digitChar d).toLower = Nat.digitChar d := by decide
  refine ⟨Nat.toDigits_ne_nil, ?_⟩
  rcases Nat.eq_zero_or_pos n with rfl | hn
  · have hzero : values? base ['0'] = some [0] :=
      (values?_eq_some_iff hbase).2 ⟨by simp; omega, rfl⟩
    rw [Nat.toDigits_zero, hzero]
    rfl
  · have hlt : ∀ d ∈ ofNat base n, d < base := fun d hd => lt_of_mem_ofNat hb hd
    have hvalues : values? base (Nat.toDigits base n) = some (ofNat base n) := by
      rw [values?_eq_some_iff hbase, toDigits_eq_map_ofNat hb hn, List.map_map]
      exact ⟨hlt, List.map_congr_left fun d hd => hlower d (by have := hlt d hd; omega)⟩
    rw [hvalues, Option.map_some, fold_ofNat hb]

end Digits

namespace Quantity

theorem mark_append (cs : List Char) :
    "0x" ++ String.ofList cs = String.ofList ('0' :: 'x' :: cs) := by
  rw [← String.toList_inj]
  simp

theorem readNat_write (n : Nat) : readNat (write n) = .ok n := by
  have hdenotes : Digits.Denotes 16 (Nat.toDigits 16 n) n :=
    Digits.denotes_toDigits (by decide) (Nat.le_refl 16) n
  rw [write, mark_append, readNat_of_denotes hdenotes]

theorem readBytes_mark_text (bs : Bytes) : readBytes ("0x" ++ Hex.text bs) = .ok bs := by
  rw [Hex.text, mark_append, readBytes_mark]

end Quantity

/-! ## The digits of bytes -/

namespace Hex

theorem values?_of_spells {cs : List Char} {bs : Bytes} (h : Spells cs (encode bs)) :
    Digits.values? 16 cs = some (halves bs) := by
  have hlt : ∀ d ∈ halves bs, d < 16 := lt_of_mem_halves
  rw [Spells, encode_eq_map, map_digit_eq hlt] at h
  exact (Digits.values?_eq_some_iff (Nat.le_refl 16)).2 ⟨hlt, h⟩

theorem fold_halves (bs : Bytes) : Digits.fold 16 (halves bs) = bs.toNat := by
  induction bs using List.reverseRecOn with
  | nil => rfl
  | append_singleton bs b ih =>
    have happend : halves (bs ++ [b]) = halves bs ++ [b.toNat / 16] ++ [b.toNat % 16] := by
      simp [halves]
    rw [happend, Digits.fold_append_singleton, Digits.fold_append_singleton, ih,
      Bytes.toNat_append_singleton]
    omega

theorem denotes_of_spells {cs : List Char} {bs : Bytes} (h : Spells cs (encode bs))
    (hbs : bs ≠ []) : Digits.Denotes 16 cs bs.toNat := by
  refine ⟨?_, ?_⟩
  · rintro rfl
    have hsize := size_of_spells h
    have hpos := List.length_pos_iff.2 hbs
    rw [Utf8.size, Utf8.encode_nil, List.length_nil] at hsize
    omega
  · rw [values?_of_spells h, Option.map_some, fold_halves]

theorem denotes_encode {bs : Bytes} (h : bs ≠ []) :
    Digits.Denotes 16 (encode bs) bs.toNat := denotes_of_spells (spells_encode bs) h

theorem stripMark_encode (bs : Bytes) : Quantity.stripMark (encode bs) = encode bs :=
  Quantity.stripMark_of_isHex (isHex_of_mem_encode bs)

theorem readNat_text {bs : Bytes} (h : bs ≠ []) : Quantity.readNat (text bs) = .ok bs.toNat := by
  have hdenotes := denotes_encode h
  rw [Quantity.readNat, text, String.toList_ofList, stripMark_encode]
  split
  · rename_i hnil
    exact absurd hnil hdenotes.nonempty
  · rw [Quantity.number?_of_denotes hdenotes]

theorem word?_of_spells {cs : List Char} {bs : Bytes} (h : Spells cs (encode bs))
    (hlen : bs.length = 32) : Blob.word? cs = some bs.toNat := by
  have hsize := size_of_spells h
  have hne : bs ≠ [] := List.ne_nil_of_length_eq_add_one hlen
  rw [Blob.word?, Quantity.stripMark_of_isHex (isHex_of_spells h), Blob.wordDigits,
    if_pos (by omega), Quantity.number?_of_denotes (denotes_of_spells h hne)]

theorem readWord_text_eq_ok_iff {bs : Bytes} {n : Nat} :
    Blob.readNat (text bs) = .ok n ↔ bs.length = 32 ∧ n = bs.toNat := by
  rw [Blob.readNat_eq_ok_iff, text, String.toList_ofList]
  by_cases hlen : bs.length = 32
  · rw [word?_of_spells (spells_encode bs) hlen]
    simp [hlen, eq_comm]
  · have hsize := size_of_spells (spells_encode bs)
    rw [Blob.word?, stripMark_encode, Blob.wordDigits, if_neg (by omega)]
    simp [hlen]

end Hex
end Tronkit
