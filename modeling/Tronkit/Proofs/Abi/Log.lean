import Tronkit.Proofs.Abi.Events
import Mathlib.Data.List.Forall2

/-!
# Logs of any event

A value that fits into a word is written as this word, in a topic if its parameter is indexed and
in the data if it is not. Both are read back as they were written, and the values are put in the
order of the declaration by the names of their parameters. So an event is decoded as it was emitted
exactly if parameters of one name have one value. Unnamed parameters all have the empty name.
-/

namespace Tronkit

namespace AbiValue

/-- The values of the types whose values are written as one word. -/
inductive IsWord : AbiType → AbiValue → Prop
  | address (a : Address) : IsWord .address (.address a)
  | uint {bits n : Nat} (hbits : bits ≤ 256) (hn : n < Nat.pow 2 bits) : IsWord (.uint bits) (.uint n)
  | int {bits : Nat} {z : Int} (hbits : bits ≤ 256) (hlow : -(Nat.pow 2 bits : Nat) ≤ 2 * z)
      (hhigh : 2 * z < (Nat.pow 2 bits : Nat)) : IsWord (.int bits) (.int z)
  | bool (b : Bool) : IsWord .bool (.bool b)
  | bytes {size : Nat} {bs : Bytes} (hlen : bs.length = size) (hpos : 1 ≤ size) (hle : size ≤ 32) :
      IsWord (.fixedBytes size) (.bytes bs)

/-- The word of a value: a number at its end, where negative ones count down from the top, and bytes
at its beginning. Texts and sequences have none. -/
def word : AbiValue → Bytes
  | address a => a.topic
  | uint n => Bytes.ofNat 32 n
  | int z => Bytes.ofNat 32 (z % (Nat.pow 2 256 : Nat)).toNat
  | bool b => Bytes.ofNat 32 (if b then 1 else 0)
  | bytes bs => bs ++ Bytes.zeros (32 - bs.length)
  | string _ | array _ | tuple _ => []

open AbiToken (Fits part)

theorem toInt_ofInt_of_bounds {bits : Nat} {z : Int} (hbits : bits ≤ 256)
    (hlow : -(Nat.pow 2 bits : Nat) ≤ 2 * z) (hhigh : 2 * z < (Nat.pow 2 bits : Nat)) :
    (BitVec.ofInt 256 z).toInt = z := by
  have hle : Nat.pow 2 bits ≤ Nat.pow 2 256 := Nat.pow_le_pow_right (by decide) hbits
  have htop : Nat.pow 2 256 = 2 * Nat.pow 2 255 := by decide
  rw [BitVec.toInt_ofInt]
  apply Int.bmod_eq_of_le
  · change -((Nat.pow 2 256 : Nat) / 2 : Int) ≤ z
    omega
  · change z < ((Nat.pow 2 256 : Nat) + 1 : Int) / 2
    omega

theorem IsWord.token {t : AbiType} {v : AbiValue} (h : IsWord t v) :
    t.asTopic = t ∧ ∃ τ, Fits t τ ∧ ofToken τ = v ∧ part τ = .head v.word := by
  cases h with
  | address a =>
    refine ⟨rfl, .address a, .address a, rfl, ?_⟩
    rw [part, word, a.topic_eq_word]
  | @uint bits n hbits hn =>
    have hle : Nat.pow 2 bits ≤ Nat.pow 2 256 := Nat.pow_le_pow_right (by decide) hbits
    have hn' : (BitVec.ofNat 256 n).toNat = n := by
      rw [BitVec.toNat_ofNat]
      exact Nat.mod_eq_of_lt (hn.trans_le hle)
    refine ⟨rfl, .uint (BitVec.ofNat 256 n), .uint bits _, ?_, ?_⟩
    · rw [ofToken, hn']
    · rw [part, hn']
      rfl
  | @int bits z hbits hlow hhigh =>
    refine ⟨rfl, .int (BitVec.ofInt 256 z), .int bits _, ?_, ?_⟩
    · rw [ofToken, toInt_ofInt_of_bounds hbits hlow hhigh]
    · rw [part, BitVec.toNat_ofInt]
      rfl
  | bool b => exact ⟨rfl, .bool b, .bool b, rfl, rfl⟩
  | @bytes size bs hlen hpos hle =>
    refine ⟨rfl, .fixedBytes bs, .fixedBytes hlen hpos hle, rfl, ?_⟩
    have hpad : (32 - bs.length % 32) % 32 = 32 - bs.length := by omega
    rw [part, word, Bytes.padWords, hpad]

end AbiValue

open AbiValue (IsWord)

theorem AbiToken.join_heads (bss : List Bytes) : join (bss.map .head) = bss.flatten := by
  have htails : tails (bss.map .head) = [] := by
    induction bss with
    | nil => rfl
    | cons bs bss ih => exact ih
  have hheads : ∀ offset, heads offset (bss.map .head) = bss.flatten := by
    intro offset
    induction bss with
    | nil => rfl
    | cons bs bss ih => rw [List.map_cons, heads, ih htails, List.flatten_cons]
  rw [join, hheads, htails, List.append_nil]

theorem AbiToken.exists_of_words {types : List AbiType} {values : List AbiValue}
    (h : List.Forall₂ IsWord types values) :
    ∃ ts, List.Forall₂ Fits types ts ∧ ts.map AbiValue.ofToken = values ∧
      ts.map part = (values.map AbiValue.word).map .head := by
  induction h with
  | nil => exact ⟨[], .nil, rfl, rfl⟩
  | cons hword _ ih =>
    obtain ⟨-, τ, hfit, rfl, hpart⟩ := hword.token
    obtain ⟨ts, hfits, rfl, hparts⟩ := ih
    refine ⟨τ :: ts, .cons hfit hfits, rfl, ?_⟩
    rw [List.map_cons, hpart, hparts]
    rfl

theorem AbiToken.decode_words {types : List AbiType} {values : List AbiValue}
    (h : List.Forall₂ IsWord types values) :
    ∃ ts, decode types (values.map AbiValue.word).flatten = .ok ts ∧
      ts.map AbiValue.ofToken = values := by
  obtain ⟨ts, hfits, hvalues, hparts⟩ := exists_of_words h
  have hencode : encode ts = (values.map AbiValue.word).flatten := by
    rw [encode, parts_eq_map, hparts, join_heads]
  -- No part has a tail, so no offset is written.
  have hhead : ∀ τ ∈ ts, (part τ).isTail = false := by
    intro τ hτ
    have hmem : part τ ∈ (values.map AbiValue.word).map .head := hparts ▸ List.mem_map_of_mem hτ
    obtain ⟨bs, -, hbs⟩ := List.mem_map.1 hmem
    rw [← hbs]
    rfl
  refine ⟨ts, ?_, hvalues⟩
  rw [← hencode]
  exact decode_encode hfits fun τ hτ htail => absurd htail (by rw [hhead τ hτ]; decide)

namespace AbiEvent

variable {e : AbiEvent} {values : List AbiValue}

def given (e : AbiEvent) (indexed : Bool) (values : List AbiValue) :
    List (EventParameter × AbiValue) :=
  (e.inputs.zip values).filter (·.1.indexed = indexed)

def words (e : AbiEvent) (indexed : Bool) (values : List AbiValue) : List Bytes :=
  ((e.given indexed values).map Prod.snd).map AbiValue.word

/-- The values under the names of their parameters, the indexed ones first. -/
def named (e : AbiEvent) (values : List AbiValue) : List (String × AbiValue) :=
  (e.given true values ++ e.given false values).map fun a => (a.1.name, a.2)

def Shows (e : AbiEvent) (values : List AbiValue) (p : EventParameter) (v : AbiValue) : Prop :=
  ∃ front rest, e.named values = front ++ (p.name, v) :: rest ∧ p.name ∉ rest.map Prod.fst

def OneValueEach (e : AbiEvent) (values : List AbiValue) : Prop :=
  ∀ a ∈ e.inputs.zip values, ∀ b ∈ e.inputs.zip values, a.1.name = b.1.name → a.2 = b.2

def Takes (e : AbiEvent) (values : List AbiValue) : Prop :=
  List.Forall₂ IsWord (e.inputs.map EventParameter.type) values

theorem Takes.length (h : e.Takes values) : e.inputs.length = values.length := by
  have hlen := List.Forall₂.length_eq h
  rwa [List.length_map] at hlen

theorem Takes.isWord (h : e.Takes values) :
    ∀ a ∈ e.inputs.zip values, IsWord a.1.type a.2 := by
  rintro ⟨p, v⟩ hmem
  exact List.forall₂_zip (List.forall₂_map_left_iff.1 h) hmem

theorem Takes.inputs (h : e.Takes values) : (e.inputs.zip values).map Prod.fst = e.inputs :=
  List.map_fst_zip h.length.le

theorem Takes.parameters (h : e.Takes values) (indexed : Bool) :
    e.parameters indexed = (e.given indexed values).map Prod.fst := by
  conv_lhs => rw [AbiEvent.parameters, ← h.inputs, List.filter_map]
  rfl

theorem Takes.decode_words (h : e.Takes values) (indexed : Bool) :
    ∃ ts, AbiToken.decode ((e.parameters indexed).map EventParameter.type)
        (e.words indexed values).flatten = .ok ts ∧
      ts.map AbiValue.ofToken = (e.given indexed values).map Prod.snd := by
  rw [h.parameters, List.map_map]
  refine AbiToken.decode_words ?_
  rw [List.forall₂_map_left_iff, List.forall₂_map_right_iff, List.forall₂_same]
  intro a ha
  exact h.isWord a (List.mem_of_mem_filter ha)

/-! ## Values by the names of the parameters -/

theorem shows_iff_lookup {p : EventParameter} {v : AbiValue} :
    e.Shows values p v ↔ (e.named values).reverse.lookup p.name = some v :=
  Keyed.lookup_reverse_eq_some_iff.symm

theorem Shows.unique {p q : EventParameter} {v w : AbiValue} (hv : e.Shows values p v)
    (hw : e.Shows values q w) (hname : p.name = q.name) : v = w := by
  rw [shows_iff_lookup] at hv hw
  rw [hname, hw] at hv
  exact (Option.some.inj hv).symm

theorem mem_named {a : String × AbiValue} :
    a ∈ e.named values ↔ ∃ p, (p, a.2) ∈ e.inputs.zip values ∧ p.name = a.1 := by
  obtain ⟨name, v⟩ := a
  rw [named, List.mem_map]
  constructor
  · rintro ⟨⟨p, w⟩, hmem, heq⟩
    cases heq
    rw [List.mem_append] at hmem
    exact ⟨p, hmem.elim List.mem_of_mem_filter List.mem_of_mem_filter, rfl⟩
  · rintro ⟨p, hmem, rfl⟩
    refine ⟨(p, v), List.mem_append.2 ?_, rfl⟩
    cases hindexed : p.indexed with
    | true => exact .inl (List.mem_filter.2 ⟨hmem, by simp [hindexed]⟩)
    | false => exact .inr (List.mem_filter.2 ⟨hmem, by simp [hindexed]⟩)

theorem Shows.mem {p : EventParameter} {v : AbiValue} (h : e.Shows values p v) :
    ∃ q, (q, v) ∈ e.inputs.zip values ∧ q.name = p.name := by
  obtain ⟨front, rest, hsplit, -⟩ := h
  exact mem_named.1 (hsplit ▸ List.mem_append_right front List.mem_cons_self)

theorem exists_shows {p : EventParameter} {v : AbiValue} (h : (p, v) ∈ e.inputs.zip values) :
    ∃ w, e.Shows values p w := by
  have hmem : (p.name, v) ∈ (e.named values).reverse :=
    List.mem_reverse.2 (mem_named.2 ⟨p, h, rfl⟩)
  have hsome : ((e.named values).reverse.lookup p.name).isSome :=
    List.lookup_isSome_iff.2 ⟨_, hmem, beq_self_eq_true _⟩
  obtain ⟨w, hw⟩ := Option.isSome_iff_exists.1 hsome
  exact ⟨w, shows_iff_lookup.2 hw⟩

/-- Every parameter shows its own value exactly if parameters of one name have one value. -/
theorem shows_own_iff (hlen : e.inputs.length = values.length) :
    List.Forall₂ (e.Shows values) e.inputs values ↔ e.OneValueEach values := by
  constructor
  · rintro h ⟨p, v⟩ hv ⟨q, w⟩ hw hname
    exact (List.forall₂_zip h hv).unique (List.forall₂_zip h hw) hname
  · intro h
    refine List.forall₂_iff_zip.2 ⟨hlen, fun {p v} hmem => ?_⟩
    obtain ⟨w, hw⟩ := exists_shows hmem
    obtain ⟨q, hq, hname⟩ := hw.mem
    obtain rfl : w = v := h (q, w) hq (p, v) hmem hname
    exact hw

theorem Takes.oneValueEach (h : e.Takes values)
    (hnames : (e.inputs.map EventParameter.name).Nodup) : e.OneValueEach values := by
  rw [← h.inputs, List.map_map] at hnames
  intro a ha b hb hname
  rw [List.inj_on_of_nodup_map hnames ha hb hname]

theorem filterMap_shows {ps : List EventParameter} (hps : ∀ p ∈ ps, ∃ v, e.Shows values p v) :
    ∃ shown, (ps.filterMap fun p =>
        ((e.named values).reverse.lookup p.name).map (p.name, ·)) =
          (ps.map EventParameter.name).zip shown ∧ List.Forall₂ (e.Shows values) ps shown := by
  induction ps with
  | nil => exact ⟨[], rfl, .nil⟩
  | cons p ps ih =>
    obtain ⟨v, hv⟩ := hps p List.mem_cons_self
    obtain ⟨shown, hzip, hshown⟩ := ih fun q hq => hps q (List.mem_cons_of_mem p hq)
    refine ⟨v :: shown, ?_, .cons hv hshown⟩
    rw [List.filterMap_cons, shows_iff_lookup.1 hv, hzip]
    rfl

theorem Takes.asTopic (h : e.Takes values) (indexed : Bool) :
    ((e.parameters indexed).map fun p => p.type.asTopic) =
      (e.parameters indexed).map EventParameter.type := by
  rw [h.parameters, List.map_map, List.map_map]
  exact List.map_congr_left fun a ha => (h.isWord a (List.mem_of_mem_filter ha)).token.1

theorem decode_words (h : e.Takes values) :
    ∃ shown, e.decode (e.words true values) (e.words false values).flatten =
        .ok ⟨e.name, (e.inputs.map EventParameter.name).zip shown⟩ ∧
      List.Forall₂ (e.Shows values) e.inputs shown := by
  obtain ⟨topicTokens, htopics, htopicValues⟩ := h.decode_words true
  obtain ⟨dataTokens, hdata, hdataValues⟩ := h.decode_words false
  have hcount : topicTokens.length = (e.words true values).length := by
    have hlen := congrArg List.length htopicValues
    rwa [List.length_map, ← List.length_map AbiValue.word] at hlen
  have hread : (topicTokens ++ dataTokens).map AbiValue.ofToken =
      (e.given true values ++ e.given false values).map Prod.snd := by
    rw [List.map_append, List.map_append, htopicValues, hdataValues]
  have hnamed : (((e.parameters true ++ e.parameters false).map EventParameter.name).zip
      ((topicTokens ++ dataTokens).map AbiValue.ofToken)) = e.named values := by
    rw [hread, h.parameters, h.parameters, ← List.map_append, List.map_map, List.zip_map']
    rfl
  have hfound : ∀ p ∈ e.inputs, ∃ v, e.Shows values p v := by
    intro p hp
    rw [← h.inputs] at hp
    obtain ⟨a, ha, rfl⟩ := List.mem_map.1 hp
    exact exists_shows ha
  obtain ⟨shown, hzip, hshown⟩ := filterMap_shows hfound
  refine ⟨shown, ?_, hshown⟩
  simp only [decode, h.asTopic, htopics, hdata, ok_bind, hcount, hnamed, hzip, ne_eq, not_true,
    if_false]
  rfl

end AbiEvent

/-- The log of an event is decoded as the event with its parameters in the order of the declaration.
Each parameter shows its own value exactly if parameters of one name have one value. -/
theorem Registry.decodeLog_words {r : Registry} {name : String} {i : Interface} {e : AbiEvent}
    {values : List AbiValue} (hget : r.get name = .ok i) (he : e ∈ i.events)
    (hplain : e.anonymous = false) (hid : ∀ e' ∈ i.events, e'.id = e.id → e' = e)
    (hvalues : e.Takes values) :
    ∃ shown, r.decodeLog name (e.id :: e.words true values) (e.words false values).flatten =
        .ok ⟨e.name, (e.inputs.map EventParameter.name).zip shown⟩ ∧
      List.Forall₂ (e.Shows values) e.inputs shown ∧ (shown = values ↔ e.OneValueEach values) := by
  obtain ⟨shown, hdecode, hshown⟩ := e.decode_words hvalues
  refine ⟨shown, ?_, hshown, ?_⟩
  · rw [decodeLog_eq_decode hget he hplain hid, hdecode]
    rfl
  · rw [← AbiEvent.shows_own_iff hvalues.length]
    constructor
    · rintro rfl
      exact hshown
    · intro h
      exact List.right_unique_forall₂' (fun _ _ _ hv hw => hv.unique hw rfl) hshown h

/-! ## A payment and its unnamed kin -/

namespace AbiEvent

def payment : AbiEvent where
  name := "Paid"
  inputs := [⟨"change", .int 8, false⟩, ⟨"payer", .address, true⟩, ⟨"done", .bool, false⟩,
    ⟨"tag", .fixedBytes 2, true⟩]
  anonymous := false

def unnamedPayment : AbiEvent where
  name := "Paid"
  inputs := [⟨"", .address, true⟩, ⟨"", .uint 256, false⟩]
  anonymous := false

end AbiEvent

open AbiEvent (payment unnamedPayment)

theorem Registry.decodeLog_words_of_payment :
    (empty.put "Shop" ⟨[], [payment]⟩).decodeLog "Shop"
        (payment.id :: payment.words true [.int (-5), .address ⟨7⟩, .bool true, .bytes [1, 2]])
        (payment.words false [.int (-5), .address ⟨7⟩, .bool true, .bytes [1, 2]]).flatten =
      .ok ⟨"Paid", [("change", .int (-5)), ("payer", .address ⟨7⟩), ("done", .bool true),
        ("tag", .bytes [1, 2])]⟩ := by
  have htakes : payment.Takes [.int (-5), .address ⟨7⟩, .bool true, .bytes [1, 2]] :=
    .cons (.int (by decide) (by decide) (by decide)) (.cons (.address ⟨7⟩) (.cons (.bool true)
      (.cons (.bytes rfl (by decide) (by decide)) .nil)))
  obtain ⟨shown, hdecode, -, hown⟩ := decodeLog_words (get_put_same empty "Shop" ⟨[], [payment]⟩)
    List.mem_cons_self rfl (fun _ hmem _ => List.mem_singleton.1 hmem) htakes
  obtain rfl := hown.2 (htakes.oneValueEach (by decide))
  exact hdecode

/-- Two parameters without names both show the value of the one that is not indexed. -/
theorem Registry.decodeLog_unnamed :
    unnamedPayment.Takes [.address ⟨7⟩, .uint 5] ∧
      (empty.put "Shop" ⟨[], [unnamedPayment]⟩).decodeLog "Shop"
          (unnamedPayment.id :: unnamedPayment.words true [.address ⟨7⟩, .uint 5])
          (unnamedPayment.words false [.address ⟨7⟩, .uint 5]).flatten ≠
        .ok ⟨"Paid", [("", .address ⟨7⟩), ("", .uint 5)]⟩ := by
  have hdecode : unnamedPayment.decode (unnamedPayment.words true [.address ⟨7⟩, .uint 5])
      (unnamedPayment.words false [.address ⟨7⟩, .uint 5]).flatten =
        .ok ⟨"Paid", [("", .uint 5), ("", .uint 5)]⟩ := rfl
  refine ⟨.cons (.address ⟨7⟩) (.cons (.uint (by decide) (by decide)) .nil), ?_⟩
  rw [decodeLog_eq_decode (get_put_same empty "Shop" ⟨[], [unnamedPayment]⟩) List.mem_cons_self rfl
    (fun _ hmem _ => List.mem_singleton.1 hmem), hdecode]
  intro h
  cases h

end Tronkit
