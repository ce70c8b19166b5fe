import Tronkit.Proofs.Json.Record

/-!
# Written values are read

A text that was written for a value is read as the value, in front of any end. In a written object
each member stands at the place of its key, so a record is read from the members that were written
for its fields.
-/

namespace Tronkit.Json

def Written (text : List Char) : Prop :=
  ∀ rest, Ends rest → Passes none (Utf8.encode text ++ rest) rest

def Reader.Reads {α : Type} (r : Reader α) (depth : Nat) (text : List Char) (a : α) : Prop :=
  ∀ rest, Ends rest → r depth (Utf8.encode text ++ rest) = .ok (a, rest)

theorem Reader.Reads.written {α : Type} {r : Reader α} {depth : Nat} {text : List Char} {a : α}
    (hr : r.Exact) (h : r.Reads depth text a) : Written text :=
  fun rest hends => hr (h rest hends)

theorem Reader.Reads.parse {α : Type} {r : Reader α} {text : List Char} {a : α}
    (h : r.Reads maxDepth text a) : Json.parse r (Utf8.encode text) = .ok a := by
  have hread := h [] trivial
  rw [List.append_nil] at hread
  exact parse_eq_ok_iff.2 ⟨[], hread, rfl⟩

theorem Reader.Reads.parseText {α : Type} {r : Reader α} {text : List Char} {a : α}
    (h : r.Reads maxDepth text a) : Json.parseText r (String.ofList text) = .ok a := by
  rw [Json.parseText, textBytes, String.toList_ofList]
  exact h.parse

theorem reads_string (depth : Nat) (s : String) : Reader.string.Reads depth (Render.string s) s :=
  fun rest _ => stringAt_encode s rest

theorem reads_bool (depth : Nat) (b : Bool) : Reader.bool.Reads depth (Render.bool b) b := by
  intro rest _
  cases b <;> rfl

theorem reads_choice {α : Type} {names : List (String × α)} {s : String} {a : α}
    (h : names.lookup s = some a) (depth : Nat) :
    (Reader.choice names).Reads depth (Render.string s) a := by
  intro rest _
  obtain ⟨bs, hbytes⟩ : ∃ bs, Utf8.encode (Render.string s) = 0x22 :: bs := ⟨_, encode_string s⟩
  have hfront : skipBlanks (Utf8.encode (Render.string s) ++ rest) =
      Utf8.encode (Render.string s) ++ rest := by
    rw [hbytes]
    exact skipBlanks_cons (by decide) _
  unfold Reader.choice
  split
  · rename_i t hbrace
    rw [hfront, hbytes] at hbrace
    exact absurd (List.cons.inj hbrace).1 (by decide)
  · rw [hfront, stringAt_encode, ok_bind]
    simp only [h, Reader.ofOption, ok_bind]
    rfl

@[simp] theorem written_string (s : String) : Written (Render.string s) :=
  (reads_string 0 s).written Reader.exact_string

@[simp] theorem written_bool (b : Bool) : Written (Render.bool b) :=
  (reads_bool 0 b).written Reader.exact_bool

/-- A text that does not begin with a blank or as `null` does. -/
def IsPresent (text : List Char) : Prop :=
  ∃ b bs, Utf8.encode text = b :: bs ∧ isBlank b = false ∧ b ≠ 0x6E

theorem isPresent_string (s : String) : IsPresent (Render.string s) :=
  ⟨0x22, _, encode_string s, by decide, by decide⟩

theorem Reader.option_of_isPresent {α : Type} {r : Reader α} {text : List Char}
    (h : IsPresent text) (depth : Nat) (rest : Bytes) :
    Reader.option r depth (Utf8.encode text ++ rest) =
      r.map some depth (Utf8.encode text ++ rest) := by
  obtain ⟨b, bs, htext, hblank, hnull⟩ := h
  have hskip : skipBlanks (b :: (bs ++ rest)) = b :: (bs ++ rest) := skipBlanks_of_stops hblank
  rw [htext, List.cons_append]
  unfold Reader.option
  simp only [hskip]
  split
  · rename_i t hfront
    cases hfront
    exact absurd rfl hnull
  · rfl

theorem Reader.Reads.option {α : Type} {r : Reader α} {depth : Nat} {text : List Char} {a : α}
    (h : r.Reads depth text a) (hpresent : IsPresent text) :
    (Reader.option r).Reads depth text (some a) := by
  intro rest hends
  rw [option_of_isPresent hpresent]
  exact Reader.map_eq_ok_iff.2 ⟨a, h rest hends, rfl⟩

/-! ## Texts kept as they are -/

/-- The text of a value that is not `null`, without blanks around it. -/
def IsRaw (s : String) : Prop := Written s.toList ∧ IsPresent s.toList

theorem isRaw_of_verbatim {depth : Nat} {place rest : Bytes} {s : String}
    (h : Reader.option Reader.verbatim depth place = .ok (some s, rest)) :
    IsRaw s ∧ valueText? place = some (textBytes s) := by
  unfold Reader.option at h
  split at h
  · obtain ⟨r, -, h⟩ := bind_eq_ok_iff.1 h
    cases h
  · rename_i hnull
    obtain ⟨s', hread, hs⟩ := Reader.map_eq_ok_iff.1 h
    cases hs
    obtain ⟨rest', hskip, hread⟩ := bind_eq_ok_iff.1 hread
    obtain ⟨s', htext, hread⟩ := bind_eq_ok_iff.1 hread
    rw [Reader.ofOption_eq_ok_iff] at hskip htext
    cases hread
    rw [skipBlanks_skipBlanks, skipValue?_eq_some_iff] at hskip
    rw [skipBlanks_skipBlanks] at htext
    obtain ⟨v, hv, hfront, hlocal⟩ := hskip.local
    have hlen : (skipBlanks place).length - rest.length = v.length := by
      rw [hfront, List.length_append]
      omega
    rw [hlen, hfront, List.take_left] at htext
    have hbytes : Utf8.encode s.toList = v := textBytes_of_textOfBytes? htext
    refine ⟨⟨?_, ?_⟩, ?_⟩
    · intro tail hends
      rw [hbytes]
      exact hlocal tail hends
    · obtain ⟨b, bs, rfl⟩ := List.exists_cons_of_ne_nil hv
      have hblank : Stops isBlank (b :: bs ++ rest) := hfront ▸ stops_skipBlanks place
      exact ⟨b, bs, hbytes, hblank, fun hb => hnull (bs ++ rest) (by rw [hfront, hb]; rfl)⟩
    · obtain ⟨u, hu, htext'⟩ := valueText?_of_passes (passes_skipBlanks.1 hskip)
      rw [hfront] at hu
      rw [htext', ← List.append_cancel_right hu]
      exact congrArg some hbytes.symm

theorem valueText?_of_null {α : Type} {r : Reader α} {depth : Nat} {place rest : Bytes}
    (h : Reader.option r depth place = .ok (none, rest)) : valueText? place = some nullWord := by
  unfold Reader.option at h
  split at h
  · rename_i t hfront
    obtain ⟨rest', hnull, h⟩ := bind_eq_ok_iff.1 h
    cases h
    rw [Reader.ofOption_eq_ok_iff, after?_eq_some_iff, ← hfront] at hnull
    obtain ⟨u, hu, htext⟩ := valueText?_of_passes (.null hnull)
    rw [hnull] at hu
    rw [htext, ← List.append_cancel_right hu]
  · obtain ⟨a, -, ha⟩ := Reader.map_eq_ok_iff.1 h
    cases ha

theorem IsRaw.ne_null {s : String} (h : IsRaw s) : textBytes s ≠ nullWord := by
  obtain ⟨-, b, bs, htext, -, hnull⟩ := h
  intro hs
  have hcons : b :: bs = nullWord := htext.symm.trans hs
  exact hnull (List.cons.inj hcons).1

/-- The text that is kept of the value at a place: nothing of a missing value or of `null`. -/
inductive KeptAt : Option Bytes → Option String → Prop
  | absent : KeptAt none none
  | null {place : Bytes} (h : valueText? place = some nullWord) : KeptAt (some place) none
  | text {place : Bytes} {s : String} (h : valueText? place = some (textBytes s))
    (hs : textBytes s ≠ nullWord) : KeptAt (some place) (some s)

theorem field?_verbatim {depth : Nat} {place : Option Bytes} {kept : Option (Option String)}
    (h : (Reader.option Reader.verbatim).field? depth place = some kept) :
    KeptAt place (kept.getD none) ∧ ∀ s, kept.getD none = some s → IsRaw s := by
  cases place with
  | none =>
    cases h
    exact ⟨.absent, fun s hs => nomatch hs⟩
  | some place =>
    obtain ⟨x, hx, rfl⟩ := Option.map_eq_some_iff.1 h
    obtain ⟨rest, hread⟩ := Reader.front?_eq_some hx
    rw [Option.getD_some]
    cases x with
    | none => exact ⟨.null (valueText?_of_null hread), fun s hs => nomatch hs⟩
    | some s =>
      obtain ⟨hraw, htext⟩ := isRaw_of_verbatim hread
      refine ⟨.text htext hraw.ne_null, fun s' hs' => ?_⟩
      cases hs'
      exact hraw

theorem reads_verbatim {s : String} (h : IsRaw s) (depth : Nat) :
    Reader.verbatim.Reads depth s.toList s := by
  intro rest hends
  obtain ⟨hwritten, b, bs, htext, hblank, -⟩ := h
  have hpasses := hwritten rest hends
  have hskip : skipBlanks (Utf8.encode s.toList ++ rest) = Utf8.encode s.toList ++ rest := by
    rw [htext]
    exact skipBlanks_of_stops hblank
  have hlen : (Utf8.encode s.toList ++ rest).length - rest.length =
      (Utf8.encode s.toList).length := by
    rw [List.length_append]
    omega
  have hs : textOfBytes? (Utf8.encode s.toList) = some s := textOfBytes?_textBytes s
  unfold Reader.verbatim
  simp only [hskip, skipValue?_eq_some_iff.2 hpasses, hlen, List.take_left, hs, Reader.ofOption,
    ok_bind]
  rfl

/-! ## Sequences -/

def followed : List (List Char) → Bytes → Bytes
  | [], tail => tail
  | t :: ts, tail => 0x2C :: (Utf8.encode t ++ followed ts tail)

theorem ends_cons {b : UInt8} (h : continuesNumeral b = false) (bs : Bytes) : Ends (b :: bs) := h

theorem ends_followed {tail : Bytes} (htail : Ends tail) (ts : List (List Char)) :
    Ends (followed ts tail) := by
  cases ts with
  | nil => exact htail
  | cons t ts => exact ends_cons (by decide) _

theorem length_followed (ts : List (List Char)) (tail : Bytes) :
    ts.length + tail.length ≤ (followed ts tail).length := by
  induction ts with
  | nil => simp [followed]
  | cons t ts ih =>
    rw [followed, List.length_cons, List.length_cons, List.length_append]
    omega

theorem encode_separated (t : List Char) (ts : List (List Char)) (tail : Bytes) :
    Utf8.encode (Render.separated (t :: ts)) ++ tail = Utf8.encode t ++ followed ts tail := by
  induction ts generalizing t with
  | nil => rfl
  | cons t' ts ih =>
    have hcomma : Utf8.encodeChar ',' = [0x2C] := rfl
    rw [Render.separated, Utf8.encode_append, Utf8.encode_cons, List.append_assoc,
      List.append_assoc, ih t', followed, hcomma]
    · rfl
    · simp

theorem items_cons {α : Type} {item : Step α} {fuel : Nat} {bs tail rest : Bytes} {a : α}
    {as : List α} {ts : List (List Char)} (hclose : skipBlanks tail = 0x5D :: rest)
    (hitem : item bs = .ok (a, followed ts tail))
    (hnext : ∀ t ts', ts = t :: ts' → Reader.items item fuel
      (Utf8.encode t ++ followed ts' tail) = .ok (as, rest)) (hnil : ts = [] → as = []) :
    Reader.items item (fuel + 1) bs = .ok (a :: as, rest) := by
  rw [Reader.items, hitem, ok_bind]
  cases ts with
  | nil =>
    rw [hnil rfl]
    simp only [followed, hclose]
    rfl
  | cons t ts' =>
    have hcomma : skipBlanks (followed (t :: ts') tail) =
        0x2C :: (Utf8.encode t ++ followed ts' tail) := skipBlanks_cons (by decide) _
    simp only [hcomma, hnext t ts' rfl, ok_bind]
    rfl

theorem reads_items {α : Type} {r : Reader α} {depth : Nat} {write : α → List Char}
    {tail rest : Bytes} {as : List α} {a : α} (htail : Ends tail)
    (hclose : skipBlanks tail = 0x5D :: rest) (h : ∀ b ∈ a :: as, r.Reads depth (write b) b) :
    ∀ {fuel : Nat}, as.length < fuel → Reader.items (r depth) fuel
      (Utf8.encode (write a) ++ followed (as.map write) tail) = .ok (a :: as, rest) := by
  induction as generalizing a with
  | nil =>
    intro fuel hfuel
    obtain ⟨fuel, rfl⟩ : ∃ k, fuel = k + 1 := ⟨fuel - 1, by omega⟩
    exact items_cons hclose (h a (by simp) _ (ends_followed htail _)) (by simp) (fun _ => rfl)
  | cons b as ih =>
    intro fuel hfuel
    obtain ⟨fuel, rfl⟩ : ∃ k, fuel = k + 1 := ⟨fuel - 1, by omega⟩
    rw [List.length_cons] at hfuel
    refine items_cons hclose (h a (by simp) _ (ends_followed htail _)) ?_ (by simp)
    intro t ts' hts
    cases hts
    exact ih (fun c hc => h c (List.mem_cons_of_mem a hc)) (by omega)

theorem encode_array (ts : List (List Char)) (rest : Bytes) :
    Utf8.encode (Render.array ts) ++ rest =
      0x5B :: (Utf8.encode (Render.separated ts) ++ 0x5D :: rest) := by
  have hopen : Utf8.encodeChar '[' = [0x5B] := rfl
  have hclose : Utf8.encode [']'] = [0x5D] := rfl
  rw [Render.array, List.cons_append, Utf8.encode_cons, Utf8.encode_append, hopen, hclose]
  simp

theorem elements_separated {α : Type} {r : Reader α} (hr : r.Exact) {depth : Nat}
    {write : α → List Char} {as : List α} {tail rest : Bytes} (htail : Ends tail)
    (hclose : skipBlanks tail = 0x5D :: rest) (h : ∀ a ∈ as, r.Reads depth (write a) a) :
    Reader.elements (r depth) (Utf8.encode (Render.separated (as.map write)) ++ tail) =
      .ok (as, rest) := by
  cases as with
  | nil =>
    have hempty : Utf8.encode (Render.separated (([] : List α).map write)) ++ tail = tail := rfl
    rw [hempty]
    unfold Reader.elements
    simp only [hclose]
  | cons a as =>
    rw [List.map_cons, encode_separated]
    have hitem := h a (by simp) (followed (as.map write) tail) (ends_followed htail _)
    have hlen := length_followed (as.map write) tail
    have hpos : 0 < tail.length := List.length_pos_iff.2 fun hnil => by
      rw [hnil] at hclose
      cases hclose
    rw [List.length_map] at hlen
    unfold Reader.elements
    split
    · rename_i t hempty
      exact absurd hempty ((hr hitem).front_ne t)
    · refine reads_items htail hclose h ?_
      rw [List.length_append]
      omega

theorem elements_rendered {α : Type} {r : Reader α} (hr : r.Exact) {depth : Nat}
    {write : α → List Char} {as : List α} (h : ∀ a ∈ as, r.Reads depth (write a) a)
    (rest : Bytes) :
    Reader.elements (r depth) (Utf8.encode (Render.separated (as.map write)) ++ 0x5D :: rest) =
      .ok (as, rest) :=
  elements_separated hr (ends_cons (by decide) rest) (skipBlanks_cons (by decide) rest) h

theorem reads_list {α : Type} {r : Reader α} (hr : r.Exact) {depth : Nat}
    {write : α → List Char} {as : List α} (h : ∀ a ∈ as, r.Reads depth (write a) a) :
    (Reader.list r).Reads (depth + 1) (Render.array (as.map write)) as := by
  intro rest hends
  have hfront : skipBlanks (0x5B :: (Utf8.encode (Render.separated (as.map write)) ++ 0x5D :: rest))
      = _ := skipBlanks_cons (by decide) _
  rw [encode_array, Reader.list, hfront]
  exact elements_rendered hr h rest

/-! ## Objects -/

inductive Standing : Option (List Char) → Option Bytes → Prop
  | absent : Standing none none
  | present {text : List Char} {rest : Bytes} (hends : Ends rest) :
    Standing (some text) (some (Utf8.encode text ++ rest))

theorem Standing.eq_none {place : Option Bytes} (h : Standing none place) : place = none := by
  cases h
  rfl

theorem Standing.field?_some {α : Type} {r : Reader α} {depth : Nat} {text : List Char} {a : α}
    {place : Option Bytes} (h : Standing (some text) place) (hreads : r.Reads depth text a) :
    r.field? depth place = some (some a) := by
  cases h with
  | present hends => rw [Reader.field?, Reader.front?_of_ok (hreads _ hends), Option.map_some]

theorem Standing.field?_none {α : Type} {r : Reader α} {depth : Nat} {place : Option Bytes}
    (h : Standing none place) : r.field? depth place = some none := by
  rw [h.eq_none]
  rfl

theorem Standing.map_valueText? {s : String} {place : Option Bytes}
    (h : Standing (some s.toList) place) (hraw : IsRaw s) :
    place.map valueText? = some (some (textBytes s)) := by
  cases h with
  | @present _ rest hends =>
    obtain ⟨hwritten, b, bs, htext, hblank, -⟩ := hraw
    obtain ⟨v, hv, hvalue⟩ := valueText?_of_passes (hwritten rest hends)
    have hstops : Stops isBlank (Utf8.encode s.toList ++ rest) := by
      rw [htext]
      exact hblank
    rw [skipBlanks_of_stops hstops] at hv
    rw [Option.map_some, hvalue, ← List.append_cancel_right hv]
    rfl

theorem key_member (k : String) (text : List Char) (rest : Bytes) :
    Reader.key (Utf8.encode (Render.member k text) ++ rest) =
      .ok (k, Utf8.encode text ++ rest) := by
  have hcolon : Utf8.encodeChar ':' = [0x3A] := rfl
  have hbytes : Utf8.encode (Render.member k text) ++ rest =
      Utf8.encode (Render.string k) ++ 0x3A :: (Utf8.encode text ++ rest) := by
    rw [Render.member, Utf8.encode_append, Utf8.encode_cons, hcolon]
    simp
  rw [hbytes, key_eq_ok_iff]
  exact ⟨_, stringAt_encode k _, skipBlanks_cons (by decide) _⟩

abbrev afterMember (ms : List (String × List Char)) (rest : Bytes) : Bytes :=
  followed (ms.map fun m => Render.member m.1 m.2) (0x7D :: rest)

theorem ends_afterMember (ms : List (String × List Char)) (rest : Bytes) :
    Ends (afterMember ms rest) := ends_followed (ends_cons (by decide) rest) _

theorem length_afterMember (ms : List (String × List Char)) (rest : Bytes) :
    ms.length < (afterMember ms rest).length := by
  have hlen := length_followed (ms.map fun m => Render.member m.1 m.2) (0x7D :: rest)
  rw [List.length_map, List.length_cons] at hlen
  unfold afterMember
  omega

theorem lookup_cons_of_ne {k key : String} (h : k ≠ key) (text : List Char)
    (ms : List (String × List Char)) : ((k, text) :: ms).lookup key = ms.lookup key := by
  have hbeq : (key == k) = false := beq_false_of_ne (Ne.symm h)
  rw [List.lookup_cons, hbeq]

theorem memberAt?_rendered (key : String) {ms : List (String × List Char)} {rest : Bytes} :
    ∀ {k : String} {text : List Char} {fuel : Nat}, (∀ m ∈ (k, text) :: ms, Written m.2) →
      ms.length < fuel → Standing (((k, text) :: ms).lookup key)
        (memberAt? key fuel (Utf8.encode (Render.member k text) ++ afterMember ms rest)) := by
  induction ms with
  | nil =>
    intro k text fuel hms hfuel
    obtain ⟨fuel, rfl⟩ : ∃ n, fuel = n + 1 := ⟨fuel - 1, by omega⟩
    have hkey := key_member k text (afterMember [] rest)
    have hvalue := hms (k, text) (by simp) _ (ends_afterMember [] rest)
    by_cases hk : k = key
    · subst hk
      rw [memberAt?_of_key hkey, List.lookup_cons_self]
      exact .present (ends_afterMember [] rest)
    · have hclose : skipBlanks (afterMember [] rest) = 0x7D :: rest :=
        skipBlanks_cons (by decide) _
      rw [memberAt?_of_close hkey hk hvalue hclose, lookup_cons_of_ne hk]
      exact .absent
  | cons m ms ih =>
    intro k text fuel hms hfuel
    obtain ⟨fuel, rfl⟩ : ∃ n, fuel = n + 1 := ⟨fuel - 1, by omega⟩
    rw [List.length_cons] at hfuel
    have hkey := key_member k text (afterMember (m :: ms) rest)
    have hvalue := hms (k, text) (by simp) _ (ends_afterMember (m :: ms) rest)
    by_cases hk : k = key
    · subst hk
      rw [memberAt?_of_key hkey, List.lookup_cons_self]
      exact .present (ends_afterMember (m :: ms) rest)
    · have hcomma : skipBlanks (afterMember (m :: ms) rest) =
          0x2C :: (Utf8.encode (Render.member m.1 m.2) ++ afterMember ms rest) :=
        skipBlanks_cons (by decide) _
      rw [memberAt?_of_comma hkey hk hvalue hcomma, lookup_cons_of_ne hk]
      exact ih (fun m' hm' => hms m' (List.mem_cons_of_mem _ hm')) (by omega)

def afterBrace : List (String × List Char) → Bytes → Bytes
  | [], rest => 0x7D :: rest
  | m :: ms, rest => Utf8.encode (Render.member m.1 m.2) ++ afterMember ms rest

theorem afterBrace_front_ne (m : String × List Char) (ms : List (String × List Char))
    (rest u : Bytes) : skipBlanks (afterBrace (m :: ms) rest) ≠ 0x7D :: u := by
  obtain ⟨mid, hstring, -⟩ := key_eq_ok_iff.1 (key_member m.1 m.2 (afterMember ms rest))
  obtain ⟨t, c, hquote, -⟩ := stringAt_eq_ok_iff.1 hstring
  intro hclose
  rw [afterBrace, hquote] at hclose
  exact absurd (List.cons.inj hclose).1 (by decide)

theorem length_afterBrace (m : String × List Char) (ms : List (String × List Char))
    (rest : Bytes) : ms.length < (afterBrace (m :: ms) rest).length := by
  have hlen := length_afterMember ms rest
  rw [afterBrace, List.length_append]
  omega

theorem encode_object (ms : List (String × List Char)) (rest : Bytes) :
    Utf8.encode (Render.object ms) ++ rest = 0x7B :: afterBrace ms rest := by
  have hopen : Utf8.encodeChar '\x7b' = [0x7B] := rfl
  have hclose : Utf8.encode ['\x7d'] = [0x7D] := rfl
  rw [Render.object, List.cons_append, Utf8.encode_cons, Utf8.encode_append, hopen, hclose]
  cases ms with
  | nil => rfl
  | cons m ms =>
    rw [List.map_cons, List.append_assoc, List.append_assoc, List.singleton_append,
      List.singleton_append, encode_separated]
    rfl

@[simp] theorem lookup_optional (key k : String) (value : Option (List Char)) :
    (Render.optional key value).lookup k = if k = key then value else none := by
  cases value with
  | none => simp [Render.optional]
  | some text =>
    by_cases hk : k = key
    · subst hk
      simp [Render.optional]
    · have hbeq : (k == key) = false := beq_false_of_ne hk
      simp [Render.optional, List.lookup_cons, hbeq, hk]

theorem keys_optional_sublist (key : String) (value : Option (List Char)) :
    ((Render.optional key value).map Prod.fst).Sublist [key] := by
  cases value with
  | none => exact List.nil_sublist _
  | some text => exact List.Sublist.refl _

theorem mem_optional {key : String} {value : Option (List Char)} {m : String × List Char} :
    m ∈ Render.optional key value ↔ m.1 = key ∧ value = some m.2 := by
  obtain ⟨k, text⟩ := m
  cases value with
  | none => simp [Render.optional]
  | some t =>
    simp only [Render.optional, Option.toList_some, List.map_cons, List.map_nil,
      List.mem_singleton, Prod.mk.injEq, Option.some.injEq]
    constructor
    · rintro ⟨rfl, rfl⟩
      exact ⟨rfl, rfl⟩
    · rintro ⟨rfl, rfl⟩
      exact ⟨rfl, rfl⟩

theorem fieldAt?_object {ms : List (String × List Char)} (hms : ∀ m ∈ ms, Written m.2)
    (key : String) (index : Nat) (rest : Bytes) :
    Standing (ms.lookup key) (fieldAt? key index (Utf8.encode (Render.object ms) ++ rest)) := by
  rw [encode_object, fieldAt?_of_brace (skipBlanks_cons (by decide) _)]
  cases ms with
  | nil =>
    have hclose : skipBlanks (afterBrace [] rest) = 0x7D :: rest := skipBlanks_cons (by decide) _
    rw [memberAt?_of_empty hclose]
    exact .absent
  | cons m ms => exact memberAt?_rendered key hms (length_afterBrace m ms rest)

theorem passes_rendered {ms : List (String × List Char)} {rest : Bytes} :
    ∀ {k : String} {text : List Char}, (∀ m ∈ (k, text) :: ms, Written m.2) →
      Passes (some .member) (Utf8.encode (Render.member k text) ++ afterMember ms rest) rest := by
  induction ms with
  | nil =>
    intro k text hms
    obtain ⟨mid, hstring, hcolon⟩ := key_eq_ok_iff.1 (key_member k text (afterMember [] rest))
    obtain ⟨t, c, hfront, hcut, -⟩ := stringAt_eq_ok_iff.1 hstring
    have hvalue := hms (k, text) (by simp) _ (ends_afterMember [] rest)
    have hclose : skipBlanks (afterMember [] rest) = 0x7D :: rest := skipBlanks_cons (by decide) _
    exact .member hfront hcut hcolon hvalue (.endMembers hclose)
  | cons m ms ih =>
    intro k text hms
    obtain ⟨mid, hstring, hcolon⟩ :=
      key_eq_ok_iff.1 (key_member k text (afterMember (m :: ms) rest))
    obtain ⟨t, c, hfront, hcut, -⟩ := stringAt_eq_ok_iff.1 hstring
    have hvalue := hms (k, text) (by simp) _ (ends_afterMember (m :: ms) rest)
    have hcomma : skipBlanks (afterMember (m :: ms) rest) =
        0x2C :: (Utf8.encode (Render.member m.1 m.2) ++ afterMember ms rest) :=
      skipBlanks_cons (by decide) _
    have hmore := ih fun m' hm' => hms m' (List.mem_cons_of_mem _ hm')
    exact .member hfront hcut hcolon hvalue (.moreMembers hcomma hmore)

theorem written_object {ms : List (String × List Char)} (hms : ∀ m ∈ ms, Written m.2) :
    Written (Render.object ms) := by
  intro rest _
  rw [encode_object]
  have hopen : skipBlanks (0x7B :: afterBrace ms rest) = 0x7B :: afterBrace ms rest :=
    skipBlanks_cons (by decide) _
  cases ms with
  | nil =>
    have hclose : skipBlanks (afterBrace [] rest) = 0x7D :: rest := skipBlanks_cons (by decide) _
    exact .emptyObject hopen hclose
  | cons m ms => exact .object hopen (passes_rendered hms)

abbrev membersOf {α : Type} (write : α → List Char) (ms : List (String × α)) :
    List (String × List Char) := ms.map fun m => (m.1, write m.2)

theorem pairs_rendered {α β : Type} {r : Reader α} {depth : Nat} {write : β → List Char}
    {rest : Bytes} (meaning : β → α) {ms : List (String × β)} :
    ∀ {m : String × β} {fuel : Nat},
      (∀ m' ∈ m :: ms, r.Reads depth (write m'.2) (meaning m'.2)) → ms.length < fuel →
      Reader.pairs (r depth) fuel
        (Utf8.encode (Render.member m.1 (write m.2)) ++ afterMember (membersOf write ms) rest) =
          .ok ((m :: ms).map fun m' => (m'.1, meaning m'.2), rest) := by
  induction ms with
  | nil =>
    intro m fuel h hfuel
    obtain ⟨fuel, rfl⟩ : ∃ n, fuel = n + 1 := ⟨fuel - 1, by omega⟩
    have hvalue := h m (by simp) _ (ends_afterMember [] rest)
    have hclose : skipBlanks (afterMember [] rest) = 0x7D :: rest := skipBlanks_cons (by decide) _
    rw [Reader.pairs, key_member, ok_bind]
    simp only [List.map_nil, hvalue, ok_bind, hclose]
    rfl
  | cons m' ms ih =>
    intro m fuel h hfuel
    obtain ⟨fuel, rfl⟩ : ∃ n, fuel = n + 1 := ⟨fuel - 1, by omega⟩
    rw [List.length_cons] at hfuel
    have hvalue := h m (by simp) _ (ends_afterMember (membersOf write (m' :: ms)) rest)
    have hmore := ih (fun m'' hm'' => h m'' (List.mem_cons_of_mem m hm''))
      (show ms.length < fuel by omega)
    have hcomma : skipBlanks (afterMember (membersOf write (m' :: ms)) rest) =
        0x2C :: (Utf8.encode (Render.member m'.1 (write m'.2)) ++
          afterMember (membersOf write ms) rest) := skipBlanks_cons (by decide) _
    rw [Reader.pairs, key_member, ok_bind]
    simp only [hvalue, ok_bind, hcomma, hmore]
    rfl

theorem members_rendered_as {α β : Type} {r : Reader α} {depth : Nat} {write : β → List Char}
    {ms : List (String × β)} (meaning : β → α)
    (h : ∀ m ∈ ms, r.Reads depth (write m.2) (meaning m.2)) (rest : Bytes) :
    Reader.members (r depth) (afterBrace (membersOf write ms) rest) =
      .ok (ms.map fun m => (m.1, meaning m.2), rest) := by
  cases ms with
  | nil => rfl
  | cons m ms =>
    have hlen := length_afterBrace (m.1, write m.2) (membersOf write ms) rest
    rw [List.length_map] at hlen
    unfold Reader.members
    split
    · rename_i u hclose
      exact absurd hclose (afterBrace_front_ne _ _ rest u)
    · exact pairs_rendered meaning h hlen

theorem members_rendered {α : Type} {r : Reader α} {depth : Nat} {write : α → List Char}
    {ms : List (String × α)} (h : ∀ m ∈ ms, r.Reads depth (write m.2) m.2) (rest : Bytes) :
    Reader.members (r depth) (afterBrace (membersOf write ms) rest) = .ok (ms, rest) := by
  have hread : Reader.members (r depth) (afterBrace (membersOf write ms) rest) =
      .ok (ms.map fun m => (m.1, id m.2), rest) := members_rendered_as id h rest
  have hsame : (ms.map fun m => (m.1, id m.2)) = ms := List.map_id ms
  rw [hread, hsame]

/-! A body that holds nothing but an object. -/

theorem passes_object {ms : List (String × List Char)} (hms : ∀ m ∈ ms, Written m.2) :
    Passes none (Utf8.encode (Render.object ms)) [] := by
  have h := written_object hms [] trivial
  rwa [List.append_nil] at h

theorem standing_object {ms : List (String × List Char)} (hms : ∀ m ∈ ms, Written m.2)
    (key : String) (index : Nat) :
    Standing (ms.lookup key) (fieldAt? key index (Utf8.encode (Render.object ms))) := by
  have h := fieldAt?_object hms key index []
  rwa [List.append_nil] at h

theorem Written.reads_passing {text : List Char} (h : Written text) (depth : Nat) :
    Reader.passing.Reads depth text () := by
  intro rest hends
  rw [Reader.passing, skipValue?_eq_some_iff.2 (h rest hends)]
  rfl

theorem keys?_object {ms : List (String × List Char)} (hms : ∀ m ∈ ms, Written m.2) :
    keys? (Utf8.encode (Render.object ms)) = some (ms.map Prod.fst) := by
  have hbody := encode_object ms []
  have hread : Reader.members (Reader.passing 0) (afterBrace (membersOf id ms) []) =
      .ok (ms.map fun m => (m.1, ()), []) :=
    members_rendered_as (fun _ => ()) (fun m hm => (hms m hm).reads_passing 0) []
  have hsame : membersOf id ms = ms := List.map_id ms
  rw [List.append_nil] at hbody
  rw [hsame] at hread
  rw [keys?, hbody, skipBlanks_cons (by decide)]
  simp only [hread, Except.toOption, Option.map_some, List.map_map]
  rfl

namespace Record.Semantics

variable {α : Type} {r : Record α} {depth : Nat}

def Suits (sem : Semantics r) (depth : Nat) (m : String × List Char) : Prop :=
  ∀ rest, Ends rest → sem.reads depth m.1 (Utf8.encode m.2 ++ rest) rest

theorem Suits.written {sem : Semantics r} {m : String × List Char} (h : sem.Suits depth m) :
    Written m.2 := by
  intro rest hends
  have hreads := h rest hends
  obtain ⟨f, hf, hname⟩ := List.mem_map.1 (sem.known hreads)
  rw [← hname] at hreads
  obtain ⟨s, hs⟩ := sem.accept hf hreads r.start
  exact sem.exact hf hs

theorem Suits.slot {β : Type} {name : String} {r : Reader α} (hr : r.Exact)
    {finish : Option α → Option β} {text : List Char} {a : α} (h : r.Reads depth text a) :
    (Semantics.slot name hr finish).Suits depth (name, text) :=
  fun rest hends => ⟨rfl, a, h rest hends⟩

theorem Suits.left {β : Type} {f : Record (α → β)} {sf : Semantics f} {sem : Semantics r}
    {hdisjoint : ∀ k ∈ f.names, k ∉ r.names} {m : String × List Char} (h : sf.Suits depth m) :
    (sf.apply sem hdisjoint).Suits depth m :=
  fun rest hends => .inl (h rest hends)

theorem Suits.right {β : Type} {f : Record (α → β)} {sf : Semantics f} {sem : Semantics r}
    {hdisjoint : ∀ k ∈ f.names, k ∉ r.names} {m : String × List Char} (h : sem.Suits depth m) :
    (sf.apply sem hdisjoint).Suits depth m :=
  fun rest hends => .inr (h rest hends)

theorem find?_of_mem {k : String} (h : k ∈ r.names) :
    ∃ f ∈ r.fields, f.name = k ∧ Field.find? r.fields k = some f := by
  cases hfind : Field.find? r.fields k with
  | none => exact absurd h (not_mem_of_find? hfind)
  | some f =>
    obtain ⟨hf, hname⟩ := mem_of_find? hfind
    exact ⟨f, hf, hname, rfl⟩

theorem readMember_of_suits {sem : Semantics r} {m : String × List Char} (hm : sem.Suits depth m)
    {M : Places} {s : r.Slots} (hholds : sem.holds depth M s) (hnew : M m.1 = none) {rest : Bytes}
    (hends : Ends rest) :
    ∃ s', Field.readMember r.fields depth s m.1 (Utf8.encode m.2 ++ rest) = .ok (s', rest) ∧
      sem.holds depth (M.put m.1 (Utf8.encode m.2 ++ rest)) s' := by
  have hreads := hm rest hends
  obtain ⟨f, hf, hname, hfind⟩ := find?_of_mem (sem.known hreads)
  rw [← hname] at hreads hnew
  have hfilled := sem.filled hholds hf
  rw [hnew, Option.isSome_none] at hfilled
  obtain ⟨s', hs'⟩ := sem.accept hf hreads s
  refine ⟨s', ?_, ?_⟩
  · rw [Field.readMember, hfind]
    simp only [hfilled]
    exact hs'
  · rw [← hname]
    exact sem.read hholds hf hs'

theorem readMembers_rendered (sem : Semantics r) {ms : List (String × List Char)} {rest : Bytes} :
    ∀ {m : String × List Char} {fuel : Nat} {M : Places} {s : r.Slots},
      (∀ m' ∈ m :: ms, sem.Suits depth m') → ((m :: ms).map Prod.fst).Nodup →
      (∀ m' ∈ m :: ms, M m'.1 = none) → sem.holds depth M s → ms.length < fuel →
      ∃ s', Field.readMembers r.fields depth fuel s
        (Utf8.encode (Render.member m.1 m.2) ++ afterMember ms rest) = .ok (s', rest) := by
  induction ms with
  | nil =>
    intro m fuel M s hsuits _ hnew hholds hfuel
    obtain ⟨fuel, rfl⟩ : ∃ n, fuel = n + 1 := ⟨fuel - 1, by omega⟩
    obtain ⟨s', hs', -⟩ := readMember_of_suits (hsuits m (by simp)) hholds (hnew m (by simp))
      (ends_afterMember [] rest)
    have hclose : skipBlanks (afterMember [] rest) = 0x7D :: rest := skipBlanks_cons (by decide) _
    refine ⟨s', ?_⟩
    rw [Field.readMembers, key_member, ok_bind]
    simp only [hs', ok_bind, hclose]
    rfl
  | cons m' ms ih =>
    intro m fuel M s hsuits hnodup hnew hholds hfuel
    obtain ⟨fuel, rfl⟩ : ∃ n, fuel = n + 1 := ⟨fuel - 1, by omega⟩
    rw [List.length_cons] at hfuel
    obtain ⟨s₁, hs₁, hholds₁⟩ := readMember_of_suits (hsuits m (by simp)) hholds (hnew m (by simp))
      (ends_afterMember (m' :: ms) rest)
    obtain ⟨hfirst, hnodup'⟩ := List.nodup_cons.1 hnodup
    have hnew' : ∀ m'' ∈ m' :: ms,
        M.put m.1 (Utf8.encode m.2 ++ afterMember (m' :: ms) rest) m''.1 = none := by
      intro m'' hm''
      have hne : m''.1 ≠ m.1 := fun e => hfirst (e ▸ List.mem_map_of_mem hm'')
      rw [put_of_ne hne]
      exact hnew m'' (List.mem_cons_of_mem m hm'')
    obtain ⟨s', hs'⟩ := ih (fun m'' hm'' => hsuits m'' (List.mem_cons_of_mem m hm'')) hnodup' hnew'
      hholds₁ (show ms.length < fuel by omega)
    have hcomma : skipBlanks (afterMember (m' :: ms) rest) =
        0x2C :: (Utf8.encode (Render.member m'.1 m'.2) ++ afterMember ms rest) :=
      skipBlanks_cons (by decide) _
    refine ⟨s', ?_⟩
    rw [Field.readMembers, key_member, ok_bind]
    simp only [hs₁, ok_bind, hcomma]
    exact hs'

theorem readNamed_rendered (sem : Semantics r) {ms : List (String × List Char)}
    (hsuits : ∀ m ∈ ms, sem.Suits depth m) (hnodup : (ms.map Prod.fst).Nodup) (rest : Bytes) :
    ∃ s, Field.readNamed r.fields depth r.start (afterBrace ms rest) = .ok (s, rest) := by
  cases ms with
  | nil =>
    have hclose : skipBlanks (afterBrace [] rest) = 0x7D :: rest := skipBlanks_cons (by decide) _
    refine ⟨r.start, ?_⟩
    rw [Field.readNamed, hclose]
    rfl
  | cons m ms =>
    obtain ⟨s, hs⟩ := sem.readMembers_rendered hsuits hnodup (fun _ _ => rfl) (sem.start depth)
      (length_afterBrace m ms rest)
    refine ⟨s, ?_⟩
    unfold Field.readNamed
    split
    · rename_i u hclose
      exact absurd hclose (afterBrace_front_ne m ms rest u)
    · exact hs

theorem reads_object (sem : Semantics r) {ms : List (String × List Char)} {a : α}
    (hsuits : ∀ m ∈ ms, sem.Suits depth m) (hnodup : (ms.map Prod.fst).Nodup)
    (hvalue : ∀ M : Places, (∀ k, Standing (ms.lookup k) (M k)) → sem.value depth M = some a) :
    r.reader.Reads (depth + 1) (Render.object ms) a := by
  intro rest _
  have hwritten : ∀ m ∈ ms, Written m.2 := fun m hm => (hsuits m hm).written
  have hfront : skipBlanks (Utf8.encode (Render.object ms) ++ rest) =
      0x7B :: afterBrace ms rest := by
    rw [encode_object]
    exact skipBlanks_cons (by decide) _
  obtain ⟨s, hs⟩ := sem.readNamed_rendered hsuits hnodup rest
  obtain ⟨-, hholds⟩ := sem.readNamed_ok hfront hs
  have hfinish : r.finish s = some a := by
    rw [sem.finish hholds]
    refine hvalue _ fun k => ?_
    have hstand := fieldAt?_object hwritten k 0 rest
    rwa [fieldAt?_of_brace hfront] at hstand
  rw [Record.reader, hfront]
  simp only [hs, ok_bind, hfinish]
  rfl

end Record.Semantics
end Tronkit.Json
