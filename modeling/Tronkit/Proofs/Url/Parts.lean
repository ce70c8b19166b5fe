import Tronkit.Url.Basic
import Tronkit.Proofs.Text.Split
import Tronkit.Proofs.Url.Path

/-!
# The parts of a URL

A text is cut into a scheme, a body, a query and a fragment before any of them is read. A text that
is put together from such parts is cut into them again.
-/

namespace Tronkit.Url

open Percent (inQuery inFragment encode)
open UrlPath (isHidden isLetter isSlash)

variable {cs rest : List Char} {c : Char} {s scheme : String} {u : Url}

structure IsScheme (cs : List Char) : Prop where
  letter : cs.head?.any isLetter = true
  chars : ∀ c ∈ cs, isSchemeChar c = true ∧ c.toLower = c

def tail (mark : Char) : Option String → List Char
  | some s => mark :: s.toList
  | none => []

def encodePart (inSet : Char → Bool) (part : Option String) : Option String :=
  part.map fun s => String.ofList (encode inSet s.toList)

structure Parts where
  scheme : String
  body : List Char
  query : Option String
  fragment : Option String

namespace Parts

def text (p : Parts) : List Char :=
  p.scheme.toList ++ ':' :: (p.body ++ tail '?' p.query ++ tail '#' p.fragment)

def read (p : Parts) : Except UrlFault Url :=
  let followed := p.query.isSome || p.fragment.isSome
  if p.scheme = "file" then fileUrl p.body p.query p.fragment
  else if isSpecial p.scheme then
    withAuthority p.scheme followed (p.body.dropWhile (isSlash true)) p.query p.fragment
  else otherUrl p.scheme followed p.body p.query p.fragment

def encode (p : Parts) : Parts :=
  { p with
    query := encodePart (inQuery (isSpecial p.scheme)) p.query
    fragment := encodePart inFragment p.fragment }

/-- Parts as a text is cut into them: none holds the mark of a part behind it. -/
structure IsCut (p : Parts) : Prop where
  scheme : IsScheme p.scheme.toList
  body : ∀ c ∈ p.body, c ≠ '?' ∧ c ≠ '#'
  query : ∀ q ∈ p.query, '#' ∉ q.toList

structure IsWritten (p : Parts) : Prop where
  scheme : IsScheme p.scheme.toList
  body : ∀ c ∈ p.body, c ≠ '?' ∧ c ≠ '#'
  query : ∀ q ∈ p.query, ∀ c ∈ q.toList, inQuery (isSpecial p.scheme) c = false
  fragment : ∀ f ∈ p.fragment, ∀ c ∈ f.toList, inFragment c = false

end Parts

/-! ## Schemes -/

theorem toNat_lt_of_isSchemeChar (h : isSchemeChar c = true) : c.toNat < 128 := by
  simp only [isSchemeChar, isLetter, Digits.isDecimal, Bool.or_eq_true, Bool.and_eq_true,
    decide_eq_true_eq] at h
  rcases h with ((((⟨-, h⟩ | ⟨-, h⟩) | ⟨-, h⟩) | rfl) | rfl) | rfl
  · have hn : c.toNat ≤ 122 := h
    omega
  · have hn : c.toNat ≤ 90 := h
    omega
  · have hn : c.toNat ≤ 57 := h
    omega
  all_goals decide

theorem schemeChar_table : ∀ n < 128, isSchemeChar (Char.ofNat n) = true →
    isSchemeChar (Char.ofNat n).toLower = true ∧
      (Char.ofNat n).toLower.toLower = (Char.ofNat n).toLower ∧
      (isLetter (Char.ofNat n) = true → isLetter (Char.ofNat n).toLower = true) ∧
      Percent.isControl (Char.ofNat n) = false ∧ Char.ofNat n ∉ [' ', ':', '?', '#'] := by decide

theorem schemeChar_spec (h : isSchemeChar c = true) :
    isSchemeChar c.toLower = true ∧ c.toLower.toLower = c.toLower ∧
      (isLetter c = true → isLetter c.toLower = true) ∧
      Percent.isControl c = false ∧ c ∉ [' ', ':', '?', '#'] := by
  have table := schemeChar_table c.toNat (toNat_lt_of_isSchemeChar h)
  rw [Char.ofNat_toNat] at table
  exact table h

theorem IsScheme.isSchemeChar (h : IsScheme cs) : ∀ c ∈ cs, isSchemeChar c = true :=
  fun c hc => (h.chars c hc).1

theorem IsScheme.of_mem (h : IsScheme cs) : ∀ c ∈ cs, Percent.isControl c = false ∧ c ≠ ' ' := by
  intro c hc
  have hspec := (schemeChar_spec (h.isSchemeChar c hc)).2.2.2
  exact ⟨hspec.1, fun hspace => hspec.2 (hspace ▸ List.mem_cons_self)⟩

theorem scheme?_append (h : IsScheme cs) (rest : List Char) :
    scheme? (cs ++ ':' :: rest) = some (String.ofList cs, rest) := by
  have hletter : (cs ++ ':' :: rest).head?.any isLetter = true := by
    have hletter := h.letter
    cases cs with
    | nil => cases hletter
    | cons c cs => exact hletter
  have hlower : cs.map Char.toLower = cs := by
    conv => rhs; rw [← List.map_id cs]
    exact List.map_congr_left fun c hc => (h.chars c hc).2
  have hcolon : Url.isSchemeChar ':' = false := by decide
  rw [scheme?, if_pos hletter, List.dropWhile_append_of_pos h.isSchemeChar,
    List.takeWhile_append_of_pos h.isSchemeChar]
  simp [hcolon, hlower]

theorem of_scheme? (h : scheme? cs = some (scheme, rest)) :
    IsScheme scheme.toList ∧ rest <:+ cs := by
  unfold scheme? at h
  split at h
  · rename_i hletter
    split at h
    · rename_i behind hdrop
      cases h
      refine ⟨⟨?_, ?_⟩, ?_⟩
      · cases cs with
        | nil => cases hletter
        | cons c cs =>
          have hfirst : isLetter c = true := hletter
          have hc : isSchemeChar c = true := by
            unfold isSchemeChar
            rw [hfirst]
            rfl
          rw [String.toList_ofList, List.takeWhile_cons, if_pos hc]
          exact (schemeChar_spec hc).2.2.1 hfirst
      · intro c hc
        rw [String.toList_ofList] at hc
        obtain ⟨d, hd, rfl⟩ := List.mem_map.1 hc
        have hspec := schemeChar_spec (List.mem_takeWhile_imp hd)
        exact ⟨hspec.1, hspec.2.1⟩
      · have hsuffix := List.dropWhile_suffix (l := cs) isSchemeChar
        rw [hdrop] at hsuffix
        exact (List.suffix_cons ':' rest).trans hsuffix
    · cases h
  · cases h

/-! ## A text that is put together from parts -/

theorem dropWhile_of_head? {p : Char → Bool} (h : ∀ c ∈ cs.head?, p c = false) :
    cs.dropWhile p = cs := by
  cases cs with
  | nil => rfl
  | cons c cs => rw [List.dropWhile_cons, h c rfl, if_neg Bool.false_ne_true]

theorem trim_of_ends (hfirst : ∀ c ∈ cs.head?, isBlank c = false)
    (hlast : ∀ c ∈ cs.getLast?, isBlank c = false) : trim cs = cs := by
  have hreverse : ∀ c ∈ cs.reverse.head?, isBlank c = false := by
    rw [List.head?_reverse]
    exact hlast
  rw [trim, dropWhile_of_head? hfirst, dropWhile_of_head? hreverse, List.reverse_reverse]

theorem first_tail {mark : Char} (h : mark ∉ cs) (part : Option String) :
    Split.first mark (cs ++ tail mark part) = (cs, part.map String.toList) := by
  cases part with
  | none => rw [tail, List.append_nil, Split.first_of_notMem h, Option.map_none]
  | some s => exact Split.first_eq_some_iff.2 ⟨rfl, h⟩

theorem encodePart_of_written {inSet : Char → Bool} {part : Option String}
    (h : ∀ s ∈ part, ∀ c ∈ s.toList, inSet c = false) : encodePart inSet part = part := by
  cases part with
  | none => rfl
  | some s =>
    rw [encodePart, Option.map_some, Percent.encode_of_all_not (h s rfl), String.ofList_toList]

theorem forall_mem_tail {P : Char → Prop} {mark : Char} {part : Option String} (hmark : P mark)
    (h : ∀ s ∈ part, ∀ c ∈ s.toList, P c) : ∀ c ∈ tail mark part, P c := by
  cases part with
  | none => exact List.forall_mem_nil _
  | some s => exact List.forall_mem_cons.2 ⟨hmark, h s rfl⟩

theorem isBlank_of_isControl (h : Percent.isControl c = false) (hspace : c ≠ ' ') :
    isBlank c = false := by
  simp only [Percent.isControl, Bool.or_eq_false_iff, decide_eq_false_iff_not] at h
  have hne : c.toNat ≠ 0x20 := fun heq => hspace (Char.toNat_inj.1 heq)
  simp only [isBlank, decide_eq_false_iff_not]
  omega

theorem isHidden_of_isBlank (h : isBlank c = false) : isHidden c = false := by
  rw [Bool.eq_false_iff]
  intro hc
  simp only [isHidden, Bool.or_eq_true, decide_eq_true_eq] at hc
  rcases hc with (rfl | rfl) | rfl <;> exact absurd h (by decide)

namespace Parts

variable {p : Parts}

theorem IsWritten.isCut (h : p.IsWritten) : p.IsCut := by
  refine ⟨h.scheme, h.body, fun q hq hmark => ?_⟩
  have hset := h.query q hq '#' hmark
  cases hset

theorem IsWritten.encode_eq (h : p.IsWritten) : p.encode = p := by
  rw [encode, encodePart_of_written h.query, encodePart_of_written h.fragment]

theorem IsWritten.of_mem_tails (h : p.IsWritten) :
    ∀ c ∈ tail '?' p.query ++ tail '#' p.fragment, Percent.isControl c = false ∧ c ≠ ' ' := by
  have hquery : ∀ c ∈ tail '?' p.query, Percent.isControl c = false ∧ c ≠ ' ' := by
    refine forall_mem_tail (by decide) fun q hq c hc => ?_
    have hset := h.query q hq c hc
    refine ⟨Percent.isControl_of_inQuery hset, ?_⟩
    rintro rfl
    cases hset
  have hfragment : ∀ c ∈ tail '#' p.fragment, Percent.isControl c = false ∧ c ≠ ' ' := by
    refine forall_mem_tail (by decide) fun f hf c hc => ?_
    have hset := h.fragment f hf c hc
    refine ⟨Percent.isControl_of_inFragment hset, ?_⟩
    rintro rfl
    cases hset
  exact List.forall_mem_append.2 ⟨hquery, hfragment⟩

/-- Controls can only stand in the body. -/
theorem IsWritten.of_mem_text (h : p.IsWritten) :
    ∀ c ∈ p.text, c ∈ p.body ∨ Percent.isControl c = false ∧ c ≠ ' ' := by
  intro c hc
  rw [text, List.append_assoc p.body] at hc
  rcases List.mem_append.1 hc with hc | hc
  · exact .inr (h.scheme.of_mem c hc)
  rcases List.mem_cons.1 hc with rfl | hc
  · exact .inr (by decide)
  rcases List.mem_append.1 hc with hc | hc
  · exact .inl hc
  · exact .inr (h.of_mem_tails c hc)

theorem IsWritten.isHidden_text (h : p.IsWritten) (hshown : ∀ c ∈ p.body, isHidden c = false) :
    ∀ c ∈ p.text, isHidden c = false := by
  intro c hc
  rcases h.of_mem_text c hc with hc | hc
  · exact hshown c hc
  · exact UrlPath.isHidden_of_isControl hc.1

theorem IsCut.first_text (h : p.IsCut) :
    Split.first '#' (p.body ++ tail '?' p.query ++ tail '#' p.fragment) =
        (p.body ++ tail '?' p.query, p.fragment.map String.toList) ∧
      Split.first '?' (p.body ++ tail '?' p.query) = (p.body, p.query.map String.toList) := by
  refine ⟨first_tail (fun hmem => ?_) _, first_tail (fun hmem => ?_) _⟩
  · rcases List.mem_append.1 hmem with hmem | hmem
    · exact (h.body _ hmem).2 rfl
    · cases hquery : p.query with
      | none =>
        rw [hquery] at hmem
        cases hmem
      | some q =>
        rw [hquery] at hmem
        exact h.query q hquery (List.mem_of_ne_of_mem (by decide) hmem)
  · exact (h.body _ hmem).1 rfl

theorem IsCut.isBlank_head? (h : p.IsCut) : ∀ c ∈ p.text.head?, isBlank c = false := by
  have hletter := h.scheme.letter
  have hchars := h.scheme.of_mem
  rw [text]
  cases hscheme : p.scheme.toList with
  | nil =>
    rw [hscheme] at hletter
    cases hletter
  | cons first rest =>
    rw [hscheme] at hchars
    have hplain := hchars first List.mem_cons_self
    intro c hc
    rw [← Option.some.inj hc]
    exact isBlank_of_isControl hplain.1 hplain.2

theorem parse_text (h : p.IsCut) (hshown : ∀ c ∈ p.text, isHidden c = false)
    (hend : ∀ c ∈ p.text.getLast?, isBlank c = false) :
    parse (String.ofList p.text) = p.encode.read := by
  have hfilter : p.text.filter (!isHidden ·) = p.text := List.filter_eq_self.2 fun c hc => by
    rw [hshown c hc]
    rfl
  have hscheme : scheme? p.text =
      some (p.scheme, p.body ++ tail '?' p.query ++ tail '#' p.fragment) := by
    rw [text, scheme?_append h.scheme, String.ofList_toList]
  have hcolon : ':' ∉ p.scheme.toList := fun hmem =>
    (schemeChar_spec (h.scheme.isSchemeChar ':' hmem)).2.2.2.2 (by decide)
  have hbehind : (Split.first ':' p.text).2 =
      some (p.body ++ tail '?' p.query ++ tail '#' p.fragment) := by
    rw [text, Split.first_eq_some_iff.2 ⟨rfl, hcolon⟩]
  have hbody : (p.body ++ tail '?' p.query ++ tail '#' p.fragment).takeWhile
      (fun c => c ≠ '?' && c ≠ '#') = p.body := by
    have hall : ∀ c ∈ p.body, (decide (c ≠ '?') && decide (c ≠ '#')) = true := fun c hc => by
      simp [h.body c hc]
    rw [List.append_assoc, List.takeWhile_append_of_pos hall]
    cases p.query <;> cases p.fragment <;> simp [tail]
  simp only [parse, String.toList_ofList, trim_of_ends h.isBlank_head? hend, hfilter, hscheme,
    h.first_text.1, h.first_text.2, Option.map_map, hbehind, Option.getD_some, hbody]
  rfl

end Parts

/-! ## The parts that a text is cut into -/

theorem of_first {mark : Char} {front : List Char} {back : Option (List Char)}
    (h : Split.first mark cs = (front, back)) :
    mark ∉ front ∧ front.Sublist cs ∧ (back.getD []).Sublist cs := by
  cases back with
  | none =>
    obtain ⟨rfl, hmark⟩ := Split.first_eq_none_iff.1 h
    exact ⟨hmark, List.Sublist.refl cs, List.nil_sublist cs⟩
  | some back =>
    obtain ⟨rfl, hmark⟩ := Split.first_eq_some_iff.1 h
    exact ⟨hmark, List.sublist_append_left front _,
      (List.sublist_cons_self mark back).trans (List.sublist_append_right front _)⟩

theorem forall_mem_map_encode {inSet : Char → Bool} (hmarks : ∀ c ∈ Percent.marks, inSet c = false)
    {part : Option (List Char)} :
    ∀ s ∈ part.map fun cs => String.ofList (encode inSet cs), ∀ c ∈ s.toList, inSet c = false := by
  intro s hs
  obtain ⟨cs, -, rfl⟩ := Option.map_eq_some_iff.1 hs
  rw [String.toList_ofList]
  exact Percent.forall_mem_encode (fun _ _ h => h) hmarks

theorem trim_sublist (cs : List Char) : (trim cs).Sublist cs := by
  have hinner := List.dropWhile_sublist (l := (cs.dropWhile isBlank).reverse) isBlank
  have hback := hinner.reverse
  rw [List.reverse_reverse] at hback
  exact hback.trans (List.dropWhile_sublist _)

theorem mem_getLast?_of_suffix (h : rest <:+ cs) (hc : c ∈ rest.getLast?) : c ∈ cs.getLast? := by
  obtain ⟨front, rfl⟩ := h
  have hne : rest ≠ [] := by
    rintro rfl
    cases hc
  rw [List.getLast?_append_of_ne_nil _ hne]
  exact hc

theorem isBlank_of_mem_getLast?_shown (cs : List Char) :
    ∀ c ∈ ((trim cs).filter (!isHidden ·)).getLast?, isBlank c = false := by
  have hhead := List.head?_dropWhile_not isBlank (cs.dropWhile isBlank).reverse
  rw [trim, List.filter_reverse, List.getLast?_reverse]
  cases htrimmed : (cs.dropWhile isBlank).reverse.dropWhile isBlank with
  | nil => exact nofun
  | cons last front =>
    rw [htrimmed] at hhead
    have hlast : isBlank last = false := hhead
    rw [List.filter_cons_of_pos (by rw [isHidden_of_isBlank hlast]; rfl)]
    intro c hc
    rw [← Option.some.inj hc]
    exact hlast

theorem of_marks {front body : List Char} {query fragment : Option (List Char)}
    (hfragment : Split.first '#' rest = (front, fragment))
    (hquery : Split.first '?' front = (body, query)) :
    (∀ c ∈ body, c ≠ '?' ∧ c ≠ '#') ∧ body.Sublist rest ∧
      (query = none → fragment = none → body = rest) := by
  obtain ⟨hnoFragment, hfront, -⟩ := of_first hfragment
  obtain ⟨hnoQuery, hbody, -⟩ := of_first hquery
  refine ⟨fun c hc => ⟨?_, ?_⟩, hbody.trans hfront, ?_⟩
  · rintro rfl
    exact hnoQuery hc
  · rintro rfl
    exact hnoFragment (hbody.subset hc)
  · rintro rfl rfl
    rw [(Split.first_eq_none_iff.1 hfragment).1, (Split.first_eq_none_iff.1 hquery).1]

/-- Nothing is hidden in the body, but in the body of a file. At the end of the text it ends in no
blank either. -/
theorem exists_parts (h : parse s = .ok u) :
    ∃ p : Parts, p.IsWritten ∧ p.read = .ok u ∧
      (p.scheme ≠ "file" ∨ (∀ c ∈ s.toList, isHidden c = false) →
        ∀ c ∈ p.body, isHidden c = false) ∧
      (p.scheme ≠ "file" → p.query = none → p.fragment = none →
        ∀ c ∈ p.body.getLast?, isBlank c = false) := by
  have hqueryMarks : ∀ special, ∀ c ∈ Percent.marks, inQuery special c = false := fun special =>
    List.all_iff_forall_prop.1 (by revert special; decide)
  have hfragmentMarks : ∀ c ∈ Percent.marks, inFragment c = false :=
    List.all_iff_forall_prop.1 (by decide)
  unfold parse at h
  simp only at h
  cases hscheme : scheme? ((trim s.toList).filter (!isHidden ·)) with
  | none =>
    rw [hscheme] at h
    cases h
  | some cut =>
  obtain ⟨scheme, rest⟩ := cut
  cases hfragment : Split.first '#' rest with
  | mk front fragment =>
  cases hquery : Split.first '?' front with
  | mk body query =>
  obtain ⟨hwritten, hrest⟩ := of_scheme? hscheme
  obtain ⟨hmarks, hbody, hwhole⟩ := of_marks hfragment hquery
  simp only [hscheme, hfragment, hquery] at h
  by_cases hfile : scheme = "file"
  · rw [if_pos hfile] at h
    refine ⟨⟨scheme, _, _, _⟩, ⟨hwritten, fun c hc => ?_, forall_mem_map_encode (hqueryMarks _),
      forall_mem_map_encode hfragmentMarks⟩, (if_pos hfile).trans h, fun hshown c hc => ?_,
      fun hne => absurd hfile hne⟩
    · have hpassed := List.mem_takeWhile_imp hc
      simpa using hpassed
    · have hmem := (List.takeWhile_sublist _).subset hc
      have hraw : c ∈ trim s.toList := (of_first rfl).2.2.subset hmem
      exact hshown.resolve_left (fun hne => hne hfile) c ((trim_sublist _).subset hraw)
  · rw [if_neg hfile] at h
    refine ⟨⟨scheme, body, _, _⟩, ⟨hwritten, hmarks, forall_mem_map_encode (hqueryMarks _),
      forall_mem_map_encode hfragmentMarks⟩, (if_neg hfile).trans h, fun _ c hc => ?_,
      fun _ hnoQuery hnoFragment c hc => ?_⟩
    · simpa using (List.mem_filter.1 (hrest.subset (hbody.subset hc))).2
    · rw [hwhole (Option.map_eq_none_iff.1 hnoQuery) (Option.map_eq_none_iff.1 hnoFragment)] at hc
      exact isBlank_of_mem_getLast?_shown s.toList c (mem_getLast?_of_suffix hrest hc)

end Tronkit.Url
