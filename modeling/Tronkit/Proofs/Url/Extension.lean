import Tronkit.Proofs.Url.Written
import Mathlib.Data.List.DropRight

/-!
# URLs with a path behind them

A path is put behind the text of a URL in place of the slashes at its end. If the URL stands and
has neither a query nor a fragment, the text is read as the URL with the path behind its own. If it
has one, the path is taken for the end of it.
-/

namespace Tronkit.Url

open UrlPath (IsRooted IsSegment BeginsWithDrive isDrive isSlash)

variable {u v : Url} {p cs path : List Char} {q : Option String} {special : Bool}

/-! ## Texts without the slashes at their end -/

def stem (cs : List Char) : List Char := cs.rdropWhile (· = '/')

theorem exists_slashes (cs : List Char) : ∃ n, cs = stem cs ++ List.replicate n '/' := by
  refine ⟨(cs.rtakeWhile (· = '/')).length, ?_⟩
  have hslashes : cs.rtakeWhile (· = '/') = List.replicate (cs.rtakeWhile (· = '/')).length '/' :=
    List.eq_replicate_length.2 fun c hc => by simpa using List.mem_rtakeWhile_imp hc
  rw [← hslashes]
  exact List.rdropWhile_append_rtakeWhile.symm

theorem stem_append (front back : List Char) :
    stem (front ++ back) = if stem back = [] then stem front else front ++ stem back := by
  have hempty : (back.reverse.dropWhile (· = '/')).isEmpty = true ↔ stem back = [] := by
    rw [List.isEmpty_iff, stem, List.rdropWhile, List.reverse_eq_nil_iff]
  unfold stem List.rdropWhile
  rw [List.reverse_append, List.dropWhile_append]
  split
  · rename_i h
    exact (if_pos (hempty.1 h)).symm
  · rename_i h
    rw [List.reverse_append, List.reverse_reverse]
    exact (if_neg fun hnil => h (hempty.2 hnil)).symm

theorem stem_of_getLast? (h : cs.getLast? ≠ some '/') : stem cs = cs := by
  refine List.rdropWhile_eq_self_iff.2 fun hne hlast => h ?_
  rw [List.getLast?_eq_some_getLast hne, of_decide_eq_true hlast]

theorem getLast?_stem (cs : List Char) : (stem cs).getLast? ≠ some '/' := by
  intro hlast
  have hne : stem cs ≠ [] := by
    intro hnil
    rw [hnil] at hlast
    cases hlast
  rw [List.getLast?_eq_some_getLast hne] at hlast
  have hnot := List.rdropWhile_last_not (fun c => decide (c = '/')) cs hne
  exact hnot (decide_eq_true (Option.some.inj hlast))

theorem stem_append_cons {front back : List Char} {mark : Char} (h : mark ≠ '/') :
    stem (front ++ mark :: back) = front ++ mark :: stem back := by
  have hmark : stem [mark] = [mark] := stem_of_getLast? (by simpa using h)
  have hcons : stem (mark :: back) = mark :: stem back := by
    have hsplit := stem_append [mark] back
    rw [List.singleton_append] at hsplit
    rw [hsplit]
    split
    · rename_i hnil
      rw [hmark, hnil]
    · rfl
  rw [stem_append, hcons, if_neg (List.cons_ne_nil mark _)]

/-! ## Written paths without the slashes at their end -/

theorem isWritten_stem (h : UrlPath.IsWritten special path) :
    UrlPath.IsWritten special (stem path) := by
  obtain ⟨n, hpath⟩ := exists_slashes path
  cases n with
  | zero =>
    rw [List.replicate_zero, List.append_nil] at hpath
    rw [← hpath]
    exact h
  | succ n =>
    rw [hpath, List.replicate_succ] at h
    exact (UrlPath.isWritten_append.1 h).1

theorem head?_all_append (front back : List Char) :
    (Split.all '/' (front ++ '/' :: back)).head? = (Split.all '/' front).head? := by
  rw [Split.all_append, List.head?_append_of_ne_nil _ (Split.all_ne_nil '/' front)]

theorem head?_all_stem (path : List Char) :
    (Split.all '/' (stem path)).head? = (Split.all '/' path).head? := by
  obtain ⟨n, hpath⟩ := exists_slashes path
  conv => rhs; rw [hpath]
  cases n with
  | zero => rw [List.replicate_zero, List.append_nil]
  | succ n => rw [List.replicate_succ, head?_all_append]

theorem head?_stem (h : stem path ≠ []) : (stem path).head? = path.head? := by
  obtain ⟨n, hpath⟩ := exists_slashes path
  conv => rhs; rw [hpath]
  rw [List.head?_append_of_ne_nil _ h]

/-! ## What is put behind a URL -/

structure Relative where
  path : List Char
  query : Option String

namespace Relative

variable {r : Relative}

def text (r : Relative) : List Char := r.path ++ tail '?' r.query

/-- The path begins with a segment that is not empty and no drive. -/
structure IsWritten (r : Relative) : Prop where
  path : UrlPath.IsWritten true r.path
  first : ∀ first ∈ (Split.all '/' r.path).head?, first ≠ [] ∧ isDrive first = false
  query : ∀ s ∈ r.query, ∀ c ∈ s.toList, Percent.inQuery true c = false

theorem IsWritten.exists_cons (h : r.IsWritten) : ∃ c rest, r.path = c :: rest ∧ c ≠ '/' := by
  have hfirst := h.first
  cases hpath : r.path with
  | nil =>
    rw [hpath] at hfirst
    exact absurd rfl (hfirst [] rfl).1
  | cons c rest =>
    refine ⟨c, rest, rfl, ?_⟩
    rintro rfl
    rw [hpath, Split.all_cons_self] at hfirst
    exact (hfirst [] rfl).1 rfl

theorem IsWritten.not_beginsWithDrive (h : r.IsWritten) : ¬BeginsWithDrive r.path := by
  rintro ⟨first, hfirst, hdrive⟩
  rw [(h.first first hfirst).2] at hdrive
  cases hdrive

theorem IsWritten.of_mem (h : r.IsWritten) :
    ∀ c ∈ '/' :: r.text, Percent.isControl c = false ∧ c ≠ ' ' ∧ c ≠ '#' := by
  have hpath : ∀ c ∈ r.path, Percent.isControl c = false ∧ c ≠ ' ' ∧ c ≠ '#' := by
    intro c hc
    have hplain := isPlainChar_of_inPath (h.path.inPath c hc)
    exact ⟨hplain.1, hplain.2.2.2, hplain.2.2.1⟩
  have hquery : ∀ c ∈ tail '?' r.query, Percent.isControl c = false ∧ c ≠ ' ' ∧ c ≠ '#' := by
    refine forall_mem_tail (by decide) fun s hs c hc => ?_
    have hset := h.query s hs c hc
    refine ⟨Percent.isControl_of_inQuery hset, ?_, ?_⟩ <;> (rintro rfl; cases hset)
  exact List.forall_mem_cons.2 ⟨by decide, List.forall_mem_append.2 ⟨hpath, hquery⟩⟩

theorem IsWritten.isBlank_getLast? (h : r.IsWritten) (front : List Char) :
    ∀ c ∈ (front ++ '/' :: r.text).getLast?, isBlank c = false := by
  intro c hc
  rw [List.getLast?_append_of_ne_nil _ (List.cons_ne_nil '/' r.text)] at hc
  have hplain := h.of_mem c (List.mem_of_mem_getLast? hc)
  exact isBlank_of_isControl hplain.1 hplain.2.1

end Relative

variable {r : Relative}

def extend (u : Url) (r : Relative) : List Char := stem u.text.toList ++ '/' :: r.text

theorem IsShaped.with_tail (h : IsShaped u) (query fragment : Option String) :
    IsShaped { u with query := query, fragment := fragment } := by
  cases h with
  | authority hfile ha hpath => exact .authority hfile ha hpath
  | file hhost hpath hsecond => exact .file hhost hpath hsecond
  | rooted hspecial hpath => exact .rooted hspecial hpath
  | bare hspecial hpath hfirst => exact .bare hspecial hpath hfirst

/-! ## Behind a query or a fragment -/

/-- Where the text goes on behind the body of a URL that stands, only its query and its fragment
are others. -/
theorem parse_with_tail (h : u.Stands) {query fragment : Option String}
    (hquery : ∀ s ∈ query, '#' ∉ s.toList)
    (hshown : ∀ c ∈ tail '?' query ++ tail '#' fragment, UrlPath.isHidden c = false)
    (hend : ∀ c ∈ (Parts.text ⟨u.scheme, u.body, query, fragment⟩).getLast?, isBlank c = false) :
    parse (String.ofList (Parts.text ⟨u.scheme, u.body, query, fragment⟩)) =
      .ok { u with
        query := encodePart (Percent.inQuery (isSpecial u.scheme)) query
        fragment := encodePart Percent.inFragment fragment } := by
  have hu := h.isWritten
  have hbare : Parts.IsWritten ⟨u.scheme, u.body, none, none⟩ :=
    ⟨hu.scheme, hu.parts.body, nofun, nofun⟩
  have hbody : ∀ c ∈ u.body, UrlPath.isHidden c = false := fun c hc =>
    UrlPath.isHidden_of_isControl (hu.shape.of_mem_body c hc).1
  have htext : ∀ c ∈ Parts.text ⟨u.scheme, u.body, query, fragment⟩,
      UrlPath.isHidden c = false := by
    intro c hc
    have hcases : c ∈ Parts.text ⟨u.scheme, u.body, none, none⟩ ∨
        c ∈ tail '?' query ++ tail '#' fragment := by
      simp only [Parts.text, tail, List.append_nil, List.append_assoc] at hc ⊢
      rcases List.mem_append.1 hc with hc | hc
      · exact .inl (List.mem_append_left _ hc)
      rcases List.mem_cons.1 hc with rfl | hc
      · exact .inl (List.mem_append_right _ List.mem_cons_self)
      rcases List.mem_append.1 hc with hc | hc
      · exact .inl (List.mem_append_right _ (List.mem_cons_of_mem _ hc))
      · exact .inr hc
    rcases hcases with hc | hc
    · exact hbare.isHidden_text hbody c hc
    · exact hshown c hc
  have hcut : Parts.IsCut ⟨u.scheme, u.body, query, fragment⟩ := ⟨hu.scheme, hu.parts.body, hquery⟩
  rw [Parts.parse_text hcut htext hend]
  exact (read_parts_iff (hu.shape.with_tail _ _)).2 h.hostReads

theorem isHidden_stem_append (hcs : ∀ c ∈ cs, Percent.isControl c = false) (hr : r.IsWritten) :
    ∀ c ∈ stem cs ++ '/' :: r.text, UrlPath.isHidden c = false :=
  List.forall_mem_append.2
    ⟨fun c hc => UrlPath.isHidden_of_isControl
      (hcs c ((List.rdropWhile_prefix _ cs).sublist.subset hc)),
      fun c hc => UrlPath.isHidden_of_isControl (hr.of_mem c hc).1⟩

theorem extend_of_fragment {f : String} (h : u.fragment = some f) (r : Relative) :
    u.extend r = Parts.text ⟨u.scheme, u.body, u.query,
      some (String.ofList (stem f.toList ++ '/' :: r.text))⟩ := by
  have htext : u.text.toList =
      (u.scheme.toList ++ ':' :: (u.body ++ tail '?' u.query)) ++ '#' :: f.toList := by
    rw [toList_text, Parts.text, parts, h]
    simp [tail]
  rw [extend, htext, stem_append_cons (by decide)]
  simp [Parts.text, tail]

theorem extend_of_query {s : String} (hfragment : u.fragment = none) (h : u.query = some s)
    (r : Relative) :
    u.extend r = Parts.text ⟨u.scheme, u.body,
      some (String.ofList (stem s.toList ++ '/' :: r.text)), none⟩ := by
  have htext : u.text.toList = (u.scheme.toList ++ ':' :: u.body) ++ '?' :: s.toList := by
    rw [toList_text, Parts.text, parts, h, hfragment]
    simp [tail]
  rw [extend, htext, stem_append_cons (by decide)]
  simp [Parts.text, tail]

theorem parse_extend_of_tail (h : u.Stands) (hr : r.IsWritten)
    (htail : ¬(u.query = none ∧ u.fragment = none)) :
    ∃ query fragment, parse (String.ofList (u.extend r)) =
      .ok { u with query := query, fragment := fragment } := by
  have hu := h.isWritten
  have hend : ∀ c ∈ (u.extend r).getLast?, isBlank c = false := hr.isBlank_getLast? _
  cases hfragment : u.fragment with
  | some f =>
    have hquery : ∀ c ∈ tail '?' u.query, UrlPath.isHidden c = false :=
      forall_mem_tail (by decide) fun s hs c hc =>
        UrlPath.isHidden_of_isControl (Percent.isControl_of_inQuery (hu.query s hs c hc))
    have hbehind := isHidden_stem_append (fun c hc =>
      Percent.isControl_of_inFragment (hu.fragment f hfragment c hc)) hr
    rw [extend_of_fragment hfragment] at hend ⊢
    refine ⟨_, _, parse_with_tail h hu.parts.isCut.query ?_ hend⟩
    refine List.forall_mem_append.2 ⟨hquery, List.forall_mem_cons.2 ⟨by decide, ?_⟩⟩
    rwa [String.toList_ofList]
  | none =>
    cases hquery : u.query with
    | none => exact absurd ⟨hquery, hfragment⟩ htail
    | some s =>
      have hmark : '#' ∉ stem s.toList ++ '/' :: r.text := by
        intro hmem
        rcases List.mem_append.1 hmem with hmem | hmem
        · exact hu.parts.isCut.query s hquery ((List.rdropWhile_prefix _ _).sublist.subset hmem)
        · exact (hr.of_mem '#' hmem).2.2 rfl
      have hbehind := isHidden_stem_append (fun c hc =>
        Percent.isControl_of_inQuery (hu.query s hquery c hc)) hr
      rw [extend_of_query hfragment hquery] at hend ⊢
      refine ⟨_, _, parse_with_tail h (fun s' hs' => ?_) ?_ hend⟩
      · rw [← Option.some.inj hs', String.toList_ofList]
        exact hmark
      · refine List.forall_mem_append.2 ⟨List.forall_mem_cons.2 ⟨by decide, ?_⟩, nofun⟩
        rwa [String.toList_ofList]

/-! ## Behind a path -/

/-- The host by which a URL is known; a host without any text is none. -/
def hostName (u : Url) : Option Host := u.host.filter (· ≠ .name "")

/-- The URL has the scheme, the host and the path of the other, with the given path and its query
behind them. -/
structure IsUnder (u : Url) (r : Relative) (v : Url) : Prop where
  scheme : v.scheme = u.scheme
  account : v.username = u.username ∧ v.password = u.password
  host : v.hostName = u.hostName
  port : v.port = u.port
  path : v.path.toList = stem u.path.toList ++ '/' :: r.path
  query : v.query = r.query
  fragment : v.fragment = none

def extended (u : Url) (r : Relative) : Url :=
  { u with
    path := String.ofList (stem u.path.toList ++ '/' :: r.path)
    query := r.query
    fragment := none }

theorem isUnder_extended (u : Url) (r : Relative) : u.IsUnder r (u.extended r) :=
  ⟨rfl, ⟨rfl, rfl⟩, rfl, rfl, String.toList_ofList, rfl, rfl⟩

theorem extend_of_path (hquery : u.query = none) (hfragment : u.fragment = none) (r : Relative) :
    u.extend r = Parts.text ⟨u.scheme, stem u.body ++ '/' :: r.path, r.query, none⟩ := by
  have htext : u.text.toList = u.scheme.toList ++ ':' :: u.body := by
    rw [toList_text, Parts.text, parts, hquery, hfragment]
    simp [tail]
  rw [extend, htext, stem_append_cons (by decide)]
  simp [Parts.text, tail, Relative.text]

theorem isWritten_of_special (h : UrlPath.IsWritten true path) (special : Bool) :
    UrlPath.IsWritten special path := by
  intro segment hsegment
  obtain ⟨hplain, hunparted⟩ := h segment hsegment
  refine ⟨hplain, fun c hc => ?_⟩
  have hc := hunparted c hc
  simp only [isSlash, Bool.or_eq_false_iff, Bool.true_and] at hc
  simp [isSlash, hc.1, hc.2]

theorem parse_extend_of_path (h : u.Stands) (hr : r.IsWritten) (hquery : u.query = none)
    (hfragment : u.fragment = none) :
    parse (String.ofList (u.extend r)) =
      Parts.read ⟨u.scheme, stem u.body ++ '/' :: r.path, r.query, none⟩ := by
  have hu := h.isWritten
  have hbody : ∀ c ∈ stem u.body ++ '/' :: r.path,
      Percent.isControl c = false ∧ c ≠ '?' ∧ c ≠ '#' := by
    refine List.forall_mem_append.2 ⟨fun c hc => ?_, List.forall_mem_cons.2 ⟨by decide, ?_⟩⟩
    · have hplain := hu.shape.of_mem_body c ((List.rdropWhile_prefix _ _).sublist.subset hc)
      exact ⟨hplain.1, hplain.2.1, hplain.2.2.1⟩
    · intro c hc
      have hplain := isPlainChar_of_inPath (hr.path.inPath c hc)
      exact ⟨hplain.1, hplain.2.1, hplain.2.2.1⟩
  have hparts : Parts.IsWritten ⟨u.scheme, stem u.body ++ '/' :: r.path, r.query, none⟩ := by
    refine ⟨hu.scheme, fun c hc => (hbody c hc).2, fun s hs c hc => ?_, nofun⟩
    exact Percent.inQuery_of_special (hr.query s hs c hc) _
  have hend : ∀ c ∈ (u.extend r).getLast?, isBlank c = false := hr.isBlank_getLast? _
  have hshown := hparts.isHidden_text fun c hc => UrlPath.isHidden_of_isControl (hbody c hc).1
  rw [extend_of_path hquery hfragment] at hend ⊢
  rw [Parts.parse_text hparts.isCut hshown hend, hparts.encode_eq]

/-! ### The path as it is put behind another -/

theorem isRooted_slash (hr : r.IsWritten) (special : Bool) : IsRooted special ('/' :: r.path) :=
  ⟨UrlPath.isWritten_cons.2 (isWritten_of_special hr.path special), rfl⟩

theorem isRooted_behind (h : IsRooted special path) (hr : r.IsWritten) :
    IsRooted special (stem path ++ '/' :: r.path) := by
  refine ⟨UrlPath.isWritten_append.2 ⟨isWritten_stem h.written, ?_⟩, ?_⟩
  · exact isWritten_of_special hr.path special
  by_cases hnil : stem path = []
  · rw [hnil]
    rfl
  · rw [List.head?_append_of_ne_nil _ hnil, head?_stem hnil]
    exact h.rooted

theorem stem_cons_slash (path : List Char) :
    stem ('/' :: path) = if stem path = [] then [] else '/' :: stem path := by
  have hslash : stem ['/'] = [] := by decide
  have h := stem_append ['/'] path
  rw [hslash, List.singleton_append] at h
  exact h

theorem second_behind (hsecond : (path.drop 1).head? ≠ some '/') (hpath : path.head? = some '/')
    (hr : r.IsWritten) : ((stem path ++ '/' :: r.path).drop 1).head? ≠ some '/' := by
  obtain ⟨rest, rfl⟩ := List.head?_eq_some_iff.1 hpath
  obtain ⟨c, behind, hrest, hne⟩ := hr.exists_cons
  rw [stem_cons_slash]
  split
  · rw [hrest]
    exact fun h => hne (Option.some.inj h)
  · rename_i hstem
    rw [List.cons_append, List.drop_succ_cons, List.drop_zero, List.head?_append_of_ne_nil _ hstem,
      head?_stem hstem]
    exact hsecond

theorem drive_behind (hpath : path.head? = some '/') (hr : r.IsWritten)
    (hdrive : ¬BeginsWithDrive (path.drop 1)) :
    ¬BeginsWithDrive ((stem path ++ '/' :: r.path).drop 1) := by
  obtain ⟨rest, rfl⟩ := List.head?_eq_some_iff.1 hpath
  rw [stem_cons_slash]
  split
  · exact hr.not_beginsWithDrive
  · rw [List.cons_append, List.drop_succ_cons, List.drop_zero, BeginsWithDrive, head?_all_append,
      head?_all_stem]
    exact hdrive

theorem take_two_behind (h : stem path ≠ []) (back : List Char) :
    (stem path ++ '/' :: back).take 2 = ['/', '/'] ↔ path.take 2 = ['/', '/'] := by
  obtain ⟨n, hpath⟩ := exists_slashes path
  have hlast := getLast?_stem path
  cases hstem : stem path with
  | nil => exact absurd hstem h
  | cons c rest =>
    rw [hstem] at hpath hlast
    rw [hpath]
    cases rest with
    | nil =>
      have hne : c ≠ '/' := fun hc => hlast (congrArg some hc)
      simp [hne]
    | cons d rest => simp

theorem stem_of_front {front : List Char} (hlast : front.getLast? ≠ some '/')
    (path : List Char) : stem (front ++ path) = front ++ stem path := by
  rw [stem_append]
  split
  · rename_i hnil
    rw [stem_of_getLast? hlast, hnil, List.append_nil]
  · rfl

theorem stem_authority {text : List Char} (hlast : text.getLast? ≠ some '/')
    (h : text ≠ [] ∨ stem path ≠ []) :
    stem ('/' :: '/' :: (text ++ path)) = '/' :: '/' :: (text ++ stem path) := by
  have hne : stem (text ++ path) ≠ [] := by
    rw [stem_of_front hlast]
    intro hnil
    rw [List.append_eq_nil_iff] at hnil
    exact h.elim (fun h => h hnil.1) fun h => h hnil.2
  have hbehind : stem ('/' :: (text ++ path)) = '/' :: stem (text ++ path) := by
    rw [stem_cons_slash, if_neg hne]
  rw [stem_cons_slash, hbehind, if_neg (List.cons_ne_nil _ _), stem_of_front hlast]

theorem stem_slashes (h : stem path = []) : stem ('/' :: '/' :: path) = [] := by
  rw [stem_cons_slash, stem_cons_slash, if_pos h]
  rfl

/-! ### Reading the extended URL -/

variable {scheme : String} {query fragment : Option String}

/-- Where nothing is left of the authority and the path, the path that is put behind becomes the
path of a URL without a host. -/
theorem read_rooted_relative (hspecial : isSpecial scheme = false) (hr : r.IsWritten) :
    Parts.read ⟨scheme, '/' :: r.path, r.query, none⟩ =
      .ok ⟨scheme, "", "", none, none, String.ofList ('/' :: r.path), r.query, none⟩ := by
  have hread := read_rooted hspecial (isRooted_slash hr false) r.query none
  obtain ⟨c, rest, hrest, hne⟩ := hr.exists_cons
  have htake : ('/' :: r.path).take 2 ≠ ['/', '/'] := by
    rw [hrest]
    simpa using hne
  rw [parts, body_hostless, if_neg htake, List.nil_append] at hread
  exact hread

/-- The dot before a path that begins with two slashes is left out when none of them is left. -/
theorem read_dot_relative (hspecial : isSpecial scheme = false) (hr : r.IsWritten) :
    Parts.read ⟨scheme, ['/', '.'] ++ '/' :: r.path, r.query, none⟩ =
      .ok ⟨scheme, "", "", none, none, String.ofList ('/' :: r.path), r.query, none⟩ := by
  have hfile : scheme ≠ "file" := by
    rintro rfl
    cases hspecial
  have hdot : ('.' :: '/' :: r.path).head? ≠ some '/' := by simp
  have hread := otherUrl_slash hdot scheme r.query.isSome r.query none
  rw [follow_dot, UrlPath.follow_of_isWritten ['/'] (isWritten_of_special hr.path false)] at hread
  simpa [Parts.read, hfile, hspecial] using hread

theorem exists_read_authority {a : Authority} (hfile : scheme ≠ "file") (ha : a.IsWritten scheme)
    (hpath : FollowsAuthority (isSpecial scheme) path) (hr : r.IsWritten)
    (hread : readHost (isSpecial scheme) a.host.text.toList = .ok a.host) :
    ∃ v, Parts.read ⟨scheme, stem ('/' :: '/' :: (a.text ++ path)) ++ '/' :: r.path,
        r.query, none⟩ = .ok v ∧
      IsUnder ⟨scheme, a.username, a.password, some a.host, a.port, String.ofList path, none, none⟩
        r v := by
  have hlast : a.text.getLast? ≠ some '/' := fun hlast =>
    (ha.of_mem '/' (List.mem_of_mem_getLast? hlast)).2 (by decide)
  by_cases hnil : a.text = [] ∧ stem path = []
  · have htext := hnil.1
    simp only [Authority.text, List.append_eq_nil_iff] at htext
    obtain ⟨hspecial, husername, hpassword, hport⟩ := ha.uncrowded (String.toList_inj.1 htext.2.1)
    have hhost := Host.eq_of_text_empty (String.toList_inj.1 htext.2.1)
    rw [hnil.1, List.nil_append, stem_slashes hnil.2, List.nil_append]
    refine ⟨_, read_rooted_relative hspecial hr, ⟨rfl, ⟨husername.symm, hpassword.symm⟩, ?_,
      hport.symm, ?_, rfl, rfl⟩⟩
    · rw [hostName, hostName, hhost]
      rfl
    · rw [String.toList_ofList, String.toList_ofList, hnil.2]
      rfl
  · have hrooted : FollowsAuthority (isSpecial scheme) (stem path ++ '/' :: r.path) := by
      obtain ⟨rfl, -⟩ | hrooted := hpath
      · exact .inr (isRooted_slash hr _)
      · exact .inr (isRooted_behind hrooted hr)
    have hextended := read_authority hfile ha hrooted r.query none
    rw [hread, parts, body_authority] at hextended
    rw [stem_authority hlast (not_and_or.1 hnil), List.cons_append, List.cons_append,
      List.append_assoc]
    refine ⟨_, hextended, ?_⟩
    have hunder := isUnder_extended ⟨scheme, a.username, a.password, some a.host, a.port,
      String.ofList path, none, none⟩ r
    rw [extended, String.toList_ofList] at hunder
    exact hunder

theorem exists_read_file {host : Host} (hhost : Host.IsWritten host.text.toList)
    (hpath : IsRooted true path) (hsecond : (path.drop 1).head? ≠ some '/') (hr : r.IsWritten)
    (hreads : host = .name "" ∨ Host.parse host.text.toList = .ok host ∧ host ≠ localhost ∧
      ¬BeginsWithDrive (path.drop 1)) :
    ∃ v, Parts.read ⟨"file", stem ('/' :: '/' :: (host.text.toList ++ path)) ++ '/' :: r.path,
        r.query, none⟩ = .ok v ∧
      IsUnder ⟨"file", "", "", some host, none, String.ofList path, none, none⟩ r v := by
  have hlast : host.text.toList.getLast? ≠ some '/' := fun hlast =>
    (hhost.of_mem '/' (List.mem_of_mem_getLast? hlast)).2.1 (by decide)
  obtain ⟨c, rest, hrest, hne⟩ := hr.exists_cons
  by_cases hnil : host.text.toList = [] ∧ stem path = []
  · have hname := Host.eq_of_text_empty (String.toList_inj.1 hnil.1)
    have hfirst : r.path.head? ≠ some '/' := by
      rw [hrest]
      exact fun h => hne (Option.some.inj h)
    have hread := fileUrl_slash hr.path hfirst hr.not_beginsWithDrive r.query none
    rw [hnil.1, List.nil_append, stem_slashes hnil.2, List.nil_append]
    have hpartsRead : Parts.read ⟨"file", '/' :: r.path, r.query, none⟩ =
        fileUrl ('/' :: r.path) r.query none := by
      simp only [Parts.read, if_true]
    rw [hread] at hpartsRead
    refine ⟨_, hpartsRead, ⟨rfl, ⟨rfl, rfl⟩, ?_, rfl, ?_, rfl, rfl⟩⟩
    · rw [hname, hostName, hostName]
    · rw [String.toList_ofList, String.toList_ofList, hnil.2]
      rfl
  · have hextended := (read_file_iff hhost (isRooted_behind hpath hr)
      (second_behind hsecond hpath.rooted hr) r.query none).2
      (hreads.imp_right fun h => ⟨h.1, h.2.1, drive_behind hpath.rooted hr h.2.2⟩)
    rw [parts, body_file] at hextended
    rw [stem_authority hlast (not_and_or.1 hnil), List.cons_append, List.cons_append,
      List.append_assoc]
    refine ⟨_, hextended, ?_⟩
    have hunder := isUnder_extended ⟨"file", "", "", some host, none, String.ofList path, none,
      none⟩ r
    rw [extended, String.toList_ofList] at hunder
    exact hunder

theorem exists_read_rooted (hspecial : isSpecial scheme = false) (hpath : IsRooted false path)
    (hr : r.IsWritten) :
    ∃ v, Parts.read ⟨scheme, stem ((if path.take 2 = ['/', '/'] then ['/', '.'] else []) ++ path)
        ++ '/' :: r.path, r.query, none⟩ = .ok v ∧
      IsUnder ⟨scheme, "", "", none, none, String.ofList path, none, none⟩ r v := by
  have hunder := isUnder_extended ⟨scheme, "", "", none, none, String.ofList path, none, none⟩ r
  rw [extended, String.toList_ofList] at hunder
  refine ⟨_, ?_, hunder⟩
  have hlast : (if path.take 2 = ['/', '/'] then ['/', '.'] else []).getLast? ≠ some '/' := by
    split <;> decide
  have hextended := read_rooted hspecial (isRooted_behind hpath hr) r.query none
  rw [stem_of_front hlast]
  by_cases hnil : stem path = []
  · rw [hnil, List.append_nil]
    split
    · exact read_dot_relative hspecial hr
    · exact read_rooted_relative hspecial hr
  · rw [parts, body_hostless] at hextended
    simp only [take_two_behind hnil] at hextended
    rw [List.append_assoc]
    exact hextended

theorem exists_read_bare (hspecial : isSpecial scheme = false)
    (hpath : ∀ c ∈ path, Percent.isControl c = false) (hfirst : path.head? ≠ some '/')
    (hr : r.IsWritten) :
    ∃ v, Parts.read ⟨scheme, stem path ++ '/' :: r.path, r.query, none⟩ = .ok v ∧
      IsUnder ⟨scheme, "", "", none, none, String.ofList path, none, none⟩ r v := by
  have hunder := isUnder_extended ⟨scheme, "", "", none, none, String.ofList path, none, none⟩ r
  rw [extended, String.toList_ofList] at hunder
  refine ⟨_, ?_, hunder⟩
  by_cases hnil : stem path = []
  · rw [hnil]
    exact read_rooted_relative hspecial hr
  · have hcontrol : ∀ c ∈ stem path ++ '/' :: r.path, Percent.isControl c = false := by
      refine List.forall_mem_append.2 ⟨fun c hc => ?_, List.forall_mem_cons.2 ⟨by decide, ?_⟩⟩
      · exact hpath c ((List.rdropWhile_prefix _ path).sublist.subset hc)
      · exact fun c hc => (isPlainChar_of_inPath (hr.path.inPath c hc)).1
    have hhead : (stem path ++ '/' :: r.path).head? ≠ some '/' := by
      rw [List.head?_append_of_ne_nil _ hnil, head?_stem hnil]
      exact hfirst
    have hread := read_bare hspecial hcontrol hhead r.query none
    rw [parts, body_hostless, if_neg (take_two_of_head? hhead), List.nil_append] at hread
    exact hread

theorem exists_isUnder (h : u.Stands) (hr : r.IsWritten) (hquery : u.query = none)
    (hfragment : u.fragment = none) :
    ∃ v, parse (String.ofList (u.extend r)) = .ok v ∧ u.IsUnder r v := by
  rw [parse_extend_of_path h hr hquery hfragment]
  have hhost := h.hostReads
  cases h.isWritten.shape with
  | @authority scheme a path query fragment hfile ha hpath =>
    obtain rfl : query = none := hquery
    obtain rfl : fragment = none := hfragment
    have hread := hhost a.host rfl
    rw [if_neg hfile] at hread
    rw [body_authority]
    exact exists_read_authority hfile ha hpath hr hread
  | @file host path query fragment hwritten hpath hsecond =>
    obtain rfl : query = none := hquery
    obtain rfl : fragment = none := hfragment
    have hread := hhost host rfl
    rw [if_pos rfl, String.toList_ofList] at hread
    rw [body_file]
    exact exists_read_file hwritten hpath hsecond hr hread
  | @rooted scheme path query fragment hspecial hpath =>
    obtain rfl : query = none := hquery
    obtain rfl : fragment = none := hfragment
    rw [body_hostless]
    exact exists_read_rooted hspecial hpath hr
  | @bare scheme path query fragment hspecial hpath hfirst =>
    obtain rfl : query = none := hquery
    obtain rfl : fragment = none := hfragment
    rw [body_hostless, if_neg (take_two_of_head? hfirst), List.nil_append]
    exact exists_read_bare hspecial (fun c hc => (hpath c hc).1) hfirst hr

/-- A path of its own is not the path with another behind it. -/
theorem append_stem_ne (hr : r.IsWritten) (path : List Char) :
    stem path ++ '/' :: r.path ≠ path := by
  intro hsame
  obtain ⟨n, hpath⟩ := exists_slashes path
  obtain ⟨c, rest, hrest, hne⟩ := hr.exists_cons
  have hslashes : '/' :: r.path = List.replicate n '/' :=
    List.append_cancel_left (hsame.trans hpath)
  have hmem : c ∈ List.replicate n '/' := by
    rw [← hslashes, hrest]
    exact List.mem_cons_of_mem _ List.mem_cons_self
  exact hne (List.eq_of_mem_replicate hmem)

theorem exists_isUnder_iff (h : u.Stands) (hr : r.IsWritten) :
    (∃ v, parse (String.ofList (u.extend r)) = .ok v ∧ u.IsUnder r v) ↔
      u.query = none ∧ u.fragment = none := by
  refine ⟨?_, fun htail => exists_isUnder h hr htail.1 htail.2⟩
  rintro ⟨v, hv, hunder⟩
  by_contra htail
  obtain ⟨query, fragment, hparse⟩ := parse_extend_of_tail h hr htail
  rw [hparse] at hv
  cases hv
  exact append_stem_ne hr u.path.toList hunder.path.symm

end Tronkit.Url
