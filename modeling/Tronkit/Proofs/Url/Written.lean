import Tronkit.Proofs.Url.Address
import Tronkit.Proofs.Url.Authority
import Tronkit.Proofs.Url.File
import Tronkit.Proofs.Url.Parts

/-!
# Written URLs

A URL that was read has one of four shapes: an authority with a path, a file, a path without a host,
or a text that is no path. Read again, it keeps its shape and everything but its host, which is read
anew; the host of a file is lost if a drive stands right behind it. So a URL stands, its text being
read as the URL itself, exactly if its host does.
-/

namespace Tronkit.Url

open Percent (inPath inQuery inFragment)
open UrlPath (isHidden isSlash IsRooted BeginsWithDrive followFile)

variable {u : Url} {host : Host} {cs path : List Char} {query fragment : Option String} {c : Char}

def body (u : Url) : List Char := u.authority.toList ++ u.path.toList

def parts (u : Url) : Parts := ⟨u.scheme, u.body, u.query, u.fragment⟩

theorem toList_text (u : Url) : u.text.toList = u.parts.text := by
  obtain ⟨scheme, username, password, host, port, path, query, fragment⟩ := u
  cases query <;> cases fragment <;> simp [text, parts, body, Parts.text, tail]

inductive IsShaped : Url → Prop
  | authority {scheme : String} {a : Authority} {path : List Char} {query fragment : Option String}
      (hfile : scheme ≠ "file") (ha : a.IsWritten scheme)
      (hpath : FollowsAuthority (isSpecial scheme) path) :
      IsShaped ⟨scheme, a.username, a.password, some a.host, a.port, String.ofList path, query,
        fragment⟩
  | file {host : Host} {path : List Char} {query fragment : Option String}
      (hhost : Host.IsWritten host.text.toList) (hpath : IsRooted true path)
      (hsecond : (path.drop 1).head? ≠ some '/') :
      IsShaped ⟨"file", "", "", some host, none, String.ofList path, query, fragment⟩
  | rooted {scheme : String} {path : List Char} {query fragment : Option String}
      (hspecial : isSpecial scheme = false) (hpath : IsRooted false path) :
      IsShaped ⟨scheme, "", "", none, none, String.ofList path, query, fragment⟩
  | bare {scheme : String} {path : List Char} {query fragment : Option String}
      (hspecial : isSpecial scheme = false)
      (hpath : ∀ c ∈ path, Percent.isControl c = false ∧ c ≠ '?' ∧ c ≠ '#')
      (hfirst : path.head? ≠ some '/') :
      IsShaped ⟨scheme, "", "", none, none, String.ofList path, query, fragment⟩

theorem body_authority (scheme : String) (a : Authority) (path : List Char)
    (query fragment : Option String) :
    body ⟨scheme, a.username, a.password, some a.host, a.port, String.ofList path, query,
      fragment⟩ = '/' :: '/' :: (a.text ++ path) := by
  have haccount : (credentials ⟨scheme, a.username, a.password, some a.host, a.port,
      String.ofList path, query, fragment⟩).toList = a.accountText := by
    simp only [credentials, Authority.accountText, Bool.and_eq_true, decide_eq_true_eq]
    split
    · rfl
    · split <;> simp
  simp only [body, authority, String.toList_append, haccount, String.toList_ofList,
    Authority.text, List.append_assoc]
  obtain ⟨username, password, host, port, rest⟩ := a
  cases port <;> simp [Authority.portText, decimalText]

theorem body_file (host : Host) (path : List Char) (query fragment : Option String) :
    body ⟨"file", "", "", some host, none, String.ofList path, query, fragment⟩ =
      '/' :: '/' :: (host.text.toList ++ path) := by
  have h := body_authority "file" ⟨"", "", host, none, []⟩ path query fragment
  simpa [Authority.text, Authority.accountText, Authority.portText] using h

theorem body_hostless (scheme : String) (path : List Char) (query fragment : Option String) :
    body ⟨scheme, "", "", none, none, String.ofList path, query, fragment⟩ =
      (if path.take 2 = ['/', '/'] then ['/', '.'] else []) ++ path := by
  simp only [body, authority, String.toList_ofList]
  split <;> rfl

theorem take_two_of_head? (h : path.head? ≠ some '/') : path.take 2 ≠ ['/', '/'] := by
  intro htake
  cases path with
  | nil => cases htake
  | cons c path =>
    rw [List.take_succ_cons, List.cons.injEq] at htake
    exact h (congrArg some htake.1)

/-! ## Files -/

theorem isWritten_nil : Host.IsWritten [] := .plain (List.forall_mem_nil _)

theorem afterSlash?_sublist {rest : List Char} (h : afterSlash? cs = some rest) :
    rest.Sublist cs := by
  unfold afterSlash? at h
  split at h
  · rename_i c behind hdrop
    obtain ⟨-, hbehind⟩ := Option.ite_none_right_eq_some.1 h
    obtain rfl := Option.some.inj hbehind
    have hsub := List.dropWhile_sublist (l := cs) isHidden
    rw [hdrop] at hsub
    exact (List.sublist_cons_self c behind).trans hsub
  · cases h

theorem dropWhile_isHidden (h : ∀ c ∈ cs, isHidden c = false) : cs.dropWhile isHidden = cs :=
  dropWhile_of_head? fun c hc => h c (List.mem_of_mem_head? hc)

theorem exists_of_afterSlash? {rest : List Char} (hshown : ∀ c ∈ cs, isHidden c = false)
    (h : afterSlash? cs = some rest) : ∃ c, cs = c :: rest ∧ isSlash true c = true := by
  rw [afterSlash?, dropWhile_isHidden hshown] at h
  split at h
  · obtain ⟨hslash, hbehind⟩ := Option.ite_none_right_eq_some.1 h
    obtain rfl := Option.some.inj hbehind
    exact ⟨_, rfl, hslash⟩
  · cases h

theorem fileHost_spec {root rest : List Char} (h : fileHost cs = .ok (host, root, rest)) :
    Host.IsWritten host.text.toList ∧ rest.Sublist cs ∧ (root = [] ∨ root = ['/']) ∧
      ((∀ c ∈ cs, isHidden c = false) → UrlPath.Roots root rest) := by
  unfold fileHost at h
  split at h
  · cases h
    exact ⟨isWritten_nil, List.Sublist.refl cs, .inr rfl, fun _ => .inl rfl⟩
  rename_i single hsingle
  split at h
  · cases h
    refine ⟨isWritten_nil, List.Sublist.refl cs, .inl rfl, fun hshown => .inr ⟨rfl, ?_⟩⟩
    obtain ⟨c, hcs, hslash⟩ := exists_of_afterSlash? hshown hsingle
    exact ⟨c, single, hcs, hslash⟩
  rename_i behind hbehind
  have hsub : behind.Sublist cs := (afterSlash?_sublist hbehind).trans (afterSlash?_sublist hsingle)
  have hpath : (behind.dropWhile (!isSlash true ·)).Sublist cs :=
    (List.dropWhile_sublist _).trans hsub
  simp only at h
  split at h
  · cases h
    exact ⟨isWritten_nil, hsub, .inr rfl, fun _ => .inl rfl⟩
  split at h
  · cases h
    exact ⟨isWritten_nil, hpath, .inr rfl, fun _ => .inl rfl⟩
  obtain ⟨read, hread, h⟩ := bind_eq_ok_iff.1 h
  split at h
  · cases h
    exact ⟨isWritten_nil, hpath, .inr rfl, fun _ => .inl rfl⟩
  · cases h
    exact ⟨Host.isWritten_of_parse hread, (List.drop_sublist 1 _).trans hpath, .inr rfl,
      fun _ => .inl rfl⟩

/-- What is read of a file holds nothing that a path may not hold, and is written if nothing was
hidden. -/
theorem exists_of_fileUrl (h : fileUrl cs query fragment = .ok u) :
    ∃ host path, u = ⟨"file", "", "", some host, none, String.ofList path, query, fragment⟩ ∧
      Host.IsWritten host.text.toList ∧ (∀ c ∈ path, inPath c = false) ∧
      ((∀ c ∈ cs, isHidden c = false) →
        IsRooted true path ∧ (path.drop 1).head? ≠ some '/') := by
  obtain ⟨⟨host, root, rest⟩, hhost, h⟩ := bind_eq_ok_iff.1 h
  obtain ⟨hwritten, hrest, hroot, hroots⟩ := fileHost_spec hhost
  cases h
  refine ⟨_, _, rfl, ?_, UrlPath.inPath_of_mem_followFile hroot, fun hshown => ⟨?_, ?_⟩⟩
  · split
    · exact isWritten_nil
    · exact hwritten
  · exact UrlPath.isRooted_followFile (hroots hshown) fun c hc => hshown c (hrest.subset hc)
  · exact UrlPath.head?_followFile root rest

theorem afterSlash?_cons (cs : List Char) : afterSlash? ('/' :: cs) = some cs := by
  have hslash : isHidden '/' = false := by decide
  simp [afterSlash?, hslash, isSlash]

theorem isDrive_of_isWritten (h : Host.IsWritten cs) : UrlPath.isDrive cs = false := by
  cases h with
  | plain h =>
    unfold UrlPath.isDrive
    split
    · rename_i c m
      have hm := (h m (List.mem_cons_of_mem c List.mem_cons_self)).1
      have hcolon : m ≠ ':' := by rintro rfl; exact absurd hm (by decide)
      have hbar : m ≠ '|' := by rintro rfl; exact absurd hm (by decide)
      simp [hcolon, hbar]
    · rfl
  | @bracketed inner h =>
    cases inner with
    | nil => decide
    | cons c inner =>
      cases inner with
      | nil => rfl
      | cons d inner => rfl

section Files

variable {rest : List Char}

theorem fileHost_here (rest : List Char) :
    fileHost ('/' :: '/' :: '/' :: rest) = .ok (.name "", ['/'], '/' :: rest) := by
  simp [fileHost, afterSlash?_cons, UrlPath.isSlash_slash, UrlPath.isDrive]

theorem fileHost_there (h : Host.IsWritten cs) (hne : cs ≠ []) (rest : List Char) :
    fileHost ('/' :: '/' :: (cs ++ '/' :: rest)) = (Host.parse cs).map fun read =>
      if read = localhost then (.name "", ['/'], '/' :: rest) else (read, ['/'], rest) := by
  have hchars : ∀ c ∈ cs, (!isSlash true c) = true ∧ (!isHidden c) = true := by
    intro c hc
    rw [isSlash_of_notMem_ends (h.of_mem c hc).2.1,
      UrlPath.isHidden_of_isControl (h.of_mem c hc).1]
    exact ⟨rfl, rfl⟩
  have htake : (cs ++ '/' :: rest).takeWhile (!isSlash true ·) = cs := by
    rw [List.takeWhile_append_of_pos fun c hc => (hchars c hc).1]
    simp [UrlPath.isSlash_slash]
  have hdrop : (cs ++ '/' :: rest).dropWhile (!isSlash true ·) = '/' :: rest := by
    rw [List.dropWhile_append_of_pos fun c hc => (hchars c hc).1]
    simp [UrlPath.isSlash_slash]
  have hfilter : cs.filter (!isHidden ·) = cs := List.filter_eq_self.2 fun c hc => (hchars c hc).2
  simp only [fileHost, afterSlash?_cons, htake, hdrop, hfilter, isDrive_of_isWritten h, if_neg hne,
    Bool.false_eq_true, if_false]
  cases Host.parse cs with
  | error fault => rfl
  | ok read =>
    simp only [ok_bind, Except.map]
    split <;> rfl

theorem dropWhile_slash (h : rest.head? ≠ some '/') : rest.dropWhile (· = '/') = rest := by
  refine dropWhile_of_head? fun c hc => ?_
  rw [decide_eq_false_iff_not]
  rintro rfl
  exact h hc

theorem followFile_cons_slash (h : UrlPath.IsWritten true rest) (hfirst : rest.head? ≠ some '/') :
    followFile ['/'] ('/' :: rest) = ('/' :: rest, false) := by
  have hdrive : ¬BeginsWithDrive ('/' :: rest) := by
    rintro ⟨first, hfirst, hd⟩
    rw [Split.all_cons_self] at hfirst
    obtain rfl := Option.some.inj hfirst
    cases hd
  rw [UrlPath.followFile_of_isWritten (UrlPath.isWritten_cons.2 h) hdrive, List.dropWhile_cons,
    if_pos (by decide), dropWhile_slash hfirst]

theorem fileUrl_here (h : UrlPath.IsWritten true rest) (hfirst : rest.head? ≠ some '/')
    (query fragment : Option String) :
    fileUrl ('/' :: '/' :: '/' :: rest) query fragment = .ok ⟨"file", "", "", some (.name ""), none,
      String.ofList ('/' :: rest), query, fragment⟩ := by
  rw [fileUrl, fileHost_here, ok_bind]
  simp only [followFile_cons_slash h hfirst]
  rfl

theorem fileUrl_there (hhost : Host.IsWritten cs) (hne : cs ≠ []) (h : UrlPath.IsWritten true rest)
    (hfirst : rest.head? ≠ some '/') (hdrive : ¬BeginsWithDrive rest)
    (query fragment : Option String) :
    fileUrl ('/' :: '/' :: (cs ++ '/' :: rest)) query fragment = (Host.parse cs).map fun read =>
      ⟨"file", "", "", some (if read = localhost then .name "" else read), none,
        String.ofList ('/' :: rest), query, fragment⟩ := by
  rw [fileUrl, fileHost_there hhost hne]
  cases Host.parse cs with
  | error fault => rfl
  | ok read =>
    by_cases hlocal : read = localhost
    · simp only [Except.map, hlocal, if_true, ok_bind, followFile_cons_slash h hfirst]
      rfl
    · simp only [Except.map, hlocal, if_false, ok_bind, UrlPath.followFile_of_isWritten h hdrive,
        dropWhile_slash hfirst]
      rfl

theorem fileUrl_slash (h : UrlPath.IsWritten true rest) (hfirst : rest.head? ≠ some '/')
    (hdrive : ¬BeginsWithDrive rest) (query fragment : Option String) :
    fileUrl ('/' :: rest) query fragment = .ok ⟨"file", "", "", some (.name ""), none,
      String.ofList ('/' :: rest), query, fragment⟩ := by
  have hshown : ∀ c ∈ rest, isHidden c = false := fun c hc =>
    UrlPath.isHidden_of_inPath (h.inPath c hc)
  have hnone : afterSlash? rest = none := by
    rw [afterSlash?, dropWhile_isHidden hshown]
    cases rest with
    | nil => rfl
    | cons c rest =>
      have hc : isSlash true c = false :=
        h.isSlash List.mem_cons_self fun hslash => hfirst (congrArg some hslash)
      simp [hc]
  have hhost : fileHost ('/' :: rest) = .ok (.name "", [], '/' :: rest) := by
    simp only [fileHost, afterSlash?_cons, hnone]
  rw [fileUrl, hhost, ok_bind]
  simp only [UrlPath.followFile_slash (UrlPath.isSlash_slash true),
    UrlPath.followFile_of_isWritten h hdrive, dropWhile_slash hfirst]
  rfl

/-- A drive right behind a host takes the place of the host. -/
theorem host_of_drive (hhost : Host.IsWritten cs) (hne : cs ≠ []) (h : UrlPath.IsWritten true rest)
    (hdrive : BeginsWithDrive rest)
    (hread : fileUrl ('/' :: '/' :: (cs ++ '/' :: rest)) query fragment = .ok u) :
    u.host = some (.name "") := by
  rw [fileUrl, fileHost_there hhost hne] at hread
  obtain ⟨⟨host, root, path⟩, hmap, hread⟩ := bind_eq_ok_iff.1 hread
  obtain ⟨read, -, hcut⟩ := except_map_eq_ok_iff.1 hmap
  by_cases hlocal : read = localhost
  · rw [if_pos hlocal] at hcut
    cases hcut
    cases hread
    split <;> rfl
  · rw [if_neg hlocal] at hcut
    cases hcut
    cases hread
    exact congrArg some (if_pos (UrlPath.followFile_of_beginsWithDrive h hdrive))

end Files

/-! ## What is read has a shape -/

theorem isShaped_of_otherUrl {scheme : String} {followed : Bool}
    (hspecial : isSpecial scheme = false)
    (hcs : ∀ c ∈ cs, isHidden c = false ∧ c ≠ '?' ∧ c ≠ '#')
    (h : otherUrl scheme followed cs query fragment = .ok u) :
    IsShaped u ∧ u.scheme = scheme ∧ u.query = query ∧ u.fragment = fragment := by
  have hfile : scheme ≠ "file" := by
    rintro rfl
    cases hspecial
  unfold otherUrl at h
  split at h
  · rename_i rest
    have hrest : ∀ c ∈ rest, isHidden c = false := fun c hc =>
      (hcs c (List.mem_cons_of_mem _ (List.mem_cons_of_mem _ hc))).1
    obtain ⟨a, path, ha, hpath, rfl⟩ := exists_of_withAuthority hrest h
    exact ⟨.authority hfile ha hpath, rfl, rfl, rfl⟩
  · rename_i rest _
    cases h
    refine ⟨.rooted hspecial (UrlPath.isRooted_follow fun c hc => ?_), rfl, rfl, rfl⟩
    exact (hcs c (List.mem_cons_of_mem _ hc)).1
  · rename_i _ hnoPath
    cases h
    have hmarks : ∀ c ∈ Percent.marks, Percent.isControl c = false ∧ c ≠ '?' ∧ c ≠ '#' :=
      List.all_iff_forall_prop.1 (by decide)
    refine ⟨.bare hspecial ?_ ?_, rfl, rfl, rfl⟩
    · exact Percent.forall_mem_encode (fun c hc hset => ⟨hset, (hcs c hc).2⟩) hmarks
    · rw [Percent.head?_encode]
      intro hhead
      obtain ⟨c, hc, hslash⟩ := Option.map_eq_some_iff.1 hhead
      split at hslash
      · exact absurd hslash (by decide)
      · obtain ⟨rest, hrest⟩ := List.head?_eq_some_iff.1 hc
        rw [hslash] at hrest
        exact hnoPath rest hrest

theorem isShaped_of_read {p : Parts} (hbody : ∀ c ∈ p.body, isHidden c = false ∧ c ≠ '?' ∧ c ≠ '#')
    (h : p.read = .ok u) :
    IsShaped u ∧ u.scheme = p.scheme ∧ u.query = p.query ∧ u.fragment = p.fragment := by
  unfold Parts.read at h
  simp only at h
  split at h
  · rename_i hfile
    obtain ⟨host, path, rfl, hhost, -, hwritten⟩ := exists_of_fileUrl h
    obtain ⟨hpath, hsecond⟩ := hwritten fun c hc => (hbody c hc).1
    exact ⟨.file hhost hpath hsecond, hfile.symm, rfl, rfl⟩
  rename_i hfile
  split at h
  · have hrest : ∀ c ∈ p.body.dropWhile (isSlash true), isHidden c = false := fun c hc =>
      (hbody c ((List.dropWhile_sublist _).subset hc)).1
    obtain ⟨a, path, ha, hpath, rfl⟩ := exists_of_withAuthority hrest h
    exact ⟨.authority hfile ha hpath, rfl, rfl, rfl⟩
  · rename_i hspecial
    exact isShaped_of_otherUrl (Bool.eq_false_iff.2 hspecial) hbody h

/-! ## Written URLs are read again -/

structure IsWritten (u : Url) : Prop where
  shape : IsShaped u
  scheme : IsScheme u.scheme.toList
  query : ∀ q ∈ u.query, ∀ c ∈ q.toList, inQuery (isSpecial u.scheme) c = false
  fragment : ∀ f ∈ u.fragment, ∀ c ∈ f.toList, inFragment c = false
  /-- At its end a text that is no path has no blank. -/
  last : u.host = none → u.query = none → u.fragment = none →
    ∀ c ∈ u.path.toList.getLast?, isBlank c = false

/-- What a body is written with, but for the blanks of one that is no path. -/
def IsPlainChar (c : Char) : Prop := Percent.isControl c = false ∧ c ≠ '?' ∧ c ≠ '#' ∧ c ≠ ' '

theorem isPlainChar_of_inPath (h : inPath c = false) : IsPlainChar c := by
  refine ⟨Percent.isControl_of_inFragment (Percent.inFragment_of_inPath h), ?_, ?_, ?_⟩ <;>
    (rintro rfl; cases h)

theorem isPlainChar_of_ends (hcontrol : Percent.isControl c = false) (h : c ∉ Host.ends) :
    IsPlainChar c := by
  refine ⟨hcontrol, ?_, ?_, ?_⟩ <;> (rintro rfl; exact h (by decide))

theorem isPlainChar_of_followsAuthority {special : Bool} (h : FollowsAuthority special path) :
    ∀ c ∈ path, IsPlainChar c := by
  obtain ⟨rfl, -⟩ | hrooted := h
  · exact List.forall_mem_nil _
  · exact fun c hc => isPlainChar_of_inPath (hrooted.written.inPath c hc)

theorem isPlainChar_slash : IsPlainChar '/' := isPlainChar_of_inPath (by decide)

theorem isPlainChar_body_file (hhost : Host.IsWritten host.text.toList)
    (hpath : ∀ c ∈ path, inPath c = false) (query fragment : Option String) :
    ∀ c ∈ body ⟨"file", "", "", some host, none, String.ofList path, query, fragment⟩,
      IsPlainChar c := by
  rw [body_file]
  refine List.forall_mem_cons.2 ⟨isPlainChar_slash,
    List.forall_mem_cons.2 ⟨isPlainChar_slash, List.forall_mem_append.2 ⟨?_, ?_⟩⟩⟩
  · exact fun c hc => isPlainChar_of_ends (hhost.of_mem c hc).1 (hhost.of_mem c hc).2.1
  · exact fun c hc => isPlainChar_of_inPath (hpath c hc)

/-- Blanks only stand in a text that is no path. -/
theorem IsShaped.of_mem_body (h : IsShaped u) :
    ∀ c ∈ u.body, Percent.isControl c = false ∧ c ≠ '?' ∧ c ≠ '#' ∧ (u.host ≠ none → c ≠ ' ') := by
  have hplain : ∀ {c : Char}, IsPlainChar c →
      Percent.isControl c = false ∧ c ≠ '?' ∧ c ≠ '#' ∧ (u.host ≠ none → c ≠ ' ') :=
    fun h => ⟨h.1, h.2.1, h.2.2.1, fun _ => h.2.2.2⟩
  cases h with
  | authority hfile ha hpath =>
    rw [body_authority]
    refine List.forall_mem_cons.2 ⟨hplain isPlainChar_slash,
      List.forall_mem_cons.2 ⟨hplain isPlainChar_slash, List.forall_mem_append.2 ⟨?_, ?_⟩⟩⟩
    · exact fun c hc => hplain (isPlainChar_of_ends (ha.of_mem c hc).1 (ha.of_mem c hc).2)
    · exact fun c hc => hplain (isPlainChar_of_followsAuthority hpath c hc)
  | file hhost hpath hsecond =>
    exact fun c hc => hplain (isPlainChar_body_file hhost hpath.written.inPath _ _ c hc)
  | rooted hspecial hpath =>
    rw [body_hostless]
    refine List.forall_mem_append.2 ⟨?_, ?_⟩
    · have hdot : ∀ c ∈ ['/', '.'], inPath c = false := List.all_iff_forall_prop.1 (by decide)
      split
      · exact fun c hc => hplain (isPlainChar_of_inPath (hdot c hc))
      · exact List.forall_mem_nil _
    · exact fun c hc => hplain (isPlainChar_of_followsAuthority (.inr hpath) c hc)
  | @bare scheme path query fragment hspecial hpath hfirst =>
    rw [body_hostless, if_neg (take_two_of_head? hfirst), List.nil_append]
    exact fun c hc => ⟨(hpath c hc).1, (hpath c hc).2.1, (hpath c hc).2.2, fun h => absurd rfl h⟩

namespace IsWritten

theorem parts (h : u.IsWritten) : u.parts.IsWritten :=
  ⟨h.scheme, fun c hc => ⟨(h.shape.of_mem_body c hc).2.1, (h.shape.of_mem_body c hc).2.2.1⟩,
    h.query, h.fragment⟩

theorem isBlank_of_mem_getLast? (h : u.IsWritten) :
    ∀ c ∈ u.text.toList.getLast?, isBlank c = false := by
  intro c hc
  by_cases hhost : u.host = none
  · by_cases hends : u.query = none ∧ u.fragment = none
    · have htext : u.text.toList =
          (u.scheme.toList ++ ':' :: u.authority.toList) ++ u.path.toList := by
        rw [toList_text, Parts.text, Url.parts, body, hends.1, hends.2]
        simp [tail]
      rw [htext] at hc
      by_cases hpath : u.path.toList = []
      · have hnothing : u.authority.toList = [] := by simp [authority, hhost, hpath]
        rw [hpath, hnothing, List.append_nil, List.getLast?_concat] at hc
        rw [← Option.some.inj hc]
        decide
      · rw [List.getLast?_append_of_ne_nil _ hpath] at hc
        exact h.last hhost hends.1 hends.2 c hc
    · have htext : u.text.toList =
          (u.scheme.toList ++ ':' :: u.body) ++ (tail '?' u.query ++ tail '#' u.fragment) := by
        rw [toList_text, Parts.text, Url.parts, List.append_assoc u.body, List.append_assoc]
        rfl
      have hne : tail '?' u.query ++ tail '#' u.fragment ≠ [] := by
        cases hquery : u.query <;> cases hfragment : u.fragment <;> simp_all [tail]
      rw [htext, List.getLast?_append_of_ne_nil _ hne] at hc
      have hplain := h.parts.of_mem_tails c (List.mem_of_mem_getLast? hc)
      exact isBlank_of_isControl hplain.1 hplain.2
  · have hmem := List.mem_of_mem_getLast? hc
    rw [toList_text] at hmem
    rcases h.parts.of_mem_text c hmem with hbody | hchar
    · have hplain := h.shape.of_mem_body c hbody
      exact isBlank_of_isControl hplain.1 (hplain.2.2.2 hhost)
    · exact isBlank_of_isControl hchar.1 hchar.2

theorem parse_text (h : u.IsWritten) : parse u.text = u.parts.read := by
  have hshown : ∀ c ∈ u.parts.text, isHidden c = false :=
    h.parts.isHidden_text fun c hc => UrlPath.isHidden_of_isControl (h.shape.of_mem_body c hc).1
  have hend := h.isBlank_of_mem_getLast?
  rw [toList_text] at hend
  have hread := Parts.parse_text h.parts.isCut hshown hend
  rw [← toList_text, String.ofList_toList, h.parts.encode_eq] at hread
  exact hread

end IsWritten

theorem isBlank_of_mem_getLast?_path {p : Parts} (hbody : ∀ c ∈ p.body, isHidden c = false)
    (hlast : ∀ c ∈ p.body.getLast?, isBlank c = false) (h : p.read = .ok u)
    (hhost : u.host = none) :
    ∀ c ∈ u.path.toList.getLast?, isBlank c = false := by
  unfold Parts.read at h
  simp only at h
  split at h
  · obtain ⟨host, path, rfl, -⟩ := exists_of_fileUrl h
    cases hhost
  split at h
  · have hrest : ∀ c ∈ p.body.dropWhile (isSlash true), isHidden c = false := fun c hc =>
      hbody c ((List.dropWhile_sublist _).subset hc)
    obtain ⟨a, path, -, -, rfl⟩ := exists_of_withAuthority hrest h
    cases hhost
  unfold otherUrl at h
  split at h
  · rename_i rest hcut
    have hrest : ∀ c ∈ rest, isHidden c = false := fun c hc =>
      hbody c (by rw [hcut]; exact List.mem_cons_of_mem _ (List.mem_cons_of_mem _ hc))
    obtain ⟨a, path, -, -, rfl⟩ := exists_of_withAuthority hrest h
    cases hhost
  · rename_i rest _ hcut
    have hpath : IsRooted false (UrlPath.follow false ['/'] rest) :=
      UrlPath.isRooted_follow fun c hc => hbody c (by rw [hcut]; exact List.mem_cons_of_mem _ hc)
    cases h
    intro c hc
    rw [String.toList_ofList] at hc
    have hplain := isPlainChar_of_inPath (hpath.written.inPath c (List.mem_of_mem_getLast? hc))
    exact isBlank_of_isControl hplain.1 hplain.2.2.2
  · cases h
    rw [String.toList_ofList]
    exact Percent.forall_mem_getLast?_encode hlast (List.all_iff_forall_prop.1 (by decide))

theorem isWritten_of_parse {s : String} (h : parse s = .ok u)
    (hshown : u.scheme ≠ "file" ∨ ∀ c ∈ s.toList, isHidden c = false) : u.IsWritten := by
  obtain ⟨p, hp, hread, hhidden, hlast⟩ := exists_parts h
  have hbody : ∀ c ∈ p.body, isHidden c = false := by
    by_cases hfile : p.scheme = "file"
    · rw [Parts.read, if_pos hfile] at hread
      obtain ⟨host, path, rfl, -⟩ := exists_of_fileUrl hread
      exact hhidden (.inr (hshown.resolve_left fun hne => hne rfl))
    · exact hhidden (.inl hfile)
  obtain ⟨hshape, hscheme, hquery, hfragment⟩ :=
    isShaped_of_read (fun c hc => ⟨hbody c hc, hp.body c hc⟩) hread
  refine ⟨hshape, ?_, ?_, ?_, fun hhost hnoQuery hnoFragment => ?_⟩
  · rw [hscheme]
    exact hp.scheme
  · rw [hscheme, hquery]
    exact hp.query
  · rw [hfragment]
    exact hp.fragment
  · have hfile : p.scheme ≠ "file" := fun hfile => by
      rw [Parts.read, if_pos hfile] at hread
      obtain ⟨host, path, rfl, -⟩ := exists_of_fileUrl hread
      cases hhost
    rw [hquery] at hnoQuery
    rw [hfragment] at hnoFragment
    exact isBlank_of_mem_getLast?_path hbody (hlast hfile hnoQuery hnoFragment) hread hhost

def Stands (u : Url) : Prop := parse u.text = .ok u

instance (u : Url) : Decidable u.Stands := inferInstanceAs (Decidable (parse u.text = .ok u))

theorem Stands.isWritten (h : u.Stands) : u.IsWritten := by
  obtain ⟨p, hp, hread, hhidden, -⟩ := exists_parts h
  refine isWritten_of_parse h ?_
  by_cases hfile : p.scheme = "file"
  · rw [Parts.read, if_pos hfile] at hread
    obtain ⟨host, path, rfl, hhost, hpath, -⟩ := exists_of_fileUrl hread
    have hplain := isPlainChar_body_file hhost hpath p.query p.fragment
    have hparts : (parts ⟨"file", "", "", some host, none, String.ofList path, p.query,
        p.fragment⟩).IsWritten :=
      ⟨hfile ▸ hp.scheme, fun c hc => ⟨(hplain c hc).2.1, (hplain c hc).2.2.1⟩,
        hfile ▸ hp.query, hp.fragment⟩
    refine .inr ?_
    rw [toList_text]
    exact hparts.isHidden_text fun c hc => UrlPath.isHidden_of_isControl (hplain c hc).1
  · have hbody := hhidden (.inl hfile)
    have hscheme := (isShaped_of_read (fun c hc => ⟨hbody c hc, hp.body c hc⟩) hread).2.1
    exact .inl (hscheme ▸ hfile)

theorem dropWhile_slashes (h : ∀ c ∈ cs.head?, isSlash true c = false) :
    ('/' :: '/' :: cs).dropWhile (isSlash true) = cs := by
  rw [List.dropWhile_cons, if_pos (UrlPath.isSlash_slash true), List.dropWhile_cons,
    if_pos (UrlPath.isSlash_slash true), dropWhile_of_head? h]

theorem read_authority {scheme : String} {a : Authority} (hfile : scheme ≠ "file")
    (ha : a.IsWritten scheme) (hpath : FollowsAuthority (isSpecial scheme) path)
    (query fragment : Option String) :
    (parts ⟨scheme, a.username, a.password, some a.host, a.port, String.ofList path, query,
      fragment⟩).read = (readHost (isSpecial scheme) a.host.text.toList).map fun host =>
        ⟨scheme, a.username, a.password, some host, a.port, String.ofList path, query,
          fragment⟩ := by
  simp only [Parts.read, parts, body_authority, if_neg hfile]
  split
  · rename_i hspecial
    have htext : a.text ≠ [] := by
      intro hnil
      simp only [Authority.text, List.append_eq_nil_iff] at hnil
      have hplain := (ha.uncrowded (String.toList_inj.1 hnil.2.1)).1
      rw [hspecial] at hplain
      cases hplain
    have hhead : ∀ c ∈ (a.text ++ path).head?, isSlash true c = false := by
      intro c hc
      rw [List.head?_append_of_ne_nil _ htext] at hc
      exact isSlash_of_notMem_ends (ha.of_mem c (List.mem_of_mem_head? hc)).2 true
    rw [dropWhile_slashes hhead, withAuthority_text ha hpath]
  · exact withAuthority_text ha hpath _ query fragment

theorem follow_dot (rest : List Char) :
    UrlPath.follow false ['/'] ('.' :: '/' :: rest) = UrlPath.follow false ['/'] rest := by
  have hsplit : UrlPath.segments false ('.' :: '/' :: rest) =
      ['.'] :: UrlPath.segments false rest := by
    have h := Split.all_append '/' ['.'] (rest.map fun c => if isSlash false c then '/' else c)
    exact h
  have hdot : (UrlPath.Trail.ofText ['/']).read false ['/'] ['.'] = .ofText ['/'] := by decide
  obtain ⟨first, others, hrest⟩ := List.exists_cons_of_ne_nil
    (Split.all_ne_nil '/' (rest.map fun c => if isSlash false c then '/' else c))
  rw [UrlPath.follow, UrlPath.follow, hsplit, UrlPath.segments, hrest, UrlPath.Trail.follow, hdot]
  exact List.cons_ne_nil first others

section Hostless

variable {scheme : String} {rest : List Char}

theorem otherUrl_slash (h : rest.head? ≠ some '/') (scheme : String) (followed : Bool)
    (query fragment : Option String) :
    otherUrl scheme followed ('/' :: rest) query fragment =
      .ok ⟨scheme, "", "", none, none, String.ofList (UrlPath.follow false ['/'] rest), query,
        fragment⟩ := by
  unfold otherUrl
  split
  · rename_i heq
    rw [List.cons.injEq] at heq
    rw [heq.2] at h
    exact absurd rfl h
  · rename_i heq
    rw [List.cons.injEq] at heq
    rw [heq.2]
  · rename_i hnone
    exact absurd rfl (hnone rest)

theorem read_hostless (hspecial : isSpecial scheme = false) (query fragment : Option String) :
    (parts ⟨scheme, "", "", none, none, String.ofList path, query, fragment⟩).read =
      otherUrl scheme (query.isSome || fragment.isSome)
        ((if path.take 2 = ['/', '/'] then ['/', '.'] else []) ++ path) query fragment := by
  have hfile : scheme ≠ "file" := by
    rintro rfl
    cases hspecial
  simp only [Parts.read, parts, body_hostless, if_neg hfile, hspecial, Bool.false_eq_true, if_false]

theorem read_rooted (hspecial : isSpecial scheme = false) (hpath : IsRooted false path)
    (query fragment : Option String) :
    (parts ⟨scheme, "", "", none, none, String.ofList path, query, fragment⟩).read =
      .ok ⟨scheme, "", "", none, none, String.ofList path, query, fragment⟩ := by
  obtain ⟨rest, rfl, hrest⟩ := hpath.exists_rest
  rw [read_hostless hspecial]
  by_cases hsecond : rest.head? = some '/'
  · obtain ⟨behind, rfl⟩ := List.head?_eq_some_iff.1 hsecond
    have hdot : ('.' :: '/' :: '/' :: behind).head? ≠ some '/' := by simp
    rw [if_pos (by rfl)]
    refine (otherUrl_slash hdot scheme _ query fragment).trans ?_
    rw [follow_dot, UrlPath.follow_of_isWritten ['/'] hrest]
    rfl
  · have htake : ('/' :: rest).take 2 ≠ ['/', '/'] := by
      intro htake
      cases rest with
      | nil => cases htake
      | cons c rest =>
        simp only [List.take_succ_cons, List.take_zero, List.cons.injEq] at htake
        exact hsecond (congrArg some htake.2.1)
    rw [if_neg htake, List.nil_append, otherUrl_slash hsecond,
      UrlPath.follow_of_isWritten ['/'] hrest]
    rfl

theorem read_bare (hspecial : isSpecial scheme = false)
    (hpath : ∀ c ∈ path, Percent.isControl c = false) (hfirst : path.head? ≠ some '/')
    (query fragment : Option String) :
    (parts ⟨scheme, "", "", none, none, String.ofList path, query, fragment⟩).read =
      .ok ⟨scheme, "", "", none, none, String.ofList path, query, fragment⟩ := by
  rw [read_hostless hspecial, if_neg (take_two_of_head? hfirst), List.nil_append]
  unfold otherUrl
  split
  · exact absurd rfl hfirst
  · exact absurd rfl hfirst
  · rw [Percent.encode_of_all_not hpath]

end Hostless

theorem read_file (host : Host) (path : List Char) (query fragment : Option String) :
    (parts ⟨"file", "", "", some host, none, String.ofList path, query, fragment⟩).read =
      fileUrl ('/' :: '/' :: (host.text.toList ++ path)) query fragment := by
  simp only [Parts.read, parts, body_file, if_true]

theorem read_file_iff (hhost : Host.IsWritten host.text.toList) (hpath : IsRooted true path)
    (hsecond : (path.drop 1).head? ≠ some '/') (query fragment : Option String) :
    (parts ⟨"file", "", "", some host, none, String.ofList path, query, fragment⟩).read =
        .ok ⟨"file", "", "", some host, none, String.ofList path, query, fragment⟩ ↔
      host = .name "" ∨ Host.parse host.text.toList = .ok host ∧ host ≠ localhost ∧
        ¬BeginsWithDrive (path.drop 1) := by
  obtain ⟨rest, rfl, hrest⟩ := hpath.exists_rest
  rw [read_file]
  by_cases hempty : host.text = ""
  · obtain rfl := Host.eq_of_text_empty hempty
    exact iff_of_true (fileUrl_here hrest hsecond query fragment) (.inl rfl)
  have hne : host.text.toList ≠ [] := fun hnil => hempty (String.toList_inj.1 hnil)
  have hname : host ≠ .name "" := by
    rintro rfl
    exact hempty rfl
  by_cases hdrive : BeginsWithDrive rest
  · refine iff_of_false (fun hread => ?_) ?_
    · have hlost := host_of_drive hhost hne hrest hdrive hread
      exact hname (Option.some.inj hlost)
    · rintro (h | h)
      · exact hname h
      · exact h.2.2 hdrive
  · rw [fileUrl_there hhost hne hrest hsecond hdrive, except_map_eq_ok_iff]
    constructor
    · rintro ⟨read, hread, hsame⟩
      simp only [Url.mk.injEq, Option.some.injEq, true_and, and_true] at hsame
      by_cases hlocal : read = localhost
      · rw [if_pos hlocal] at hsame
        exact absurd hsame.symm hname
      · rw [if_neg hlocal] at hsame
        rw [hsame] at hread hlocal
        exact .inr ⟨hread, hlocal, hdrive⟩
    · rintro (h | ⟨hread, hlocal, -⟩)
      · exact absurd h hname
      · exact ⟨host, hread, by rw [if_neg hlocal]⟩

def HostReads (u : Url) : Prop :=
  ∀ host ∈ u.host,
    if u.scheme = "file" then
      host = .name "" ∨ Host.parse host.text.toList = .ok host ∧ host ≠ localhost ∧
        ¬BeginsWithDrive (u.path.toList.drop 1)
    else readHost (isSpecial u.scheme) host.text.toList = .ok host

theorem read_parts_iff (h : IsShaped u) : u.parts.read = .ok u ↔ u.HostReads := by
  cases h with
  | authority hfile ha hpath =>
    rw [read_authority hfile ha hpath, except_map_eq_ok_iff]
    simp [HostReads, hfile]
  | file hhost hpath hsecond =>
    rw [read_file_iff hhost hpath hsecond]
    simp [HostReads]
  | rooted hspecial hpath =>
    exact iff_of_true (read_rooted hspecial hpath _ _) nofun
  | bare hspecial hpath hfirst =>
    exact iff_of_true (read_bare hspecial (fun c hc => (hpath c hc).1) hfirst _ _) nofun

theorem stands_iff (h : u.IsWritten) : u.Stands ↔ u.HostReads := by
  rw [Stands, h.parse_text]
  exact read_parts_iff h.shape

theorem Stands.hostReads (h : u.Stands) : u.HostReads := (stands_iff h.isWritten).1 h

/-- The name of the host is its own form in ASCII, where the scheme wants it in ASCII. -/
def HasAsciiName (u : Url) : Prop :=
  isSpecial u.scheme = true → ∀ host ∈ u.host, host.HasAsciiName

theorem hostReads_iff (h : u.IsWritten) (hfile : u.scheme ≠ "file") :
    u.HostReads ↔ u.HasAsciiName := by
  cases h.shape with
  | @authority scheme a path query fragment hne ha hpath =>
    have hreads : HostReads ⟨scheme, a.username, a.password, some a.host, a.port,
        String.ofList path, query, fragment⟩ ↔
          readHost (isSpecial scheme) a.host.text.toList = .ok a.host := by
      simp [HostReads, hne]
    have hname : HasAsciiName ⟨scheme, a.username, a.password, some a.host, a.port,
        String.ofList path, query, fragment⟩ ↔
          (isSpecial scheme = true → a.host.HasAsciiName) := by
      simp [HasAsciiName]
    obtain ⟨text, htext⟩ := ha.host
    rw [hreads, hname]
    unfold readHost at htext ⊢
    split at htext
    · rename_i hspecial
      rw [if_pos hspecial, Host.parse_text_iff htext]
      exact ⟨fun h _ => h, fun h => h hspecial⟩
    · rename_i hspecial
      rw [if_neg hspecial]
      exact iff_of_true (Host.parseOpaque_text htext) fun h => absurd h hspecial
  | file hhost hpath hsecond => exact absurd rfl hfile
  | rooted hspecial hpath => exact iff_of_true nofun fun _ => nofun
  | bare hspecial hpath hfirst => exact iff_of_true nofun fun _ => nofun

/-- What was read, unless it is a file, is read again exactly if its host has a name in ASCII. -/
theorem stands_iff_of_parse {s : String} (h : parse s = .ok u) (hfile : u.scheme ≠ "file") :
    u.Stands ↔ u.HasAsciiName :=
  have hwritten := isWritten_of_parse h (.inl hfile)
  (stands_iff hwritten).trans (hostReads_iff hwritten hfile)

end Tronkit.Url
