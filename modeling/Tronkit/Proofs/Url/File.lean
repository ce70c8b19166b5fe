import Tronkit.Proofs.Url.Path

/-!
# Paths of files

The path of a file is written as well, has one slash in front, and holds no character that a path
may not hold. It is read again as it is, but a drive right behind a host is seen as a drive only
then, and the host is lost.
-/

namespace Tronkit.UrlPath

open Percent (inPath encode)

variable {special file : Bool} {cs segment : List Char} {c : Char}

/-! ## The characters of a path -/

theorem mem_of_mem_parent (h : c ∈ parent file cs) : c ∈ cs := by
  unfold parent at h
  cases hname : splitName cs with
  | mk before name =>
    simp only [hname] at h
    split at h
    · exact h
    · rw [(splitName_spec hname).1]
      exact List.mem_append_left _ h

theorem mem_of_mem_withoutSlash (h : c ∈ withoutSlash cs) : c ∈ cs := by
  unfold withoutSlash at h
  simp only at h
  split at h
  · exact List.dropLast_subset cs h
  · exact h

theorem mem_of_mem_withSlash (h : c ∈ withSlash cs) : c ∈ cs ∨ c = '/' := by
  unfold withSlash at h
  split at h
  · exact .inl h
  · rcases List.mem_append.1 h with h | h
    · exact .inl h
    · exact .inr (List.mem_singleton.1 h)

namespace Trail

variable {t : Trail} {slash : List Char}

def IsClean (t : Trail) : Prop := ∀ c ∈ t.text, inPath c = false

theorem isClean_write (file : Bool) (h : t.IsClean) (piece : List Char) :
    (t.write file piece).IsClean := by
  have hmarks : ∀ c ∈ Percent.marks, inPath c = false := List.all_iff_forall_prop.1 (by decide)
  have hwritten : ∀ c ∈ encode inPath piece, inPath c = false :=
    Percent.forall_mem_encode (fun _ _ h => h) hmarks
  intro c hc
  unfold write at hc
  simp only at hc
  split at hc
  · rcases List.mem_append.1 hc with hc | hc
    · exact h c hc
    · rcases List.mem_cons.1 hc with rfl | hc
      · decide
      · exact hwritten c hc
  · rcases List.mem_append.1 hc with hc | hc
    · exact h c hc
    · exact hwritten c hc

theorem isClean_close (file : Bool) (h : t.IsClean) (hslash : slash = [] ∨ slash = ['/']) :
    (t.close file slash).IsClean := by
  have hslash : ∀ c ∈ slash, inPath c = false :=
    List.all_iff_forall_prop.1 (by rcases hslash with rfl | rfl <;> decide)
  have htake : ∀ c ∈ t.text.take t.start, inPath c = false := fun c hc =>
    h c (List.mem_of_mem_take hc)
  have hsteps : ∀ c, c ∈ parent file (withoutSlash (t.text.take t.start)) → inPath c = false :=
    fun c hc => htake c (mem_of_mem_withoutSlash (mem_of_mem_parent hc))
  have hwith : ∀ ds : List Char, (∀ c ∈ ds, inPath c = false) →
      ∀ c ∈ withSlash ds, inPath c = false := by
    intro ds hds c hc
    rcases mem_of_mem_withSlash hc with hc | rfl
    · exact hds c hc
    · decide
  unfold close IsClean
  simp only
  split
  · split
    · exact hsteps
    · exact hwith _ hsteps
  split
  · exact hwith _ htake
  split
  · intro c hc
    rcases List.mem_append.1 hc with hc | hc
    · rcases List.mem_append.1 hc with hc | hc
      · exact htake c hc
      · exact h c (List.mem_of_mem_drop (List.mem_of_mem_take hc))
    · rcases List.mem_cons.1 hc with rfl | hc
      · decide
      · exact hslash c hc
  · intro c hc
    rcases List.mem_append.1 hc with hc | hc
    · exact h c hc
    · exact hslash c hc

theorem isClean_read (file : Bool) (h : t.IsClean) (hslash : slash = [] ∨ slash = ['/'])
    (segment : List Char) : (t.read file slash segment).IsClean := by
  have hwritten : ∀ pieces : List (List Char), (pieces.foldl (write file) t).IsClean := by
    intro pieces
    induction pieces generalizing t with
    | nil => exact h
    | cons piece pieces ih => exact ih (isClean_write file h piece)
  exact isClean_close file (hwritten _) hslash

theorem isClean_follow (file : Bool) (h : t.IsClean) (parts : List (List Char)) :
    (follow file t parts).IsClean := by
  induction parts generalizing t with
  | nil => exact h
  | cons part rest ih =>
    cases rest with
    | nil => exact isClean_read file h (.inl rfl) part
    | cons next rest => exact ih (isClean_read file h (.inr rfl) part)

end Trail

theorem inPath_of_mem_followFile {root : List Char} (hroot : root = [] ∨ root = ['/']) :
    ∀ c ∈ (followFile root cs).1, inPath c = false := by
  have hclean : (Trail.ofText root).IsClean := by
    intro c hc
    rcases hroot with rfl | rfl
    · cases hc
    · rw [List.mem_singleton.1 hc]
      decide
  intro c hc
  rcases List.mem_cons.1 hc with rfl | hc
  · decide
  · exact Trail.isClean_follow true hclean _ c ((List.dropWhile_sublist _).subset hc)

/-! ## The path of a file is written -/

theorem IsWritten.dropWhile (h : IsWritten special cs) :
    IsWritten special (cs.dropWhile (· = '/')) := by
  induction cs with
  | nil => exact h
  | cons c cs ih =>
    rw [List.dropWhile_cons]
    split
    · rename_i hc
      rw [decide_eq_true_eq] at hc
      rw [hc] at h
      exact ih (isWritten_cons.1 h)
    · exact h

theorem head?_dropWhile (cs : List Char) : (cs.dropWhile (· = '/')).head? ≠ some '/' := by
  intro h
  have hhead := List.head?_dropWhile_not (fun c => decide (c = '/')) cs
  rw [h] at hhead
  simp at hhead

def Roots (root cs : List Char) : Prop :=
  root = ['/'] ∨ root = [] ∧ ∃ c rest, cs = c :: rest ∧ isSlash true c = true

theorem followFile_slash (hc : isSlash true c = true) (cs : List Char) :
    followFile [] (c :: cs) = followFile ['/'] cs := by
  have hsplit : segments true (c :: cs) = [] :: segments true cs := by
    rw [segments, List.map_cons, if_pos hc, Split.all_cons_self]
    rfl
  have hfirst : (Trail.ofText []).read true ['/'] [] = Trail.ofText ['/'] := by decide
  obtain ⟨part, parts, hparts⟩ := List.exists_cons_of_ne_nil
    (Split.all_ne_nil '/' (cs.map fun c => if isSlash true c then '/' else c))
  have htrail : Trail.follow true (Trail.ofText []) (segments true (c :: cs)) =
      Trail.follow true (Trail.ofText ['/']) (segments true cs) := by
    rw [hsplit, segments, hparts, Trail.follow, hfirst]
    exact List.cons_ne_nil part parts
  rw [followFile, followFile, htrail]

theorem isRooted_followFile {root : List Char} (hroot : Roots root cs)
    (hshown : ∀ c ∈ cs, isHidden c = false) : IsRooted true (followFile root cs).1 := by
  have hrooted : ∀ ds : List Char, (∀ c ∈ ds, isHidden c = false) →
      IsRooted true (followFile ['/'] ds).1 := by
    intro ds hds
    have htext : IsRooted true (Trail.follow true (Trail.ofText ['/']) (segments true ds)).text :=
      Trail.isRooted_follow true isOpen_root rfl fun _ h => isShown_of_mem_segments hds h
    exact ⟨isWritten_cons.2 htext.written.dropWhile, rfl⟩
  rcases hroot with rfl | ⟨rfl, c, rest, rfl, hc⟩
  · exact hrooted cs hshown
  · rw [followFile_slash hc]
    exact hrooted rest fun c hc => hshown c (List.mem_cons_of_mem _ hc)

theorem head?_followFile (root cs : List Char) :
    ((followFile root cs).1.drop 1).head? ≠ some '/' := head?_dropWhile _

/-! ## Reading the path of a file -/

namespace Trail

variable {t : Trail} {slash : List Char}

theorem read_file_of_isSegment {text : List Char} (hended : ∀ c ∈ text.getLast?, c = '/')
    (h : IsSegment true segment) (hdrive : text.length = 1 → isDrive segment = false)
    (slash : List Char) :
    (ofText text).read true slash segment = ofText (text ++ segment ++ slash) := by
  rw [read_of_shown hended fun c hc => (h.plain.1 c hc).1, encode_of_isPlain h.plain]
  simp only [close, ofText, List.take_left, List.drop_left, h.plain.2.1, h.plain.2.2,
    Bool.false_eq_true, if_false]
  split
  · rename_i hroot
    simp only [Bool.true_and, Bool.and_eq_true] at hroot
    rw [hdrive (of_decide_eq_true hroot.1)] at hroot
    cases hroot.2
  · rfl

theorem follow_file_of_isSegment {text : List Char} (hended : text.getLast? = some '/')
    {parts : List (List Char)} (h : ∀ part ∈ parts, IsSegment true part)
    (hdrive : text.length = 1 → ∀ first ∈ parts.head?, isDrive first = false) :
    follow true (ofText text) parts = ofText (text ++ (parts.intersperse ['/']).flatten) := by
  have hslash : ∀ {ds : List Char}, ds.getLast? = some '/' → ∀ c ∈ ds.getLast?, c = '/' := by
    intro ds hds c hc
    rw [hds] at hc
    exact (Option.some.inj hc).symm
  induction parts generalizing text with
  | nil => simp [follow]
  | cons part rest ih =>
    have hpart := h part List.mem_cons_self
    have hread := read_file_of_isSegment (hslash hended) hpart fun hlen => hdrive hlen part rfl
    cases rest with
    | nil =>
      rw [follow, hread]
      simp
    | cons next rest =>
      have hlonger : (text ++ part ++ ['/']).length ≠ 1 := by
        obtain ⟨front, rfl⟩ := List.getLast?_eq_some_iff.1 hended
        simp only [List.length_append, List.length_singleton]
        omega
      rw [follow, hread, ih (by rw [List.getLast?_append]; rfl)
        (fun p hp => h p (List.mem_cons_of_mem _ hp)) fun hlen => absurd hlen hlonger]
      · simp
      · exact List.cons_ne_nil next rest

theorem drive_read (h : t.drive = true) (file : Bool) (slash segment : List Char) :
    (t.read file slash segment).drive = true := by
  have hwritten : ∀ pieces : List (List Char), (pieces.foldl (write file) t).drive = true := by
    intro pieces
    induction pieces generalizing t with
    | nil => exact h
    | cons piece pieces ih =>
      refine ih (t := t.write file piece) ?_
      unfold write
      simp only
      split <;> exact h
  unfold read close
  simp only
  split
  · exact hwritten _
  split
  · exact hwritten _
  split
  · rfl
  · exact hwritten _

theorem drive_follow (h : t.drive = true) (file : Bool) (parts : List (List Char)) :
    (follow file t parts).drive = true := by
  induction parts generalizing t with
  | nil => exact h
  | cons part rest ih =>
    cases rest with
    | nil => exact drive_read h file [] part
    | cons next rest => exact ih (drive_read h file ['/'] part)

theorem drive_read_of_isDrive (h : IsSegment true segment) (hdrive : isDrive segment = true)
    (slash : List Char) : ((ofText ['/']).read true slash segment).drive = true := by
  have hended : ∀ c ∈ (ofText ['/']).text.getLast?, c = '/' := by simp [ofText]
  rw [read_of_shown hended fun c hc => (h.plain.1 c hc).1, encode_of_isPlain h.plain]
  simp [close, ofText, h.plain.2.1, h.plain.2.2, hdrive]

end Trail

def BeginsWithDrive (cs : List Char) : Prop :=
  ∃ first ∈ (Split.all '/' cs).head?, isDrive first = true

theorem followFile_of_isWritten (h : IsWritten true cs) (hdrive : ¬BeginsWithDrive cs) :
    followFile ['/'] cs = ('/' :: cs.dropWhile (· = '/'), false) := by
  have hfirst : ∀ first ∈ (Split.all '/' cs).head?, isDrive first = false := fun first hfirst =>
    Bool.eq_false_iff.2 fun hd => hdrive ⟨first, hfirst, hd⟩
  have htrail : Trail.follow true (Trail.ofText ['/']) (segments true cs) =
      Trail.ofText ('/' :: cs) := by
    rw [segments_of_isWritten h, Trail.follow_file_of_isSegment rfl h fun _ => hfirst,
      Split.flatten_intersperse_all]
    rfl
  rw [followFile, htrail]
  rfl

theorem followFile_of_beginsWithDrive (h : IsWritten true cs) (hdrive : BeginsWithDrive cs) :
    (followFile ['/'] cs).2 = true := by
  obtain ⟨first, hfirst, hd⟩ := hdrive
  obtain ⟨rest, hsplit⟩ := List.head?_eq_some_iff.1 hfirst
  have hsegment : IsSegment true first := h first (List.mem_of_mem_head? hfirst)
  simp only [followFile, segments_of_isWritten h, hsplit]
  cases rest with
  | nil => exact Trail.drive_read_of_isDrive hsegment hd []
  | cons next rest =>
    exact Trail.drive_follow (Trail.drive_read_of_isDrive hsegment hd ['/']) true (next :: rest)

end Tronkit.UrlPath
