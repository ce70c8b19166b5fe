import Tronkit.Url.Path
import Tronkit.Proofs.Text.Split
import Tronkit.Proofs.Url.Percent
import Mathlib.Data.List.DropRight

/-!
# Written paths

A path that was read is written: each of its segments is written as it stands and stays where it
stands. So reading it again changes nothing, and neither does reading it with more such segments
behind it. A step that takes back a segment leaves a written path that ends in a slash, and so does
every other step that a slash ends.
-/

namespace Tronkit.UrlPath

open Percent (inPath encode)

variable {special file : Bool} {cs front back segment : List Char} {c : Char}

structure IsSegment (special : Bool) (segment : List Char) : Prop where
  plain : Trail.IsPlain segment
  unparted : ∀ c ∈ segment, isSlash special c = false

def IsWritten (special : Bool) (cs : List Char) : Prop :=
  ∀ segment ∈ Split.all '/' cs, IsSegment special segment

theorem isDot_iff :
    isDot cs = true ↔ cs.map Char.toLower = ['.'] ∨ cs.map Char.toLower = ['%', '2', 'e'] := by
  simp [isDot, ← String.toList_inj]

theorem isDoubleDot_iff :
    isDoubleDot cs = true ↔ cs.map Char.toLower ∈
      [['.', '.'], ['%', '2', 'e', '.'], ['.', '%', '2', 'e'], ['%', '2', 'e', '%', '2', 'e']] := by
  simp [isDoubleDot, ← String.toList_inj]

theorem isHidden_of_isControl (h : Percent.isControl c = false) : isHidden c = false := by
  rw [Bool.eq_false_iff]
  intro hc
  simp only [isHidden, Bool.or_eq_true, decide_eq_true_eq] at hc
  rcases hc with (rfl | rfl) | rfl <;> exact absurd h (by decide)

theorem isHidden_of_inPath (h : inPath c = false) : isHidden c = false :=
  isHidden_of_isControl (Percent.isControl_of_inFragment (Percent.inFragment_of_inPath h))

theorem isSegment_nil : IsSegment special [] :=
  ⟨⟨List.forall_mem_nil _, by decide, by decide⟩, List.forall_mem_nil _⟩

theorem isSlash_slash (special : Bool) : isSlash special '/' = true := rfl

theorem IsSegment.isWritten (h : IsSegment special segment) : IsWritten special segment := by
  have hslash : '/' ∉ segment := fun hmem => by
    have hfalse := h.unparted '/' hmem
    rw [isSlash_slash] at hfalse
    cases hfalse
  rw [IsWritten, Split.all_of_notMem hslash]
  exact List.forall_mem_singleton.2 h

theorem isWritten_append : IsWritten special (front ++ '/' :: back) ↔
    IsWritten special front ∧ IsWritten special back := by
  rw [IsWritten, Split.all_append, List.forall_mem_append]
  exact Iff.rfl

theorem isWritten_cons : IsWritten special ('/' :: cs) ↔ IsWritten special cs := by
  have h : IsWritten special ([] ++ '/' :: cs) ↔ IsWritten special [] ∧ IsWritten special cs :=
    isWritten_append
  rw [List.nil_append] at h
  rw [h]
  exact and_iff_right isSegment_nil.isWritten

theorem IsWritten.inPath (h : IsWritten special cs) : ∀ c ∈ cs, inPath c = false := by
  intro c hc
  by_cases hslash : c = '/'
  · rw [hslash]
    decide
  · obtain ⟨segment, hsegment, hmem⟩ := Split.mem_all_of_mem hc hslash
    exact ((h segment hsegment).plain.1 c hmem).2

theorem IsWritten.isSlash (h : IsWritten special cs) {c : Char} (hc : c ∈ cs)
    (hslash : c ≠ '/') : isSlash special c = false := by
  obtain ⟨segment, hsegment, hmem⟩ := Split.mem_all_of_mem hc hslash
  exact (h segment hsegment).unparted c hmem

/-! ## Reading a written path -/

theorem segments_of_isWritten (h : IsWritten special cs) :
    segments special cs = Split.all '/' cs := by
  have hkept : cs.map (fun c => if isSlash special c then '/' else c) = cs := by
    conv =>
      rhs
      rw [← List.map_id cs]
    refine List.map_congr_left fun c hc => ?_
    by_cases hslash : c = '/'
    · rw [hslash, if_pos (isSlash_slash special), id]
    · rw [h.isSlash hc hslash, if_neg Bool.false_ne_true, id]
  rw [segments, hkept]

theorem follow_of_isWritten (root : List Char) (h : IsWritten special cs) :
    follow special root cs = root ++ cs := by
  rw [follow, segments_of_isWritten h,
    Trail.text_follow_plain root fun segment hsegment => (h segment hsegment).plain,
    Split.flatten_intersperse_all]

theorem of_mem_segments (h : segment ∈ segments special cs) :
    ∀ c ∈ segment, c ∈ cs ∧ isSlash special c = false := by
  intro c hc
  obtain ⟨d, hd, hdc⟩ := List.mem_map.1 (Split.mem_of_mem_all h hc)
  split at hdc
  · rw [← hdc] at hc
    exact absurd hc (Split.notMem_of_mem_all h)
  · rename_i hslash
    rw [← hdc]
    exact ⟨hd, Bool.eq_false_iff.2 hslash⟩

/-! ## What is read is written -/

structure IsOpen (special : Bool) (cs : List Char) : Prop where
  written : IsWritten special cs
  rooted : cs.head? = some '/'
  ended : cs.getLast? = some '/'

structure IsRooted (special : Bool) (cs : List Char) : Prop where
  written : IsWritten special cs
  rooted : cs.head? = some '/'

theorem IsRooted.exists_rest (h : IsRooted special cs) :
    ∃ rest, cs = '/' :: rest ∧ IsWritten special rest := by
  obtain ⟨rest, rfl⟩ := List.head?_eq_some_iff.1 h.rooted
  exact ⟨rest, rfl, isWritten_cons.1 h.written⟩

theorem isOpen_root : IsOpen special ['/'] := ⟨isWritten_cons.2 isSegment_nil.isWritten, rfl, rfl⟩

theorem IsOpen.isRooted (h : IsOpen special cs) : IsRooted special cs := ⟨h.written, h.rooted⟩

theorem IsOpen.exists_front (h : IsOpen special cs) :
    ∃ front, cs = front ++ ['/'] ∧ IsWritten special front := by
  obtain ⟨front, rfl⟩ := List.getLast?_eq_some_iff.1 h.ended
  exact ⟨front, rfl, (isWritten_append.1 h.written).1⟩

theorem IsOpen.append (h : IsOpen special cs) (hsegment : IsSegment special segment) :
    IsRooted special (cs ++ segment) := by
  obtain ⟨front, rfl, hfront⟩ := h.exists_front
  refine ⟨?_, ?_⟩
  · rw [List.append_assoc, List.singleton_append]
    exact isWritten_append.2 ⟨hfront, hsegment.isWritten⟩
  · rw [List.head?_append, h.rooted]
    rfl

theorem IsRooted.close (h : IsRooted special cs) : IsOpen special (cs ++ ['/']) := by
  refine ⟨isWritten_append.2 ⟨h.written, isSegment_nil.isWritten⟩, ?_, ?_⟩
  · rw [List.head?_append, h.rooted]
    rfl
  · rw [List.getLast?_append]
    rfl

theorem splitName_spec {before name : List Char} (h : splitName cs = (before, name)) :
    cs = before ++ name ∧ '/' ∉ name ∧ (before = [] ∨ before.getLast? = some '/') := by
  have hsplit := List.rdropWhile_append_rtakeWhile (p := fun c => decide (c ≠ '/')) (l := cs)
  have hname : name = cs.rtakeWhile fun c => decide (c ≠ '/') := (congrArg Prod.snd h).symm
  have hbefore : before = cs.rdropWhile fun c => decide (c ≠ '/') := by
    have htake : ∀ front back : List Char,
        (front ++ back).take ((front ++ back).length - back.length) = front := by simp
    have hfront := htake (cs.rdropWhile fun c => decide (c ≠ '/'))
      (cs.rtakeWhile fun c => decide (c ≠ '/'))
    rw [hsplit] at hfront
    exact (congrArg Prod.fst h).symm.trans hfront
  refine ⟨by rw [hname, hbefore, hsplit], ?_, ?_⟩
  · intro hmem
    rw [hname] at hmem
    simpa using List.mem_rtakeWhile_imp hmem
  · by_cases hnil : before = []
    · exact .inl hnil
    · have hlast := List.rdropWhile_last_not (fun c => decide (c ≠ '/')) cs (hbefore ▸ hnil)
      rw [hbefore, List.getLast?_eq_some_getLast (hbefore ▸ hnil)]
      exact .inr (congrArg some (by simpa using hlast))

theorem startsWithDrive_of_isWrittenDrive (h : isWrittenDrive segment = true) :
    startsWithDrive (segment ++ ['/']) = true := by
  simp only [isWrittenDrive, Bool.and_eq_true] at h
  obtain ⟨hdrive, -⟩ := h
  unfold isDrive at hdrive
  split at hdrive
  · simp only [startsWithDrive, isDrive, List.cons_append, List.nil_append, List.take_succ_cons,
      List.take_zero, List.drop_succ_cons, List.drop_zero, hdrive, Bool.true_and, List.head?_cons,
      Option.all_some]
    decide
  · cases hdrive

theorem splitName_of_ended (h : cs.getLast? = some '/') : splitName cs = (cs, []) := by
  obtain ⟨front, rfl⟩ := List.getLast?_eq_some_iff.1 h
  simp [splitName, List.take_of_length_le]

theorem isOpen_parent (h : IsOpen special cs) : IsOpen special (parent file (withoutSlash cs)) := by
  obtain ⟨front, rfl, hfront⟩ := h.exists_front
  cases hname : splitName front with
  | mk before name =>
    obtain ⟨hsplit, -, hbefore⟩ := splitName_spec hname
    simp only [withoutSlash, List.dropLast_concat, hname, h.ended, decide_true, Bool.true_and]
    split
    · rename_i hdrop
      simp only [Bool.and_eq_true, decide_eq_true_eq, Bool.not_eq_true'] at hdrop
      have hdrive : isWrittenDrive name = false := by
        rw [Bool.eq_false_iff]
        intro hdrive
        rw [startsWithDrive_of_isWrittenDrive hdrive] at hdrop
        cases hdrop.2
      have hended := hbefore.resolve_left hdrop.1
      obtain ⟨above, rfl⟩ := List.getLast?_eq_some_iff.1 hended
      rw [hsplit, List.append_assoc, List.singleton_append] at hfront
      simp only [parent, hname, hdrive, Bool.and_false, Bool.false_eq_true, if_false]
      refine ⟨isWritten_append.2 ⟨(isWritten_append.1 hfront).1, isSegment_nil.isWritten⟩, ?_,
        hended⟩
      have hrooted := h.rooted
      rw [hsplit, List.append_assoc, List.head?_append_of_ne_nil _ hdrop.1] at hrooted
      exact hrooted
    · have hempty : isWrittenDrive [] = false := by decide
      simp only [parent, splitName_of_ended h.ended, hempty, Bool.and_false, Bool.false_eq_true,
        if_false]
      exact h

theorem withSlash_of_ended (h : cs.getLast? = some '/') : withSlash cs = cs := if_pos h

theorem isWrittenDrive_drop (h : ∀ c ∈ cs.getLast?, c = '/') (n : Nat) :
    isWrittenDrive (cs.drop n) = false := by
  rw [Bool.eq_false_iff]
  intro hdrive
  simp only [isWrittenDrive, Bool.and_eq_true, decide_eq_true_eq, List.getLast?_drop] at hdrive
  split at hdrive
  · cases hdrive.2
  · exact absurd (h ':' hdrive.2) (by decide)

theorem IsOpen.getLast? (h : IsOpen special cs) : ∀ c ∈ cs.getLast?, c = '/' := by
  intro c hc
  rw [h.ended] at hc
  exact (Option.some.inj hc).symm

theorem isSegment_encode (hunparted : ∀ c ∈ segment, isSlash special c = false)
    (hdot : isDot (encode inPath segment) = false)
    (hdots : isDoubleDot (encode inPath segment) = false) :
    IsSegment special (encode inPath segment) := by
  have hmarks : ∀ c ∈ Percent.marks, inPath c = false ∧ c ≠ '/' ∧ c ≠ '\\' :=
    List.all_iff_forall_prop.1 (by decide)
  have hplain : ∀ c ∈ encode inPath segment, inPath c = false :=
    Percent.forall_mem_encode (fun _ _ h => h) fun c hc => (hmarks c hc).1
  refine ⟨⟨fun c hc => ⟨isHidden_of_inPath (hplain c hc), hplain c hc⟩, hdot, hdots⟩, ?_⟩
  refine Percent.forall_mem_encode (fun c hc _ => hunparted c hc) fun c hc => ?_
  simp [isSlash, (hmarks c hc).2.1, (hmarks c hc).2.2]

theorem isSegment_drive (h : isDrive cs = true) (hplain : ∀ c ∈ cs, inPath c = false)
    (hunparted : ∀ c ∈ cs, isSlash special c = false) : IsSegment special (cs.take 1 ++ [':']) := by
  unfold isDrive at h
  split at h
  · rename_i c m
    have hc := hplain c List.mem_cons_self
    have hcolon : isSlash special ':' = false := by cases special <;> decide
    have hlower : Char.toLower ':' = ':' := by decide
    refine ⟨⟨?_, ?_, ?_⟩, ?_⟩
    · rw [List.forall_mem_append]
      refine ⟨List.forall_mem_singleton.2 ⟨isHidden_of_inPath hc, hc⟩,
        List.forall_mem_singleton.2 ?_⟩
      decide
    · rw [Bool.eq_false_iff]
      intro hdot
      simp [isDot_iff, hlower] at hdot
    · rw [Bool.eq_false_iff]
      intro hdots
      simp [isDoubleDot_iff, hlower] at hdots
    · rw [List.forall_mem_append]
      exact ⟨List.forall_mem_singleton.2 (hunparted c List.mem_cons_self),
        List.forall_mem_singleton.2 hcolon⟩
  · cases h

namespace Trail

variable {t : Trail} {slash : List Char}

def IsShown (special : Bool) (segment : List Char) : Prop :=
  ∀ c ∈ segment, isHidden c = false ∧ isSlash special c = false

theorem read_of_shown (hended : ∀ c ∈ t.text.getLast?, c = '/')
    (hshown : ∀ c ∈ segment, isHidden c = false) :
    t.read file slash segment =
      ({ t with text := t.text ++ encode inPath segment } : Trail).close file slash := by
  have hdrive : isWrittenDrive (t.text.drop 1) = false := isWrittenDrive_drop hended 1
  rw [read, pieces_of_shown hshown, List.foldl_cons, List.foldl_nil, write, hdrive, Bool.and_false]
  rfl

theorem start_read (file : Bool) (t : Trail) (slash segment : List Char) :
    (t.read file slash segment).start = (t.read file slash segment).text.length := rfl

/-- A step leaves a path that ends in a slash, and perhaps a segment behind it. -/
theorem exists_read (file : Bool) (h : IsOpen special t.text) (hstart : t.start = t.text.length)
    (hsegment : IsShown special segment) (hslash : slash = [] ∨ slash = ['/']) :
    ∃ front, IsOpen special front ∧ ((t.read file slash segment).text = front ∨
      ∃ name, IsSegment special name ∧
        (t.read file slash segment).text = front ++ name ++ slash) := by
  have hunparted : ∀ c ∈ segment, isSlash special c = false := fun c hc => (hsegment c hc).2
  rw [read_of_shown h.getLast? fun c hc => (hsegment c hc).1]
  simp only [close, hstart, List.take_left, List.drop_left]
  split
  · -- two dots
    refine ⟨parent file (withoutSlash t.text), isOpen_parent h, .inl ?_⟩
    rcases hslash with rfl | rfl
    · rfl
    · exact withSlash_of_ended (isOpen_parent h).ended
  rename_i hdots
  split
  · exact ⟨t.text, h, .inl (withSlash_of_ended h.ended)⟩
  rename_i hdot
  have hencoded := isSegment_encode hunparted (Bool.eq_false_iff.2 hdot) (Bool.eq_false_iff.2 hdots)
  split
  · rename_i hdrive
    simp only [Bool.and_eq_true] at hdrive
    refine ⟨t.text, h, .inr ⟨_, isSegment_drive hdrive.2
      (fun c hc => (hencoded.plain.1 c hc).2) hencoded.unparted, ?_⟩⟩
    rw [List.append_assoc, List.append_assoc, List.append_assoc]
    rfl
  · exact ⟨t.text, h, .inr ⟨_, hencoded, rfl⟩⟩

theorem isOpen_read (file : Bool) (h : IsOpen special t.text) (hstart : t.start = t.text.length)
    (hsegment : IsShown special segment) : IsOpen special (t.read file ['/'] segment).text := by
  obtain ⟨front, hfront, htext | ⟨name, hname, htext⟩⟩ :=
    exists_read file h hstart hsegment (.inr rfl)
  · rw [htext]
    exact hfront
  · rw [htext]
    exact (hfront.append hname).close

theorem isRooted_read (file : Bool) (h : IsOpen special t.text) (hstart : t.start = t.text.length)
    (hsegment : IsShown special segment) : IsRooted special (t.read file [] segment).text := by
  obtain ⟨front, hfront, htext | ⟨name, hname, htext⟩⟩ :=
    exists_read file h hstart hsegment (.inl rfl)
  · rw [htext]
    exact hfront.isRooted
  · rw [htext, List.append_nil]
    exact hfront.append hname

theorem isRooted_follow (file : Bool) {parts : List (List Char)} (h : IsOpen special t.text)
    (hstart : t.start = t.text.length) (hparts : ∀ part ∈ parts, IsShown special part) :
    IsRooted special (follow file t parts).text := by
  induction parts generalizing t with
  | nil => exact h.isRooted
  | cons part rest ih =>
    have hpart := hparts part List.mem_cons_self
    cases rest with
    | nil => exact isRooted_read file h hstart hpart
    | cons next rest =>
      exact ih (isOpen_read file h hstart hpart) (start_read ..)
        fun p hp => hparts p (List.mem_cons_of_mem _ hp)

end Trail

theorem isShown_of_mem_segments (hshown : ∀ c ∈ cs, isHidden c = false)
    (h : segment ∈ segments special cs) : Trail.IsShown special segment := by
  intro c hc
  obtain ⟨hmem, hslash⟩ := of_mem_segments h c hc
  exact ⟨hshown c hmem, hslash⟩

theorem isRooted_follow (hshown : ∀ c ∈ cs, isHidden c = false) :
    IsRooted special (follow special ['/'] cs) :=
  Trail.isRooted_follow false isOpen_root rfl fun _ h => isShown_of_mem_segments hshown h

end Tronkit.UrlPath
