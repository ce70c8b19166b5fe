import Tronkit.Text.Split
import Tronkit.Url.Percent

/-!
# Paths

A path is read segment by segment. One dot stands for nothing, and two dots take back the segment
before them. The path of a file may begin with a drive, which two dots never take back.
`Trail.text_follow_plain` says that segments without dots stay as they are.
-/

namespace Tronkit.UrlPath

def isLetter (c : Char) : Bool := ('a' ≤ c && c ≤ 'z') || ('A' ≤ c && c ≤ 'Z')

/-- Characters that a URL may hold anywhere, and that say nothing. -/
def isHidden (c : Char) : Bool := c = '\t' || c = '\n' || c = '\r'

def isSlash (special : Bool) (c : Char) : Bool := c = '/' || (special && c = '\\')

def segments (special : Bool) (cs : List Char) : List (List Char) :=
  Split.all '/' (cs.map fun c => if isSlash special c then '/' else c)

def isDot (cs : List Char) : Bool := [".", "%2e"].contains (String.ofList (cs.map Char.toLower))

def isDoubleDot (cs : List Char) : Bool :=
  ["..", "%2e.", ".%2e", "%2e%2e"].contains (String.ofList (cs.map Char.toLower))

/-- A drive is a letter with a mark, which is written as a colon. -/
def isDrive : List Char → Bool
  | [c, m] => isLetter c && (m = ':' || m = '|')
  | _ => false

def isWrittenDrive (cs : List Char) : Bool := isDrive cs && cs.getLast? = some ':'

def startsWithDrive (cs : List Char) : Bool :=
  isDrive (cs.take 2) && (cs.drop 2).head?.all "/\\?#".toList.contains

def splitName (cs : List Char) : List Char × List Char :=
  let name := (cs.reverse.takeWhile (· ≠ '/')).reverse
  (cs.take (cs.length - name.length), name)

def withSlash (cs : List Char) : List Char := if cs.getLast? = some '/' then cs else cs ++ ['/']

/-- Drops a slash at the end that is not the root and ends no drive. -/
def withoutSlash (cs : List Char) : List Char :=
  let (before, name) := splitName cs.dropLast
  if cs.getLast? = some '/' && before ≠ [] && !startsWithDrive (name ++ ['/']) then cs.dropLast
  else cs

/-- Drops what follows the last slash, but not the drive of a file. -/
def parent (file : Bool) (cs : List Char) : List Char :=
  let (before, name) := splitName cs
  if file && isWrittenDrive name then cs else before

/-- The text of a path so far, where the segment in hand begins in it, and whether a drive was
read at its root. -/
structure Trail where
  text : List Char
  start : Nat
  drive : Bool
  deriving DecidableEq, Repr

namespace Trail

def ofText (text : List Char) : Trail := ⟨text, text.length, false⟩

/-- Writes a piece of a segment. A file that goes on right behind its drive goes on after a slash
that belongs to the segment. -/
def write (file : Bool) (t : Trail) (piece : List Char) : Trail :=
  let written := Percent.encode Percent.inPath piece
  if piece ≠ [] && file && isWrittenDrive (t.text.drop 1) then
    { t with text := t.text ++ '/' :: written, start := t.start + 1 }
  else { t with text := t.text ++ written }

/-- Ends the segment in hand, and begins another if a slash ended it. -/
def close (file : Bool) (slash : List Char) (t : Trail) : Trail :=
  let before := t.text.take t.start
  let segment := t.text.drop t.start
  let ended : Trail :=
    if isDoubleDot segment then
      let text := parent file (withoutSlash before)
      { t with text := if slash = [] then text else withSlash text }
    else if isDot segment then { t with text := withSlash before }
    else if file && t.start = 1 && isDrive segment then
      { t with text := before ++ segment.take 1 ++ ':' :: slash, drive := true }
    else { t with text := t.text ++ slash }
  { ended with start := ended.text.length }

/-- The pieces of a segment are what stands between hidden characters. -/
def pieces (segment : List Char) : List (List Char) :=
  Split.all '\t' (segment.map fun c => if isHidden c then '\t' else c)

def read (file : Bool) (slash : List Char) (t : Trail) (segment : List Char) : Trail :=
  ((pieces segment).foldl (write file) t).close file slash

def follow (file : Bool) : Trail → List (List Char) → Trail
  | t, [] => t
  | t, [segment] => t.read file [] segment
  | t, segment :: rest => follow file (t.read file ['/'] segment) rest

/-- A segment that is written as it stands and stays where it stands. -/
def IsPlain (segment : List Char) : Prop :=
  (∀ c ∈ segment, isHidden c = false ∧ Percent.inPath c = false)
    ∧ isDot segment = false ∧ isDoubleDot segment = false

theorem pieces_of_shown {segment : List Char} (h : ∀ c ∈ segment, isHidden c = false) :
    pieces segment = [segment] := by
  have kept : segment.map (fun c => if isHidden c then '\t' else c) = segment := by
    conv => rhs; rw [← List.map_id segment]
    exact List.map_congr_left fun c hc => by simp [h c hc]
  rw [pieces, kept]
  exact Split.all_of_notMem fun hc => by simpa [isHidden] using h _ hc

theorem pieces_of_isPlain {segment : List Char} (h : IsPlain segment) :
    pieces segment = [segment] := pieces_of_shown fun c hc => (h.1 c hc).1

theorem encode_of_isPlain {segment : List Char} (h : IsPlain segment) :
    Percent.encode Percent.inPath segment = segment :=
  Percent.encode_of_all_not fun c hc => (h.1 c hc).2

theorem read_ofText {segment : List Char} (h : IsPlain segment) (text slash : List Char) :
    (ofText text).read false slash segment = ofText (text ++ segment ++ slash) := by
  simp [read, pieces_of_isPlain h, write, encode_of_isPlain h, close, ofText, h.2.1, h.2.2]

theorem text_follow_plain (text : List Char) {parts : List (List Char)}
    (h : ∀ part ∈ parts, IsPlain part) :
    (follow false (ofText text) parts).text = text ++ (parts.intersperse ['/']).flatten := by
  induction parts generalizing text with
  | nil => simp [follow, ofText]
  | cons part rest ih =>
    have head := h part List.mem_cons_self
    have tail := fun p hp => h p (List.mem_cons_of_mem part hp)
    cases rest with
    | nil => rw [follow, read_ofText head]; simp [ofText]
    | cons next rest =>
      rw [follow, read_ofText head, ih _ tail]
      · simp [List.append_assoc]
      · simp

end Trail

def follow (special : Bool) (root cs : List Char) : List Char :=
  (Trail.follow false (Trail.ofText root) (segments special cs)).text

/-- The path of a file, and whether it begins with a drive. It has one slash in front. -/
def followFile (root cs : List Char) : List Char × Bool :=
  let t := Trail.follow true (Trail.ofText root) (segments true cs)
  ('/' :: t.text.dropWhile (· = '/'), t.drive)

end Tronkit.UrlPath
