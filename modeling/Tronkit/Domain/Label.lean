import Tronkit.Domain.Direction
import Tronkit.Domain.Joining
import Tronkit.Domain.Mapping
import Tronkit.Domain.Punycode
import Tronkit.Text.Canonical

/-!
# Labels of names

A label has a shown form, which may hold letters of any script, and a form in ASCII. The label
that is given may be either. What is shown beyond ASCII must stand for itself, begin with no mark,
and hold joiners only where they change how a text is drawn.
-/

namespace Tronkit.Domain

structure Label where
  shown : List Char
  ascii : List Char
  deriving DecidableEq, Repr

def meaningOf? (cs : List Char) : Option (List Char) :=
  (cs.mapM map?).map fun texts => Canonical.normalize texts.flatten

/-- A joiner follows a sign that kills a vowel, which has class 9. One of the two also parts
letters that would be drawn joined. -/
def isJoinerPlaced (before : List Char) (c : Char) (rest : List Char) : Bool :=
  before.head?.any (Canonical.classOf · = 9)
    || (c.toNat = 0x200C && (before.dropWhile Joining.isTransparent).head?.any Joining.joinsBehind
      && (rest.dropWhile Joining.isTransparent).head?.any Joining.joinsBefore)

def isJoiner (c : Char) : Bool := c.toNat = 0x200C || c.toNat = 0x200D

/-- Looks at every joiner; what stands before it is reversed. -/
def areJoinersPlaced : (before : List Char) → List Char → Bool
  | _, [] => true
  | before, c :: rest =>
    (!isJoiner c || isJoinerPlaced before c rest) && areJoinersPlaced (c :: before) rest

/-- Whether a text beyond ASCII can be a label. It has at most 1000 characters. -/
def isShowable (cs : List Char) : Bool :=
  !cs.head?.any Mark.isMark && areJoinersPlaced [] cs && cs.length ≤ 1000

namespace Label

def encodedMark : List Char := ['x', 'n', '-', '-']

def isEncoded (cs : List Char) : Bool := cs.take 4 = encodedMark

/-- Reads a label in its ASCII form. It has at most 2000 characters behind its mark. -/
def decode? (cs : List Char) : Option Label :=
  if cs.all Punycode.isAscii && cs.getLast? ≠ some '-' && cs.length ≤ 2004 then do
    let shown ← Punycode.decode? (cs.drop 4)
    if meaningOf? shown = some shown && isShowable shown then some ⟨shown, cs⟩ else none
  else none

def read? (cs : List Char) : Option Label :=
  if isEncoded cs then decode? cs
  else if cs.all Punycode.isAscii then some ⟨cs, cs⟩
  else if isShowable cs then some ⟨cs, encodedMark ++ Punycode.encode cs⟩
  else none

theorem read?_ascii {cs : List Char} (encoded : isEncoded cs = false)
    (ascii : cs.all Punycode.isAscii = true) : read? cs = some ⟨cs, cs⟩ := by
  simp [read?, encoded, ascii]

/-- A label is written in one direction throughout: rightward it begins with a letter and holds
no leftward character, leftward it holds no rightward one and no two kinds of digits. Marks at the
end do not count. -/
def isOrdered (label : Label) : Bool :=
  match label.shown.map Direction.ofChar with
  | [] => true
  | first :: rest =>
    let behind := rest.reverse.dropWhile (· = .mark)
    match first with
    | .rightward =>
      behind.head?.all (fun d => d = .rightward || d = .digit)
        && behind.all (fun d => d ≠ .leftward && d ≠ .arabicDigit)
    | .leftward =>
      behind.head?.all (fun d => d = .leftward || d = .digit || d = .arabicDigit)
        && behind.all (· ≠ .rightward) && !(behind.contains .digit && behind.contains .arabicDigit)
    | _ => false

def isLeftward (label : Label) : Bool :=
  label.shown.any fun c =>
    let d := Direction.ofChar c
    d = .leftward || d = .arabicDigit

end Label
end Tronkit.Domain
