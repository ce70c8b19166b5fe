import Tronkit.Domain.Label
import Tronkit.Text.Split

/-!
# Domain names

A name is a text of labels between full stops. Its form in ASCII is what a URL holds. If one label
holds leftward characters, every label must be written in one direction.
-/

namespace Tronkit.Domain

def isForbidden (c : Char) : Bool :=
  c.toNat ≤ 0x20 || c.toNat = 0x7F || "%#/:<>?@[\\]^|".toList.contains c

def joinLabels (labels : List (List Char)) : List Char := (labels.intersperse ['.']).flatten

def toAscii? (cs : List Char) : Option (List Char) := do
  let shown ← meaningOf? cs
  if shown.any isForbidden then none
  else
    let labels ← (Split.all '.' shown).mapM Label.read?
    if !labels.any Label.isLeftward || labels.all Label.isOrdered then
      some (joinLabels (labels.map Label.ascii))
    else none

end Tronkit.Domain
