import Tronkit.Abi.Type

/-!
# Reading types

The text of a declared type is a name, a type with `[]` or a size in brackets behind it, or a tuple
in parentheses. A tuple is read from left to right. An element ends at a comma or at a closing
parenthesis; empty elements are passed over. An inner tuple is read from the last opening
parenthesis, and counts up to the comma or parenthesis behind it, so that brackets belong to it.
Positions count characters, but the cuts at them are made between bytes, and a cut within a
character is refused.
-/

namespace Tronkit

namespace AbiType

def size? (cs : List Char) : Option Nat := (Unsigned.read 10 u64Limit cs).toOption

/-- A type that is neither an array nor parenthesised. A name that is no type is that of an
enumeration, which is held in eight bits. -/
def ofName? (cs : List Char) : Option AbiType :=
  match String.ofList cs with
  | "address" => some address
  | "bytes" => some bytes
  | "bool" => some bool
  | "string" => some string
  | "int" => some (int 256)
  | "tuple" => some (tuple [])
  | "uint" => some (uint 256)
  | _ =>
    if cs.take 3 = "int".toList then (size? (cs.drop 3)).map int
    else if cs.take 4 = "uint".toList then (size? (cs.drop 4)).map uint
    else if cs.take 5 = "bytes".toList then (size? (cs.drop 5)).map fixedBytes
    else some (uint 8)

/-- Reading a tuple. Elements of inner tuples wait, by depth, for a tuple to close among them; only
then they become, with it, one element of the whole. `opened` is the last opening parenthesis and
`start` the place where the next element begins. -/
structure TupleReader where
  elements : List AbiType := []
  waiting : List (List AbiType) := []
  depth : Nat := 1
  opened : Nat := 0
  start : Nat := 1

namespace TupleReader

def put (s : TupleReader) (t : AbiType) : TupleReader := { s with elements := s.elements ++ [t] }

/-- What waits at the depth of a closed inner tuple becomes one element, with the tuple last. -/
def gather (s : TupleReader) (level : Nat) (t : AbiType) : TupleReader :=
  { s.put (.tuple (s.waiting.getD level [] ++ [t])) with waiting := s.waiting.set level [] }

def wait (s : TupleReader) (level : Nat) (t : AbiType) : TupleReader :=
  { s with waiting := s.waiting.set level (s.waiting.getD level [] ++ [t]) }

def openAt (s : TupleReader) (i : Nat) : TupleReader :=
  if s.depth = 0 then { s with depth := 1, opened := i }
  else { s with depth := s.depth + 1, opened := i, waiting := s.waiting ++ [[]], start := i + 1 }

def isEnd (c : Char) : Bool := c = ',' || c = ')'

def endOfTuple (text : List Char) (i : Nat) : Nat :=
  i + 1 + ((text.drop (i + 1)).takeWhile (!isEnd ·)).length

def closeAt (s : TupleReader) (read : List Char → Option AbiType) (text : List Char) (i : Nat) :
    Option TupleReader := do
  if s.depth = 0 then none
  let item ← Utf8.slice? text s.start i
  let depth := s.depth - 1
  if item = [] then pure { s with depth := depth, start := i + 1 }
  else if depth = 0 then pure { s.put (← read item) with depth := 0, start := i + 1 }
  else
    let stop := endOfTuple text i
    let t ← read (← Utf8.slice? text s.opened stop)
    let s := if depth = 1 then s.put t else s.gather (depth - 2) t
    pure { s with depth := depth, start := stop }

def commaAt (s : TupleReader) (read : List Char → Option AbiType) (text : List Char) (i : Nat) :
    Option TupleReader := do
  let item ← Utf8.slice? text s.start i
  if item = [] then pure { s with start := i + 1 }
  else if s.depth = 0 then pure s
  else
    let t ← read item
    let s := if s.depth = 1 then s.put t else s.wait (s.depth - 2) t
    pure { s with start := i + 1 }

/-- What lies before `start` has been read with an inner tuple and counts no more. -/
def step (s : TupleReader) (read : List Char → Option AbiType) (text : List Char) (i : Nat)
    (c : Char) : Option TupleReader :=
  if i < s.start then some s
  else match c with
    | '(' => some (s.openAt i)
    | ')' => s.closeAt read text i
    | ',' => s.commaAt read text i
    | _ => some s

end TupleReader

def tupleElements? (read : List Char → Option AbiType) (text : List Char) : Option (List AbiType) :=
  (text.zipIdx.foldlM (fun (s : TupleReader) (c, i) => s.step read text i c) {}).map
    TupleReader.elements

def brackets? (text : List Char) : Option (List Char × List Char) :=
  let size := (text.dropLast.reverse.takeWhile (· ≠ '[')).reverse
  if text.length < size.length + 2 then none
  else (Utf8.slice? text 0 (text.length - (size.length + 2))).map (size, ·)

def parseWith? : (fuel : Nat) → List Char → Option AbiType
  | 0, _ => none
  | fuel + 1, text =>
    match text.getLast? with
    | some ')' =>
      if text.head? = some '(' then (tupleElements? (parseWith? fuel) text).map tuple else none
    | some ']' => do
      let (size, element) ← brackets? text
      if size = [] then (parseWith? fuel element).map array
      else
        let n ← size? size
        pure (fixedArray (← parseWith? fuel element) n)
    | _ => ofName? text

/-- Reads the text of a declared type. A part of a type is shorter than the type. -/
def parse? (s : String) : Option AbiType := parseWith? (s.length + 1) s.toList

end AbiType
end Tronkit
