import Tronkit.Keyed
import Tronkit.Json.Lexeme
import Tronkit.Number.Shortest

/-!
# JSON values

A value keeps the members of an object in the order in which they were written. An integer
that fits into 64 bits is exact, any other number is a floating point number. `merged` lets a
repeated key keep its place and take its last value.
-/

namespace Tronkit

inductive Json
  | null
  | bool (b : Bool)
  | integer (z : Int)
  | double (x : Binary64)
  | string (s : String)
  | array (elements : List Json)
  | object (members : List (String × Json))
  deriving Repr

namespace Json

def natural (n : Nat) : Json := .integer n

def asString? : Json → Option String
  | string s => some s
  | _ => none

def member? (key : String) : Json → Option Json
  | object members => members.lookup key
  | _ => none

/-! ## Equality -/

mutual
def same : Json → Json → Bool
  | null, null => true
  | bool a, bool b => a = b
  | integer a, integer b => a = b
  | double a, double b => a = b
  | string a, string b => a = b
  | array vs, array ws => sameElements vs ws
  | object ms, object ns => sameMembers ms ns
  | _, _ => false
def sameElements : List Json → List Json → Bool
  | [], [] => true
  | v :: vs, w :: ws => same v w && sameElements vs ws
  | _, _ => false
def sameMembers : List (String × Json) → List (String × Json) → Bool
  | [], [] => true
  | (k, v) :: ms, (l, w) :: ns => k = l && same v w && sameMembers ms ns
  | _, _ => false
end

mutual
theorem same_iff : ∀ v w : Json, same v w = true ↔ v = w
  | null, w => by cases w <;> simp [same]
  | bool _, w => by cases w <;> simp [same]
  | integer _, w => by cases w <;> simp [same]
  | double _, w => by cases w <;> simp [same]
  | string _, w => by cases w <;> simp [same]
  | array vs, w => by cases w <;> simp [same, sameElements_iff vs]
  | object ms, w => by cases w <;> simp [same, sameMembers_iff ms]
theorem sameElements_iff : ∀ vs ws : List Json, sameElements vs ws = true ↔ vs = ws
  | [], ws => by cases ws <;> simp [sameElements]
  | v :: vs, ws => by cases ws <;> simp [sameElements, same_iff v, sameElements_iff vs]
theorem sameMembers_iff : ∀ ms ns : List (String × Json), sameMembers ms ns = true ↔ ms = ns
  | [], ns => by cases ns <;> simp [sameMembers]
  | (k, v) :: ms, ns => by
    cases ns <;> simp [sameMembers, same_iff v, sameMembers_iff ms, Prod.ext_iff]
end

instance : DecidableEq Json := fun v w => decidable_of_iff _ (same_iff v w)

/-! ## Repeated keys -/

mutual
def merged : Json → Json
  | array elements => .array (mergedElements elements)
  | object members => .object (Keyed.ofList (mergedMembers members))
  | v => v
def mergedElements : List Json → List Json
  | [] => []
  | v :: vs => merged v :: mergedElements vs
def mergedMembers : List (String × Json) → List (String × Json)
  | [] => []
  | (k, v) :: rest => (k, merged v) :: mergedMembers rest
end

/-! ## Texts -/

def escapeChar (c : Char) : List Char :=
  if c = '"' then ['\\', '"']
  else if c = '\\' then ['\\', '\\']
  else if c = '\n' then ['\\', 'n']
  else if c = '\r' then ['\\', 'r']
  else if c = '\t' then ['\\', 't']
  else if c = '\x08' then ['\\', 'b']
  else if c = '\x0C' then ['\\', 'f']
  else if c.toNat < 0x20 then
    ['\\', 'u', '0', '0', Nat.digitChar (c.toNat / 16), Nat.digitChar (c.toNat % 16)]
  else [c]

namespace Render

def string (s : String) : List Char := '"' :: s.toList.flatMap escapeChar ++ ['"']

def integer (z : Int) : List Char := (integerText z).toList

def natural (n : Nat) : List Char := (decimalText n).toList

def bool (b : Bool) : List Char := if b then "true".toList else "false".toList

def null : List Char := "null".toList

def separated : List (List Char) → List Char
  | [] => []
  | [t] => t
  | t :: ts => t ++ ',' :: separated ts

def array (elements : List (List Char)) : List Char := '[' :: separated elements ++ [']']

def member (key : String) (value : List Char) : List Char := string key ++ ':' :: value

def object (members : List (String × List Char)) : List Char :=
  '\x7b' :: separated (members.map fun m => member m.1 m.2) ++ ['\x7d']

def optional (key : String) (value : Option (List Char)) : List (String × List Char) :=
  value.toList.map (key, ·)

end Render

mutual
def render : Json → List Char
  | null => Render.null
  | bool b => Render.bool b
  | integer z => Render.integer z
  | double x => x.render
  | string s => Render.string s
  | array elements => Render.array (renderElements elements)
  | object members => Render.object (renderMembers members)
def renderElements : List Json → List (List Char)
  | [] => []
  | v :: vs => render v :: renderElements vs
def renderMembers : List (String × Json) → List (String × List Char)
  | [] => []
  | (k, v) :: rest => (k, render v) :: renderMembers rest
end

def text (v : Json) : String := String.ofList v.render

def bytes (v : Json) : Bytes := Utf8.encode v.render

theorem renderElements_eq_map (vs : List Json) : renderElements vs = vs.map render := by
  induction vs with
  | nil => rfl
  | cons v vs ih => simp [renderElements, ih]

theorem renderMembers_eq_map (ms : List (String × Json)) :
    renderMembers ms = ms.map fun m => (m.1, render m.2) := by
  induction ms with
  | nil => rfl
  | cons m ms ih => simp [renderMembers, ih]

end Json
end Tronkit
