import Tronkit.Text.Digits
import Tronkit.Text.Utf8

/-!
# Types of the contract interface

The types of arguments and results of a contract and their canonical text. A type is dynamic if
its encoding stands behind the heads of the sequence that it belongs to.
-/

namespace Tronkit

inductive AbiType
  | address
  | bytes
  | int (bits : Nat)
  | uint (bits : Nat)
  | bool
  | string
  | fixedBytes (size : Nat)
  | array (element : AbiType)
  | fixedArray (element : AbiType) (size : Nat)
  | tuple (elements : List AbiType)
  deriving Repr

namespace AbiType

mutual
def text : AbiType → String
  | address => "address"
  | bytes => "bytes"
  | int bits => "int" ++ decimalText bits
  | uint bits => "uint" ++ decimalText bits
  | bool => "bool"
  | string => "string"
  | fixedBytes size => "bytes" ++ decimalText size
  | array t => t.text ++ "[]"
  | fixedArray t size => t.text ++ "[" ++ decimalText size ++ "]"
  | tuple ts => "(" ++ String.intercalate "," (texts ts) ++ ")"
def texts : List AbiType → List String
  | [] => []
  | t :: ts => t.text :: texts ts
end

mutual
def isDynamic : AbiType → Bool
  | bytes => true
  | string => true
  | array _ => true
  | fixedArray t _ => t.isDynamic
  | tuple ts => anyDynamic ts
  | _ => false
def anyDynamic : List AbiType → Bool
  | [] => false
  | t :: ts => t.isDynamic || anyDynamic ts
end

def admitsEmpty : AbiType → Bool
  | fixedBytes 0 => true
  | fixedArray _ 0 => true
  | _ => false

/-- The type by which a topic holds an indexed parameter: of what does not fit into a word, the
topic is only a digest. -/
def asTopic : AbiType → AbiType
  | string => fixedBytes 32
  | bytes => fixedBytes 32
  | array _ => fixedBytes 32
  | fixedArray _ _ => fixedBytes 32
  | tuple _ => fixedBytes 32
  | t => t

/-- Adds elements to the tuple that a type is or is an array of. -/
def extend (components : List AbiType) : AbiType → AbiType
  | array t => array (extend components t)
  | fixedArray t n => fixedArray (extend components t) n
  | tuple ts => tuple (ts ++ components)
  | t => t

def needsComponents : AbiType → Bool
  | array t => t.needsComponents
  | fixedArray t _ => t.needsComponents
  | tuple _ => true
  | _ => false

end AbiType
end Tronkit
