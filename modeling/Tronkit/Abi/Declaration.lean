import Tronkit.Abi.Interface
import Tronkit.Abi.TypeReader
import Tronkit.Json.Reader

/-!
# Declared interfaces

The JSON text of an interface is an array of entries, each with a `type` that says what it
declares. Unknown keys are passed over and known keys may come once. An entry may also be an array,
of its type and then its values in the order of their keys. A name ends before its first
parenthesis, and a tuple takes its elements from its `components`.
-/

namespace Tronkit.Declaration

/-- A member that may come at most once. -/
def member? (key : String) (ms : List (String × Json)) : Option (Option Json) :=
  match ms.filter (·.1 = key) with
  | [] => some none
  | [(_, v)] => some (some v)
  | _ => none

def required? (key : String) (ms : List (String × Json)) : Option Json := (member? key ms).join

def string? (key : String) (ms : List (String × Json)) : Option String :=
  (required? key ms).bind Json.asString?

def list? (key : String) (ms : List (String × Json)) : Option (List Json) :=
  match required? key ms with
  | some (.array vs) => some vs
  | _ => none

def bool? (key : String) (ms : List (String × Json)) : Option Bool :=
  match required? key ms with
  | some (.bool b) => some b
  | _ => none

def absentOr (key : String) (ok : Json → Bool) (ms : List (String × Json)) : Bool :=
  match member? key ms with
  | some v => v.all ok
  | none => false

def isString : Json → Bool
  | .string _ => true
  | _ => false

def isBoolOrNull : Json → Bool
  | .bool _ => true
  | .null => true
  | _ => false

def isMutabilityName (s : String) : Bool := ["pure", "view", "nonpayable", "payable"].contains s

def isUnit : Json → Bool
  | .null => true
  | .object ms => ms.isEmpty
  | _ => false

/-- A name, or an object with the name as its only key and nothing under it. -/
def isMutability : Json → Bool
  | .string s => isMutabilityName s
  | .object [(k, v)] => isMutabilityName k && isUnit v
  | _ => false

def complete? (t : AbiType) (components : Option (List AbiType)) : Option AbiType :=
  if t.needsComponents then components.map t.extend else some t

mutual
def component? : Json → Option AbiType
  | .object ms =>
    if absentOr "name" isString ms && absentOr "internalType" isString ms
      && (member? "type" ms).isSome && (member? "components" ms).isSome then do
      let t ← (string? "type" ms).bind AbiType.parse?
      complete? t (← componentsIn? ms)
    else none
  | _ => none
def componentsIn? : List (String × Json) → Option (Option (List AbiType))
  | [] => some none
  | (k, v) :: ms => if k = "components" then (componentList? v).map some else componentsIn? ms
def componentList? : Json → Option (List AbiType)
  | .array vs => components? vs
  | _ => none
def components? : List Json → Option (List AbiType)
  | [] => some []
  | v :: vs => do pure ((← component? v) :: (← components? vs))
end

def type? (ms : List (String × Json)) : Option AbiType := do
  let t ← (string? "type" ms).bind AbiType.parse?
  let _ ← member? "components" ms
  complete? t (← componentsIn? ms)

def parameter? : Json → Option AbiParameter
  | .object ms => do
    let name ← string? "name" ms
    let t ← type? ms
    if absentOr "internalType" isString ms then pure ⟨name, t⟩ else none
  | _ => none

def eventParameter? : Json → Option EventParameter
  | .object ms => do
    let name ← string? "name" ms
    let t ← type? ms
    let indexed ← match ← member? "indexed" ms with
      | none => some false
      | some (.bool b) => some b
      | some _ => none
    pure ⟨name, t, indexed⟩
  | _ => none

def cutName (s : String) : String := String.ofList (s.toList.takeWhile (· ≠ '('))

def parameters? (key : String) (ms : List (String × Json)) : Option (List AbiParameter) :=
  (list? key ms).bind (·.mapM parameter?)

def function? (ms : List (String × Json)) : Option AbiFunction := do
  let name ← string? "name" ms
  let inputs ← parameters? "inputs" ms
  let outputs ← parameters? "outputs" ms
  if absentOr "constant" isBoolOrNull ms && absentOr "stateMutability" isMutability ms then
    pure ⟨cutName name, inputs, outputs⟩
  else none

def event? (ms : List (String × Json)) : Option AbiEvent := do
  let name ← string? "name" ms
  let inputs ← (list? "inputs" ms).bind (·.mapM eventParameter?)
  pure ⟨cutName name, inputs, ← bool? "anonymous" ms⟩

inductive Kind where
  | function
  | event
  | constructor
  | error
  | fallback
  | receive

namespace Kind

def ofName? : String → Option Kind
  | "function" => some function
  | "event" => some event
  | "constructor" => some constructor
  | "error" => some error
  | "fallback" => some fallback
  | "receive" => some receive
  | _ => none

/-- The keys of an entry in the order in which an array gives their values. -/
def keys : Kind → List String
  | function => ["name", "inputs", "outputs", "constant", "stateMutability"]
  | event => ["name", "inputs", "anonymous"]
  | constructor => ["inputs"]
  | error => ["name", "inputs"]
  | fallback | receive => []

def required (k : Kind) : Nat := (k.keys.filter (· ≠ "stateMutability")).length

end Kind

/-- The kind and the members of an entry. An array gives the name of the kind and the values
behind it. -/
def entry? : Json → Option (Kind × List (String × Json))
  | .object ms => do pure (← (string? "type" ms).bind Kind.ofName?, ms)
  | .array (.string name :: vs) => do
    let kind ← Kind.ofName? name
    if kind.required ≤ vs.length && vs.length ≤ kind.keys.length then
      pure (kind, kind.keys.zip vs)
    else none
  | _ => none

def addEntry (i : Interface) (v : Json) : Option Interface := do
  let (kind, ms) ← entry? v
  match kind with
  | .function =>
    let f ← function? ms
    pure { i with functions := i.functions ++ [f] }
  | .event =>
    let e ← event? ms
    pure { i with events := i.events ++ [e] }
  | .constructor =>
    let _ ← parameters? "inputs" ms
    pure i
  | .error =>
    let _ ← string? "name" ms
    let _ ← parameters? "inputs" ms
    pure i
  | .fallback => pure i
  | .receive => pure i

def parse (s : String) : Except Json.ReadError Interface := do
  let entries ← Json.parseText (Json.Reader.list Json.Reader.tree) s
  Json.Reader.ofOption (entries.foldlM addEntry Interface.empty)

end Tronkit.Declaration
