import Tronkit.Json.Reader

/-!
# Records

A record is read from an object by its field names or from an array in the order of its fields.
Named form passes over unknown keys and refuses a known key that comes twice; positional form
may stop early and refuses what is left over. A field that is absent takes its default, if it
has one. Records are built from single fields with `<$>` and `<*>`, in the order of the fields.
-/

namespace Tronkit.Json

/-- One field over the slots of a record: whether it is filled, and how its value is read. -/
structure Field (σ : Type) where
  name : String
  filled : σ → Bool
  read : σ → Reader σ

structure Record (α : Type) where
  Slots : Type
  start : Slots
  fields : List (Field Slots)
  finish : Slots → Option α

namespace Field

def lift {σ τ : Type} (get : τ → σ) (set : τ → σ → τ) (f : Field σ) : Field τ where
  name := f.name
  filled t := f.filled (get t)
  read t := (f.read (get t)).map (set t)

def find? {σ : Type} (fields : List (Field σ)) (name : String) : Option (Field σ) :=
  fields.find? (·.name = name)

def readMember {σ : Type} (fields : List (Field σ)) (depth : Nat) (s : σ) (k : String) : Step σ :=
  fun bs =>
    match find? fields k with
    | some f => if f.filled s then Reader.malformed else f.read s depth bs
    | none => do
      let rest ← Reader.ofOption (skipValue? bs)
      pure (s, rest)

def readMembers {σ : Type} (fields : List (Field σ)) (depth : Nat) : (fuel : Nat) → σ → Step σ
  | 0, _, _ => Reader.malformed
  | fuel + 1, s, bs => do
    let (k, rest) ← Reader.key bs
    let (s, rest) ← readMember fields depth s k rest
    match skipBlanks rest with
    | 0x2C :: rest => readMembers fields depth fuel s rest
    | 0x7D :: rest => pure (s, rest)
    | _ => Reader.malformed

def readNamed {σ : Type} (fields : List (Field σ)) (depth : Nat) (s : σ) : Step σ := fun bs =>
  match skipBlanks bs with
  | 0x7D :: rest => .ok (s, rest)
  | _ => readMembers fields depth bs.length s bs

def readElements {σ : Type} (depth : Nat) : List (Field σ) → σ → Step σ
  | [], s, bs =>
    match skipBlanks bs with
    | 0x5D :: rest => .ok (s, rest)
    | _ => Reader.malformed
  | f :: fields, s, bs =>
    match skipBlanks bs with
    | 0x5D :: rest => .ok (s, rest)
    | 0x2C :: rest => do
      let (s, rest) ← f.read s depth rest
      readElements depth fields s rest
    | _ => Reader.malformed

def readPositional {σ : Type} (depth : Nat) : List (Field σ) → σ → Step σ
  | [], s, bs => readElements depth [] s bs
  | f :: fields, s, bs =>
    match skipBlanks bs with
    | 0x5D :: rest => .ok (s, rest)
    | _ => do
      let (s, rest) ← f.read s depth bs
      readElements depth fields s rest

end Field

namespace Record

def slot {α β : Type} (name : String) (r : Reader α) (finish : Option α → Option β) : Record β where
  Slots := Option α
  start := none
  fields := [⟨name, Option.isSome, fun _ => r.map some⟩]
  finish := finish

def required {α : Type} (name : String) (r : Reader α) : Record α := slot name r id

def withDefault {α : Type} (name : String) (default : α) (r : Reader α) : Record α :=
  slot name r fun value => some (value.getD default)

/-- A field that may be absent or `null`. -/
def optional {α : Type} (name : String) (r : Reader α) : Record (Option α) :=
  withDefault name none (Reader.option r)

def const {α : Type} (a : α) : Record α where
  Slots := Unit
  start := ()
  fields := []
  finish _ := some a

def apply {α β : Type} (f : Record (α → β)) (r : Record α) : Record β where
  Slots := f.Slots × r.Slots
  start := (f.start, r.start)
  fields := f.fields.map (Field.lift Prod.fst fun t s => (s, t.2))
    ++ r.fields.map (Field.lift Prod.snd fun t s => (t.1, s))
  finish t := do pure ((← f.finish t.1) (← r.finish t.2))

instance : Functor Record where
  map f r := apply (const f) r

instance : Applicative Record where
  pure := const
  seq f r := apply f (r ())

def reader {α : Type} (r : Record α) : Reader α
  | 0, _ => Reader.malformed
  | depth + 1, bs => do
    let (s, rest) ← match skipBlanks bs with
      | 0x7B :: rest => Field.readNamed r.fields depth r.start rest
      | 0x5B :: rest => Field.readPositional depth r.fields r.start rest
      | _ => Reader.malformed
    pure (← Reader.ofOption (r.finish s), rest)

end Record
end Tronkit.Json
