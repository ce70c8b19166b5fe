/-!
# Traced errors

An error that counts the places it went through: the place where it arose and each place that
turned it into another error. Two traced errors are compared by the error alone.
-/

namespace Tronkit

structure Traced (ε : Type) where
  error : ε
  places : Nat
  deriving Repr

namespace Traced

variable {ε δ α : Type}

def new (e : ε) : Traced ε := ⟨e, 1⟩

def map (f : ε → δ) (t : Traced ε) : Traced δ := ⟨f t.error, t.places + 1⟩

def sameError [DecidableEq ε] (s t : Traced ε) : Bool := s.error = t.error

def fail (e : ε) : Except (Traced ε) α := .error (new e)

def ofOption (e : ε) : Option α → Except (Traced ε) α
  | some a => .ok a
  | none => fail e

def start (f : ε → δ) (r : Except ε α) : Except (Traced δ) α := r.mapError fun e => new (f e)

def convert (f : ε → δ) (r : Except (Traced ε) α) : Except (Traced δ) α := r.mapError (map f)

end Traced
end Tronkit
