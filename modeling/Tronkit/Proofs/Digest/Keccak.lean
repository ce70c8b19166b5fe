import Tronkit.Digest.Keccak

/-!
# Keccak-256 by planes

A state is five planes of five lanes, and each step of a round is an operation on whole planes. So
a digest is what the rounds on planes give, where no lane is looked up by its number.
-/

namespace Tronkit.Keccak

/-- Five values in a circle: the lanes of a plane, or the planes of a state. -/
structure Five (α : Type) where
  (a b c d e : α)

namespace Five

variable {α β γ : Type}

def map (f : α → β) (v : Five α) : Five β := ⟨f v.a, f v.b, f v.c, f v.d, f v.e⟩

def zipWith (f : α → β → γ) (v : Five α) (w : Five β) : Five γ :=
  ⟨f v.a w.a, f v.b w.b, f v.c w.c, f v.d w.d, f v.e w.e⟩

def turn (v : Five α) : Five α := ⟨v.b, v.c, v.d, v.e, v.a⟩

def toList (v : Five α) : List α := [v.a, v.b, v.c, v.d, v.e]

end Five

abbrev Plane := Five UInt64

abbrev Planes := Five Plane

def Plane.xor (v w : Plane) : Plane := v.zipWith (· ^^^ ·) w

namespace Planes

def ofLanes (f : (x y : Nat) → UInt64) : Planes :=
  let plane (y : Nat) : Plane := ⟨f 0 y, f 1 y, f 2 y, f 3 y, f 4 y⟩
  ⟨plane 0, plane 1, plane 2, plane 3, plane 4⟩

def ofState (s : State) : Planes := ofLanes (lane s)

def diagonal (p : Planes) : Plane := ⟨p.a.a, p.b.b, p.c.c, p.d.d, p.e.e⟩

def theta (p : Planes) : Planes :=
  let parity := (((p.a.xor p.b).xor p.c).xor p.d).xor p.e
  let next := parity.turn
  p.map fun v => (v.xor next.turn.turn.turn).xor (next.map (rotateLeft · 1))

/-- The new planes are the diagonals, each three columns after the one before. -/
def rhoPi (p : Planes) : Planes :=
  let onward (p : Planes) : Planes := p.map fun v => v.turn.turn.turn
  let first := p.zipWith (Five.zipWith rotateLeft) (ofState rotations)
  let second := onward first
  let third := onward second
  let fourth := onward third
  ⟨diagonal first, diagonal second, diagonal third, diagonal fourth, diagonal (onward fourth)⟩

def chi (p : Planes) : Planes :=
  p.map fun v => v.xor (v.turn.zipWith (fun x y => ~~~x &&& y) v.turn.turn)

def iota (constant : UInt64) (p : Planes) : Planes :=
  { p with a := { p.a with a := p.a.a ^^^ constant } }

def round (p : Planes) (constant : UInt64) : Planes := iota constant (chi (rhoPi (theta p)))

def absorb (p : Planes) (block : Bytes) : Planes :=
  let lanes := ofLanes fun x y => laneOfBytes (block.drop (8 * (x + 5 * y)))
  roundConstants.foldl round (p.zipWith Plane.xor lanes)

def digest (message : Bytes) : Bytes :=
  let padded := pad message
  let final := (blocks (padded.length / rate) padded).foldl absorb (ofLanes fun _ _ => 0)
  (final.a.toList.take 4).flatMap fun w => (Bytes.ofNat 8 w.toNat).reverse

end Planes

theorem lane_ofLanes (f : (x y : Nat) → UInt64) {x y : Nat} (hx : x < 5) (hy : y < 5) :
    lane (ofLanes f) x y = f x y := by
  have hindex : lane (ofLanes f) x y =
      f ((x % 5 + 5 * (y % 5)) % 5) ((x % 5 + 5 * (y % 5)) / 5) := Vector.getElem_ofFn _
  have hcolumn : (x % 5 + 5 * (y % 5)) % 5 = x := by omega
  have hrow : (x % 5 + 5 * (y % 5)) / 5 = y := by omega
  rw [hindex, hcolumn, hrow]

namespace Planes

theorem ofState_ofLanes (f : (x y : Nat) → UInt64) :
    ofState (Keccak.ofLanes f) = ofLanes f := by
  simp [ofState, ofLanes, lane_ofLanes]

theorem ofState_theta (s : State) : ofState (Keccak.theta s) = theta (ofState s) := by
  have hparity (x : Nat) (hx : x < 5) : (columnParity s).get ⟨x, hx⟩ =
      lane s x 0 ^^^ lane s x 1 ^^^ lane s x 2 ^^^ lane s x 3 ^^^ lane s x 4 :=
    Vector.getElem_ofFn hx
  rw [Keccak.theta, ofState_ofLanes]
  simp only [hparity]
  rfl

theorem ofState_rhoPi (s : State) : ofState (Keccak.rhoPi s) = rhoPi (ofState s) := by
  rw [Keccak.rhoPi, ofState_ofLanes]
  rfl

theorem ofState_chi (s : State) : ofState (Keccak.chi s) = chi (ofState s) := by
  rw [Keccak.chi, ofState_ofLanes]
  rfl

theorem ofState_iota (constant : UInt64) (s : State) :
    ofState (Keccak.iota constant s) = iota constant (ofState s) := by
  have hlane (x y : Nat) : lane (Keccak.iota constant s) x y =
      if 0 = x % 5 + 5 * (y % 5) then lane s 0 0 ^^^ constant else lane s x y :=
    Vector.getElem_set _ _
  simp only [ofState, ofLanes, hlane]
  rfl

theorem ofState_round (s : State) (constant : UInt64) :
    ofState (Keccak.round s constant) = round (ofState s) constant := by
  rw [Keccak.round, ofState_iota, ofState_chi, ofState_rhoPi, ofState_theta, round]

theorem ofState_absorb (s : State) (block : Bytes) :
    ofState (Keccak.absorb s block) = absorb (ofState s) block := by
  have hlane (x y : Nat) :
      lane (Vector.ofFn fun i => s[i] ^^^ laneOfBytes (block.drop (8 * i))) x y =
        lane s x y ^^^ laneOfBytes (block.drop (8 * (x % 5 + 5 * (y % 5)))) :=
    Vector.getElem_ofFn _
  rw [Keccak.absorb, permute, ← List.foldl_hom ofState fun t c => (ofState_round t c).symm]
  simp only [ofState, ofLanes, hlane]
  rfl

theorem toList_take (s : State) : s.toList.take 4 = (ofState s).a.toList.take 4 := by
  refine List.ext_getElem (by simp [Five.toList]) fun i hi _ => ?_
  have hlt : i < 4 := by simpa using hi
  rw [List.getElem_take, List.getElem_take, Vector.getElem_toList]
  match i with
  | 0 | 1 | 2 | 3 => rfl

end Planes

/-- A digest is computed on planes. -/
theorem digest_eq (message : Bytes) : digest message = Planes.digest message := by
  have hzero : Planes.ofState (Vector.replicate 25 0) = Planes.ofLanes fun _ _ => 0 := rfl
  have hfinal (bs : List Bytes) : Planes.ofState (bs.foldl absorb (Vector.replicate 25 0)) =
      bs.foldl Planes.absorb (Planes.ofLanes fun _ _ => 0) := by
    rw [← hzero]
    exact (List.foldl_hom Planes.ofState fun s block => (Planes.ofState_absorb s block).symm).symm
  simp only [digest, Planes.digest, Planes.toList_take, hfinal]

end Tronkit.Keccak
