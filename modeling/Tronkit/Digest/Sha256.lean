import Tronkit.Bytes

/-!
# SHA-256

The message is padded to blocks of 64 bytes. A block gives sixteen words, the schedule extends
them to sixty-four, and each word turns the eight words of the state once. `length_digest` is
the width of a digest.
-/

namespace Tronkit.Sha256

def initialState : List UInt32 :=
  [0x6a09e667, 0xbb67ae85, 0x3c6ef372, 0xa54ff53a, 0x510e527f, 0x9b05688c, 0x1f83d9ab, 0x5be0cd19]

def roundConstants : List UInt32 :=
  [0x428a2f98, 0x71374491, 0xb5c0fbcf, 0xe9b5dba5, 0x3956c25b, 0x59f111f1, 0x923f82a4, 0xab1c5ed5,
   0xd807aa98, 0x12835b01, 0x243185be, 0x550c7dc3, 0x72be5d74, 0x80deb1fe, 0x9bdc06a7, 0xc19bf174,
   0xe49b69c1, 0xefbe4786, 0x0fc19dc6, 0x240ca1cc, 0x2de92c6f, 0x4a7484aa, 0x5cb0a9dc, 0x76f988da,
   0x983e5152, 0xa831c66d, 0xb00327c8, 0xbf597fc7, 0xc6e00bf3, 0xd5a79147, 0x06ca6351, 0x14292967,
   0x27b70a85, 0x2e1b2138, 0x4d2c6dfc, 0x53380d13, 0x650a7354, 0x766a0abb, 0x81c2c92e, 0x92722c85,
   0xa2bfe8a1, 0xa81a664b, 0xc24b8b70, 0xc76c51a3, 0xd192e819, 0xd6990624, 0xf40e3585, 0x106aa070,
   0x19a4c116, 0x1e376c08, 0x2748774c, 0x34b0bcb5, 0x391c0cb3, 0x4ed8aa4a, 0x5b9cca4f, 0x682e6ff3,
   0x748f82ee, 0x78a5636f, 0x84c87814, 0x8cc70208, 0x90befffa, 0xa4506ceb, 0xbef9a3f7, 0xc67178f2]

def rotateRight (x n : UInt32) : UInt32 := x >>> n ||| x <<< (32 - n)

def smallSigma0 (x : UInt32) : UInt32 := rotateRight x 7 ^^^ rotateRight x 18 ^^^ x >>> 3

def smallSigma1 (x : UInt32) : UInt32 := rotateRight x 17 ^^^ rotateRight x 19 ^^^ x >>> 10

def largeSigma0 (x : UInt32) : UInt32 := rotateRight x 2 ^^^ rotateRight x 13 ^^^ rotateRight x 22

def largeSigma1 (x : UInt32) : UInt32 := rotateRight x 6 ^^^ rotateRight x 11 ^^^ rotateRight x 25

def choice (x y z : UInt32) : UInt32 := (x &&& y) ^^^ (~~~x &&& z)

def majority (x y z : UInt32) : UInt32 := (x &&& y) ^^^ (x &&& z) ^^^ (y &&& z)

def words : Bytes → List UInt32
  | a :: b :: c :: d :: rest => UInt32.ofNat (Bytes.toNat [a, b, c, d]) :: words rest
  | _ => []

def extend : (count : Nat) → (window : List UInt32) → List UInt32
  | 0, window => window
  | count + 1, window =>
    let word (i : Nat) := window.getD i 0
    let next := smallSigma1 (word 14) + word 9 + smallSigma0 (word 1) + word 0
    word 0 :: extend count (window.drop 1 ++ [next])

def schedule (block : Bytes) : List UInt32 := extend 48 (words block)

def turn (state : List UInt32) (input : UInt32 × UInt32) : List UInt32 :=
  match state with
  | [a, b, c, d, e, f, g, h] =>
    let t1 := h + largeSigma1 e + choice e f g + input.1 + input.2
    let t2 := largeSigma0 a + majority a b c
    [t1 + t2, a, b, c, d + t1, e, f, g]
  | other => other

def compress (state : List UInt32) (block : Bytes) : List UInt32 :=
  List.zipWith (· + ·) state ((roundConstants.zip (schedule block)).foldl turn state)

def pad (message : Bytes) : Bytes :=
  message ++ 0x80 :: Bytes.zeros ((119 - message.length % 64) % 64)
    ++ Bytes.ofNat 8 (8 * message.length)

def blocks : (count : Nat) → Bytes → List Bytes
  | 0, _ => []
  | count + 1, bs => bs.take 64 :: blocks count (bs.drop 64)

def digest (message : Bytes) : Bytes :=
  let padded := pad message
  ((blocks (padded.length / 64) padded).foldl compress initialState).flatMap
    fun w => Bytes.ofNat 4 w.toNat

theorem length_turn {state : List UInt32} {input : UInt32 × UInt32} (h : state.length = 8) :
    (turn state input).length = 8 := by
  unfold turn
  split
  · rfl
  · exact h

theorem length_turns {state : List UInt32} (inputs : List (UInt32 × UInt32))
    (h : state.length = 8) : (inputs.foldl turn state).length = 8 := by
  induction inputs generalizing state with
  | nil => exact h
  | cons _ _ ih => exact ih (length_turn h)

theorem length_compress {state : List UInt32} (block : Bytes) (h : state.length = 8) :
    (compress state block).length = 8 := by
  simp [compress, length_turns _ h, h]

theorem length_digest (message : Bytes) : (digest message).length = 32 := by
  have key : ∀ (bs : List Bytes) (state : List UInt32), state.length = 8 →
      (bs.foldl compress state).length = 8 := by
    intro bs
    induction bs with
    | nil => exact fun _ h => h
    | cons b bs ih => exact fun _ h => ih _ (length_compress b h)
  simp only [digest, List.length_flatMap, Bytes.length_ofNat]
  simp [List.map_const', key _ _ (show initialState.length = 8 from rfl)]

end Tronkit.Sha256
