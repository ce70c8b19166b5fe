import Tronkit.Abi.Encoding
import Mathlib.Data.Int.ModEq
import Mathlib.Data.List.Forall2

/-!
# Values tell their tokens

An unsigned number is the number of its word. A signed one is the only number from -2^255 to below
2^255 that agrees with its word modulo 2^256. The values of a sequence stand in the places of its
tokens. Bytes of a fixed and of a free number have values of one kind, and so have the two kinds of
arrays, but a type admits only one of each. So among the tokens of a type each has its own value.
-/

namespace Tronkit.AbiValue

open AbiToken (isOf areOf)

inductive Tells : AbiToken → AbiValue → Prop
  | address (a : Address) : Tells (.address a) (.address a)
  | uint {w : BitVec 256} {n : Nat} (h : n = w.toNat) : Tells (.uint w) (.uint n)
  | int {w : BitVec 256} {z : Int} (hlow : -(Nat.pow 2 255 : Nat) ≤ z)
      (hhigh : z < (Nat.pow 2 255 : Nat)) (h : z ≡ w.toNat [ZMOD (Nat.pow 2 256 : Nat)]) :
      Tells (.int w) (.int z)
  | bool (b : Bool) : Tells (.bool b) (.bool b)
  | string (s : String) : Tells (.string s) (.string s)
  | bytes (bs : Bytes) : Tells (.bytes bs) (.bytes bs)
  | fixedBytes (bs : Bytes) : Tells (.fixedBytes bs) (.bytes bs)
  | array {ts : List AbiToken} {vs : List AbiValue} (h : List.Forall₂ Tells ts vs) :
      Tells (.array ts) (.array vs)
  | fixedArray {ts : List AbiToken} {vs : List AbiValue} (h : List.Forall₂ Tells ts vs) :
      Tells (.fixedArray ts) (.array vs)
  | tuple {ts : List AbiToken} {vs : List AbiValue} (h : List.Forall₂ Tells ts vs) :
      Tells (.tuple ts) (.tuple vs)

theorem toInt_eq_iff {w : BitVec 256} {z : Int} :
    w.toInt = z ↔ -(Nat.pow 2 255 : Nat) ≤ z ∧ z < (Nat.pow 2 255 : Nat) ∧
      z ≡ w.toNat [ZMOD (Nat.pow 2 256 : Nat)] := by
  have hbmod : w.toInt = Int.bmod w.toNat (Nat.pow 2 256) := BitVec.toInt_eq_toNat_bmod w
  constructor
  · rintro rfl
    refine ⟨BitVec.le_toInt w, BitVec.toInt_lt, ?_⟩
    rw [hbmod]
    exact Int.bmod_emod
  · rintro ⟨hlow, hhigh, hmod⟩
    have htop : Nat.pow 2 256 = 2 * Nat.pow 2 255 := by decide
    have hself : z.bmod (Nat.pow 2 256) = z := by
      apply Int.bmod_eq_of_le
      · omega
      · omega
    rw [hbmod, ← hself, ← Int.emod_bmod, ← hmod, Int.emod_bmod]

mutual
theorem tells_ofToken (τ : AbiToken) : Tells τ (ofToken τ) := by
  match τ with
  | .address a => exact .address a
  | .uint w => exact .uint rfl
  | .int w =>
    obtain ⟨hlow, hhigh, hmod⟩ := toInt_eq_iff.1 (Eq.refl w.toInt)
    exact .int hlow hhigh hmod
  | .bool b => exact .bool b
  | .string s => exact .string s
  | .bytes bs => exact .bytes bs
  | .fixedBytes bs => exact .fixedBytes bs
  | .array ts => exact .array (tells_ofTokens ts)
  | .fixedArray ts => exact .fixedArray (tells_ofTokens ts)
  | .tuple ts => exact .tuple (tells_ofTokens ts)
theorem tells_ofTokens (ts : List AbiToken) : List.Forall₂ Tells ts (ofTokens ts) := by
  match ts with
  | [] => exact .nil
  | τ :: ts => exact .cons (tells_ofToken τ) (tells_ofTokens ts)
end

mutual
theorem Tells.eq_ofToken {τ : AbiToken} {v : AbiValue} (h : Tells τ v) : ofToken τ = v := by
  match τ, v, h with
  | _, _, .address a => rfl
  | _, _, .uint h => rw [h, ofToken]
  | _, _, .int hlow hhigh hmod => rw [ofToken, toInt_eq_iff.2 ⟨hlow, hhigh, hmod⟩]
  | _, _, .bool b => rfl
  | _, _, .string s => rfl
  | _, _, .bytes bs => rfl
  | _, _, .fixedBytes bs => rfl
  | .array ts, _, .array h => rw [ofToken, eq_ofTokens h]
  | .fixedArray ts, _, .fixedArray h => rw [ofToken, eq_ofTokens h]
  | .tuple ts, _, .tuple h => rw [ofToken, eq_ofTokens h]
theorem eq_ofTokens {ts : List AbiToken} {vs : List AbiValue} (h : List.Forall₂ Tells ts vs) :
    ofTokens ts = vs := by
  match ts, vs, h with
  | [], _, .nil => rfl
  | τ :: ts, _, .cons hhead htail => rw [ofTokens, hhead.eq_ofToken, eq_ofTokens htail]
end

def Distinct (t : AbiType) : Prop :=
  ∀ τ τ', isOf t τ = true → isOf t τ' = true → ofToken τ = ofToken τ' → τ = τ'

theorem Distinct.list {t : AbiType} (ht : Distinct t) {ts ts' : List AbiToken}
    (h : ts.all (isOf t) = true) (h' : ts'.all (isOf t) = true) (heq : ofTokens ts = ofTokens ts') :
    ts = ts' := by
  induction ts generalizing ts' with
  | nil =>
    cases ts' with
    | nil => rfl
    | cons τ' ts' => cases heq
  | cons τ ts ih =>
    cases ts' with
    | nil => cases heq
    | cons τ' ts' =>
      rw [List.all_cons, Bool.and_eq_true] at h h'
      obtain ⟨hhead, htail⟩ := List.cons.inj heq
      rw [ht τ τ' h.1 h'.1 hhead, ih h.2 h'.2 htail]

mutual
/-- By induction on the type, which decides how a token of it is made. -/
theorem distinct (t : AbiType) : Distinct t := by
  intro τ τ' h h' heq
  match t, τ, τ', h, h' with
  | .address, .address a, .address b, _, _ => rw [AbiValue.address.inj heq]
  | .uint _, .uint w, .uint u, _, _ => rw [BitVec.eq_of_toNat_eq (AbiValue.uint.inj heq)]
  | .int _, .int w, .int u, _, _ => rw [BitVec.toInt_inj.1 (AbiValue.int.inj heq)]
  | .bool, .bool b, .bool c, _, _ => rw [AbiValue.bool.inj heq]
  | .string, .string s, .string r, _, _ => rw [AbiValue.string.inj heq]
  | .bytes, .bytes bs, .bytes cs, _, _ => rw [AbiValue.bytes.inj heq]
  | .fixedBytes _, .fixedBytes bs, .fixedBytes cs, _, _ => rw [AbiValue.bytes.inj heq]
  | .array t, .array ts, .array ts', h, h' => rw [(distinct t).list h h' (AbiValue.array.inj heq)]
  | .fixedArray t size, .fixedArray ts, .fixedArray ts', h, h' =>
    obtain ⟨-, hall⟩ := Bool.and_eq_true_iff.1 h
    obtain ⟨-, hall'⟩ := Bool.and_eq_true_iff.1 h'
    rw [(distinct t).list hall hall' (AbiValue.array.inj heq)]
  | .tuple types, .tuple ts, .tuple ts', h, h' =>
    rw [eq_of_ofTokens_eq types h h' (AbiValue.tuple.inj heq)]
theorem eq_of_ofTokens_eq (types : List AbiType) {ts ts' : List AbiToken}
    (h : areOf types ts = true) (h' : areOf types ts' = true) (heq : ofTokens ts = ofTokens ts') :
    ts = ts' := by
  match types, ts, ts' with
  | [], [], [] => rfl
  | t :: types, τ :: ts, τ' :: ts' =>
    rw [areOf, Bool.and_eq_true] at h h'
    obtain ⟨hhead, htail⟩ := List.cons.inj heq
    rw [distinct t τ τ' h.1 h'.1 hhead, eq_of_ofTokens_eq types h.2 h'.2 htail]
end

/-- Nothing is lost when a token of a known type becomes a value, and the value is the one that tells
the token. -/
theorem ofToken_faithful {t : AbiType} {τ τ' : AbiToken} (h : isOf t τ = true)
    (h' : isOf t τ' = true) :
    (∀ v, ofToken τ = v ↔ Tells τ v) ∧ (ofToken τ = ofToken τ' → τ = τ') :=
  ⟨fun _ => ⟨fun hv => hv ▸ tells_ofToken τ, Tells.eq_ofToken⟩, distinct t τ τ' h h'⟩

/-- A negative and a positive number that change places next to bytes of a fixed number. -/
theorem ofToken_faithful_of_swapped :
    let t : AbiType := .tuple [.array (.int 256), .fixedArray (.tuple [.fixedBytes 2]) 1]
    let token (w u : BitVec 256) : AbiToken :=
      .tuple [.array [.int w, .int u], .fixedArray [.tuple [.fixedBytes [1, 2]]]]
    let top := BitVec.allOnes 256
    isOf t (token top 1) = true ∧ isOf t (token 1 top) = true ∧
      Tells (token top 1) (.tuple [.array [.int (-1), .int 1], .array [.tuple [.bytes [1, 2]]]]) ∧
      ofToken (token top 1) ≠ ofToken (token 1 top) := by
  intro t token top
  have h : isOf t (token top 1) = true := rfl
  have h' : isOf t (token 1 top) = true := rfl
  obtain ⟨htells, hinj⟩ := ofToken_faithful h h'
  refine ⟨h, h', (htells _).1 ?_, fun heq => ?_⟩
  · have htop : top.toInt = -1 := by decide
    have hone : (1 : BitVec 256).toInt = 1 := by decide
    rw [ofToken, ofTokens, ofToken, ofTokens, ofToken, htop, ofTokens, ofToken, hone]
    rfl
  · have hswap : top = 1 := by
      injection hinj heq with hlist
      injection hlist with harray
      injection harray with hints
      injection hints with hint
      injection hint
    exact absurd hswap (by decide)

end Tronkit.AbiValue
