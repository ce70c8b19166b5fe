import Tronkit.Proofs.Abi.Codec
import Tronkit.Proofs.Except

/-!
# Single words

Of a word that is read as an address only the last twenty bytes count. A word that is read as a truth
value is a single byte behind zeros, and it is true only if this byte is one.
-/

namespace Tronkit

theorem Address.ofHash_drop_word {w : Bytes} (h : w.length = 32) :
    ofHash (w.drop 12) = ⟨BitVec.ofNat 160 w.toNat⟩ := by
  have hlen : (w.drop 12).length = 20 := by rw [List.length_drop, h]
  have hsplit : w.toNat = Bytes.toNat (w.take 12) * Nat.pow 256 20 + Bytes.toNat (w.drop 12) := by
    rw [← hlen, ← Bytes.toNat_append, List.take_append_drop]
  have hpow : Nat.pow 256 20 = 2 ^ 160 := by decide
  rw [ofHash, hsplit, hpow]
  congr 1
  apply BitVec.eq_of_toNat_eq
  rw [BitVec.toNat_ofNat, BitVec.toNat_ofNat, Nat.mul_add_mod_self_right]

namespace AbiToken

variable {data w x y : Bytes} {place : Nat}

theorem At.read_address (h : At data place w) (hw : w.length = 32) :
    read .address data place = some (.address (.ofHash (w.drop 12)), place + 32) := by
  have hslice := h.slice?
  rw [hw] at hslice
  rw [read, AbiToken.natAt?, wordAt?, hslice, Address.ofHash_drop_word hw]
  rfl

theorem decode_addresses (hx : x.length = 32) (hy : y.length = 32) :
    decode [.address, .address] (x ++ y) =
      .ok [.address (.ofHash (x.drop 12)), .address (.ofHash (y.drop 12))] := by
  have hfirst : At (x ++ y) 0 x := ⟨[], y, rfl, rfl⟩
  have hsecond : At (x ++ y) 32 y := ⟨x, [], by rw [List.append_nil], hx⟩
  have hdata : x ++ y ≠ [] := List.length_pos_iff.1 (by rw [List.length_append]; omega)
  have hread : readAll [.address, .address] (x ++ y) 0 =
      some ([.address (.ofHash (x.drop 12)), .address (.ofHash (y.drop 12))], 64) := by
    simp only [readAll, hfirst.read_address hx, hsecond.read_address hy, Option.bind_eq_bind,
      Option.bind_some, Option.pure_def]
  rw [decode, decide_eq_false hdata, Bool.false_and, if_neg Bool.false_ne_true, hread]

theorem boolAt?_zero_eq_some_iff {b : Bool} :
    boolAt? data 0 = some b ↔ 32 ≤ data.length ∧ data.take 31 = Bytes.zeros 31 ∧
      (b = true ↔ data[31]? = some 1) := by
  rw [boolAt?, Option.map_eq_some_iff]
  simp only [Option.filter_eq_some_iff, natAt?_zero_eq_some_iff, decide_eq_true_eq]
  by_cases hlen : 32 ≤ data.length
  · have hnat : Bytes.toNat (data.take 32) = 256 * Bytes.toNat (data.take 31) + data[31].toNat := by
      rw [← Bytes.toNat_append_singleton, List.take_append_getElem]
    have hlast : data[31]? = some 1 ↔ data[31].toNat = 1 := by
      rw [List.getElem?_eq_getElem hlen, Option.some.injEq, ← UInt8.toNat_inj]
      rfl
    have hzeros : data.take 31 = Bytes.zeros 31 ↔ Bytes.toNat (data.take 31) = 0 := by
      rw [Bytes.toNat_eq_zero_iff, List.length_take_of_le (by omega)]
    have hbyte : data[31].toNat < 256 := data[31].toNat_lt
    rw [hzeros, hlast]
    constructor
    · rintro ⟨n, ⟨⟨-, rfl⟩, hsmall⟩, rfl⟩
      refine ⟨hlen, by omega, ?_⟩
      rw [decide_eq_true_eq]
      omega
    · rintro ⟨-, hzero, hone⟩
      refine ⟨_, ⟨⟨hlen, rfl⟩, by omega⟩, ?_⟩
      rw [hnat, hzero, Nat.mul_zero, Nat.zero_add, Bool.eq_iff_iff, decide_eq_true_eq, hone]
  · constructor
    · rintro ⟨n, ⟨⟨hlong, -⟩, -⟩, -⟩
      exact absurd hlong hlen
    · rintro ⟨hlong, -⟩
      exact absurd hlong hlen

theorem decode_singleton_eq_ok_iff {t : AbiType} {τ : AbiToken} (hempty : read t [] 0 = none) :
    decode [t] data = .ok [τ] ↔ ∃ next, read t data 0 = some (τ, next) := by
  have hall : readAll [t] data 0 = (read t data 0).map fun r => ([r.1], r.2) := by
    rw [readAll]
    cases read t data 0 <;> rfl
  by_cases hdata : data = []
  · subst hdata
    rw [decode, hall, hempty]
    constructor
    · intro h
      split at h <;> cases h
    · rintro ⟨next, h⟩
      cases h
  · rw [decode, decide_eq_false hdata, Bool.false_and, if_neg Bool.false_ne_true, hall]
    cases read t data 0 <;> simp [Prod.ext_iff]

theorem decode_uint_iff {bits n : Nat} :
    (∃ τ, decode [.uint bits] data = .ok [τ] ∧ (AbiValue.ofToken τ).asUint? = some n) ↔
      32 ≤ data.length ∧ n = Bytes.toNat (data.take 32) := by
  have htoken (τ : AbiToken) :
      (AbiValue.ofToken τ).asUint? = some n ↔ ∃ w, τ = .uint w ∧ w.toNat = n := by
    cases τ <;> simp [AbiValue.ofToken, AbiValue.asUint?]
  simp only [htoken]
  constructor
  · rintro ⟨_, hdecode, w, rfl, rfl⟩
    exact (decode_eq_uint_iff.1 hdecode).2
  · rintro ⟨hlen, rfl⟩
    have hw : (BitVec.ofNat 256 (Bytes.toNat (data.take 32))).toNat = Bytes.toNat (data.take 32) :=
      Nat.mod_eq_of_lt (toNat_take_lt data)
    exact ⟨_, decode_eq_uint_iff.2 ⟨⟨bits, rfl⟩, hlen, hw⟩, _, rfl, hw⟩

theorem decode_bool_iff {b : Bool} :
    (∃ τ, decode [.bool] data = .ok [τ] ∧ (AbiValue.ofToken τ).asBool? = some b) ↔
      32 ≤ data.length ∧ data.take 31 = Bytes.zeros 31 ∧ (b = true ↔ data[31]? = some 1) := by
  have htoken (τ : AbiToken) : (AbiValue.ofToken τ).asBool? = some b ↔ τ = .bool b := by
    cases τ <;> simp [AbiValue.ofToken, AbiValue.asBool?]
  simp only [htoken, exists_eq_right, ← boolAt?_zero_eq_some_iff]
  rw [decode_singleton_eq_ok_iff rfl, read, inWord]
  cases boolAt? data 0 <;> simp

end AbiToken
end Tronkit
