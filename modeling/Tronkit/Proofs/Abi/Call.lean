import Tronkit.Proofs.Abi.Argument
import Tronkit.Proofs.Abi.Codec

/-!
# Decoding undoes encoding

A method that gives back what it takes is called with arguments and its results are read from the
arguments' own encoding. For flat types every accepted argument comes back as the value that it
stands for. A type decides which value that is: the same number is a `uint` for one and an `int`
for another, and every text of an address stands for the address.
-/

namespace Tronkit

/-- The types that are no sequences, with the widths that the chain knows. -/
def AbiType.IsFlat : AbiType → Prop
  | uint bits => bits ≤ 256
  | int bits => bits ≤ 256
  | fixedBytes size => 1 ≤ size ∧ size ≤ 32
  | address | bool | string | bytes => True
  | array _ | fixedArray _ _ | tuple _ => False

namespace AbiArgument

def value? : AbiType → AbiArgument → Option AbiValue
  | .address, address s => (Address.parse? s).map .address
  | .uint _, uint n => some (.uint n)
  | .int _, uint n => some (.int n)
  | .bool, bool b => some (.bool b)
  | .string, string s => some (.string s)
  | .bytes, bytes bs => some (.bytes bs)
  | .fixedBytes _, bytes bs => some (.bytes bs)
  | _, _ => none

def values? : List AbiType → List AbiArgument → Option (List AbiValue)
  | [], [] => some []
  | t :: types, arg :: args => do pure ((← value? t arg) :: (← values? types args))
  | _, _ => none

theorem toInt_of_lt {n bits : Nat} {w : BitVec 256} (hw : w.toNat = n) (hbits : bits ≤ 256)
    (hpos : 0 < bits) (h : n < Nat.pow 2 (bits - 1)) : w.toInt = n := by
  have hle : Nat.pow 2 (bits - 1) ≤ Nat.pow 2 255 := Nat.pow_le_pow_right (by decide) (by omega)
  have hpow : 2 * Nat.pow 2 255 = 2 ^ 256 := by decide
  rw [BitVec.toInt_eq_toNat_of_lt (by omega), hw]

open AbiToken (Fits)

theorem token_fits {t : AbiType} {arg : AbiArgument} {τ : AbiToken} (hflat : t.IsFlat)
    (h : arg.token t = .ok τ) : Fits t τ ∧ value? t arg = some (AbiValue.ofToken τ) := by
  cases token_eq_ok_iff.1 h with
  | @address s a hparse =>
    refine ⟨.address a, ?_⟩
    rw [value?, Address.parse?, hparse]
    rfl
  | @uint bits n w hbits hword =>
    refine ⟨.uint bits w, ?_⟩
    rw [value?, AbiValue.ofToken, hword]
  | @int bits n w hpos hbits hword =>
    refine ⟨.int bits w, ?_⟩
    rw [value?, AbiValue.ofToken, toInt_of_lt hword hflat hpos hbits]
  | bool b => exact ⟨.bool b, rfl⟩
  | string s => exact ⟨.string s, rfl⟩
  | bytes bs => exact ⟨.bytes bs, rfl⟩
  | fixedBytes hlen => exact ⟨.fixedBytes hlen hflat.1 hflat.2, rfl⟩

end AbiArgument

namespace Registry

open AbiArgument (values? token_fits)
open AbiToken (Fits)

theorem tokens_fit {method : String} {types : List AbiType} (hflat : ∀ t ∈ types, t.IsFlat) :
    ∀ {position : Nat} {args : List AbiArgument} {ts : List AbiToken},
      types.length = args.length → tokens method position types args = .ok ts →
      List.Forall₂ Fits types ts ∧ values? types args = some (ts.map AbiValue.ofToken) := by
  induction types with
  | nil =>
    intro position args ts hlen h
    obtain rfl : args = [] := List.length_eq_zero_iff.1 hlen.symm
    cases h
    exact ⟨.nil, rfl⟩
  | cons t types ih =>
    intro position args ts hlen h
    cases args with
    | nil => cases hlen
    | cons arg args =>
      rw [tokens, bind_eq_ok_iff] at h
      obtain ⟨τ, hτ, h⟩ := h
      rw [bind_eq_ok_iff] at h
      obtain ⟨rest, hrest, h⟩ := h
      cases h
      rw [except_mapError_eq_ok_iff] at hτ
      obtain ⟨hfit, hvalue⟩ := token_fits (hflat t (by simp)) hτ
      obtain ⟨hfits, hvalues⟩ := ih (fun t' ht => hflat t' (by simp [ht]))
        (Nat.succ.inj hlen) hrest
      refine ⟨.cons hfit hfits, ?_⟩
      rw [values?, hvalue, hvalues]
      rfl

theorem decode_of_encode {r : Registry} {method name : String} {f : AbiFunction}
    {args : List AbiArgument} {data : Bytes} (hf : r.method name method = .ok f)
    (htypes : f.outputTypes = f.inputTypes) (hflat : ∀ t ∈ f.inputTypes, t.IsFlat)
    (henc : r.encode method name args = .ok data) (hlen : data.length < Nat.pow 2 32) :
    ∃ vs, values? f.inputTypes args = some vs ∧
      r.decode method name (data.drop 4) = .ok vs := by
  obtain ⟨hargs, ts, hts, rfl⟩ := (encode_eq_ok_iff hf).1 henc
  have hcount := (length_inputTypes f).trans hargs
  obtain ⟨hfits, hvalues⟩ := tokens_fit hflat hcount hts
  have hdrop : (f.selector ++ AbiToken.encode ts).drop 4 = AbiToken.encode ts :=
    List.drop_left' f.length_selector
  rw [List.length_append] at hlen
  have hread := AbiToken.decode_encode hfits fun _ _ _ => by omega
  refine ⟨ts.map AbiValue.ofToken, hvalues, ?_⟩
  rw [decode, hf, ok_bind, hdrop, htypes, hread, ← AbiValue.ofTokens_eq_map]
  rfl

/-- Decoding undoes encoding: the values of the arguments come back in their order, and argument
lists with the same call data stand for the same values. -/
theorem decode_undoes_encode {r : Registry} {method name : String} {f : AbiFunction}
    {args : List AbiArgument} {data : Bytes} (hf : r.method name method = .ok f)
    (htypes : f.outputTypes = f.inputTypes) (hflat : ∀ t ∈ f.inputTypes, t.IsFlat)
    (henc : r.encode method name args = .ok data) (hlen : data.length < Nat.pow 2 32) :
    ∃ vs, values? f.inputTypes args = some vs ∧
      r.decode method name (data.drop 4) = .ok vs ∧
      ∀ args', r.encode method name args' = .ok data → values? f.inputTypes args' = some vs := by
  obtain ⟨vs, hvalues, hread⟩ := decode_of_encode hf htypes hflat henc hlen
  refine ⟨vs, hvalues, hread, ?_⟩
  intro args' henc'
  obtain ⟨vs', hvalues', hread'⟩ := decode_of_encode hf htypes hflat henc' hlen
  rw [hread] at hread'
  cases hread'
  exact hvalues'

def echo : AbiFunction where
  name := "echo"
  inputs := [⟨"text", .string⟩, ⟨"number", .int 8⟩]
  outputs := [⟨"text", .string⟩, ⟨"number", .int 8⟩]

theorem encode_echo :
    (empty.put "Echo" ⟨[echo], []⟩).encode "echo" "Echo" [.string "ab", .uint 127] =
      .ok (echo.selector ++ AbiToken.encode [.string "ab", .int 127]) := by
  have hmethod : (empty.put "Echo" ⟨[echo], []⟩).method "Echo" "echo" = .ok echo := rfl
  exact (encode_eq_ok_iff hmethod).2 ⟨rfl, _, rfl, rfl⟩

theorem length_encode_echo :
    (echo.selector ++ AbiToken.encode [.string "ab", .int 127]).length < Nat.pow 2 32 := by
  have hlen : (AbiToken.encode [.string "ab", .int 127]).length = 128 := by decide +kernel
  rw [List.length_append, echo.length_selector, hlen]
  decide

theorem decode_undoes_encode_of_echo :
    ∃ vs, values? echo.inputTypes [.string "ab", .uint 127] = some vs ∧
      (empty.put "Echo" ⟨[echo], []⟩).decode "echo" "Echo"
        ((echo.selector ++ AbiToken.encode [.string "ab", .int 127]).drop 4) = .ok vs ∧
      ∀ args', (empty.put "Echo" ⟨[echo], []⟩).encode "echo" "Echo" args' =
          .ok (echo.selector ++ AbiToken.encode [.string "ab", .int 127]) →
        values? echo.inputTypes args' = some vs := by
  have hflat : ∀ t ∈ echo.inputTypes, t.IsFlat := by
    intro t ht
    simp only [AbiFunction.inputTypes, echo, List.map_cons, List.map_nil, List.mem_cons,
      List.not_mem_nil, or_false] at ht
    rcases ht with rfl | rfl
    · trivial
    · exact (by decide : 8 ≤ 256)
  exact decode_undoes_encode rfl rfl hflat encode_echo length_encode_echo

end Registry
end Tronkit
