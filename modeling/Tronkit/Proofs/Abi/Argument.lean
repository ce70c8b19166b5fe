import Tronkit.Abi.Registry
import Tronkit.Proofs.Except
import Mathlib.Data.List.Forall2

/-!
# Which calls are encoded

An argument suits a type by its kind and its size alone. A call is encoded if the interface is
known, the first method of the name has as many inputs as there are arguments, and every argument
suits its input. What is missing first in this order is the error, and of the arguments that do not
suit their inputs the first one is named. The tokens of suitable arguments are of the types of the
inputs, so nothing is left for the encoder to refuse.
-/

namespace Tronkit

namespace AbiArgument

/-- A value of the type can be given by the argument. A number for a signed type stays below the
sign bit. -/
inductive Suits : AbiType → AbiArgument → Prop
  | address {s : String} {a : Address} (h : Address.parse s = .ok a) : Suits .address (.address s)
  | uint {bits n : Nat} (hbits : n < Nat.pow 2 bits) (hword : n < Nat.pow 2 256) :
      Suits (.uint bits) (.uint n)
  | int {bits n : Nat} (hpos : 0 < bits) (hbits : n < Nat.pow 2 (bits - 1))
      (hword : n < Nat.pow 2 256) : Suits (.int bits) (.uint n)
  | bool (b : Bool) : Suits .bool (.bool b)
  | string (s : String) : Suits .string (.string s)
  | bytes (bs : Bytes) : Suits .bytes (.bytes bs)
  | fixedBytes {size : Nat} {bs : Bytes} (hlen : bs.length = size) :
      Suits (.fixedBytes size) (.bytes bs)

/-- The token of an argument of a type. The number stays the same, and a signed word of it is not
negative. -/
inductive Becomes : AbiType → AbiArgument → AbiToken → Prop
  | address {s : String} {a : Address} (h : Address.parse s = .ok a) :
      Becomes .address (.address s) (.address a)
  | uint {bits n : Nat} {w : BitVec 256} (hbits : n < Nat.pow 2 bits) (hword : w.toNat = n) :
      Becomes (.uint bits) (.uint n) (.uint w)
  | int {bits n : Nat} {w : BitVec 256} (hpos : 0 < bits) (hbits : n < Nat.pow 2 (bits - 1))
      (hword : w.toNat = n) : Becomes (.int bits) (.uint n) (.int w)
  | bool (b : Bool) : Becomes .bool (.bool b) (.bool b)
  | string (s : String) : Becomes .string (.string s) (.string s)
  | bytes (bs : Bytes) : Becomes .bytes (.bytes bs) (.bytes bs)
  | fixedBytes {size : Nat} {bs : Bytes} (hlen : bs.length = size) :
      Becomes (.fixedBytes size) (.bytes bs) (.fixedBytes bs)

inductive FirstMisfit : List AbiType → List AbiArgument → (position : Nat) → (reason : String) →
    Prop
  | here {t : AbiType} {arg : AbiArgument} {reason : String} (types : List AbiType)
      (args : List AbiArgument) (hmisfit : ¬Suits t arg) (hreason : arg.token t = .error reason) :
      FirstMisfit (t :: types) (arg :: args) 0 reason
  | later {t : AbiType} {arg : AbiArgument} {types : List AbiType} {args : List AbiArgument}
      {position : Nat} {reason : String} (hsuits : Suits t arg)
      (hrest : FirstMisfit types args position reason) :
      FirstMisfit (t :: types) (arg :: args) (position + 1) reason

theorem bitLength_le_iff {n bits : Nat} : bitLength n ≤ bits ↔ n < Nat.pow 2 bits := by
  constructor
  · intro h
    exact Nat.lt_of_lt_of_le (lt_two_pow_bitLength n) (Nat.pow_le_pow_right (by decide) h)
  · intro h
    unfold bitLength
    split
    · exact Nat.zero_le bits
    · rename_i hn
      exact (Nat.log2_lt hn).2 h

theorem word_eq_ok_iff {n : Nat} {w : BitVec 256} : word n = .ok w ↔ w.toNat = n := by
  unfold word
  split
  · rename_i hn
    rw [Except.ok.injEq]
    constructor
    · rintro rfl
      rw [BitVec.toNat_ofNat]
      exact Nat.mod_eq_of_lt hn
    · rintro rfl
      rw [BitVec.ofNat_toNat, BitVec.setWidth_eq]
  · rename_i hn
    constructor
    · intro h
      cases h
    · rintro rfl
      exact absurd w.isLt hn

theorem token_eq_ok_iff {t : AbiType} {arg : AbiArgument} {τ : AbiToken} :
    arg.token t = .ok τ ↔ Becomes t arg τ := by
  constructor
  · intro h
    unfold token at h
    split at h
    · obtain ⟨a, hparse, rfl⟩ := except_map_eq_ok_iff.1 (except_mapError_eq_ok_iff.1 h)
      exact .address hparse
    · split at h
      · cases h
      · rename_i hbits
        obtain ⟨w, hw, rfl⟩ := except_map_eq_ok_iff.1 h
        exact .uint (bitLength_le_iff.1 (Nat.not_lt.1 hbits)) (word_eq_ok_iff.1 hw)
    · split at h
      · cases h
      · rename_i hbits
        obtain ⟨w, hw, rfl⟩ := except_map_eq_ok_iff.1 h
        exact .int (by omega) (bitLength_le_iff.1 (by omega)) (word_eq_ok_iff.1 hw)
    · cases h
      exact .bool _
    · cases h
      exact .string _
    · cases h
      exact .bytes _
    · split at h
      · rename_i hlen
        cases h
        exact .fixedBytes hlen
      · cases h
    · cases h
  · intro h
    cases h with
    | address hparse =>
      rw [token, hparse]
      rfl
    | uint hbits hword =>
      rw [token, if_neg (Nat.not_lt.2 (bitLength_le_iff.2 hbits)), word_eq_ok_iff.2 hword]
      rfl
    | int hpos hbits hword =>
      have hlen := bitLength_le_iff.2 hbits
      rw [token, if_neg (by omega), word_eq_ok_iff.2 hword]
      rfl
    | bool b => rfl
    | string s => rfl
    | bytes bs => rfl
    | fixedBytes hlen => rw [token, if_pos hlen]

theorem exists_becomes_iff {t : AbiType} {arg : AbiArgument} :
    (∃ τ, Becomes t arg τ) ↔ Suits t arg := by
  constructor
  · rintro ⟨τ, h⟩
    cases h with
    | address hparse => exact .address hparse
    | @uint bits n w hbits hword => exact .uint hbits (hword ▸ w.isLt)
    | @int bits n w hpos hbits hword => exact .int hpos hbits (hword ▸ w.isLt)
    | bool b => exact .bool b
    | string s => exact .string s
    | bytes bs => exact .bytes bs
    | fixedBytes hlen => exact .fixedBytes hlen
  · intro h
    cases h with
    | address hparse => exact ⟨_, .address hparse⟩
    | uint hbits hword => exact ⟨.uint (BitVec.ofNatLT _ hword), .uint hbits rfl⟩
    | int hpos hbits hword => exact ⟨.int (BitVec.ofNatLT _ hword), .int hpos hbits rfl⟩
    | bool b => exact ⟨_, .bool b⟩
    | string s => exact ⟨_, .string s⟩
    | bytes bs => exact ⟨_, .bytes bs⟩
    | fixedBytes hlen => exact ⟨_, .fixedBytes hlen⟩

theorem exists_token_of_suits {t : AbiType} {arg : AbiArgument} (h : Suits t arg) :
    ∃ τ, arg.token t = .ok τ := by
  obtain ⟨τ, hbecomes⟩ := exists_becomes_iff.2 h
  exact ⟨τ, token_eq_ok_iff.2 hbecomes⟩

theorem Becomes.isOf {t : AbiType} {arg : AbiArgument} {τ : AbiToken} (h : Becomes t arg τ) :
    AbiToken.isOf t τ = true := by
  cases h with
  | fixedBytes hlen => exact decide_eq_true (Nat.le_of_eq hlen)
  | address | uint | int | bool | string | bytes => rfl

theorem exists_reason_of_not_suits {t : AbiType} {arg : AbiArgument} (h : ¬Suits t arg) :
    ∃ reason, arg.token t = .error reason := by
  cases hτ : arg.token t with
  | ok τ => exact absurd (exists_becomes_iff.1 ⟨τ, token_eq_ok_iff.1 hτ⟩) h
  | error reason => exact ⟨reason, rfl⟩

theorem suits_or_firstMisfit {types : List AbiType} {args : List AbiArgument}
    (hlen : types.length = args.length) :
    List.Forall₂ Suits types args ∨ ∃ position reason, FirstMisfit types args position reason := by
  induction types generalizing args with
  | nil =>
    obtain rfl : args = [] := List.length_eq_zero_iff.1 hlen.symm
    exact .inl .nil
  | cons t types ih =>
    obtain ⟨arg, args, rfl⟩ := List.exists_cons_of_length_eq_add_one hlen.symm
    by_cases hsuits : Suits t arg
    · obtain hall | ⟨position, reason, hrest⟩ := ih (Nat.succ.inj hlen)
      · exact .inl (.cons hsuits hall)
      · exact .inr ⟨position + 1, reason, .later hsuits hrest⟩
    · obtain ⟨reason, hreason⟩ := exists_reason_of_not_suits hsuits
      exact .inr ⟨0, reason, .here types args hsuits hreason⟩

end AbiArgument

def Interface.FirstNamed (i : Interface) (method : String) (f : AbiFunction) : Prop :=
  ∃ before later, i.functions = before ++ f :: later ∧ f.name = method ∧
    ∀ g ∈ before, g.name ≠ method

theorem Interface.function?_eq_some_iff {i : Interface} {method : String} {f : AbiFunction} :
    i.function? method = some f ↔ i.FirstNamed method f := by
  rw [Interface.function?, List.find?_eq_some_iff_append]
  simp only [decide_eq_true_eq, Bool.not_eq_true', decide_eq_false_iff_not]
  constructor
  · rintro ⟨hname, before, later, hsplit, hbefore⟩
    exact ⟨before, later, hsplit, hname, hbefore⟩
  · rintro ⟨before, later, hsplit, hname, hbefore⟩
    exact ⟨hname, before, later, hsplit, hbefore⟩

theorem Interface.function?_eq_none_iff {i : Interface} {method : String} :
    i.function? method = none ↔ ∀ f ∈ i.functions, f.name ≠ method := by
  rw [Interface.function?, List.find?_eq_none]
  simp only [decide_eq_true_eq]

theorem AbiFunction.callData_of_areOf {f : AbiFunction} {ts : List AbiToken}
    (h : AbiToken.areOf f.inputTypes ts = true) :
    f.callData ts = .ok (f.selector ++ AbiToken.encode ts) := if_pos h

namespace Registry

open AbiArgument (Suits FirstMisfit token_eq_ok_iff exists_token_of_suits)

variable {r : Registry} {method name : String} {f : AbiFunction} {args : List AbiArgument}

def Knows (r : Registry) (name method : String) (f : AbiFunction) : Prop :=
  ∃ i, (name, i) ∈ r.entries ∧ i.FirstNamed method f

/-- What is wrong with a call, in the order in which it is looked for. -/
inductive Offence (r : Registry) (method name : String) (args : List AbiArgument) :
    AbiError → Prop
  | interface (h : ∀ i, (name, i) ∉ r.entries) : Offence r method name args (.notFound name)
  | method {i : Interface} (hi : (name, i) ∈ r.entries)
      (h : ∀ f ∈ i.functions, f.name ≠ method) :
      Offence r method name args (.methodNotFound name method)
  | arity {f : AbiFunction} (hf : r.Knows name method f) (h : f.inputs.length ≠ args.length) :
      Offence r method name args (.arityMismatch method f.inputs.length args.length)
  | argument {f : AbiFunction} {position : Nat} {reason : String} (hf : r.Knows name method f)
      (hlen : f.inputs.length = args.length)
      (h : FirstMisfit f.inputTypes args position reason) :
      Offence r method name args (.invalidArgument method position reason)

theorem get_eq_ok_iff {i : Interface} : r.get name = .ok i ↔ (name, i) ∈ r.entries := by
  rw [get, ← Keyed.lookup_eq_some_iff_mem r.nodup]
  cases r.entries.lookup name with
  | none => simp
  | some i' => simp

theorem get_eq_error_iff {fault : AbiError} :
    r.get name = .error fault ↔ (∀ i, (name, i) ∉ r.entries) ∧ fault = .notFound name := by
  have hnone : r.entries.lookup name = none ↔ ∀ i, (name, i) ∉ r.entries := by
    rw [Option.eq_none_iff_forall_ne_some]
    exact forall_congr' fun i => not_congr (Keyed.lookup_eq_some_iff_mem r.nodup)
  rw [get, ← hnone]
  cases r.entries.lookup name with
  | none => simp [eq_comm]
  | some i => simp

theorem method_eq_ok_iff : r.method name method = .ok f ↔ r.Knows name method f := by
  rw [Registry.method, bind_eq_ok_iff]
  refine exists_congr fun i => and_congr get_eq_ok_iff ?_
  rw [← Interface.function?_eq_some_iff]
  cases i.function? method with
  | none => simp
  | some g => simp [pure, Except.pure]

theorem method_eq_error_iff {fault : AbiError} :
    r.method name method = .error fault ↔
      ((∀ i, (name, i) ∉ r.entries) ∧ fault = .notFound name) ∨
        ∃ i, (name, i) ∈ r.entries ∧ (∀ f ∈ i.functions, f.name ≠ method) ∧
          fault = .methodNotFound name method := by
  rw [Registry.method, bind_eq_error_iff, get_eq_error_iff]
  refine or_congr_right (exists_congr fun i => and_congr get_eq_ok_iff ?_)
  rw [← Interface.function?_eq_none_iff]
  cases i.function? method with
  | none => simp [eq_comm]
  | some g => simp [pure, Except.pure]

theorem areOf_tokens {types : List AbiType} (hlen : types.length = args.length) {position : Nat}
    {ts : List AbiToken} (h : tokens method position types args = .ok ts) :
    AbiToken.areOf types ts = true := by
  induction types generalizing args position ts with
  | nil =>
    obtain rfl : args = [] := List.length_eq_zero_iff.1 hlen.symm
    cases h
    rfl
  | cons t types ih =>
    obtain ⟨arg, args, rfl⟩ := List.exists_cons_of_length_eq_add_one hlen.symm
    rw [tokens, bind_eq_ok_iff] at h
    obtain ⟨τ, hτ, h⟩ := h
    obtain ⟨rest, hrest, h⟩ := bind_eq_ok_iff.1 h
    cases h
    have hof := (token_eq_ok_iff.1 (except_mapError_eq_ok_iff.1 hτ)).isOf
    rw [AbiToken.areOf, hof, ih (Nat.succ.inj hlen) hrest]
    rfl

theorem exists_tokens_of_suits {types : List AbiType} (h : List.Forall₂ Suits types args)
    (method : String) (position : Nat) :
    ∃ ts, tokens method position types args = .ok ts := by
  induction h generalizing position with
  | nil => exact ⟨[], rfl⟩
  | cons hsuits hall ih =>
    obtain ⟨τ, hτ⟩ := exists_token_of_suits hsuits
    obtain ⟨rest, hrest⟩ := ih (position + 1)
    refine ⟨τ :: rest, ?_⟩
    rw [tokens, except_mapError_eq_ok_iff.2 hτ, ok_bind, hrest]
    rfl

theorem tokens_of_firstMisfit {types : List AbiType} {k : Nat} {reason : String}
    (h : FirstMisfit types args k reason) (method : String) (position : Nat) :
    tokens method position types args =
      .error (.invalidArgument method (position + k) reason) := by
  induction h generalizing position with
  | here types args hmisfit hreason =>
    rw [tokens, except_mapError_eq_error_iff.2 ⟨_, hreason, rfl⟩]
    rfl
  | @later t arg types args k reason hsuits hrest ih =>
    obtain ⟨τ, hτ⟩ := exists_token_of_suits hsuits
    rw [tokens, except_mapError_eq_ok_iff.2 hτ, ok_bind, ih (position + 1), Nat.add_right_comm]
    rfl

theorem length_inputTypes (f : AbiFunction) : f.inputTypes.length = f.inputs.length :=
  List.length_map _

theorem encode_eq_ok_iff {data : Bytes} (hf : r.method name method = .ok f) :
    r.encode method name args = .ok data ↔
      f.inputs.length = args.length ∧
        ∃ ts, tokens method 0 f.inputTypes args = .ok ts ∧
          data = f.selector ++ AbiToken.encode ts := by
  rw [encode, hf, ok_bind]
  by_cases hlen : f.inputs.length = args.length
  · have hof : ∀ {ts}, tokens method 0 f.inputTypes args = .ok ts →
        AbiToken.areOf f.inputTypes ts = true := areOf_tokens ((length_inputTypes f).trans hlen)
    rw [if_neg (by simpa using hlen), bind_eq_ok_iff]
    constructor
    · rintro ⟨ts, hts, h⟩
      rw [AbiFunction.callData_of_areOf (hof hts)] at h
      cases h
      exact ⟨hlen, ts, hts, rfl⟩
    · rintro ⟨-, ts, hts, rfl⟩
      refine ⟨ts, hts, ?_⟩
      rw [AbiFunction.callData_of_areOf (hof hts)]
      rfl
  · rw [if_pos hlen]
    constructor
    · intro h
      cases h
    · rintro ⟨h, -⟩
      exact absurd h hlen

theorem exists_encode_of_suits (hf : r.Knows name method f)
    (h : List.Forall₂ Suits f.inputTypes args) : ∃ data, r.encode method name args = .ok data := by
  obtain ⟨ts, hts⟩ := exists_tokens_of_suits h method 0
  exact ⟨_, (encode_eq_ok_iff (method_eq_ok_iff.2 hf)).2
    ⟨(length_inputTypes f).symm.trans h.length_eq, ts, hts, rfl⟩⟩

theorem encode_of_offence {fault : AbiError} (h : Offence r method name args fault) :
    r.encode method name args = .error fault := by
  cases h with
  | interface hnone =>
    rw [encode, method_eq_error_iff.2 (.inl ⟨hnone, rfl⟩)]
    rfl
  | method hi hnone =>
    rw [encode, method_eq_error_iff.2 (.inr ⟨_, hi, hnone, rfl⟩)]
    rfl
  | arity hf hlen =>
    rw [encode, method_eq_ok_iff.2 hf, ok_bind, if_pos hlen]
  | argument hf hlen hmisfit =>
    rw [encode, method_eq_ok_iff.2 hf, ok_bind, if_neg (not_not_intro hlen),
      tokens_of_firstMisfit hmisfit, Nat.zero_add]
    rfl

theorem suits_or_offence (r : Registry) (method name : String) (args : List AbiArgument) :
    (∃ f, r.Knows name method f ∧ List.Forall₂ Suits f.inputTypes args) ∨
      ∃ fault, Offence r method name args fault := by
  cases hmethod : r.method name method with
  | error fault =>
    obtain ⟨hnone, -⟩ | ⟨i, hi, hnone, -⟩ := method_eq_error_iff.1 hmethod
    · exact .inr ⟨_, .interface hnone⟩
    · exact .inr ⟨_, .method hi hnone⟩
  | ok f =>
    have hf := method_eq_ok_iff.1 hmethod
    by_cases hlen : f.inputs.length = args.length
    · obtain hall | ⟨position, reason, hmisfit⟩ :=
        AbiArgument.suits_or_firstMisfit ((length_inputTypes f).trans hlen)
      · exact .inl ⟨f, hf, hall⟩
      · exact .inr ⟨_, .argument hf hlen hmisfit⟩
    · exact .inr ⟨_, .arity hf hlen⟩

/-- A call is encoded exactly if it suits the method that it names. Otherwise the first offence is
the error, and the encoder itself never fails. -/
theorem encode_unless_offence (r : Registry) (method name : String) (args : List AbiArgument) :
    ((∃ data, r.encode method name args = .ok data) ↔
      ∃ f, r.Knows name method f ∧ List.Forall₂ Suits f.inputTypes args) ∧
      (∀ fault, r.encode method name args = .error fault ↔ Offence r method name args fault) ∧
      ∀ reason, r.encode method name args ≠ .error (.encodeFailed reason) := by
  have herror : ∀ fault, r.encode method name args = .error fault ↔
      Offence r method name args fault := by
    intro fault
    refine ⟨fun h => ?_, encode_of_offence⟩
    obtain ⟨f, hf, hall⟩ | ⟨fault', hoffence⟩ := suits_or_offence r method name args
    · obtain ⟨data, hdata⟩ := exists_encode_of_suits hf hall
      rw [hdata] at h
      cases h
    · rw [encode_of_offence hoffence] at h
      cases h
      exact hoffence
  refine ⟨⟨?encoded, ?suits⟩, herror, ?never⟩
  case encoded =>
    rintro ⟨data, hdata⟩
    obtain hall | ⟨fault, hoffence⟩ := suits_or_offence r method name args
    · exact hall
    · rw [encode_of_offence hoffence] at hdata
      cases hdata
  case suits =>
    rintro ⟨f, hf, hall⟩
    exact exists_encode_of_suits hf hall
  case never =>
    intro reason h
    cases (herror _).1 h

end Registry
end Tronkit
