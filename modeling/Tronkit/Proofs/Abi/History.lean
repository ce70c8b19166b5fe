import Tronkit.Proofs.Abi.Lookup

/-!
# Histories of registrations

A registry that went through any calls of `register`, some of which failed, shows under each name
the interface of the last call that succeeded there, or what it held before the calls if none did.
Every operation on a name sees only this interface, and a call of the registry is looked up among
the interfaces that are shown, each under its own name.
-/

namespace Tronkit

structure Registration where
  name : String
  declaration : String

namespace Registration

/-- What the call registers, unless its name is empty or its text declares no interface. -/
def interface? (c : Registration) : Option Interface :=
  if c.name = "" then none else (Declaration.parse c.declaration).toOption

def interfaceUnder? (name : String) (c : Registration) : Option Interface :=
  if c.name = name then c.interface? else none

def latest? (name : String) (history : List Registration) : Option Interface :=
  history.reverse.findSome? (interfaceUnder? name)

theorem latest?_cons (name : String) (c : Registration) (history : List Registration) :
    latest? name (c :: history) = (latest? name history).or (c.interfaceUnder? name) := by
  rw [latest?, List.reverse_cons, List.findSome?_append, ← latest?]
  congr 1
  rw [List.findSome?_cons, List.findSome?_nil]
  cases c.interfaceUnder? name <;> rfl

end Registration

namespace Registry

open Registration (latest?)

def after (r : Registry) (c : Registration) : Registry :=
  match r.register c.name c.declaration with
  | .ok r' => r'
  | .error _ => r

def run (start : Registry) (history : List Registration) : Registry := history.foldl after start

def kept? (start : Registry) (history : List Registration) (name : String) : Option Interface :=
  (latest? name history).or (start.entries.lookup name)

def only (name : String) : Option Interface → Registry
  | some i => empty.put name i
  | none => empty

/-- Nothing that is asked under the name tells the registries apart. -/
structure SameUnder (name : String) (r r' : Registry) : Prop where
  get : r.get name = r'.get name
  encode : ∀ method args, r.encode method name args = r'.encode method name args
  decode : ∀ method data, r.decode method name data = r'.decode method name data
  methodOfCall : ∀ data, r.methodOfCall name data = r'.methodOfCall name data
  decodeLog : ∀ topics data, r.decodeLog name topics data = r'.decodeLog name topics data

/-- What a search through the interfaces may come to, whatever its order: a method with the
selector of the data if any of them has one, and a failure only if none has. -/
inductive Finds (kept : String → Option Interface) (data : Bytes) :
    Except AbiError AbiFunction → Prop
  | short (h : data.length < 4) : Finds kept data (.error (.dataTooShort data.length))
  | found {name : String} {i : Interface} {f : AbiFunction} (hlen : 4 ≤ data.length)
      (hi : kept name = some i) (hf : f ∈ i.functions) (hs : f.selector = data.take 4) :
      Finds kept data (.ok f)
  | unknown (hlen : 4 ≤ data.length)
      (h : ∀ name i, kept name = some i → ∀ f ∈ i.functions, f.selector ≠ data.take 4) :
      Finds kept data (.error (.unknownSelector (Hex.text (data.take 4))))

/-! ## One call -/

theorem register_cases (r : Registry) (c : Registration) :
    (∃ i, c.interface? = some i ∧ r.register c.name c.declaration = .ok (r.put c.name i)) ∨
      (c.interface? = none ∧ ∃ e, r.register c.name c.declaration = .error e) := by
  rw [Registration.interface?, register]
  by_cases hname : c.name = ""
  · rw [if_pos hname, if_pos hname]
    exact .inr ⟨rfl, _, rfl⟩
  · rw [if_neg hname, if_neg hname]
    cases Declaration.parse c.declaration with
    | ok i => exact .inl ⟨i, rfl, rfl⟩
    | error fault => exact .inr ⟨rfl, _, rfl⟩

theorem after_of_interface {r : Registry} {c : Registration} {i : Interface}
    (h : c.interface? = some i) : r.after c = r.put c.name i := by
  obtain ⟨i', hi, hreg⟩ | ⟨hnone, -⟩ := register_cases r c
  · rw [h] at hi
    cases hi
    rw [after, hreg]
  · rw [h] at hnone
    cases hnone

theorem after_of_failure {r : Registry} {c : Registration} (h : c.interface? = none) :
    r.after c = r := by
  obtain ⟨i, hi, -⟩ | ⟨-, e, hreg⟩ := register_cases r c
  · rw [h] at hi
    cases hi
  · rw [after, hreg]

theorem lookup_after (r : Registry) (c : Registration) (name : String) :
    (r.after c).entries.lookup name =
      (c.interfaceUnder? name).or (r.entries.lookup name) := by
  rw [Registration.interfaceUnder?]
  cases hi : c.interface? with
  | none =>
    rw [after_of_failure hi]
    split <;> rfl
  | some i =>
    rw [after_of_interface hi, put, Keyed.lookup_assign]
    by_cases hname : c.name = name
    · rw [if_pos hname.symm, if_pos hname, Option.some_or]
    · rw [if_neg fun h => hname h.symm, if_neg hname, Option.none_or]

/-! ## Any number of calls -/

theorem lookup_run (start : Registry) (history : List Registration) (name : String) :
    (run start history).entries.lookup name = kept? start history name := by
  -- What a call leaves under the name is what the calls after it start from.
  induction history generalizing start with
  | nil => rfl
  | cons c later ih =>
    have hstep : run start (c :: later) = run (start.after c) later := rfl
    rw [hstep, ih, kept?, lookup_after, kept?, Registration.latest?_cons, Option.or_assoc]

example : kept? standard [⟨"TRC20", "[]"⟩, ⟨"", "[]"⟩, ⟨"TRC20", "not JSON"⟩] "TRC20" =
    some Interface.empty := rfl

theorem run_of_failure {start : Registry} {before later : List Registration} {c : Registration}
    (h : c.interface? = none) :
    run start (before ++ c :: later) = run start (before ++ later) := by
  rw [run, List.foldl_append, List.foldl_cons, after_of_failure h, ← List.foldl_append, run]

theorem mem_run_iff (start : Registry) (history : List Registration) {name : String}
    {i : Interface} :
    (name, i) ∈ (run start history).entries ↔ kept? start history name = some i := by
  rw [← Keyed.lookup_eq_some_iff_mem (run start history).nodup, lookup_run]

/-! ## What the operations see -/

theorem lookup_only (name : String) (i : Option Interface) :
    (only name i).entries.lookup name = i := by
  cases i with
  | none => rfl
  | some i => rw [only, put, Keyed.lookup_assign, if_pos rfl]

theorem sameUnder_of_lookup {name : String} {r r' : Registry}
    (h : r.entries.lookup name = r'.entries.lookup name) : SameUnder name r r' := by
  have hget : r.get name = r'.get name := by rw [Registry.get, Registry.get, h]
  have hmethod : ∀ method, r.method name method = r'.method name method := by
    intro method
    rw [Registry.method, Registry.method, hget]
  constructor
  case get => exact hget
  case encode =>
    intro method args
    rw [Registry.encode, Registry.encode, hmethod]
  case decode =>
    intro method data
    rw [Registry.decode, Registry.decode, hmethod]
  case methodOfCall =>
    intro data
    rw [Registry.methodOfCall, Registry.methodOfCall, hget]
  case decodeLog =>
    intro topics data
    rw [Registry.decodeLog, Registry.decodeLog, hget]

theorem finds_lookupCall {r : Registry} {kept : String → Option Interface}
    (hkept : ∀ name i, (name, i) ∈ r.entries ↔ kept name = some i) (data : Bytes) :
    Finds kept data (r.lookupCall data) := by
  by_cases hlen : data.length < 4
  · rw [lookupCall_of_short r hlen]
    exact .short hlen
  · by_cases hdeclared : r.Declares (data.take 4)
    · obtain ⟨f, hcall, hs, ⟨name, i⟩, hi, hf⟩ := lookupCall_of_declares hlen hdeclared
      rw [hcall]
      exact .found (Nat.le_of_not_lt hlen) ((hkept name i).1 hi) hf hs
    · rw [lookupCall_of_not_declares hlen hdeclared]
      refine .unknown (Nat.le_of_not_lt hlen) ?_
      intro name i hi f hf hs
      exact hdeclared ⟨(name, i), (hkept name i).2 hi, f, hf, hs⟩

/-- After any calls of `register` a name shows the interface of the last call that succeeded under
it, as a registry with nothing else in it would, and a call is looked up among exactly these
interfaces. A call of `register` that fails may be left out of the history. -/
theorem run_observed (start : Registry) (history : List Registration) :
    (∀ name, SameUnder name (run start history) (only name (kept? start history name))) ∧
      (∀ name, (∀ i, kept? start history name = some i → (run start history).get name = .ok i) ∧
        (kept? start history name = none →
          (run start history).get name = .error (.notFound name))) ∧
      (∀ data, Finds (kept? start history) data ((run start history).lookupCall data)) ∧
      ∀ before c later, history = before ++ c :: later →
        (∃ i, c.interface? = some i ∧
          (run start before).register c.name c.declaration =
            .ok ((run start before).put c.name i)) ∨
        (c.interface? = none ∧
          (∃ e, (run start before).register c.name c.declaration = .error e) ∧
          run start history = run start (before ++ later)) := by
  refine ⟨?shown, ?got, ?found, ?calls⟩
  case shown =>
    intro name
    apply sameUnder_of_lookup
    rw [lookup_run, lookup_only]
  case got =>
    intro name
    rw [get, lookup_run]
    constructor
    · intro i hi
      rw [hi]
    · intro hnone
      rw [hnone]
  case found =>
    intro data
    exact finds_lookupCall (fun name i => mem_run_iff start history) data
  case calls =>
    intro before c later hhistory
    obtain ⟨i, hi, hreg⟩ | ⟨hnone, hreg⟩ := register_cases (run start before) c
    · exact .inl ⟨i, hi, hreg⟩
    · refine .inr ⟨hnone, hreg, ?_⟩
      rw [hhistory, run_of_failure hnone]

end Registry
end Tronkit
