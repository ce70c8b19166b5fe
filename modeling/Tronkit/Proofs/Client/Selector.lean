import Tronkit.Proofs.Abi.Call
import Tronkit.Proofs.Client.Trigger

/-!
# Signatures of calls

Data is resolved to the signature of the method that it calls. Both searches, among all interfaces
and in one of them, are bound by one law: too little data is refused with its length, a signature
is one of those that are declared and has the first four bytes for its selector, and a selector is
unknown only if nothing that is declared has it. The law leaves the order of the search open, up to
signatures of one selector. What a method of the registry encodes is resolved, so a transaction
that calls it is never refused for its data.
-/

namespace Tronkit

def selectorOf (signature : String) : Bytes := (Keccak.digest (textBytes signature)).take 4

structure Resolves (declared : AbiFunction → Prop) (data : Bytes)
    (outcome : Except AbiError String) : Prop where
  short : ∀ size, outcome = .error (.dataTooShort size) ↔ data.length < 4 ∧ size = data.length
  unknown : ∀ text, outcome = .error (.unknownSelector text) ↔
    4 ≤ data.length ∧ (∀ f, declared f → selectorOf f.signature ≠ data.take 4) ∧
      text = Hex.text (data.take 4)
  sound : ∀ signature, outcome = .ok signature →
    4 ≤ data.length ∧ selectorOf signature = data.take 4 ∧
      ∃ f, declared f ∧ f.signature = signature
  failure : ∀ e, outcome = .error e →
    e = .dataTooShort data.length ∨ e = .unknownSelector (Hex.text (data.take 4))

inductive Interchangeable : Except AbiError String → Except AbiError String → Prop
  | error (e : AbiError) : Interchangeable (.error e) (.error e)
  | ok {s t : String} (h : selectorOf s = selectorOf t) : Interchangeable (.ok s) (.ok t)

namespace Resolves

variable {declared : AbiFunction → Prop} {data : Bytes} {x y : Except AbiError String}

theorem of_short (h : data.length < 4) :
    Resolves declared data (.error (.dataTooShort data.length)) where
  short size := by simp [h, eq_comm]
  unknown text := by simp [Nat.not_le_of_lt h]
  sound := nofun
  failure e he := by
    cases he
    exact .inl rfl

theorem of_unknown (hlen : 4 ≤ data.length)
    (h : ∀ f, declared f → selectorOf f.signature ≠ data.take 4) :
    Resolves declared data (.error (.unknownSelector (Hex.text (data.take 4)))) where
  short size := by simp [Nat.not_lt_of_le hlen]
  unknown text := by
    constructor
    · intro he
      cases he
      exact ⟨hlen, h, rfl⟩
    · rintro ⟨-, -, rfl⟩
      rfl
  sound := nofun
  failure e he := by
    cases he
    exact .inr rfl

theorem of_found (hlen : 4 ≤ data.length) {f : AbiFunction} (hf : declared f)
    (hs : selectorOf f.signature = data.take 4) : Resolves declared data (.ok f.signature) where
  short size := by simp [Nat.not_lt_of_le hlen]
  unknown text := by
    constructor
    · nofun
    · rintro ⟨-, hnot, -⟩
      exact absurd hs (hnot f hf)
  sound signature h := by
    cases h
    exact ⟨hlen, hs, f, hf, rfl⟩
  failure := nofun

theorem error_of_error (hx : Resolves declared data x) (hy : Resolves declared data y)
    {e : AbiError} (he : x = .error e) : y = .error e := by
  rcases hx.failure e he with rfl | rfl
  · exact (hy.short _).2 ((hx.short _).1 he)
  · exact (hy.unknown _).2 ((hx.unknown _).1 he)

theorem interchangeable (hx : Resolves declared data x) (hy : Resolves declared data y) :
    Interchangeable x y := by
  cases hs : x with
  | error e =>
    rw [hx.error_of_error hy hs]
    exact .error e
  | ok s =>
    cases ht : y with
    | error e =>
      rw [hy.error_of_error hx ht] at hs
      cases hs
    | ok t =>
      obtain ⟨-, hselector, -⟩ := hx.sound s hs
      obtain ⟨-, hselector', -⟩ := hy.sound t ht
      exact .ok (hselector.trans hselector'.symm)

theorem of_declared (hx : Resolves declared data x) {f : AbiFunction} (hf : declared f)
    (hlen : 4 ≤ data.length) (hs : selectorOf f.signature = data.take 4) :
    ∃ signature, x = .ok signature := by
  cases hout : x with
  | ok s => exact ⟨s, rfl⟩
  | error e =>
    rcases hx.failure e hout with rfl | rfl
    · have hshort := ((hx.short _).1 hout).1
      omega
    · obtain ⟨-, hnone, -⟩ := (hx.unknown _).1 hout
      exact absurd hs (hnone f hf)

end Resolves

/-! ## The searches -/

namespace Registry

def HasFunction (r : Registry) (f : AbiFunction) : Prop := ∃ e ∈ r.entries, f ∈ e.2.functions

theorem resolves_search {declared : AbiFunction → Prop} (found : Bytes → Option AbiFunction)
    (hsome : ∀ s f, found s = some f → declared f ∧ f.selector = s)
    (hnone : ∀ s, found s = none → ∀ f, declared f → f.selector ≠ s) (data : Bytes) :
    Resolves declared data
      ((splitSelector data >>= fun s => selected s (found s)).map AbiFunction.signature) := by
  by_cases hlen : data.length < 4
  · rw [splitSelector, if_pos hlen]
    exact .of_short hlen
  · rw [splitSelector, if_neg hlen, ok_bind]
    have hlong : 4 ≤ data.length := Nat.le_of_not_lt hlen
    cases hfound : found (data.take 4) with
    | none => exact .of_unknown hlong (hnone _ hfound)
    | some f =>
      obtain ⟨hf, hs⟩ := hsome _ f hfound
      exact .of_found hlong hf hs

theorem resolves_lookupCall (r : Registry) (data : Bytes) :
    Resolves r.HasFunction data ((r.lookupCall data).map AbiFunction.signature) := by
  apply resolves_search fun s => r.entries.findSome? fun e => e.2.bySelector? s
  · intro s f hfound
    obtain ⟨e, he, hf⟩ := List.exists_of_findSome?_eq_some hfound
    obtain ⟨hmem, hs⟩ := Interface.bySelector?_eq_some hf
    exact ⟨⟨e, he, hmem⟩, hs⟩
  · rintro s hfound f ⟨e, he, hmem⟩
    exact Interface.bySelector?_eq_none (List.findSome?_eq_none_iff.1 hfound e he) f hmem

theorem resolves_methodOfCall {r : Registry} {name : String} {i : Interface}
    (h : r.get name = .ok i) (data : Bytes) :
    Resolves (· ∈ i.functions) data ((r.methodOfCall name data).map AbiFunction.signature) := by
  rw [methodOfCall, h, ok_bind]
  apply resolves_search i.bySelector?
  · intro s f hfound
    exact Interface.bySelector?_eq_some hfound
  · intro s hfound
    exact Interface.bySelector?_eq_none hfound

theorem interchangeable_of_perm {r r' : Registry} (h : r'.entries.Perm r.entries) (data : Bytes) :
    Interchangeable ((r'.lookupCall data).map AbiFunction.signature)
      ((r.lookupCall data).map AbiFunction.signature) := by
  have hsame : r'.HasFunction = r.HasFunction := by
    -- The law speaks of membership alone, which no order changes.
    funext f
    simp only [HasFunction, h.mem_iff]
  have hother := resolves_lookupCall r' data
  rw [hsame] at hother
  exact hother.interchangeable (resolves_lookupCall r data)

theorem selector_of_encode {r : Registry} {method name : String} {args : List AbiArgument}
    {data : Bytes} (h : r.encode method name args = .ok data) :
    ∃ i f, r.get name = .ok i ∧ f ∈ i.functions ∧ 4 ≤ data.length ∧
      selectorOf f.signature = data.take 4 := by
  obtain ⟨f, hmethod, -⟩ := bind_eq_ok_iff.1 h
  obtain ⟨-, ts, -, rfl⟩ := (encode_eq_ok_iff hmethod).1 h
  obtain ⟨i, hget, hf⟩ := bind_eq_ok_iff.1 hmethod
  have hmem : f ∈ i.functions := by
    cases hfind : i.function? method with
    | none =>
      rw [hfind] at hf
      cases hf
    | some f' =>
      rw [hfind] at hf
      cases hf
      exact List.mem_of_find?_eq_some hfind
  refine ⟨i, f, hget, hmem, ?_, (List.take_left' f.length_selector).symm⟩
  rw [List.length_append, f.length_selector]
  omega

end Registry

/-! ## Transactions -/

inductive ClientError.IsUnresolved : ClientError → Prop
  | dataTooShort (size : Nat) : IsUnresolved (.dataTooShort size)
  | unknownSelector (selector : String) : IsUnresolved (.unknownSelector selector)

namespace Client

theorem not_isUnresolved_ofNode (e : NodeError) : ¬(ClientError.ofNode e).IsUnresolved := by
  intro h
  cases e <;> cases h

theorem not_isUnresolved_sealDraft {d : Node.Draft} {e : ClientError}
    (hseal : sealDraft d = .error e) : ¬e.IsUnresolved := by
  intro h
  have hread := except_map_eq_error_iff.1 hseal
  unfold readHash at hread
  split at hread
  · cases hread
    cases h
  · split at hread
    · cases hread
    · cases hread
      cases h

/-- Once the method is found, only the accounts, the node and its answer can be at fault. -/
theorem not_isUnresolved_build {c : Client} {tx : Transaction} {f : AbiFunction}
    (hlookup : c.registry.lookupCall tx.data = .ok f) {net : Transport} {sent : List Request}
    {e : ClientError} (hrun : ((c.build tx).run net sent).1 = .error e) : ¬e.IsUnresolved := by
  have hdata : tx.data ≠ [] := by
    intro hnil
    rw [hnil, Registry.lookupCall_of_short _ (by decide)] at hlookup
    cases hlookup
  rw [run_build, draft, if_neg hdata] at hrun
  obtain hdraft | ⟨d, -, hseal⟩ := bind_eq_error_iff.1 hrun
  · by_cases haccounts : (∃ a, IsAccount tx.sender a) ∧ ∃ a, IsAccount tx.recipient a
    · obtain ⟨⟨owner, howner⟩, contract, hcontract⟩ := haccounts
      rw [Exchange.run_ofExcept_ok_bind (triggerRequest_of_accounts hlookup howner hcontract),
        ofNode, Exchange.run_mapError] at hdraft
      obtain ⟨fault, -, rfl⟩ := except_mapError_eq_error_iff.1 hdraft
      exact not_isUnresolved_ofNode fault
    · obtain ⟨reason, hrequest⟩ := triggerRequest_of_not_account hlookup haccounts
      rw [Exchange.run_ofExcept_error_bind hrequest] at hdraft
      cases hdraft
      intro h
      cases h
  · exact not_isUnresolved_sealDraft hseal

/-- Data is resolved among all interfaces and within one by the same law, in whatever order the
interfaces are gone through. What a registry encodes it also resolves, and no transaction with that
data fails for want of a method. -/
theorem calls_resolved (r : Registry) :
    (∀ data, Resolves r.HasFunction data ((r.lookupCall data).map AbiFunction.signature)) ∧
      (∀ r' : Registry, r'.entries.Perm r.entries → ∀ data,
        Interchangeable ((r'.lookupCall data).map AbiFunction.signature)
          ((r.lookupCall data).map AbiFunction.signature)) ∧
      (∀ name i, r.get name = .ok i → ∀ data,
        Resolves (· ∈ i.functions) data ((r.methodOfCall name data).map AbiFunction.signature)) ∧
      ∀ method name args data, r.encode method name args = .ok data →
        (∃ signature, (r.lookupCall data).map AbiFunction.signature = .ok signature) ∧
          (∃ signature, (r.methodOfCall name data).map AbiFunction.signature = .ok signature) ∧
          ∀ chainId tx, tx.data = data → ∀ net sent e,
            ((build ⟨r, chainId⟩ tx).run net sent).1 = .error e → ¬e.IsUnresolved := by
  refine ⟨?among_all, ?any_order, ?within_one, ?encoded⟩
  case among_all => exact r.resolves_lookupCall
  case any_order => exact fun r' hperm => Registry.interchangeable_of_perm hperm
  case within_one => exact fun name i hget => Registry.resolves_methodOfCall hget
  case encoded =>
    intro method name args data henc
    obtain ⟨i, f, hget, hf, hlen, hs⟩ := Registry.selector_of_encode henc
    have hhas : r.HasFunction f := ⟨(name, i), Registry.get_eq_ok_iff.1 hget, hf⟩
    have hall := (r.resolves_lookupCall data).of_declared hhas hlen hs
    refine ⟨hall, (Registry.resolves_methodOfCall hget data).of_declared hf hlen hs, ?_⟩
    rintro chainId tx rfl net sent e he
    obtain ⟨signature, hsignature⟩ := hall
    obtain ⟨g, hlookup, -⟩ := except_map_eq_ok_iff.1 hsignature
    exact not_isUnresolved_build hlookup he

theorem calls_resolved_of_echo :
    let r := Registry.empty.put "Echo" ⟨[Registry.echo], []⟩
    let data := Registry.echo.selector ++ AbiToken.encode [.string "ab", .int 127]
    r.encode "echo" "Echo" [.string "ab", .uint 127] = .ok data ∧
      (r.lookupCall data).map AbiFunction.signature = .ok "echo(string,int8)" := by
  intro r data
  obtain ⟨hall, -, -, hencoded⟩ := calls_resolved r
  obtain ⟨⟨signature, hout⟩, -, -⟩ := hencoded "echo" "Echo" _ data Registry.encode_echo
  obtain ⟨-, -, f, ⟨e, he, hf⟩, rfl⟩ := (hall data).sound signature hout
  obtain rfl : e = ("Echo", ⟨[Registry.echo], []⟩) := List.mem_singleton.1 he
  obtain rfl : f = Registry.echo := List.mem_singleton.1 hf
  exact ⟨Registry.encode_echo, hout⟩

end Client
end Tronkit
