import Tronkit.Client.Token
import Tronkit.Proofs.Client.Account

/-!
# Kinds of failures

What is found out without the network is a fault of the input or of the data, and what is made of
an answer is a fault of the answer or of the data. So the kind of an error tells whether it came
before the requests or after them.
-/

namespace Tronkit

def FailsWith {α : Type} (kinds : List ErrorKind) (r : Except ClientError α) : Prop :=
  ∀ e, r = .error e → e.kind ∈ kinds

namespace FailsWith

variable {α β : Type} {kinds kinds' : List ErrorKind}

theorem ok (a : α) : FailsWith kinds (.ok a) := fun _ he => nomatch he

theorem error {e : ClientError} (h : e.kind ∈ kinds) :
    FailsWith kinds (.error e : Except ClientError α) := by
  intro e' he
  cases he
  exact h

theorem mono {r : Except ClientError α} (h : FailsWith kinds r) (hsub : kinds ⊆ kinds') :
    FailsWith kinds' r := fun e he => hsub (h e he)

theorem kind_ne {r : Except ClientError α} (h : FailsWith kinds r) {kind : ErrorKind}
    (hkind : kind ∉ kinds) : ∀ e, r = .error e → e.kind ≠ kind := by
  rintro e he rfl
  exact hkind (h e he)

theorem map {r : Except ClientError α} (h : FailsWith kinds r) (f : α → β) :
    FailsWith kinds (r.map f) := fun e he => h e (except_map_eq_error_iff.1 he)

theorem bind {r : Except ClientError α} (h : FailsWith kinds r) {f : α → Except ClientError β}
    (hf : ∀ a, r = .ok a → FailsWith kinds (f a)) : FailsWith kinds (r >>= f) := by
  intro e he
  rcases bind_eq_error_iff.1 he with he | ⟨a, ha, he⟩
  · exact h e he
  · exact hf a ha e he

theorem mapError {ε : Type} {f : ε → ClientError} (hf : ∀ e, (f e).kind ∈ kinds)
    (r : Except ε α) : FailsWith kinds (r.mapError f) := by
  intro e he
  obtain ⟨e', -, rfl⟩ := except_mapError_eq_error_iff.1 he
  exact hf e'

end FailsWith

namespace Client

def checks : List ErrorKind := [.invalidInput, .decode]

def findings : List ErrorKind := [.transport, .decode]

theorem kind_ofAbi (e : AbiError) : (ClientError.ofAbi e).kind ∈ checks := by
  cases e <;> simp [ClientError.ofAbi, ClientError.kind, checks]

theorem failsWith_ofAbi {α : Type} (r : Except AbiError α) :
    FailsWith checks (r.mapError .ofAbi) := .mapError kind_ofAbi r

theorem failsWith_ofNumber {α : Type} (r : Except NumberError α) :
    FailsWith findings (r.mapError .ofNumber) :=
  .mapError (f := ClientError.ofNumber) (fun _ => .head _) r

/-! ## Before the requests -/

section Checks

theorem failsWith_readAddress (s : String) : FailsWith checks (readAddress s) :=
  .mapError (f := ClientError.ofAddress) (fun _ => .head _) _

theorem failsWith_readAccount (s : String) : FailsWith checks (readAccount s) := by
  intro e he
  unfold readAccount at he
  split at he
  · rename_i e' hread
    cases he
    exact failsWith_readAddress s e hread
  · split at he
    · cases he
      exact .head _
    · cases he

theorem failsWith_positive (amount : Int) : FailsWith checks (positive amount) := by
  unfold positive
  split
  · exact .ok _
  · exact .error (.head _)

theorem failsWith_transferRequest (tx : Transaction) :
    FailsWith checks (transferRequest tx) := by
  unfold transferRequest
  split
  · exact .error (.head _)
  · refine (failsWith_positive _).bind fun amount _ => ?_
    refine (failsWith_readAccount _).bind fun owner _ => ?_
    exact (failsWith_readAccount _).bind fun recipient _ => .ok _

theorem failsWith_triggerRequest (c : Client) (tx : Transaction) :
    FailsWith checks (c.triggerRequest tx) := by
  refine (failsWith_ofAbi _).bind fun f _ => ?_
  refine (failsWith_readAccount _).bind fun owner _ => ?_
  exact (failsWith_readAccount _).bind fun contract _ => .ok _

theorem failsWith_delegateRequest (owner receiver : String) (resource : Resource) (amount : Nat) :
    FailsWith checks (delegateRequest owner receiver resource amount) :=
  (failsWith_readAccount _).bind fun _ _ => (failsWith_readAccount _).bind fun _ _ => .ok _

theorem failsWith_estimateRequest (tx : Transaction) :
    FailsWith checks (estimateRequest tx) := by
  refine (failsWith_readAddress _).bind fun sender _ => ?_
  refine (failsWith_readAddress _).bind fun recipient _ => ?_
  split
  · exact .ok _
  · exact .error (.head _)

theorem failsWith_dryRun (tx : Transaction) : FailsWith checks (dryRun tx) := by
  refine (failsWith_readAddress _).bind fun recipient _ => ?_
  split
  · exact .ok _
  · exact .error (.head _)

theorem failsWith_readEnvelope (envelope : Bytes) : FailsWith checks (readEnvelope envelope) := by
  intro e he
  obtain ⟨fault, -, rfl⟩ := except_mapError_eq_error_iff.1 he
  exact .head _

end Checks

/-! ## After the requests -/

section Findings

theorem failsWith_readHash (txId : String) : FailsWith [.decode] (readHash txId) := by
  unfold readHash
  split
  · exact .error (.head _)
  · split
    · exact .ok _
    · exact .error (.head _)

theorem failsWith_sealDraft (d : Node.Draft) : FailsWith findings (sealDraft d) :=
  ((failsWith_readHash d.txId).map _).mono (by decide)

/-- A method whose arguments could be encoded is known, so only its results can be at fault. -/
theorem failsWith_decode {c : Client} {method name : String} {args : List AbiArgument}
    {data : Bytes} (h : c.encode method name args = .ok data) (result : Bytes) :
    FailsWith findings (c.decode method name result) := by
  obtain ⟨f, hmethod, -⟩ := bind_eq_ok_iff.1 (except_mapError_eq_ok_iff.1 h)
  intro e he
  obtain ⟨e', he', rfl⟩ := except_mapError_eq_error_iff.1 he
  rw [Registry.decode, hmethod, ok_bind] at he'
  rcases bind_eq_error_iff.1 he' with he' | ⟨ts, -, hts⟩
  · obtain ⟨fault, -, rfl⟩ := except_mapError_eq_error_iff.1 he'
    exact .tail _ (.head _)
  · cases hts

end Findings

end Client
end Tronkit
