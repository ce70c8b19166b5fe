import Tronkit.Proofs.Except
import Tronkit.Transport.Exchange

/-!
# Runs of exchanges

What is known before anything is asked sends nothing, and what is made of an answer afterwards
sends nothing more. So most exchanges come down to one question between two plain computations, and
then the reply to the question decides.
-/

namespace Tronkit.Exchange

variable {ε δ α β : Type} {net : Transport} {sent : List Request}

theorem run_ofExcept_ok_bind {r : Except ε α} {a : α} (h : r = .ok a) (f : α → Exchange ε β) :
    run (ofExcept r >>= f) net sent = run (f a) net sent := by
  rw [h]
  rfl

theorem run_ofExcept_error_bind {r : Except ε α} {e : ε} (h : r = .error e)
    (f : α → Exchange ε β) : run (ofExcept r >>= f) net sent = (.error e, sent) := by
  rw [h]
  rfl

theorem run_bind_of_ok {x : Exchange ε α} {a : α} (h : (run x net sent).1 = .ok a)
    (f : α → Exchange ε β) :
    run (x >>= f) net sent = run (f a) net (run x net sent).2 := by
  rw [run_bind]
  generalize run x net sent = p at h
  obtain ⟨r, sent'⟩ := p
  cases h
  rfl

theorem run_bind_of_error {x : Exchange ε α} {e : ε} (h : (run x net sent).1 = .error e)
    (f : α → Exchange ε β) : run (x >>= f) net sent = (.error e, (run x net sent).2) := by
  rw [run_bind]
  generalize run x net sent = p at h
  obtain ⟨r, sent'⟩ := p
  cases h
  rfl

theorem run_bind_ofExcept (x : Exchange ε α) (f : α → Except ε β) :
    run (x >>= fun a => ofExcept (f a)) net sent =
      ((run x net sent).1 >>= f, (run x net sent).2) := by
  rw [run_bind]
  obtain ⟨r, sent'⟩ := run x net sent
  cases r with
  | ok a => exact run_ofExcept (f a) net sent'
  | error e => rfl

theorem sent_bind {x : Exchange ε α} {f : α → Exchange ε β}
    (hf : ∀ a sent, (run (f a) net sent).2 = sent) :
    (run (x >>= f) net sent).2 = (run x net sent).2 := by
  rw [run_bind]
  obtain ⟨r, sent'⟩ := run x net sent
  cases r with
  | ok a => exact hf a sent'
  | error e => rfl

theorem ofOption_eq_ofExcept (e : ε) (x : Option α) :
    ofOption e x = ofExcept (x.elim (.error e) .ok) := by
  cases x with
  | none => rfl
  | some a => rfl

theorem ofExcept_bind_ofExcept (r : Except ε α) (f : α → Except ε β) :
    (ofExcept r >>= fun a => ofExcept (f a)) = ofExcept (r >>= f) := by
  cases r with
  | error e => rfl
  | ok a => exact pure_bind a _

theorem run_bind_eq_ok_iff {x : Exchange ε α} {f : α → Exchange ε β} {b : β}
    {sent' : List Request} :
    run (x >>= f) net sent = (.ok b, sent') ↔
      ∃ a between, run x net sent = (.ok a, between) ∧ run (f a) net between = (.ok b, sent') := by
  rw [run_bind]
  generalize run x net sent = p
  obtain ⟨r, between⟩ := p
  cases r with
  | error e => simp
  | ok a =>
    constructor
    · intro h
      exact ⟨a, between, rfl, h⟩
    · rintro ⟨a', between', hfirst, h⟩
      cases hfirst
      exact h

/-- A result is what one response means: the response to the only request, with a status of
success. -/
def Asks (x : Exchange ε α) (means : Bytes → α → Prop) : Prop :=
  ∀ ⦃net : Transport⦄ ⦃sent sent' : List Request⦄ ⦃a : α⦄, run x net sent = (.ok a, sent') →
    ∃ request response, sent' = sent ++ [request] ∧ net.reply sent request = .ok response ∧
      Status.isSuccess response.status ∧ means response.body a

theorem Asks.mono {x : Exchange ε α} {means means' : Bytes → α → Prop} (h : x.Asks means)
    (himp : ∀ body a, means body a → means' body a) : x.Asks means' := by
  intro net sent sent' a hrun
  obtain ⟨request, response, hsent, hreply, hstatus, ha⟩ := h hrun
  exact ⟨request, response, hsent, hreply, hstatus, himp _ _ ha⟩

theorem Asks.mapError {x : Exchange ε α} {means : Bytes → α → Prop} (h : x.Asks means)
    (f : ε → δ) : (x.mapError f).Asks means := by
  intro net sent sent' a hrun
  rw [run_mapError] at hrun
  have hout := except_mapError_eq_ok_iff.1 (congrArg Prod.fst hrun)
  have hsent : (run x net sent).2 = sent' := congrArg Prod.snd hrun
  exact h (Prod.ext hout hsent)

theorem Asks.after {r : Except ε α} {k : α → Exchange ε β} {means : Bytes → β → Prop}
    (h : ∀ a, r = .ok a → (k a).Asks means) : (ofExcept r >>= k).Asks means := by
  intro net sent sent' b hrun
  cases hr : r with
  | error e =>
    rw [run_ofExcept_error_bind hr] at hrun
    cases hrun
  | ok a =>
    rw [run_ofExcept_ok_bind hr] at hrun
    exact h a hr hrun

theorem Asks.before {x : Exchange ε α} {means : Bytes → α → Prop} (h : x.Asks means)
    (f : α → Except ε β) :
    (x >>= fun a => ofExcept (f a)).Asks fun body b => ∃ a, means body a ∧ f a = .ok b := by
  intro net sent sent' b hrun
  rw [run_bind_ofExcept] at hrun
  obtain ⟨a, hout, hf⟩ := bind_eq_ok_iff.1 (congrArg Prod.fst hrun)
  have hsent : (run x net sent).2 = sent' := congrArg Prod.snd hrun
  obtain ⟨request, response, hsent', hreply, hstatus, ha⟩ := h (Prod.ext hout hsent)
  exact ⟨request, response, hsent', hreply, hstatus, a, ha, hf⟩

/-- An error comes before any request, or one request of the given kind is sent and the reply to it
decides. -/
def Concludes (x : Exchange ε α) (kind : Request → Prop)
    (conclude : Except TransportError Response → Except ε α) : Prop :=
  ∀ net sent, (∃ e, x.run net sent = (.error e, sent)) ∨
    ∃ request, kind request ∧ x.run net sent = (conclude (net.reply sent request), sent ++ [request])

section Concludes

variable {x : Exchange ε α} {kind : Request → Prop}
  {conclude : Except TransportError Response → Except ε α}

theorem Concludes.after {r : Except ε β} {k : β → Exchange ε α}
    (h : ∀ b, r = .ok b → (k b).Concludes kind conclude) :
    (ofExcept r >>= k).Concludes kind conclude := by
  intro net sent
  cases hr : r with
  | error e => exact .inl ⟨e, run_ofExcept_error_bind rfl k⟩
  | ok b =>
    rw [run_ofExcept_ok_bind rfl]
    exact h b hr net sent

theorem Concludes.before (h : x.Concludes kind conclude) (f : α → Except ε β) :
    (x >>= fun a => ofExcept (f a)).Concludes kind fun reply => conclude reply >>= f := by
  intro net sent
  rw [run_bind_ofExcept]
  rcases h net sent with ⟨e, hrun⟩ | ⟨request, hkind, hrun⟩
  · rw [hrun]
    exact .inl ⟨e, rfl⟩
  · rw [hrun]
    exact .inr ⟨request, hkind, rfl⟩

theorem Concludes.mapError (h : x.Concludes kind conclude) (f : ε → δ) :
    (x.mapError f).Concludes kind fun reply => (conclude reply).mapError f := by
  intro net sent
  rw [run_mapError]
  rcases h net sent with ⟨e, hrun⟩ | ⟨request, hkind, hrun⟩
  · rw [hrun]
    exact .inl ⟨f e, rfl⟩
  · rw [hrun]
    exact .inr ⟨request, hkind, rfl⟩

theorem Concludes.outcome (h : x.Concludes kind conclude) {request : Request}
    (hsent : (x.run net sent).2 = sent ++ [request]) :
    kind request ∧ (x.run net sent).1 = conclude (net.reply sent request) := by
  rcases h net sent with ⟨e, hrun⟩ | ⟨request', hkind, hrun⟩
  · rw [hrun] at hsent
    simp at hsent
  · rw [hrun, List.append_cancel_left_eq, List.singleton_inj] at hsent
    rw [hrun, ← hsent]
    exact ⟨hkind, rfl⟩

end Concludes

/-! ## Two exchanges with one network -/

def Agree (R : ε → ε → Prop) (x y : Exchange ε α) : Prop :=
  ∀ net sent, (run x net sent).2 = (run y net sent).2 ∧
    Tronkit.Agree R (run x net sent).1 (run y net sent).1

section Agree

variable {R : ε → ε → Prop} {x y : Exchange ε α}

theorem Agree.refl (hR : ∀ e, R e e) (x : Exchange ε α) : x.Agree R x :=
  fun _ _ => ⟨rfl, .refl hR _⟩

theorem agree_ofExcept {r r' : Except ε α} (h : Tronkit.Agree R r r') :
    (ofExcept r).Agree R (ofExcept r') := by
  intro net sent
  rw [run_ofExcept, run_ofExcept]
  exact ⟨rfl, h⟩

/-- Where the first parts agree, the network is asked for the second ones in the same state. -/
theorem Agree.bind (h : x.Agree R y) {f g : α → Exchange ε β} (hfg : ∀ a, (f a).Agree R (g a)) :
    (x >>= f).Agree R (y >>= g) := by
  intro net sent
  obtain ⟨hsent, hout⟩ := h net sent
  generalize hx : (run x net sent).1 = r at hout
  generalize hy : (run y net sent).1 = r' at hout
  cases hout with
  | ok a =>
    rw [run_bind_of_ok hx, run_bind_of_ok hy, ← hsent]
    exact hfg a net _
  | error he =>
    rw [run_bind_of_error hx, run_bind_of_error hy, ← hsent]
    exact ⟨rfl, .error he⟩

end Agree

end Tronkit.Exchange
