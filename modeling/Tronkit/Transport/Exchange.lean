import Tronkit.Transport.Basic

/-!
# Exchanges with a network

An exchange sends requests and ends in a value or an error. The network is a function: it may
answer by the request and by all requests before it. An exchange keeps the requests that it has
sent, so `run` tells both its outcome and what was asked of the network.
-/

namespace Tronkit

structure Transport where
  reply : (earlier : List Request) → Request → Except TransportError Response

def Exchange (ε α : Type) : Type := Transport → List Request → Except ε α × List Request

namespace Exchange

variable {ε δ α β : Type}

def run (x : Exchange ε α) (net : Transport) (sent : List Request) : Except ε α × List Request :=
  x net sent

def fail (e : ε) : Exchange ε α := fun _ sent => (.error e, sent)

instance : Monad (Exchange ε) where
  pure a := fun _ sent => (.ok a, sent)
  bind x f := fun net sent =>
    match x net sent with
    | (.ok a, sent) => f a net sent
    | (.error e, sent) => (.error e, sent)

def ofExcept : Except ε α → Exchange ε α
  | .ok a => pure a
  | .error e => fail e

def ofOption (e : ε) : Option α → Exchange ε α
  | some a => pure a
  | none => fail e

def mapError (f : ε → δ) (x : Exchange ε α) : Exchange δ α := fun net sent =>
  let (r, sent) := x net sent
  (r.mapError f, sent)

def send (r : Request) : Exchange TransportError Response := fun net sent =>
  (net.reply sent r, sent ++ [r])

@[simp] theorem mapError_ok (f : ε → δ) (a : α) : (Except.ok a : Except ε α).mapError f = .ok a :=
  rfl

@[simp] theorem mapError_error (f : ε → δ) (e : ε) :
    (Except.error e : Except ε α).mapError f = .error (f e) := rfl

@[simp] theorem run_pure (a : α) (net : Transport) (sent : List Request) :
    run (pure a : Exchange ε α) net sent = (.ok a, sent) := rfl

@[simp] theorem run_fail (e : ε) (net : Transport) (sent : List Request) :
    run (fail e : Exchange ε α) net sent = (.error e, sent) := rfl

theorem run_bind (x : Exchange ε α) (f : α → Exchange ε β) (net : Transport) (sent : List Request) :
    run (x >>= f) net sent =
      match run x net sent with
      | (.ok a, sent) => run (f a) net sent
      | (.error e, sent) => (.error e, sent) := rfl

@[simp] theorem run_send (r : Request) (net : Transport) (sent : List Request) :
    run (send r) net sent = (net.reply sent r, sent ++ [r]) := rfl

@[simp] theorem run_mapError (f : ε → δ) (x : Exchange ε α) (net : Transport)
    (sent : List Request) :
    run (mapError f x) net sent = ((run x net sent).1.mapError f, (run x net sent).2) := rfl

@[simp] theorem run_ofExcept (r : Except ε α) (net : Transport) (sent : List Request) :
    run (ofExcept r) net sent = (r, sent) := by
  cases r <;> rfl

@[ext] theorem ext {x y : Exchange ε α} (h : ∀ net sent, run x net sent = run y net sent) : x = y :=
  funext fun net => funext fun sent => h net sent

instance : LawfulMonad (Exchange ε) := LawfulMonad.mk' _
  (fun x => by
    apply ext
    intro net sent
    show (match run x net sent with | (.ok a, sent) => _ | (.error e, sent) => _) = _
    cases run x net sent with
    | mk r sent => cases r <;> rfl)
  (fun _ _ => rfl)
  (fun x f g => by
    apply ext
    intro net sent
    simp only [run_bind]
    cases run x net sent with
    | mk r sent => cases r <;> rfl)

end Exchange

/-- Answers that are laid up for requests: each is given once, in order, to a request of its
service and topic. -/
structure Script where
  answers : List (Service × String × Except TransportError Response)

namespace Script

def isFor (r : Request) (a : Service × String × Except TransportError Response) : Bool :=
  a.1 = r.service && a.2.1 = r.topic

def isLike (r s : Request) : Bool := s.service = r.service && s.topic = r.topic

def unexpected (r : Request) : TransportError :=
  .transport (r.service.name ++ "/" ++ r.topic) "no response expected"

def transport (s : Script) : Transport where
  reply earlier r :=
    match (s.answers.filter (isFor r))[earlier.countP (isLike r)]? with
    | some a => a.2.2
    | none => .error (unexpected r)

end Script
end Tronkit
