import Mathlib.Tactic.Choose
import Tronkit.Proofs.Node.Wallet

/-!
# Inquiries

A call to a node is one request, and its answer alone decides what comes of it. An error that is
made of an answer tells the answer: a failure its code and message, a rejection all of the body.
-/

namespace Tronkit.Node

open Json

def Rpc.Fails (body : Bytes) (code : Int) (message : String) : Prop :=
  ∃ v version error id data, Json.parse Json.Reader.tree body = .ok v ∧
    Rpc.fields? ["jsonrpc", "error", "id"] v = some [version, some error, id] ∧
    Rpc.fields? ["code", "message", "data"] error =
      some [some (.integer code), some (.string message), data]

inductive OfAnswer (body : Bytes) : NodeError → Prop
  | unreadable (reason : String) : OfAnswer body (.invalidResponse reason)
  | failure {code : Int} {message : String} (h : Rpc.Fails body code message) :
    OfAnswer body (.rpc code message)
  | rejection : OfAnswer body (.ofBody body)

def IsInquiry {α : Type} (x : Exchange NodeError α) : Prop :=
  ∃ what request, ∃ read : Bytes → Except NodeError α,
    (∀ net sent, x.run net sent =
      (bodyOf what (net.reply sent request) >>= read, sent ++ [request])) ∧
    ∀ body e, read body = .error e → OfAnswer body e

variable {α β : Type}

theorem isInquiry_ask (what : String) (r : Request) {f : Bytes → Except NodeError α}
    (hf : ∀ body e, f body = .error e → OfAnswer body e) :
    IsInquiry (ask what r >>= fun body => .ofExcept (f body)) := by
  refine ⟨what, r, f, fun net sent => ?_, hf⟩
  rw [Exchange.run_bind_ofExcept, run_ask]

theorem IsInquiry.after {x : Exchange NodeError α} (h : IsInquiry x)
    {f : α → Exchange NodeError β}
    (hf : ∀ a, ∃ r, f a = .ofExcept r ∧ ∀ e, r = .error e → ∃ reason, e = .invalidResponse reason) :
    IsInquiry (x >>= f) := by
  obtain ⟨what, request, read, hrun, hread⟩ := h
  choose r hr hfails using hf
  have hfun : f = fun a => .ofExcept (r a) := funext hr
  refine ⟨what, request, fun body => read body >>= r, fun net sent => ?_, ?_⟩
  · rw [hfun, Exchange.run_bind_ofExcept, hrun]
    cases bodyOf what (net.reply sent request) <;> rfl
  · intro body e he
    rcases bind_eq_error_iff.1 he with hbody | ⟨a, -, ha⟩
    · exact hread body e hbody
    · obtain ⟨reason, rfl⟩ := hfails a e ha
      exact .unreadable reason

/-! ## JSON-RPC -/

namespace Rpc

theorem result?_ne_failure (v : Json) (code : Int) (message : String) :
    result? v ≠ some (.failure code message) := by
  unfold result?
  split
  · split
    · rename_i value _ _ _
      cases value.plain? <;> simp
    · simp
  · simp

theorem fails_of_reply? {body : Bytes} {v : Json} {code : Int} {message : String}
    (hparse : Json.parse Json.Reader.tree body = .ok v)
    (h : reply? v = some (.failure code message)) : Fails body code message := by
  rw [reply?, Option.or_eq_some_iff] at h
  rcases h with h | ⟨-, h⟩
  · exact absurd h (result?_ne_failure v code message)
  unfold failure? at h
  split at h
  · rename_i version error id hfields
    split at h
    · unfold errorObject? at h
      split at h
      · rename_i code' message' data herror
        split at h
        · cases h
          exact ⟨v, version, error, id, data, hparse, hfields, herror⟩
        · cases h
      · cases h
    · cases h
  · cases h

theorem ofAnswer_of_readResult {body : Bytes} {e : NodeError} (h : readResult body = .error e) :
    OfAnswer body e := by
  unfold readResult at h
  split at h
  · cases h
    exact .unreadable _
  · rename_i v hparse
    split at h
    · cases h
    · rename_i code message hreply
      cases h
      exact .failure (fails_of_reply? hparse hreply)
    · split at h
      · cases h
        exact .unreadable _
      · cases h
        exact .unreadable _
    · cases h
      exact .unreadable _

theorem isInquiry_call (method : String) (params : List Json) : IsInquiry (call method params) :=
  isInquiry_ask _ _ fun _ _ => ofAnswer_of_readResult

theorem isInquiry_callText (method : String) (params : List Json) :
    IsInquiry (callText method params) := by
  refine (isInquiry_call method params).after fun v => ?_
  split
  · exact ⟨.ok _, rfl, fun e he => nomatch he⟩
  · exact ⟨.error _, rfl, fun e he => ⟨_, (Except.error.inj he).symm⟩⟩

theorem isInquiry_callAs (read : String → Except NumberError α) (method : String)
    (params : List Json) : IsInquiry (callAs read method params) := by
  refine (isInquiry_callText method params).after fun s => ⟨_, rfl, fun e he => ?_⟩
  obtain ⟨fault, -, rfl⟩ := except_mapError_eq_error_iff.1 he
  exact ⟨_, rfl⟩

def IsCall (method : String) (request : Request) : Prop :=
  ∃ body, request = .call method body

def textOf (method : String) : Json → Except NodeError String
  | .string s => .ok s
  | v => .error (.invalidResponse (method ++ ": expected a hex string, got " ++ v.text))

def resultText (method : String) (reply : Except TransportError Response) :
    Except NodeError String :=
  bodyOf method reply >>= readResult >>= textOf method

theorem run_callText (method : String) (params : List Json) (net : Transport)
    (sent : List Request) :
    let request : Request := .call method (callJson method params).bytes
    (callText method params).run net sent =
      (resultText method (net.reply sent request), sent ++ [request]) := by
  have htext : callText method params =
      call method params >>= fun v => .ofExcept (textOf method v) := by
    refine congrArg (call method params >>= ·) (funext fun v => ?_)
    cases v <;> rfl
  rw [htext, Exchange.run_bind_ofExcept, call, Exchange.run_bind_ofExcept, run_ask]
  rfl

theorem run_callAs (read : String → Except NumberError α) (method : String) (params : List Json)
    (net : Transport) (sent : List Request) :
    let request : Request := .call method (callJson method params).bytes
    (callAs read method params).run net sent =
      (resultText method (net.reply sent request) >>= fun s =>
        (read s).mapError fun fault => .invalidResponse (method ++ ": " ++ fault.message),
        sent ++ [request]) := by
  rw [callAs, Exchange.run_bind_ofExcept, run_callText]

theorem concludes_callAs (read : String → Except NumberError α) (method : String)
    (params : List Json) :
    (callAs read method params).Concludes (IsCall method) fun reply =>
      resultText method reply >>= fun s =>
        (read s).mapError fun fault => .invalidResponse (method ++ ": " ++ fault.message) :=
  fun net sent => .inr ⟨_, ⟨_, rfl⟩, run_callAs read method params net sent⟩

theorem isInquiry_known (method : String) (params : List Json) :
    IsInquiry (do pure (known (← call method params))) :=
  (isInquiry_call method params).after fun _ => ⟨.ok _, rfl, fun _ he => nomatch he⟩

end Rpc

/-! ## The wallet interface -/

theorem ofAnswer_of_readBody {what : String} {r : Reader α} {body : Bytes} {e : NodeError}
    (h : readBody what r body = .error e) : OfAnswer body e := by
  obtain ⟨fault, -, rfl⟩ := except_mapError_eq_error_iff.1 h
  exact .unreadable _

namespace Wallet

theorem ofAnswer_of_accept {what : String} {r : Reader α} {wanted : α → Option β} {body : Bytes}
    {e : NodeError} (h : accept what r wanted body = .error e) : OfAnswer body e := by
  rcases bind_eq_error_iff.1 h with hread | ⟨a, -, hwanted⟩
  · exact ofAnswer_of_readBody hread
  · split at hwanted
    · cases hwanted
    · cases hwanted
      exact .rejection

theorem isInquiry_accept (what path : String) (r : Request) (reader : Reader α)
    (wanted : α → Option β) :
    IsInquiry (ask path r >>= fun body => .ofExcept (accept what reader wanted body)) :=
  isInquiry_ask _ _ fun _ _ => ofAnswer_of_accept

theorem isInquiry_draft (path : String) (body : List Char) : IsInquiry (draft path body) :=
  isInquiry_accept _ _ _ _ _

theorem isInquiry_readBody (what path : String) (r : Request) (reader : Reader α) :
    IsInquiry (ask path r >>= fun body => .ofExcept (readBody what reader body)) :=
  isInquiry_ask _ _ fun _ _ => ofAnswer_of_readBody

theorem isInquiry_accountResource (address : String) : IsInquiry (accountResource address) := by
  refine isInquiry_ask _ _ fun body e he => ?_
  exact ofAnswer_of_readBody (except_map_eq_error_iff.1 he)

end Wallet
end Tronkit.Node
