import Tronkit.Client.Basic
import Tronkit.Proofs.Except
import Mathlib.Control.Monad.Basic

/-!
# Configurations and the clients that are made of them

A configuration is checked before a client is made of it, and where the check refuses one there is no
client, for the same reason. What the check passes makes a client, but for a key that no header can
hold: the check only looks for a key without any characters, which a header could hold.
-/

namespace Tronkit

variable {H : Type} {library : Library H} {conf : Configuration} {endpoints : Endpoints}
  {e : ClientError}

def Library.Opens (library : Library H) : Prop :=
  ∀ timeout headers, (∀ header ∈ headers, Gateway.isHeaderValue header.2 = true) →
    ∃ opened, library timeout headers = .ok opened

namespace Configuration

theorem validate_of_readEndpoints (h : conf.readEndpoints = .ok endpoints) :
    conf.validate =
      if conf.timeoutSecs = some 0 then .error (.invalidConfig "timeout_secs must be positive")
      else if conf.apiKey = some "" then .error (.invalidConfig "api_key must not be empty")
      else .ok () := by
  rw [validate, h, ok_bind]
  rfl

theorem exists_endpoints_of_validate (h : conf.validate = .ok ()) :
    ∃ endpoints, conf.readEndpoints = .ok endpoints := by
  obtain ⟨endpoints, hendpoints, -⟩ := bind_eq_ok_iff.1 h
  exact ⟨endpoints, hendpoints⟩

theorem error_of_readEndpoint {s : String} (h : readEndpoint s = .error e) :
    ∃ reason, e = .invalidConfig reason := by
  obtain ⟨fault, -, rfl⟩ := except_mapError_eq_error_iff.1 h
  exact ⟨_, rfl⟩

theorem error_of_readEndpoints (h : conf.readEndpoints = .error e) :
    ∃ reason, e = .invalidConfig reason := by
  unfold readEndpoints at h
  split at h
  · rcases bind_eq_error_iff.1 h with hrpc | ⟨_, -, h⟩
    · exact error_of_readEndpoint hrpc
    rcases bind_eq_error_iff.1 h with hwallet | ⟨_, -, h⟩
    · exact error_of_readEndpoint hwallet
    rcases bind_eq_error_iff.1 h with hevents | ⟨_, -, h⟩
    · exact error_of_readEndpoint hevents
    · cases h
  · cases h
    exact ⟨_, rfl⟩

theorem error_of_validate (h : conf.validate = .error e) : ∃ reason, e = .invalidConfig reason := by
  cases hread : conf.readEndpoints with
  | error fault =>
    rw [validate, hread, error_bind] at h
    cases h
    exact error_of_readEndpoints hread
  | ok endpoints =>
    rw [validate_of_readEndpoints hread] at h
    split at h
    · cases h
      exact ⟨_, rfl⟩
    split at h
    · cases h
      exact ⟨_, rfl⟩
    · cases h

end Configuration

namespace Gateway

theorem headers_of_sendable (h : conf.apiKey.all isHeaderValue = true) :
    ∃ hs, headers conf = .ok hs ∧ ∀ header ∈ hs, isHeaderValue header.2 = true := by
  unfold headers
  cases hkey : conf.apiKey with
  | none => exact ⟨[], rfl, List.forall_mem_nil _⟩
  | some key =>
    rw [hkey, Option.all_some] at h
    exact ⟨[(keyHeader, key)], if_pos h, List.forall_mem_singleton.2 h⟩

theorem headers_of_unsendable (h : conf.apiKey.all isHeaderValue = false) :
    headers conf = .error (.invalidConfig "invalid api_key: failed to parse header value") := by
  unfold headers
  cases hkey : conf.apiKey with
  | none =>
    rw [hkey] at h
    cases h
  | some key =>
    rw [hkey, Option.all_some] at h
    exact if_neg (Bool.eq_false_iff.1 h)

theorem connect_of_sendable (hlibrary : library.Opens) (hread : conf.readEndpoints = .ok endpoints)
    (hkey : conf.apiKey.all isHeaderValue = true) :
    ∃ opened, connect library conf = .ok (⟨endpoints, conf.apiKey⟩, opened) := by
  obtain ⟨hs, hheaders, hsendable⟩ := headers_of_sendable hkey
  obtain ⟨opened, hopened⟩ := hlibrary conf.timeout hs hsendable
  refine ⟨opened, ?_⟩
  rw [connect, hread, ok_bind, hheaders, ok_bind, hopened]
  rfl

theorem connect_of_unsendable (hread : conf.readEndpoints = .ok endpoints)
    (hkey : conf.apiKey.all isHeaderValue = false) :
    connect library conf =
      .error (.invalidConfig "invalid api_key: failed to parse header value") := by
  rw [connect, hread, ok_bind, headers_of_unsendable hkey, error_bind]

end Gateway

namespace Client

theorem connect_of_validate (h : conf.validate = .ok ()) :
    connect library conf = (Gateway.connect library conf).map (standard conf.chainId, ·) := by
  rw [connect, h, ok_bind]
  rfl

theorem connect_of_validate_error (h : conf.validate = .error e) :
    connect library conf = .error e := by
  rw [connect, h, error_bind]

theorem connect_of_unsendable (h : conf.validate = .ok ())
    (hkey : conf.apiKey.all Gateway.isHeaderValue = false) :
    connect library conf =
      .error (.invalidConfig "invalid api_key: failed to parse header value") := by
  obtain ⟨endpoints, hread⟩ := Configuration.exists_endpoints_of_validate h
  rw [connect_of_validate h, Gateway.connect_of_unsendable hread hkey]
  rfl

/-- The check tells whether a client can be made of a configuration whose key, if it has one, can be
sent, and what is wrong if not. -/
theorem validate_predicts_connect (hlibrary : library.Opens) (conf : Configuration) :
    (conf.validate = .ok () → conf.apiKey.all Gateway.isHeaderValue = true →
      ∃ client gateway opened, connect library conf = .ok (client, gateway, opened) ∧
        client.chainId = conf.chainId) ∧
    (conf.validate = .ok () → conf.apiKey.all Gateway.isHeaderValue = false →
      connect library conf =
        .error (.invalidConfig "invalid api_key: failed to parse header value")) ∧
    ∀ e, conf.validate = .error e →
      connect library conf = .error e ∧ ∃ reason, e = .invalidConfig reason := by
  refine ⟨fun h hkey => ?_, connect_of_unsendable,
    fun e h => ⟨connect_of_validate_error h, Configuration.error_of_validate h⟩⟩
  obtain ⟨endpoints, hread⟩ := Configuration.exists_endpoints_of_validate h
  obtain ⟨opened, hopened⟩ := Gateway.connect_of_sendable hlibrary hread hkey
  refine ⟨standard conf.chainId, ⟨endpoints, conf.apiKey⟩, opened, ?_, rfl⟩
  rw [connect_of_validate h, hopened]
  rfl

/-- A network with a key, and the same with no time for a request. -/
theorem validate_predicts_connect_to_nile :
    let library : Library (Nat × List (String × String)) := fun timeout headers =>
      .ok (timeout, headers)
    let conf := Configuration.ofNetwork .nile (some "a key")
    (∃ client gateway opened, connect library conf = .ok (client, gateway, opened) ∧
      client.chainId = 3448148188) ∧
    connect library { conf with timeoutSecs := some 0 } =
      .error (.invalidConfig "timeout_secs must be positive") := by
  intro library conf
  have hlibrary : library.Opens := fun timeout headers _ => ⟨(timeout, headers), rfl⟩
  constructor
  · exact (validate_predicts_connect hlibrary conf).1 (by decide) (by decide)
  · exact ((validate_predicts_connect hlibrary _).2.2 _ (by decide)).1

/-- A key of two lines passes the check, and no header can hold it. -/
theorem validate_passes_unsendable :
    let library : Library Unit := fun _ _ => .ok ()
    let conf : Configuration := ⟨["http://a", "http://b", "http://c"], some "a\nb", 1, none⟩
    library.Opens ∧ conf.validate = .ok () ∧ ∀ made, connect library conf ≠ .ok made := by
  intro library conf
  have hvalid : conf.validate = .ok () := by decide
  refine ⟨fun timeout headers _ => ⟨(), rfl⟩, hvalid, fun made h => ?_⟩
  rw [connect_of_unsendable hvalid (by decide)] at h
  cases h

end Client
end Tronkit
