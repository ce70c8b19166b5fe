import Tronkit.Proofs.Address
import Tronkit.Proofs.Except

/-!
# Hexadecimal and base58 forms into each other

A hexadecimal text is carried to the base58 form of the address that it stands for, where every text
that is no address stands for the empty one. A base58 form is carried to the marked digits of the
hash. Each way undoes the other, and no account has the form of the empty address.
-/

namespace Tronkit.Address

/-- The text is read as the address, or it is refused and the address is the empty one. -/
def StandsFor (h : String) (a : Address) : Prop :=
  readHex h = .ok a ∨ (∃ fault, readHex h = .error fault) ∧ a = empty

variable {h b x : String} {a : Address}

theorem standsFor_iff : StandsFor h a ↔ ofHexOrEmpty h = a := by
  rw [StandsFor, ofHexOrEmpty]
  cases readHex h with
  | ok a' => simp [Except.toOption]
  | error fault => simp [Except.toOption, eq_comm]

theorem hexToBase58_of_standsFor (ha : StandsFor h a) : hexToBase58 h = a.base58 := by
  rw [hexToBase58, standsFor_iff.1 ha]

theorem base58ToHex_eq_ok_iff :
    base58ToHex b = .ok x ↔ ∃ a : Address, b = a.base58 ∧ a.evmHex = x := by
  rw [base58ToHex, except_map_eq_ok_iff]
  simp only [readBase58_eq_ok_iff]

theorem standsFor_evmHex (a : Address) : StandsFor a.evmHex a :=
  .inl (readHex_eq_ok_iff.2 (.inr (.inr (.inr rfl))))

theorem hexToBase58_eq_empty_iff :
    hexToBase58 h = empty.base58 ↔ ∀ a, readHex h = .ok a → a = empty := by
  constructor
  · intro hform a ha
    rw [hexToBase58_of_standsFor (.inl ha)] at hform
    exact base58_injective hform
  · intro hall
    cases hread : readHex h with
    | ok a =>
      rw [hexToBase58_of_standsFor (.inl hread), hall a hread]
    | error fault =>
      exact hexToBase58_of_standsFor (.inr ⟨⟨fault, hread⟩, rfl⟩)

theorem base58_empty : empty.base58 = "T9yD14Nj9j7xAB4dbGeiX9h8unkKHxuWwb" := by decide +kernel

/-- Every text has a base58 form, which is carried on to the digits of the hash that it stands for,
and a base58 form that is carried to digits comes back from them. -/
theorem conversions_inverse :
    (∀ h, ∃ a, StandsFor h a ∧ hexToBase58 h = a.base58 ∧
      base58ToHex (hexToBase58 h) = .ok ("0x" ++ Hex.text (Bytes.ofNat 20 a.hash.toNat))) ∧
    hexToBase58 "" = empty.base58 ∧ empty.base58 = "T9yD14Nj9j7xAB4dbGeiX9h8unkKHxuWwb" ∧
    (∀ h, hexToBase58 h = empty.base58 ↔ ∀ a, readHex h = .ok a → a = empty) ∧
    ∀ b x, base58ToHex b = .ok x → hexToBase58 x = b := by
  refine ⟨fun h => ?_, ?_, base58_empty, fun h => hexToBase58_eq_empty_iff, fun b x hb => ?_⟩
  · have hstands : StandsFor h (ofHexOrEmpty h) := standsFor_iff.2 rfl
    have hform := hexToBase58_of_standsFor hstands
    exact ⟨_, hstands, hform, base58ToHex_eq_ok_iff.2 ⟨_, hform, rfl⟩⟩
  · have hnone : ofHexOrEmpty "" = empty := by decide
    rw [hexToBase58, hnone]
  · obtain ⟨a, rfl, rfl⟩ := base58ToHex_eq_ok_iff.1 hb
    exact hexToBase58_of_standsFor (standsFor_evmHex a)

end Tronkit.Address
