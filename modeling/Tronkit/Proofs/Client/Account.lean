import Tronkit.Client.Basic
import Tronkit.Proofs.Except

/-!
# Accounts

A text names an account if it is an address in any form, but not the empty address. Everything
else is refused as an invalid address.
-/

namespace Tronkit.Client

def IsAccount (s : String) (a : Address) : Prop := Address.parse s = .ok a ∧ a ≠ Address.empty

theorem readAddress_eq_ok_iff {s : String} {a : Address} :
    readAddress s = .ok a ↔ Address.parse s = .ok a := except_mapError_eq_ok_iff

theorem readAccount_of_parse {s : String} {a : Address} (h : Address.parse s = .ok a) :
    readAccount s =
      if a.isEmpty then .error (.addressInvalid ("'" ++ s ++ "' is the reserved empty address"))
      else .ok a := by
  rw [readAccount, readAddress_eq_ok_iff.2 h]

theorem readAccount_eq_ok_iff {s : String} {a : Address} :
    readAccount s = .ok a ↔ IsAccount s a := by
  constructor
  · intro h
    unfold readAccount at h
    split at h
    · cases h
    · rename_i b hread
      split at h
      · cases h
      · rename_i hempty
        cases h
        have hne : a ≠ Address.empty := fun ha => hempty (decide_eq_true ha)
        exact ⟨readAddress_eq_ok_iff.1 hread, hne⟩
  · rintro ⟨hparse, hne⟩
    have hempty : ¬a.isEmpty = true := fun ha => hne (of_decide_eq_true ha)
    rw [readAccount_of_parse hparse, if_neg hempty]

theorem readAddress_error {s : String} {e : ClientError} (h : readAddress s = .error e) :
    ∃ reason, e = .addressInvalid reason := by
  unfold readAddress at h
  cases hparse : Address.parse s with
  | ok a =>
    rw [hparse] at h
    cases h
  | error f =>
    rw [hparse] at h
    cases h
    exact ⟨f.message, rfl⟩

theorem readAccount_of_not_account {s : String} (h : ¬∃ a, IsAccount s a) :
    ∃ reason, readAccount s = .error (.addressInvalid reason) := by
  unfold readAccount
  cases hread : readAddress s with
  | error e =>
    obtain ⟨reason, rfl⟩ := readAddress_error hread
    exact ⟨reason, rfl⟩
  | ok a =>
    simp only
    split
    · exact ⟨_, rfl⟩
    · rename_i hempty
      have hne : a ≠ Address.empty := fun ha => hempty (decide_eq_true ha)
      exact absurd ⟨a, readAddress_eq_ok_iff.1 hread, hne⟩ h

end Tronkit.Client
