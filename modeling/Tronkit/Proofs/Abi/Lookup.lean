import Tronkit.Abi.Registry

/-!
# Methods by their selectors

Data calls a method by the four bytes it starts with. The method is found if any interface
declares one with this selector, in whatever order the interfaces and their methods are gone
through; then it has the selector. Which method of several with one selector is found may depend
on that order, and nothing here does.
-/

namespace Tronkit

def Registry.Declares (r : Registry) (selector : Bytes) : Prop :=
  ∃ e ∈ r.entries, ∃ f ∈ e.2.functions, f.selector = selector

theorem Interface.mem_sortedFunctions {i : Interface} {f : AbiFunction} :
    f ∈ i.sortedFunctions ↔ f ∈ i.functions := List.mem_mergeSort

theorem Interface.bySelector?_eq_some {i : Interface} {selector : Bytes} {f : AbiFunction}
    (h : i.bySelector? selector = some f) : f ∈ i.functions ∧ f.selector = selector := by
  refine ⟨mem_sortedFunctions.1 (List.mem_of_find?_eq_some h), ?_⟩
  have hf := List.find?_some h
  exact of_decide_eq_true hf

theorem Interface.bySelector?_eq_none {i : Interface} {selector : Bytes}
    (h : i.bySelector? selector = none) : ∀ f ∈ i.functions, f.selector ≠ selector := by
  intro f hf hs
  have hnot := List.find?_eq_none.1 h f (mem_sortedFunctions.2 hf)
  exact hnot (decide_eq_true hs)

namespace Registry

theorem lookupCall_of_short (r : Registry) {data : Bytes} (h : data.length < 4) :
    r.lookupCall data = .error (.dataTooShort data.length) := by
  rw [lookupCall, splitSelector, if_pos h]
  rfl

theorem lookupCall_of_length (r : Registry) {data : Bytes} (h : ¬data.length < 4) :
    r.lookupCall data = selected (data.take 4)
      (r.entries.findSome? fun e => e.2.bySelector? (data.take 4)) := by
  rw [lookupCall, splitSelector, if_neg h]
  rfl

theorem lookupCall_of_not_declares {r : Registry} {data : Bytes} (hlen : ¬data.length < 4)
    (h : ¬r.Declares (data.take 4)) :
    r.lookupCall data = .error (.unknownSelector (Hex.text (data.take 4))) := by
  have hnone : (r.entries.findSome? fun e => e.2.bySelector? (data.take 4)) = none := by
    rw [List.findSome?_eq_none_iff]
    intro e he
    cases hf : e.2.bySelector? (data.take 4) with
    | none => rfl
    | some f =>
      obtain ⟨hmem, hs⟩ := Interface.bySelector?_eq_some hf
      exact absurd ⟨e, he, f, hmem, hs⟩ h
  rw [lookupCall_of_length r hlen, hnone]
  rfl

theorem lookupCall_of_declares {r : Registry} {data : Bytes} (hlen : ¬data.length < 4)
    (h : r.Declares (data.take 4)) :
    ∃ f, r.lookupCall data = .ok f ∧ f.selector = data.take 4 ∧
      ∃ e ∈ r.entries, f ∈ e.2.functions := by
  rw [lookupCall_of_length r hlen]
  cases hfind : r.entries.findSome? fun e => e.2.bySelector? (data.take 4) with
  | none =>
    obtain ⟨e, he, f, hf, hs⟩ := h
    have hnone := List.findSome?_eq_none_iff.1 hfind e he
    exact absurd hs (Interface.bySelector?_eq_none hnone f hf)
  | some f =>
    obtain ⟨e, he, hf⟩ := List.exists_of_findSome?_eq_some hfind
    obtain ⟨hmem, hs⟩ := Interface.bySelector?_eq_some hf
    exact ⟨f, rfl, hs, e, he, hmem⟩

theorem declares_standard {f : AbiFunction} (hf : f ∈ Standard.token.functions) :
    Registry.standard.Declares f.selector :=
  ⟨(Standard.tokenName, Standard.token), .head _, f, hf, rfl⟩

end Registry
end Tronkit
