import Tronkit.Url.Host
import Tronkit.Proofs.Domain.Ascii
import Tronkit.Proofs.Text.Digits
import Tronkit.Proofs.Url.Percent

/-!
# Written hosts

A host is written so that it can stand in the authority of a URL: it holds nothing that would end
it, and its colons are between brackets.
-/

namespace Tronkit.Host

variable {cs : List Char} {host : Host} {c : Char}

def addressMarks : List Char := ":0123456789abcdef".toList

inductive IsWritten : List Char → Prop
  | plain {cs : List Char} (h : ∀ c ∈ cs, isForbidden c = false ∧ Percent.isControl c = false) :
      IsWritten cs
  | bracketed {cs : List Char} (h : ∀ c ∈ cs, c ∈ addressMarks) : IsWritten ('[' :: cs ++ [']'])

def ends : List Char := " #/?\\".toList

theorem IsWritten.of_mem (h : IsWritten cs) :
    ∀ c ∈ cs, Percent.isControl c = false ∧ c ∉ ends ∧ c ≠ '@' := by
  cases h with
  | plain h =>
    intro c hc
    have hends : ∀ c ∈ '@' :: ends, isForbidden c = true := List.all_iff_forall_prop.1 (by decide)
    have hallowed : c ∉ '@' :: ends := fun hend => by
      have hforbidden := (h c hc).1
      rw [hends c hend] at hforbidden
      cases hforbidden
    rw [List.mem_cons, not_or] at hallowed
    exact ⟨(h c hc).2, hallowed.2, hallowed.1⟩
  | bracketed h =>
    have hmarks : ∀ c ∈ ['[', ']'] ++ addressMarks,
        Percent.isControl c = false ∧ c ∉ ends ∧ c ≠ '@' := List.all_iff_forall_prop.1 (by decide)
    intro c hc
    refine hmarks c ?_
    rcases List.mem_append.1 hc with hc | hc
    · rcases List.mem_cons.1 hc with rfl | hc
      · exact List.mem_append_left _ List.mem_cons_self
      · exact List.mem_append_right _ (h c hc)
    · exact List.mem_append_left _ (List.mem_cons_of_mem _ hc)

theorem isForbidden_of_domain (h : Domain.isForbidden c = false) : isForbidden c = false := by
  simp only [Domain.isForbidden, Bool.or_eq_false_iff, decide_eq_false_iff_not] at h
  rw [Bool.eq_false_iff]
  intro hc
  simp only [isForbidden, Bool.or_eq_true, decide_eq_true_eq] at hc
  rcases hc with (((rfl | rfl) | rfl) | rfl) | hc
  · exact h.1.1 (by decide)
  · exact h.1.1 (by decide)
  · exact h.1.1 (by decide)
  · exact h.1.1 (by decide)
  · have hmarks : ∀ c ∈ " #/:<>?@[\\]^|".toList,
        c.toNat ≤ 0x20 ∨ "%#/:<>?@[\\]^|".toList.contains c = true :=
      List.all_iff_forall_prop.1 (by decide)
    rcases hmarks c (List.contains_iff_mem.1 hc) with hlow | hmark
    · exact h.1.1 hlow
    · rw [hmark] at h
      cases h.2

theorem isControl_of_domain (h : Domain.isForbidden c = false)
    (hascii : Domain.Punycode.isAscii c = true) : Percent.isControl c = false := by
  simp only [Domain.isForbidden, Bool.or_eq_false_iff, decide_eq_false_iff_not] at h
  simp only [Domain.Punycode.isAscii, decide_eq_true_eq] at hascii
  simp only [Percent.isControl, Bool.or_eq_false_iff, decide_eq_false_iff_not]
  omega

theorem isWritten_ipv4 (n : Nat) : IsWritten (ipv4 n).text.toList := by
  have hdigits : ∀ d < 10, isForbidden (Nat.digitChar d) = false ∧
      Percent.isControl (Nat.digitChar d) = false := by decide
  refine .plain fun c hc => ?_
  rw [text, String.toList_intercalate] at hc
  obtain hdot | ⟨part, hpart, hc⟩ := Split.mem_flatten_intersperse hc
  · rw [List.mem_singleton.1 hdot]
    decide
  · rw [List.map_map] at hpart
    obtain ⟨b, -, rfl⟩ := List.mem_map.1 hpart
    rw [Function.comp_apply, decimalText, String.toList_ofList] at hc
    obtain ⟨d, hd, rfl⟩ := Digits.exists_digit_of_mem_toDigits (by decide) hc
    exact hdigits d hd

theorem mem_addressMarks_of_mem_piecesText {pieces : List Nat}
    (h : c ∈ (piecesText pieces).toList) : c ∈ addressMarks := by
  have hdigits : ∀ d < 16, Nat.digitChar d ∈ addressMarks := by decide
  rw [piecesText, String.toList_intercalate] at h
  obtain hcolon | ⟨part, hpart, hc⟩ := Split.mem_flatten_intersperse h
  · rw [List.mem_singleton.1 hcolon]
    decide
  · rw [List.map_map] at hpart
    obtain ⟨n, -, rfl⟩ := List.mem_map.1 hpart
    rw [Function.comp_apply, String.toList_ofList] at hc
    obtain ⟨d, hd, rfl⟩ := Digits.exists_digit_of_mem_toDigits (by decide) hc
    exact hdigits d hd

def innerText (pieces : List Nat) : String :=
  let (start, run) := longestRun 0 0 0 (0, 0) pieces
  if run < 2 then piecesText pieces
  else piecesText (pieces.take start) ++ "::" ++ piecesText (pieces.drop (start + run))

theorem toList_text_ipv6 (pieces : List Nat) :
    (ipv6 pieces).text.toList = '[' :: (innerText pieces).toList ++ [']'] := by
  simp only [text, innerText, String.toList_append]
  rfl

theorem isWritten_ipv6 (pieces : List Nat) : IsWritten (ipv6 pieces).text.toList := by
  rw [toList_text_ipv6]
  refine .bracketed fun c hc => ?_
  simp only [innerText] at hc
  split at hc
  · exact mem_addressMarks_of_mem_piecesText hc
  · rw [String.toList_append, String.toList_append] at hc
    rcases List.mem_append.1 hc with hc | hc
    · rcases List.mem_append.1 hc with hc | hc
      · exact mem_addressMarks_of_mem_piecesText hc
      · have hgap : ∀ c ∈ "::".toList, c ∈ addressMarks := List.all_iff_forall_prop.1 (by decide)
        exact hgap c hc
    · exact mem_addressMarks_of_mem_piecesText hc

theorem exists_of_parseIpv4 (h : parseIpv4 cs = .ok host) : ∃ n, host = .ipv4 n := by
  unfold parseIpv4 at h
  simp only at h
  split at h
  · cases h
  split at h
  · cases h
    exact ⟨_, rfl⟩
  · cases h

theorem exists_of_parseIpv6 (h : parseIpv6 cs = .ok host) : ∃ pieces, host = .ipv6 pieces := by
  unfold parseIpv6 at h
  simp only at h
  split at h
  · cases h
    exact ⟨_, rfl⟩
  · cases h

theorem cases_of_parse (h : parse cs = .ok host) :
    (∃ inner, parseIpv6 inner = .ok host) ∨ (∃ domain, parseIpv4 domain = .ok host) ∨
      ∃ domain, host = .name (String.ofList domain) ∧ domain ≠ [] ∧ domain? cs = some domain ∧
        endsInNumber domain = false := by
  unfold parse at h
  split at h
  · split at h
    · exact .inl ⟨_, h⟩
    · cases h
  split at h
  · cases h
  · cases h
  rename_i domain hne hdomain
  split at h
  · exact .inr (.inl ⟨domain, h⟩)
  · rename_i hnumber
    cases h
    exact .inr (.inr ⟨domain, rfl, hne, hdomain, Bool.eq_false_iff.2 hnumber⟩)

theorem isWritten_of_parse (h : parse cs = .ok host) : IsWritten host.text.toList := by
  obtain ⟨inner, h⟩ | ⟨domain, h⟩ | ⟨domain, rfl, -, hdomain, -⟩ := cases_of_parse h
  · obtain ⟨pieces, rfl⟩ := exists_of_parseIpv6 h
    exact isWritten_ipv6 pieces
  · obtain ⟨n, rfl⟩ := exists_of_parseIpv4 h
    exact isWritten_ipv4 n
  · obtain ⟨name, -, hascii⟩ := Option.bind_eq_some_iff.1 hdomain
    refine .plain fun c hc => ?_
    rw [text, String.toList_ofList] at hc
    obtain ⟨hallowed, hlow⟩ := Domain.of_mem_toAscii? hascii c hc
    exact ⟨isForbidden_of_domain hallowed, isControl_of_domain hallowed hlow⟩

theorem eq_of_text_empty (h : host.text = "") : host = .name "" := by
  rw [← String.toList_inj] at h
  cases host with
  | name s => exact congrArg Host.name (String.toList_inj.1 h)
  | ipv4 n =>
    rw [text, String.toList_intercalate] at h
    simp [Bytes.ofNat, List.intercalate] at h
  | ipv6 pieces =>
    rw [toList_text_ipv6] at h
    cases h

theorem text_ne_empty_of_parse (h : parse cs = .ok host) : host.text ≠ "" := by
  intro hempty
  obtain rfl := eq_of_text_empty hempty
  obtain ⟨inner, h⟩ | ⟨domain, h⟩ | ⟨domain, hname, hne, -⟩ := cases_of_parse h
  · obtain ⟨pieces, hhost⟩ := exists_of_parseIpv6 h
    cases hhost
  · obtain ⟨n, hhost⟩ := exists_of_parseIpv4 h
    cases hhost
  · simp only [Host.name.injEq, ← String.toList_inj, String.toList_ofList,
      String.toList_empty] at hname
    exact hne hname.symm

theorem cases_of_parseOpaque (h : parseOpaque cs = .ok host) :
    (∃ inner, parseIpv6 inner = .ok host) ∨
      (∀ c ∈ cs, isForbidden c = false) ∧
        host = .name (String.ofList (Percent.encode Percent.isControl cs)) := by
  unfold parseOpaque at h
  split at h
  · split at h
    · exact .inl ⟨_, h⟩
    · cases h
  split at h
  · cases h
  · rename_i hallowed
    cases h
    refine .inr ⟨fun c hc => Bool.eq_false_iff.2 fun hforbidden => hallowed ?_, rfl⟩
    exact List.any_eq_true.2 ⟨c, hc, hforbidden⟩

theorem isWritten_of_parseOpaque (h : parseOpaque cs = .ok host) :
    IsWritten host.text.toList := by
  obtain ⟨inner, h⟩ | ⟨hallowed, rfl⟩ := cases_of_parseOpaque h
  · obtain ⟨pieces, rfl⟩ := exists_of_parseIpv6 h
    exact isWritten_ipv6 pieces
  · have hmarks : ∀ c ∈ Percent.marks, isForbidden c = false ∧ Percent.isControl c = false :=
      List.all_iff_forall_prop.1 (by decide)
    refine .plain ?_
    rw [text, String.toList_ofList]
    exact Percent.forall_mem_encode (fun c hc hset => ⟨hallowed c hc, hset⟩) hmarks

theorem eq_nil_of_parseOpaque (h : parseOpaque cs = .ok host) (hempty : host.text = "") :
    cs = [] := by
  obtain rfl := eq_of_text_empty hempty
  obtain ⟨inner, h⟩ | ⟨-, hname⟩ := cases_of_parseOpaque h
  · obtain ⟨pieces, hhost⟩ := exists_of_parseIpv6 h
    cases hhost
  · simp only [Host.name.injEq, ← String.toList_inj, String.toList_ofList,
      String.toList_empty] at hname
    exact Percent.encode_eq_nil_iff.1 hname.symm

end Tronkit.Host
