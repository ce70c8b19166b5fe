import Tronkit.Proofs.Address

/-!
# The base58 form of an address text

`normalize` decides by the first characters of a text how to read it, and by other ones than
`parse` does. It knows the digits of an address only without the mark `0x` in front of them, and
it takes the bare digits of a hash that happen to begin as those of an address do. On every other
text the two agree. The texts that come out, base58 forms and the empty text, are left as they are.
-/

namespace Tronkit.Address

def shown : Except AddressError Address → String
  | .ok a => a.base58
  | .error _ => ""

/-- The bare digits of a hash which begin as the digits of an address do. -/
def IsBareHash (s : String) (a : Address) : Prop :=
  Hex.SameText s (Hex.text a.hashBytes) ∧ s.toList.take 2 = ['4', '1']

def IsTakenFor (s : String) (a : Address) : Prop :=
  s = a.base58 ∨ Hex.SameText s a.hex ∨ Hex.SameText s a.evmHex ∨ IsBareHash s a

theorem base58_ne_empty (a : Address) : a.base58 ≠ "" := by
  obtain ⟨cs, hcs, -⟩ := a.base58_shape
  intro h
  rw [h] at hcs
  cases hcs

variable {s : String} {a : Address}

theorem normalize_of_hex (h : looksEvmHex s.toList = true ∨ s.toList.take 2 = ['4', '1']) :
    normalize s = shown (readHex s) := by
  have hcond : (looksEvmHex s.toList || decide (s.toList.take 2 = ['4', '1'])) = true := by
    simpa using h
  rw [normalize, if_pos hcond]
  rfl

theorem normalize_of_base58 (hevm : looksEvmHex s.toList = false)
    (htron : s.toList.take 2 ≠ ['4', '1']) : normalize s = shown (readBase58 s) := by
  have hcond : ¬(looksEvmHex s.toList || decide (s.toList.take 2 = ['4', '1'])) = true := by
    simp [hevm, htron]
  rw [normalize, if_neg hcond]
  rfl

theorem looksEvmHex_of_ne_mark (h : ∀ cs, s.toList ≠ '0' :: 'x' :: cs) :
    looksEvmHex s.toList = false := by
  unfold looksEvmHex
  split
  · rename_i cs hcs
    exact absurd hcs (h cs)
  · rfl

theorem normalize_base58 (a : Address) : normalize a.base58 = a.base58 := by
  obtain ⟨cs, hcs, -⟩ := a.base58_shape
  have hevm : looksEvmHex a.base58.toList = false := by
    apply looksEvmHex_of_ne_mark
    simp [hcs]
  have htron : a.base58.toList.take 2 ≠ ['4', '1'] := by simp [hcs]
  rw [normalize_of_base58 hevm htron, readBase58_eq_ok_iff.2 rfl]
  rfl

theorem normalize_of_isTakenFor (h : IsTakenFor s a) : normalize s = a.base58 := by
  rcases h with h | h | h | h
  · rw [h, normalize_base58]
  · have htake := take_of_spells (Hex.sameText_text_iff.1 h)
    rw [normalize_of_hex (.inr htake), readHex_eq_ok_iff.2 (.inl h)]
    rfl
  · obtain ⟨cs, hcs, hspells⟩ := Hex.sameText_mark_iff.1 h
    have hevm : looksEvmHex s.toList = true := by rw [hcs, looksEvmHex_of_spells hspells]
    rw [normalize_of_hex (.inl hevm), readHex_eq_ok_iff.2 (.inr (.inr (.inr h)))]
    rfl
  · rw [normalize_of_hex (.inr h.2), readHex_eq_ok_iff.2 (.inr (.inr (.inl h.1)))]
    rfl

theorem not_looksEvmHex_of_marked (h : Hex.SameText s ("0x" ++ a.hex)) :
    ¬(looksEvmHex s.toList = true ∨ s.toList.take 2 = ['4', '1']) := by
  obtain ⟨cs, hcs, hspells⟩ := Hex.sameText_mark_iff.1 h
  have hlen : cs.length = 42 := by
    rw [← List.length_map (f := Char.toLower), hspells, Hex.length_encode, length_bytes]
  simp [hcs, looksEvmHex, hlen]

theorem isBareHash_of_hex (h : Hex.SameText s (Hex.text a.hashBytes))
    (hhex : looksEvmHex s.toList = true ∨ s.toList.take 2 = ['4', '1']) : IsBareHash s a := by
  refine ⟨h, hhex.resolve_left fun hevm => ?_⟩
  have hmark : ∀ cs, s.toList ≠ '0' :: 'x' :: cs := by
    intro cs hcs
    rw [Hex.sameText_text_iff, hcs] at h
    exact not_spells_mark cs _ h
  rw [looksEvmHex_of_ne_mark hmark] at hevm
  cases hevm

theorem normalize_of_not_isTakenFor (h : ∀ a, ¬IsTakenFor s a) : normalize s = "" := by
  by_cases hhex : looksEvmHex s.toList = true ∨ s.toList.take 2 = ['4', '1']
  · rw [normalize_of_hex hhex]
    cases hread : readHex s with
    | error e => rfl
    | ok a =>
      rcases readHex_eq_ok_iff.1 hread with hform | hform | hform | hform
      · exact absurd (.inr (.inl hform)) (h a)
      · exact absurd hhex (not_looksEvmHex_of_marked hform)
      · exact absurd (.inr (.inr (.inr (isBareHash_of_hex hform hhex)))) (h a)
      · exact absurd (.inr (.inr (.inl hform))) (h a)
  · rw [not_or, Bool.not_eq_true] at hhex
    rw [normalize_of_base58 hhex.1 hhex.2]
    cases hread : readBase58 s with
    | error e => rfl
    | ok a => exact absurd (.inl (readBase58_eq_ok_iff.1 hread)) (h a)

theorem parse_of_isTakenFor (h : IsTakenFor s a) (hbare : ¬IsBareHash s a) : parse s = .ok a := by
  rw [parse_eq_ok_iff]
  rcases h with h | h | h | h
  · exact .inl h
  · exact .inr (.inl h)
  · exact .inr (.inr (.inr h))
  · exact absurd h hbare

theorem isTakenFor_of_parse (h : parse s = .ok a) (hmarked : ¬Hex.SameText s ("0x" ++ a.hex)) :
    IsTakenFor s a := by
  rcases parse_eq_ok_iff.1 h with h | h | h | h
  · exact .inl h
  · exact .inr (.inl h)
  · exact absurd h hmarked
  · exact .inr (.inr (.inl h))

theorem normalize_of_marked (h : Hex.SameText s ("0x" ++ a.hex)) : normalize s = "" := by
  obtain ⟨hevm, htron⟩ := not_or.1 (not_looksEvmHex_of_marked h)
  rw [normalize_of_base58 (Bool.eq_false_iff.2 hevm) htron]
  cases hread : readBase58 s with
  | error e => rfl
  | ok b =>
    -- A text in base58 begins with a T, and this one with the mark.
    obtain ⟨cs, hcs, -⟩ := Hex.sameText_mark_iff.1 h
    obtain ⟨ds, hds, -⟩ := b.base58_shape
    rw [← readBase58_eq_ok_iff.1 hread, hcs] at hds
    cases hds

theorem normalize_empty : normalize "" = "" := by decide

theorem normalize_eq_empty_or (s : String) :
    normalize s = "" ∨ ∃ a : Address, normalize s = a.base58 := by
  by_cases htaken : ∃ a, IsTakenFor s a
  · obtain ⟨a, ha⟩ := htaken
    exact .inr ⟨a, normalize_of_isTakenFor ha⟩
  · exact .inl (normalize_of_not_isTakenFor (not_exists.1 htaken))

/-- The texts that come out are the empty one and the base58 forms of addresses, as which they are
read, and each of them comes out of itself. -/
theorem normalize_canonical :
    (∀ s, normalize s = "" ∨ ∃ a, normalize s = base58 a ∧ parse (normalize s) = .ok a) ∧
    (∀ s, normalize (normalize s) = normalize s) ∧
    ∀ t, normalize t = t ↔ t = "" ∨ ∃ a, t = base58 a := by
  refine ⟨fun s => ?read, fun s => ?idempotent, fun t => ⟨fun ht => ?form, ?fixed⟩⟩
  case read =>
    refine (normalize_eq_empty_or s).imp_right ?_
    rintro ⟨a, ha⟩
    exact ⟨a, ha, ha ▸ parse_base58 a⟩
  case idempotent =>
    obtain h | ⟨a, h⟩ := normalize_eq_empty_or s
    · rw [h, normalize_empty]
    · rw [h, normalize_base58]
  case form =>
    rw [← ht]
    exact normalize_eq_empty_or t
  case fixed =>
    rintro (rfl | ⟨a, rfl⟩)
    · exact normalize_empty
    · exact normalize_base58 a

/-- The base58 form of a text is that of the address which `parse` reads from it, and empty if
there is none, exactly if the text is neither marked digits of an address nor bare digits of a
hash that begin as those of an address do. -/
theorem normalize_eq_shown_parse_iff (s : String) :
    normalize s = shown (parse s) ↔
      (∀ a : Address, ¬Hex.SameText s ("0x" ++ a.hex)) ∧ ∀ a, ¬IsBareHash s a := by
  constructor
  · intro h
    constructor
    · intro a hmarked
      rw [normalize_of_marked hmarked, parse_of_sameText (.inr (.inl hmarked))] at h
      exact a.base58_ne_empty h.symm
    · intro a hbare
      have hparse : shown (parse s) = "" := by
        cases hread : parse s with
        | error e => rfl
        | ok b => exact absurd hread (not_parse_of_hashBytes hbare.1)
      rw [normalize_of_isTakenFor (.inr (.inr (.inr hbare))), hparse] at h
      exact a.base58_ne_empty h
  · rintro ⟨hmarked, hbare⟩
    cases hread : parse s with
    | ok a => exact normalize_of_isTakenFor (isTakenFor_of_parse hread (hmarked a))
    | error e =>
      refine normalize_of_not_isTakenFor fun a ha => ?_
      rw [parse_of_isTakenFor ha (hbare a)] at hread
      cases hread

/-- Marked digits are a valid address without a base58 form, and bare digits are none but have
one. -/
theorem normalize_disagrees :
    let marked := "0x418840e6c55b9ada326d211d818c34a994aeced808"
    let bare := "418840e6c55b9ada326d211d818c34a994aeced8"
    parse marked = .ok ⟨0x8840e6c55b9ada326d211d818c34a994aeced808⟩ ∧ isValid marked = true ∧
      normalize marked = "" ∧ (∀ a, parse bare ≠ .ok a) ∧
      normalize bare = base58 ⟨0x418840e6c55b9ada326d211d818c34a994aeced8⟩ := by
  intro marked bare
  have hmarked : Hex.SameText marked
      ("0x" ++ hex ⟨0x8840e6c55b9ada326d211d818c34a994aeced808⟩) := by decide
  have hparse := parse_of_sameText (.inr (.inl hmarked))
  have hvalid : isValid marked = true := by
    rw [isValid, parse?, hparse]
    decide
  have hbare : IsBareHash bare ⟨0x418840e6c55b9ada326d211d818c34a994aeced8⟩ :=
    ⟨by decide, by decide⟩
  exact ⟨hparse, hvalid, normalize_of_marked hmarked, fun a => not_parse_of_hashBytes hbare.1,
    normalize_of_isTakenFor (.inr (.inr (.inr hbare)))⟩

end Tronkit.Address
