import Tronkit.Proofs.Json.Written
import Tronkit.Proofs.Text.Digits

/-!
# Written integers

A natural number is written as a numeral without sign, fraction or exponent whose digits denote
the number, whatever its size. So it stands as bare digits wherever it is written to.
-/

namespace Tronkit.Json

def decimalDigits (n : Nat) : List Nat := if n = 0 then [0] else Digits.ofNat 10 n

theorem fold_decimalDigits (n : Nat) : Digits.fold 10 (decimalDigits n) = n := by
  unfold decimalDigits
  split
  · rename_i hn
    rw [hn]
    rfl
  · exact Digits.fold_ofNat (by decide) n

theorem lt_of_mem_decimalDigits {n d : Nat} (h : d ∈ decimalDigits n) : d < 10 := by
  unfold decimalDigits at h
  split at h
  · rw [List.mem_singleton] at h
    omega
  · exact Digits.lt_of_mem_ofNat (by decide) h

theorem toDigits_eq_map (n : Nat) : Nat.toDigits 10 n = (decimalDigits n).map Nat.digitChar := by
  rcases Nat.eq_zero_or_pos n with rfl | hpos
  · rfl
  · rw [decimalDigits, if_neg (by omega), Digits.toDigits_eq_map_ofNat (by decide) hpos]

theorem digit?_digitChar : ∀ d < 10,
    Utf8.encodeChar (Nat.digitChar d) = [UInt8.ofNat (Nat.digitChar d).toNat] ∧
      digit? (UInt8.ofNat (Nat.digitChar d).toNat) = some d := by decide

theorem digitRun_map {ds : List Nat} (hds : ∀ d ∈ ds, d < 10) {rest : Bytes}
    (hrest : Stops isDigit rest) :
    digitRun (Utf8.encode (ds.map Nat.digitChar) ++ rest) = (ds, rest) := by
  induction ds with
  | nil => exact digitRun_of_stops hrest
  | cons d ds ih =>
    obtain ⟨hbytes, hdigit⟩ := digit?_digitChar d (hds d (by simp))
    have hds' := ih fun e he => hds e (by simp [he])
    rw [List.map_cons, Utf8.encode_cons, hbytes, List.append_assoc, List.singleton_append,
      digitRun_cons hdigit, hds']

theorem decimalDigits_ne_nil (n : Nat) : decimalDigits n ≠ [] := by
  intro hnil
  have htoDigits := toDigits_eq_map n
  rw [hnil] at htoDigits
  exact Nat.toDigits_ne_nil htoDigits

theorem decimalDigits_ne_zero_cons (n d : Nat) (es : List Nat) :
    decimalDigits n ≠ 0 :: d :: es := by
  unfold decimalDigits
  split
  · simp
  · intro hds
    -- The digits of a positive number have no zeros to drop.
    have hdrop := Digits.dropWhile_ofNat (show 2 ≤ 10 by decide) n
    rw [hds, List.dropWhile_cons, if_pos (by decide)] at hdrop
    have hlen := congrArg List.length hdrop
    have hle := (List.dropWhile_sublist (fun d => decide (d = 0)) (l := d :: es)).length_le
    rw [List.length_cons] at hlen
    omega

theorem render_natural (n : Nat) : Render.natural n = (decimalDigits n).map Nat.digitChar := by
  rw [Render.natural, decimalText, String.toList_ofList, toDigits_eq_map]

theorem wholePart?_natural (n : Nat) {rest : Bytes} (hrest : Stops isDigit rest) :
    wholePart? (Utf8.encode (Render.natural n) ++ rest) = some (decimalDigits n, rest) := by
  have hrun : digitRun (Utf8.encode (Render.natural n) ++ rest) = (decimalDigits n, rest) := by
    rw [render_natural]
    exact digitRun_map (fun _ hd => lt_of_mem_decimalDigits hd) hrest
  rw [wholePart?, hrun]
  split
  · rename_i hds
    exact absurd (congrArg Prod.fst hds) (decimalDigits_ne_nil n)
  · rename_i hds
    exact absurd (congrArg Prod.fst hds) (decimalDigits_ne_zero_cons n _ _)
  · rfl

theorem decimalText_injective : Function.Injective decimalText := by
  intro m n h
  have hnil : Stops isDigit [] := trivial
  have hm := wholePart?_natural m hnil
  have hn := wholePart?_natural n hnil
  rw [Render.natural, h, ← Render.natural, hn] at hm
  have hdigits : decimalDigits n = decimalDigits m := congrArg Prod.fst (Option.some.inj hm)
  rw [← fold_decimalDigits m, ← hdigits, fold_decimalDigits]

theorem encode_natural_cons (n : Nat) :
    ∃ d bs, d < 10 ∧
      Utf8.encode (Render.natural n) = UInt8.ofNat (Nat.digitChar d).toNat :: bs := by
  cases hds : decimalDigits n with
  | nil => exact absurd hds (decimalDigits_ne_nil n)
  | cons d ds =>
    have hd : d < 10 := lt_of_mem_decimalDigits (n := n) (by rw [hds]; simp)
    refine ⟨d, Utf8.encode (ds.map Nat.digitChar), hd, ?_⟩
    rw [render_natural, hds, List.map_cons, Utf8.encode_cons, (digit?_digitChar d hd).1,
      List.singleton_append]

theorem digitChar_plain : ∀ d < 10,
    let b := UInt8.ofNat (Nat.digitChar d).toNat
    b ≠ 0x2D ∧ isBlank b = false ∧ b ≠ 0x6E := by decide

theorem numeral?_decimalDigits (n : Nat) {rest : Bytes} (h : Ends rest) :
    numeral? (Utf8.encode (Render.natural n) ++ rest) =
      some (⟨false, decimalDigits n, none, none⟩, rest) := by
  obtain ⟨d, bs, hd, hbytes⟩ := encode_natural_cons n
  have hsign : sign (Utf8.encode (Render.natural n) ++ rest) =
      (false, Utf8.encode (Render.natural n) ++ rest) := by
    rw [hbytes]
    exact sign_cons (digitChar_plain d hd).1 _
  rw [numeral?_eq_some_iff, hsign]
  exact ⟨rest, rest, wholePart?_natural n h.digit, fractionPart?_of_stops h.point,
    exponentPart?_of_stops h.exponentMark, rfl⟩

theorem skipBlanks_natural (n : Nat) (rest : Bytes) :
    skipBlanks (Utf8.encode (Render.natural n) ++ rest) =
      Utf8.encode (Render.natural n) ++ rest := by
  obtain ⟨d, bs, hd, hbytes⟩ := encode_natural_cons n
  have hstops : Stops isBlank (UInt8.ofNat (Nat.digitChar d).toNat :: (bs ++ rest)) :=
    (digitChar_plain d hd).2.1
  rw [hbytes, List.cons_append]
  exact skipBlanks_of_stops hstops

theorem reads_natBelow {limit n : Nat} (h : n < limit) (depth : Nat) :
    (Reader.natBelow limit).Reads depth (Render.natural n) n := by
  intro rest hends
  unfold Reader.natBelow
  rw [skipBlanks_natural, numeral?_decimalDigits n hends]
  simp only [Reader.ofOption, ok_bind, fold_decimalDigits, if_pos h]
  rfl

theorem reads_byte (b : UInt8) (depth : Nat) :
    Reader.byte.Reads depth (Render.natural b.toNat) b := by
  intro rest hends
  have hread := reads_natBelow b.toNat_lt depth rest hends
  exact Reader.map_eq_ok_iff.2 ⟨b.toNat, hread, UInt8.ofNat_toNat⟩

theorem isRaw_decimalText (n : Nat) : IsRaw (decimalText n) := by
  obtain ⟨d, bs, hd, hbytes⟩ := encode_natural_cons n
  obtain ⟨-, hblank, hnull⟩ := digitChar_plain d hd
  refine ⟨fun rest hends => ?_, _, bs, hbytes, hblank, hnull⟩
  have hnumeral := numeral?_decimalDigits n hends
  rw [← skipBlanks_natural] at hnumeral
  exact .numeral hnumeral

@[simp] theorem written_natural (n : Nat) : Written (Render.natural n) := (isRaw_decimalText n).1

end Tronkit.Json
