import Tronkit.Proofs.Number.Blob

/-!
# Texts in one word

A contract may give a short text as the bytes of one word, with zeros behind them. A word that does
not begin with a zero is read up to its first zero, and what stands behind that does not matter. So
a text of at most 32 bytes and without a zero is the same in one word as in its encoding.
-/

namespace Tronkit

theorem textOfBytes?_eq_some_iff {bs : Bytes} {s : String} :
    textOfBytes? bs = some s ↔ textBytes s = bs := by
  refine ⟨textBytes_of_textOfBytes?, ?_⟩
  rintro rfl
  exact textOfBytes?_textBytes s

namespace Blob

variable {s mark digits : String} {word : Bytes}

def untilZero (bs : Bytes) : Bytes := bs.takeWhile (· ≠ 0)

def padded (s : String) : Bytes := textBytes s ++ Bytes.zeros (32 - (textBytes s).length)

theorem length_padded (hlen : (textBytes s).length ≤ 32) : (padded s).length = 32 := by
  rw [padded, List.length_append, Bytes.zeros, List.length_replicate]
  omega

theorem untilZero_padded (hzero : 0 ∉ textBytes s) : untilZero (padded s) = textBytes s := by
  have hkept : ∀ b ∈ textBytes s, decide (b ≠ 0) = true := by
    intro b hb
    exact decide_eq_true (ne_of_mem_of_not_mem hb hzero)
  have hcut : (Bytes.zeros (32 - (textBytes s).length)).takeWhile (· ≠ 0) = [] := by
    rw [Bytes.zeros, List.takeWhile_replicate]
    rfl
  rw [untilZero, padded, List.takeWhile_append_of_pos hkept, hcut, List.append_nil]

theorem head?_padded (hne : s ≠ "") (hzero : 0 ∉ textBytes s) : (padded s).head? ≠ some 0 := by
  rw [ne_eq, ← textBytes_eq_nil_iff] at hne
  obtain ⟨b, bs, hbs⟩ := List.exists_cons_of_ne_nil hne
  rw [hbs, List.mem_cons, not_or] at hzero
  rw [padded, hbs, List.cons_append, List.head?_cons, ne_eq, Option.some.injEq]
  exact Ne.symm hzero.1

theorem cutAtZero_of_head (h : word.head? ≠ some 0) : cutAtZero word = untilZero word := by
  cases word with
  | nil => rfl
  | cons b bs =>
    have hb : b ≠ 0 := by simpa using h
    rw [cutAtZero, List.headD_cons, if_neg hb, untilZero]

theorem string?_of_spells {cs : List Char} (hlen : word.length = 32)
    (hcs : Hex.Spells cs (Hex.encode word)) : string? cs = textOfBytes? (cutAtZero word) := by
  have hsize : Utf8.size cs = wordDigits := by rw [Hex.size_of_spells hcs, hlen, wordDigits]
  have hdecode : Hex.decode? cs = some word := by
    rw [Hex.decode?, Hex.decode_eq_ok_iff.2 hcs]
    rfl
  rw [string?, hsize, if_neg (by decide), if_pos rfl, hdecode, Option.bind_some]

theorem readString_word (hlen : word.length = 32) (hhead : word.head? ≠ some 0)
    (hmark : mark ∈ ["", "0x", "0X"]) (hdigits : Hex.SameText digits (Hex.text word)) :
    readString (mark ++ digits) =
      (textOfBytes? (untilZero word)).elim (.error (.unreadable digits)) .ok := by
  have hstrip := Quantity.stripMark_marked hmark hdigits
  rw [readString, Quantity.strip, hstrip, String.ofList_toList,
    string?_of_spells hlen (Hex.sameText_text_iff.1 hdigits), cutAtZero_of_head hhead]
  cases textOfBytes? (untilZero word) <;> rfl

theorem readString_word_eq_ok_iff (hlen : word.length = 32) (hhead : word.head? ≠ some 0)
    (hmark : mark ∈ ["", "0x", "0X"]) (hdigits : Hex.SameText digits (Hex.text word)) {t : String} :
    readString (mark ++ digits) = .ok t ↔ textBytes t = untilZero word := by
  rw [readString_word hlen hhead hmark hdigits, ← textOfBytes?_eq_some_iff]
  cases textOfBytes? (untilZero word) <;> simp

theorem readString_encoding (hne : s ≠ "") (hlen : (textBytes s).length < Nat.pow 2 256)
    (hmark : mark ∈ ["", "0x", "0X"])
    (hdigits : Hex.SameText digits (Hex.text (AbiToken.encode [.string s]))) :
    readString (mark ++ digits) = .ok s := by
  have hspells := Hex.sameText_text_iff.1 hdigits
  obtain ⟨hle, hempty⟩ := size_of_encoded hspells
  have hlong : 2 * wordDigits < Utf8.size digits.toList := by
    rw [ne_eq, ← hempty] at hne
    omega
  have hpayload := payload?_of_spells hlen hspells []
  rw [List.append_nil] at hpayload
  have hsome : string? digits.toList = some s := by
    rw [string?, if_pos hlong, hpayload, Option.bind_some, textOfBytes?_textBytes]
  rw [readString, Quantity.stripMark_marked hmark hdigits, hsome]

/-- A text of 1 to 32 bytes without a zero is read from one word and from its encoding alike. Of any
word that does not begin with a zero, what is read are the bytes before the first zero: as the text
whose bytes they are, and not at all if they are those of none. -/
theorem word_text_read :
    (∀ s, s ≠ "" → (textBytes s).length ≤ 32 → 0 ∉ textBytes s →
      ∀ mark ∈ ["", "0x", "0X"], ∀ digits,
        (Hex.SameText digits (Hex.text (padded s)) → readString (mark ++ digits) = .ok s) ∧
        (Hex.SameText digits (Hex.text (AbiToken.encode [.string s])) →
          readString (mark ++ digits) = .ok s)) ∧
    ∀ word : Bytes, word.length = 32 → word.head? ≠ some 0 →
      ∀ mark ∈ ["", "0x", "0X"], ∀ digits, Hex.SameText digits (Hex.text word) →
        (∀ t, readString (mark ++ digits) = .ok t ↔ textBytes t = untilZero word) ∧
        ((∀ t, textBytes t ≠ untilZero word) →
          readString (mark ++ digits) = .error (.unreadable digits)) := by
  refine ⟨fun s hne hlen hzero mark hmark digits =>
      ⟨fun hdigits => ?padded, fun hdigits => ?encoded⟩,
    fun word hlen hhead mark hmark digits hdigits => ⟨fun t => ?read, fun hnone => ?unread⟩⟩
  case padded =>
    have hword := length_padded hlen
    rw [readString_word_eq_ok_iff hword (head?_padded hne hzero) hmark hdigits,
      untilZero_padded hzero]
  case encoded =>
    have hfits : 32 < Nat.pow 2 256 := by decide
    exact readString_encoding hne (Nat.lt_of_le_of_lt hlen hfits) hmark hdigits
  case read => exact readString_word_eq_ok_iff hlen hhead hmark hdigits
  case unread =>
    rw [readString_word hlen hhead hmark hdigits]
    cases htext : textOfBytes? (untilZero word) with
    | none => rfl
    | some t => exact absurd (textOfBytes?_eq_some_iff.1 htext) (hnone t)

/-- A text that fills its word, in capitals behind a mark and encoded, and a word with more behind
its first zero. -/
theorem word_text_read_at_bounds :
    readString ("0X" ++ "7AC5826F7479207AC5826F7479207AC5826F7479207AC5826F747920C582C582") =
        .ok "złoty złoty złoty złoty łł" ∧
      readString ("0x" ++
          ("0000000000000000000000000000000000000000000000000000000000000020" ++
            "0000000000000000000000000000000000000000000000000000000000000020" ++
            "7ac5826f7479207ac5826f7479207ac5826f7479207ac5826f747920c582c582")) =
        .ok "złoty złoty złoty złoty łł" ∧
      readString ("" ++ "4d4b5200ff0000000000000000000000000000000000000000000000000000c5") =
        .ok "MKR" := by
  have hfull := word_text_read.1 "złoty złoty złoty złoty łł" (by decide) (by decide) (by decide)
  refine ⟨(hfull "0X" (by decide) _).1 ?_, (hfull "0x" (by decide) _).2 ?_, ?_⟩
  · rw [Hex.sameText_text_iff, Hex.Spells]
    decide
  · rw [Hex.sameText_text_iff, String.toList_append, String.toList_append, Hex.Spells]
    set_option maxRecDepth 1000 in decide
  · have hread := word_text_read.2
      ([0x4d, 0x4b, 0x52, 0x00, 0xff] ++ Bytes.zeros 26 ++ [0xc5]) (by decide) (by decide)
      "" (by decide) "4d4b5200ff0000000000000000000000000000000000000000000000000000c5"
      (by decide)
    exact (hread.1 "MKR").2 (by decide)

end Blob
end Tronkit
