import Tronkit.Proofs.Abi.Codec
import Tronkit.Proofs.Number.Quantity

/-!
# Texts in contract results

The encoding of a text is an offset word, a length word and the bytes of the text up to a whole
word. The reader looks at the length word and at the bytes that it counts, so whatever follows the
encoding has no effect. The empty text is the exception: its encoding ends with the length word, two
words alone are no text, and one more character behind them makes them one.
-/

namespace Tronkit

theorem AbiToken.encode_string (s : String) :
    encode [.string s] = word 32 ++ (word (textBytes s).length ++ Bytes.padWords (textBytes s)) := by
  simp only [encode, parts, part, join, heads, tails, headsSize, Part.headSize, counted,
    List.append_nil, Nat.add_zero]

theorem textBytes_eq_nil_iff {s : String} : textBytes s = [] ↔ s = "" := by
  have hempty : textBytes "" = [] := rfl
  rw [← hempty]
  exact textBytes_injective.eq_iff

namespace Quantity

theorem stripMark_append {cs rest : List Char} (h : ∀ c ∈ cs, Digits.isHex c = true)
    (hlen : 2 ≤ cs.length) : stripMark (cs ++ rest) = cs ++ rest := by
  obtain ⟨c, d, cs, rfl⟩ : ∃ c d cs', cs = c :: d :: cs' := by
    match cs, hlen with
    | c :: d :: cs', _ => exact ⟨c, d, cs', rfl⟩
  have hd : Digits.isHex d = true := h d (by simp)
  simp only [List.cons_append]
  unfold stripMark
  split
  · rename_i heq
    cases heq
    exact absurd hd (by decide)
  · rename_i heq
    cases heq
    exact absurd hd (by decide)
  · rfl

theorem stripMark_of_mark {mark : String} {cs : List Char} (hmark : mark ∈ ["", "0x", "0X"])
    (hcs : stripMark cs = cs) : stripMark (mark.toList ++ cs) = cs := by
  simp only [List.mem_cons, List.not_mem_nil, or_false] at hmark
  obtain rfl | rfl | rfl := hmark
  · exact hcs
  · rfl
  · rfl

theorem stripMark_marked {mark digits : String} {bs : Bytes} (hmark : mark ∈ ["", "0x", "0X"])
    (hdigits : Hex.SameText digits (Hex.text bs)) :
    stripMark (mark ++ digits).toList = digits.toList := by
  have hhex := Hex.isHex_of_spells (Hex.sameText_text_iff.1 hdigits)
  rw [String.toList_append, stripMark_of_mark hmark (stripMark_of_isHex hhex)]

end Quantity

namespace Blob

variable {s mark digits : String}

theorem byteRange?_append (front mid rest : List Char) {start stop : Nat}
    (hstart : Utf8.size front = start) (hstop : start + Utf8.size mid = stop) :
    byteRange? (front ++ (mid ++ rest)) start stop = some mid := by
  have hat : AbiToken.At (Utf8.encode (front ++ (mid ++ rest))) start (Utf8.encode mid) :=
    ⟨Utf8.encode front, Utf8.encode rest, by simp, hstart⟩
  have hlen : stop - start = (Utf8.encode mid).length := by
    rw [← hstop, Nat.add_sub_cancel_left]
    rfl
  rw [byteRange?, hlen, hat.slice?, Option.bind_some, Utf8.decode?_encode]

/-- The digits of an encoded text: those of the two words, of the bytes and of the zeros behind. -/
theorem parts_of_spells {cs : List Char}
    (hcs : Hex.Spells cs (Hex.encode (AbiToken.encode [.string s]))) :
    ∃ offset count text zeros, cs = offset ++ (count ++ (text ++ zeros)) ∧
      Hex.Spells offset (Hex.encode (AbiToken.word 32)) ∧
      Hex.Spells count (Hex.encode (AbiToken.word (textBytes s).length)) ∧
      Hex.Spells text (Hex.encode (textBytes s)) := by
  rw [AbiToken.encode_string, Bytes.padWords] at hcs
  obtain ⟨offset, _, rfl, hoffset, hcs⟩ := Hex.spells_append hcs
  obtain ⟨count, _, rfl, hcount, hcs⟩ := Hex.spells_append hcs
  obtain ⟨text, zeros, rfl, htext, -⟩ := Hex.spells_append hcs
  exact ⟨offset, count, text, zeros, rfl, hoffset, hcount, htext⟩

theorem payload?_of_spells {cs : List Char} (hlen : (textBytes s).length < Nat.pow 2 256)
    (hcs : Hex.Spells cs (Hex.encode (AbiToken.encode [.string s]))) (rest : List Char) :
    payload? (cs ++ rest) = some (textBytes s) := by
  obtain ⟨offset, count, text, zeros, rfl, hoffset, hcount, htext⟩ := parts_of_spells hcs
  have hoffsetSize : Utf8.size offset = wordDigits := by
    rw [Hex.size_of_spells hoffset, AbiToken.length_word, wordDigits]
  have hcountSize : Utf8.size count = wordDigits := by
    rw [Hex.size_of_spells hcount, AbiToken.length_word, wordDigits]
  have hfront : Utf8.size (offset ++ count) = 2 * wordDigits := by
    rw [Utf8.size, Utf8.encode_append, List.length_append, ← Utf8.size, ← Utf8.size, hoffsetSize,
      hcountSize, Nat.two_mul]
  have hrange : byteRange? (offset ++ (count ++ (text ++ zeros)) ++ rest) wordDigits
      (2 * wordDigits) = some count := by
    rw [List.append_assoc, List.append_assoc]
    exact byteRange?_append offset count _ hoffsetSize (by rw [hcountSize, Nat.two_mul])
  have hword : word? count = some (textBytes s).length := by
    have hpow : Nat.pow 256 32 = Nat.pow 2 256 := by decide
    rw [Hex.word?_of_spells hcount (AbiToken.length_word _), AbiToken.word,
      Bytes.toNat_ofNat_of_lt (by omega)]
  have hpayload : byteRange? (offset ++ (count ++ (text ++ zeros)) ++ rest) (2 * wordDigits)
      (2 * wordDigits + 2 * (textBytes s).length) = some text := by
    have hassoc : offset ++ (count ++ (text ++ zeros)) ++ rest =
        (offset ++ count) ++ (text ++ (zeros ++ rest)) := by simp only [List.append_assoc]
    rw [hassoc]
    exact byteRange?_append _ text _ hfront (by rw [Hex.size_of_spells htext])
  have hdecode : Hex.decode? text = some (textBytes s) := by
    rw [Hex.decode?, Hex.decode_eq_ok_iff.2 htext]
    rfl
  simp only [payload?, hrange, hword, hpayload, hdecode, Option.bind_eq_bind, Option.bind_some]

/-- The encoding of a text is longer than two words, unless the text is empty. -/
theorem size_of_encoded {cs : List Char}
    (hcs : Hex.Spells cs (Hex.encode (AbiToken.encode [.string s]))) :
    2 * wordDigits ≤ Utf8.size cs ∧ (Utf8.size cs = 2 * wordDigits ↔ s = "") := by
  have hsize := Hex.size_of_spells hcs
  have hbytes : (AbiToken.encode [.string s]).length =
      64 + (Bytes.padWords (textBytes s)).length := by
    simp only [AbiToken.encode_string, List.length_append, AbiToken.length_word]
    omega
  have hpad : (Bytes.padWords (textBytes s)).length = 0 ↔ s = "" := by
    rw [← textBytes_eq_nil_iff, List.length_eq_zero_iff, Bytes.padWords, List.append_eq_nil_iff]
    constructor
    · rintro ⟨h, -⟩
      exact h
    · intro h
      rw [h]
      exact ⟨rfl, rfl⟩
  rw [← hpad, wordDigits]
  omega

/-- The encoding of a text is read back, with anything behind it. Only the encoding of the empty
text needs something behind it. -/
theorem readString_encoded (hlen : (textBytes s).length < Nat.pow 2 256)
    (hmark : mark ∈ ["", "0x", "0X"])
    (hdigits : Hex.SameText digits (Hex.text (AbiToken.encode [.string s]))) (extra : String) :
    readString (mark ++ digits ++ extra) =
      if s = "" ∧ extra = "" then .error (.unreadable digits) else .ok s := by
  have hspells := Hex.sameText_text_iff.1 hdigits
  obtain ⟨hle, hempty⟩ := size_of_encoded hspells
  -- The encoding begins with two digits, so what follows it cannot make up a mark.
  have hstrip : Quantity.stripMark (mark ++ digits ++ extra).toList =
      digits.toList ++ extra.toList := by
    rw [String.toList_append, String.toList_append, List.append_assoc]
    refine Quantity.stripMark_of_mark hmark
      (Quantity.stripMark_append (Hex.isHex_of_spells hspells) ?_)
    have hcount := congrArg List.length hspells
    rw [List.length_map, Hex.length_encode, AbiToken.encode_string, List.length_append,
      AbiToken.length_word] at hcount
    omega
  have hsize : Utf8.size (digits.toList ++ extra.toList) =
      Utf8.size digits.toList + (textBytes extra).length := by
    rw [Utf8.size, Utf8.encode_append, List.length_append]
    rfl
  have hextra : (textBytes extra).length = 0 ↔ extra = "" := by
    rw [List.length_eq_zero_iff, textBytes_eq_nil_iff]
  by_cases hboth : s = "" ∧ extra = ""
  · have htwo : Utf8.size (digits.toList ++ extra.toList) = 2 * wordDigits := by
      rw [hsize, hempty.2 hboth.1, hextra.2 hboth.2, Nat.add_zero]
    have hnone : string? (digits.toList ++ extra.toList) = none := by
      rw [string?, htwo, if_neg (Nat.lt_irrefl _), if_neg (by decide)]
    have hshown : Quantity.strip (mark ++ digits ++ extra) = digits := by
      rw [Quantity.strip, hstrip, hboth.2, String.toList_empty, List.append_nil,
        String.ofList_toList]
    rw [readString, hstrip, hnone, hshown, if_pos hboth]
  · have hlong : 2 * wordDigits < Utf8.size (digits.toList ++ extra.toList) := by
      rw [← hempty, ← hextra] at hboth
      omega
    have hsome : string? (digits.toList ++ extra.toList) = some s := by
      rw [string?, if_pos hlong, payload?_of_spells hlen hspells, Option.bind_some,
        textOfBytes?_textBytes]
    rw [readString, hstrip, hsome, if_neg hboth]

/-- A text of two letters in three bytes, in digits of either case behind the mark and with one more
digit behind. -/
theorem readString_encoded_zloty :
    readString ("0x" ++
        ("0000000000000000000000000000000000000000000000000000000000000020" ++
          "0000000000000000000000000000000000000000000000000000000000000003" ++
          "7AC5820000000000000000000000000000000000000000000000000000000000") ++ "7") =
      .ok "zł" := by
  have hdigits : Hex.SameText
      ("0000000000000000000000000000000000000000000000000000000000000020" ++
        "0000000000000000000000000000000000000000000000000000000000000003" ++
        "7AC5820000000000000000000000000000000000000000000000000000000000")
      (Hex.text (AbiToken.encode [.string "zł"])) := by
    rw [Hex.sameText_text_iff, String.toList_append, String.toList_append, Hex.Spells]
    decide +kernel
  exact (readString_encoded (by decide) (by decide) hdigits "7").trans
    (if_neg (by decide))

/-- The two words of the empty text are no text. -/
theorem not_readString_encoded_empty :
    readString (Hex.text (AbiToken.encode [.string ""])) ≠ .ok "" := by
  have hnone : string? (Quantity.stripMark (Hex.encode (AbiToken.encode [.string ""]))) = none := by
    decide +kernel
  rw [readString, Hex.text, String.toList_ofList, hnone]
  intro h
  cases h

end Blob
end Tronkit
