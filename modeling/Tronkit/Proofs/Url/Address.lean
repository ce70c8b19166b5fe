import Tronkit.Proofs.Bytes
import Tronkit.Proofs.Number.Quantity
import Tronkit.Proofs.Url.Host

/-!
# Addresses as hosts

The text of an address is read as the address. One of version 4 is written as four bytes, and is
its own name in ASCII. One of version 6 is written as eight pieces, where a gap stands in the place
of the longest run of zeros.
-/

namespace Tronkit.Host

open Domain (toAscii? toAscii?_of_plain)

variable {cs : List Char} {host : Host}

/-! ## Names that are read as they are written -/

theorem notMem_percent (h : ∀ c ∈ cs, Domain.isForbidden c = false) : '%' ∉ cs := fun hmem => by
  have hpercent : Domain.isForbidden '%' = true := by decide
  rw [h '%' hmem] at hpercent
  cases hpercent

theorem domain?_eq_toAscii? (h : ∀ c ∈ cs, Domain.isForbidden c = false) :
    domain? cs = toAscii? cs := by
  rw [domain?, Percent.decode_of_notMem (notMem_percent h), Utf8.decode?_encode, Option.bind_some]

theorem head?_ne_bracket (h : ∀ c ∈ cs, isForbidden c = false) : cs.head? ≠ some '[' := by
  intro hhead
  have hopen : isForbidden '[' = true := by decide
  rw [h '[' (List.mem_of_mem_head? hhead)] at hopen
  cases hopen

theorem parse_of_domain? {domain : List Char} (hhead : cs.head? ≠ some '[')
    (hdomain : domain? cs = some domain) (hne : domain ≠ []) :
    parse cs =
      if endsInNumber domain then parseIpv4 domain else .ok (.name (String.ofList domain)) := by
  rw [parse, if_neg hhead, hdomain]
  cases domain with
  | nil => exact absurd rfl hne
  | cons c domain => rfl

/-! ## Addresses of version 4 -/

theorem ipv4Number?_toDigits : ∀ b < 256, ipv4Number? (Nat.toDigits 10 b) = some b := by
  decide +kernel

theorem ipv4Value?_bytes (bs : Bytes) (hne : bs ≠ []) :
    ipv4Value? bs.length (bs.map UInt8.toNat) = some bs.toNat := by
  induction bs with
  | nil => exact absurd rfl hne
  | cons b bs ih =>
    have hb : b.toNat < 256 := b.toNat_lt
    cases bs with
    | nil => simp [ipv4Value?, hb, Bytes.toNat]
    | cons next bs =>
      have hrest := ih (List.cons_ne_nil next bs)
      rw [List.map_cons] at hrest
      rw [List.map_cons, List.map_cons, ipv4Value?, if_pos hb, List.length_cons, Nat.add_sub_cancel,
        hrest, Option.map_some, Bytes.toNat_cons b]
      exact List.cons_ne_nil _ _

def octets (n : Nat) : List (List Char) :=
  (Bytes.ofNat 4 n).map fun b => Nat.toDigits 10 b.toNat

theorem toList_text_ipv4 (n : Nat) : (ipv4 n).text.toList = ['.'].intercalate (octets n) := by
  have htoList : String.toList ∘ (fun b : UInt8 => decimalText b.toNat) =
      fun b => Nat.toDigits 10 b.toNat := funext fun b => String.toList_ofList
  rw [text, String.toList_intercalate, List.map_map, htoList]
  rfl

theorem of_mem_octets {n : Nat} {part : List Char} (h : part ∈ octets n) :
    part ≠ [] ∧ ∀ c ∈ part, ∃ d < 10, c = Nat.digitChar d := by
  obtain ⟨b, -, rfl⟩ := List.mem_map.1 h
  exact ⟨Nat.toDigits_ne_nil, fun c hc => Digits.exists_digit_of_mem_toDigits (by decide) hc⟩

theorem all_text_ipv4 (n : Nat) : Split.all '.' (ipv4 n).text.toList = octets n := by
  have hdigits : ∀ d < 10, Nat.digitChar d ≠ '.' := by decide
  have hne : octets n ≠ [] := by simp [octets, Bytes.ofNat]
  rw [toList_text_ipv4]
  refine Split.all_intercalate (fun part hpart hdot => ?_) hne
  obtain ⟨d, hd, hchar⟩ := (of_mem_octets hpart).2 '.' hdot
  exact hdigits d hd hchar.symm

theorem toAscii?_text_ipv4 (n : Nat) :
    toAscii? (ipv4 n).text.toList = some (ipv4 n).text.toList := by
  have hdigits : ∀ d < 10, Nat.digitChar d ≠ 'x' := by decide
  have hallowed : ∀ d < 10, Domain.isForbidden (Nat.digitChar d) = false ∧
      Domain.Punycode.isAscii (Nat.digitChar d) = true ∧
      (Nat.digitChar d).toLower = Nat.digitChar d := by decide
  refine toAscii?_of_plain (fun c hc => ?_) fun label hlabel => ?_
  · by_cases hdot : c = '.'
    · rw [hdot]
      decide
    · obtain ⟨part, hpart, hmem⟩ := Split.mem_all_of_mem hc hdot
      rw [all_text_ipv4] at hpart
      obtain ⟨d, hd, rfl⟩ := (of_mem_octets hpart).2 c hmem
      exact hallowed d hd
  · rw [all_text_ipv4] at hlabel
    refine decide_eq_false fun hmark => ?_
    have hx : 'x' ∈ label := List.mem_of_mem_take (by rw [hmark]; exact List.mem_cons_self)
    obtain ⟨d, hd, hchar⟩ := (of_mem_octets hlabel).2 'x' hx
    exact hdigits d hd hchar.symm

theorem withoutLastEmpty_octets (n : Nat) : withoutLastEmpty (octets n) = octets n := by
  refine if_neg fun hempty => ?_
  rw [Bool.and_eq_true, decide_eq_true_eq, decide_eq_true_eq] at hempty
  exact (of_mem_octets (List.mem_of_getLast? hempty.2)).1 rfl

theorem endsInNumber_text_ipv4 (n : Nat) : endsInNumber (ipv4 n).text.toList = true := by
  have hdecimal : ∀ d < 10, Digits.isDecimal (Nat.digitChar d) = true := by decide
  rw [endsInNumber, all_text_ipv4, withoutLastEmpty_octets]
  cases hlast : (octets n).getLast? with
  | none =>
    rw [List.getLast?_eq_none_iff] at hlast
    simp [octets, Bytes.ofNat] at hlast
  | some part =>
    obtain ⟨hne, hdigits⟩ := of_mem_octets (List.mem_of_getLast? hlast)
    have hall : part.all Digits.isDecimal = true := List.all_eq_true.2 fun c hc => by
      obtain ⟨d, hd, rfl⟩ := hdigits c hc
      exact hdecimal d hd
    simp [hne, hall]

theorem parseIpv4_text {n : Nat} (h : n < Nat.pow 256 4) :
    parseIpv4 (ipv4 n).text.toList = .ok (.ipv4 n) := by
  have hnumbers : (octets n).mapM ipv4Number? = some ((Bytes.ofNat 4 n).map UInt8.toNat) := by
    rw [mapM_eq_some_iff, octets, List.forall₂_map_left_iff, List.forall₂_map_right_iff,
      List.forall₂_same]
    exact fun b _ => ipv4Number?_toDigits b.toNat b.toNat_lt
  have hvalue : ipv4Value? 4 ((Bytes.ofNat 4 n).map UInt8.toNat) = some n := by
    have hbytes := ipv4Value?_bytes (Bytes.ofNat 4 n) (by simp [Bytes.ofNat])
    rwa [Bytes.length_ofNat, Bytes.toNat_ofNat_of_lt h] at hbytes
  have hlength : ¬4 < (octets n).length := by simp [octets]
  simp only [parseIpv4, all_text_ipv4, withoutLastEmpty_octets, if_neg hlength, hnumbers,
    Option.bind_some, hvalue]

theorem parse_ipv4 {n : Nat} (h : n < Nat.pow 256 4) :
    parse (ipv4 n).text.toList = .ok (.ipv4 n) := by
  have hname := toAscii?_text_ipv4 n
  have hallowed := fun c hc => (Domain.of_mem_toAscii? hname c hc).1
  have hhead := head?_ne_bracket fun c hc => isForbidden_of_domain (hallowed c hc)
  have hdomain : domain? (ipv4 n).text.toList = some (ipv4 n).text.toList := by
    rw [domain?_eq_toAscii? hallowed, hname]
  have hne : (ipv4 n).text.toList ≠ [] := fun hnil => by
    cases eq_of_text_empty (String.toList_inj.1 hnil)
  rw [parse_of_domain? hhead hdomain hne, if_pos (endsInNumber_text_ipv4 n), parseIpv4_text h]

theorem ipv4Value?_lt {place : Nat} {ns : List Nat} {n : Nat} (hlength : ns.length ≤ place)
    (h : ipv4Value? place ns = some n) : n < Nat.pow 256 place := by
  induction ns generalizing place n with
  | nil => cases h
  | cons m ns ih =>
    cases ns with
    | nil =>
      rw [ipv4Value?] at h
      obtain ⟨hlt, hm⟩ := Option.ite_none_right_eq_some.1 h
      rwa [← Option.some.inj hm]
    | cons next ns =>
      rw [ipv4Value?] at h
      · obtain ⟨hlt, hrest⟩ := Option.ite_none_right_eq_some.1 h
        obtain ⟨k, hk, rfl⟩ := Option.map_eq_some_iff.1 hrest
        obtain ⟨place, rfl⟩ : ∃ p, place = p + 1 := ⟨place - 1, by simp at hlength; omega⟩
        rw [Nat.add_sub_cancel] at hk ⊢
        have hk := ih (by simpa using hlength) hk
        have hstep : Nat.pow 256 (place + 1) = Nat.pow 256 place * 256 := rfl
        have hmul := Nat.mul_le_mul_right (Nat.pow 256 place) hlt
        rw [Nat.succ_mul] at hmul
        omega
      · exact List.cons_ne_nil _ _

theorem lt_of_parseIpv4 {n : Nat} (h : parseIpv4 cs = .ok (.ipv4 n)) : n < Nat.pow 256 4 := by
  unfold parseIpv4 at h
  simp only at h
  split at h
  · cases h
  rename_i hlength
  split at h
  · rename_i m hm
    cases h
    obtain ⟨ns, hns, hvalue⟩ := Option.bind_eq_some_iff.1 hm
    have hsame := (mapM_eq_some_iff.1 hns).length_eq
    exact ipv4Value?_lt (by omega) hvalue
  · cases h

/-! ## Addresses of version 6 -/

def IsRun (pieces : List Nat) (run : Nat × Nat) : Prop :=
  ∃ front back, pieces = front ++ List.replicate run.2 0 ++ back ∧ front.length = run.1

theorem IsRun.append {pieces : List Nat} {run : Nat × Nat} (h : IsRun pieces run) (n : Nat) :
    IsRun (pieces ++ [n]) run := by
  obtain ⟨front, back, hpieces, hlength⟩ := h
  exact ⟨front, back ++ [n], by rw [hpieces, List.append_assoc], hlength⟩

def EndsInRun (pieces : List Nat) (start run : Nat) : Prop :=
  ∃ front, pieces = front ++ List.replicate run 0 ∧ (run ≠ 0 → front.length = start)

theorem isRun_better {pieces : List Nat} {start run : Nat} {best : Nat × Nat}
    (hbest : IsRun pieces best) (hrun : EndsInRun pieces start run) :
    IsRun pieces (if best.2 < run then (start, run) else best) := by
  split
  · rename_i hlt
    obtain ⟨front, hpieces, hlength⟩ := hrun
    exact ⟨front, [], by rw [List.append_nil]; exact hpieces, hlength (by omega)⟩
  · exact hbest

theorem EndsInRun.succ {pieces : List Nat} {start run : Nat} (h : EndsInRun pieces start run) :
    EndsInRun (pieces ++ [0]) (if run = 0 then pieces.length else start) (run + 1) := by
  obtain ⟨front, hpieces, hfront⟩ := h
  refine ⟨front, ?_, fun _ => ?_⟩
  · rw [hpieces, List.append_assoc, ← List.replicate_succ']
  · split
    · rename_i hnone
      rw [hpieces, hnone, List.replicate_zero, List.append_nil]
    · rename_i hsome
      exact hfront hsome

theorem isRun_longestRun {before : List Nat} {start run : Nat} {best : Nat × Nat}
    (hbest : IsRun before best) (hrun : EndsInRun before start run) (pieces : List Nat) :
    IsRun (before ++ pieces) (longestRun before.length start run best pieces) := by
  induction pieces generalizing before start run best with
  | nil =>
    rw [List.append_nil]
    exact isRun_better hbest hrun
  | cons n pieces ih =>
    have hlength : before.length + 1 = (before ++ [n]).length := by simp
    rw [longestRun, hlength, List.append_cons]
    split
    · rename_i hzero
      subst hzero
      exact ih (hbest.append 0) hrun.succ
    · exact ih ((isRun_better hbest hrun).append n)
        ⟨before ++ [n], (List.append_nil _).symm, fun h => absurd rfl h⟩

theorem splitGap_append {part : List Char} (h : ':' ∉ part) (rest : List Char) :
    splitGap (part ++ rest) = (splitGap rest).map fun (a, b) => (part ++ a, b) := by
  induction part with
  | nil =>
    rw [List.nil_append]
    cases splitGap rest <;> rfl
  | cons c part ih =>
    rw [List.mem_cons, not_or] at h
    have hstep : splitGap (c :: (part ++ rest)) =
        (splitGap (part ++ rest)).map fun (a, b) => (c :: a, b) := by
      cases hbehind : part ++ rest with
      | nil => rfl
      | cons d behind =>
        rw [splitGap]
        · exact List.cons_ne_nil d behind
        · rintro rest rfl
          exact absurd rfl h.1
    rw [List.cons_append, hstep, ih h.2, Option.map_map]
    rfl

theorem splitGap_colon {c : Char} (h : c ≠ ':') (rest : List Char) :
    splitGap (':' :: c :: rest) = (splitGap (c :: rest)).map fun (a, b) => (':' :: a, b) := by
  rw [splitGap]
  · exact List.cons_ne_nil c rest
  · rintro behind - hcons
    rw [List.cons.injEq] at hcons
    exact h hcons.1

def AreParts (parts : List (List Char)) : Prop := ∀ part ∈ parts, part ≠ [] ∧ ':' ∉ part

theorem intercalate_colon (part next : List Char) (parts : List (List Char)) :
    [':'].intercalate (part :: next :: parts) =
      part ++ ':' :: [':'].intercalate (next :: parts) := by
  simp [List.intercalate]

theorem splitGap_intercalate {parts : List (List Char)} (h : AreParts parts) (rest : List Char) :
    splitGap ([':'].intercalate parts ++ rest) =
      (splitGap rest).map fun (a, b) => ([':'].intercalate parts ++ a, b) := by
  induction parts with
  | nil => exact splitGap_append List.not_mem_nil rest
  | cons part parts ih =>
    obtain ⟨hpart, hparts⟩ := List.forall_mem_cons.1 h
    cases parts with
    | nil =>
      have htext : [':'].intercalate [part] = part := by simp [List.intercalate]
      rw [htext]
      exact splitGap_append hpart.2 rest
    | cons next parts =>
      have hnext := hparts next List.mem_cons_self
      obtain ⟨c, behind, hcons⟩ : ∃ c behind,
          [':'].intercalate (next :: parts) = c :: behind ∧ c ≠ ':' := by
        obtain ⟨c, next, rfl⟩ := List.exists_cons_of_ne_nil hnext.1
        refine ⟨c, [':'].intercalate (next :: parts), ?_, ?_⟩
        · cases parts <;> simp [List.intercalate]
        · rintro rfl
          exact hnext.2 List.mem_cons_self
      have hrest := ih hparts
      rw [hcons.1, List.cons_append] at hrest
      rw [intercalate_colon, List.append_assoc, splitGap_append hpart.2, hcons.1, List.cons_append,
        List.cons_append, splitGap_colon hcons.2, hrest, Option.map_map, Option.map_map]
      refine congrArg (Option.map · _) (funext fun (a, b) => ?_)
      simp

def numerals (pieces : List Nat) : List (List Char) := pieces.map (Nat.toDigits 16)

theorem toList_piecesText (pieces : List Nat) :
    (piecesText pieces).toList = [':'].intercalate (numerals pieces) := by
  have htoList : String.toList ∘ (fun n => String.ofList (Nat.toDigits 16 n)) = Nat.toDigits 16 :=
    funext fun n => String.toList_ofList
  rw [piecesText, String.toList_intercalate, List.map_map, htoList]
  rfl

theorem of_mem_numerals {pieces : List Nat} {part : List Char} (h : part ∈ numerals pieces) :
    part ≠ [] ∧ ':' ∉ part ∧ '.' ∉ part := by
  have hdigits : ∀ d < 16, Nat.digitChar d ≠ ':' ∧ Nat.digitChar d ≠ '.' := by decide
  obtain ⟨n, -, rfl⟩ := List.mem_map.1 h
  refine ⟨Nat.toDigits_ne_nil, fun hmem => ?_, fun hmem => ?_⟩
  · obtain ⟨d, hd, hchar⟩ := Digits.exists_digit_of_mem_toDigits (by decide) hmem
    exact (hdigits d hd).1 hchar.symm
  · obtain ⟨d, hd, hchar⟩ := Digits.exists_digit_of_mem_toDigits (by decide) hmem
    exact (hdigits d hd).2 hchar.symm

theorem areParts_numerals (pieces : List Nat) : AreParts (numerals pieces) := fun _ hpart =>
  ⟨(of_mem_numerals hpart).1, (of_mem_numerals hpart).2.1⟩

def ArePieces (pieces : List Nat) : Prop := ∀ n ∈ pieces, n < 65536

theorem piece?_toDigits {n : Nat} (h : n < 65536) : piece? (Nat.toDigits 16 n) = some n := by
  have hdenotes : Digits.Denotes 16 (Nat.toDigits 16 n) n :=
    Digits.denotes_toDigits (by decide) (Nat.le_refl 16) n
  have hlength : (Nat.toDigits 16 n).length ≤ 4 :=
    (Nat.length_toDigits_le_iff (by decide) (by decide)).2 h
  rw [piece?, if_neg (by simp [Nat.toDigits_ne_nil, hlength]), hdenotes.2]

theorem pieces?_numerals {pieces : List Nat} (h : ArePieces pieces) :
    pieces? (numerals pieces) = some pieces := by
  induction pieces with
  | nil => rfl
  | cons n pieces ih =>
    obtain ⟨hn, hpieces⟩ := List.forall_mem_cons.1 h
    have hrest := ih hpieces
    cases pieces with
    | nil =>
      have hmem : Nat.toDigits 16 n ∈ numerals [n] := List.mem_cons_self
      have hdot : '.' ∉ Nat.toDigits 16 n := (of_mem_numerals hmem).2.2
      simp [numerals, pieces?, piece?_toDigits hn, hdot]
    | cons next pieces =>
      simp only [numerals, List.map_cons] at hrest ⊢
      rw [pieces?, piece?_toDigits hn, hrest]
      · rfl
      · exact List.cons_ne_nil _ _

theorem side?_piecesText {pieces : List Nat} (h : ArePieces pieces) :
    side? (piecesText pieces).toList = some pieces := by
  rw [toList_piecesText]
  cases pieces with
  | nil => rfl
  | cons n pieces =>
    have hne : numerals (n :: pieces) ≠ [] := List.cons_ne_nil _ _
    have hcolon := fun part hpart => (areParts_numerals (n :: pieces) part hpart).2
    have hall := Split.all_intercalate hcolon hne
    have htext : [':'].intercalate (numerals (n :: pieces)) ≠ [] := by
      intro hnil
      rw [hnil] at hall
      have hempty : [] ∈ numerals (n :: pieces) := by
        rw [← hall]
        exact List.mem_cons_self
      exact (of_mem_numerals hempty).1 rfl
    rw [side?, if_neg htext, hall, pieces?_numerals h]

theorem splitGap_piecesText (pieces : List Nat) (rest : List Char) :
    splitGap ((piecesText pieces).toList ++ rest) =
      (splitGap rest).map fun (a, b) => ((piecesText pieces).toList ++ a, b) := by
  rw [toList_piecesText]
  exact splitGap_intercalate (areParts_numerals pieces) rest

theorem parseIpv6_piecesText {pieces : List Nat} (hlength : pieces.length = 8)
    (h : ArePieces pieces) : parseIpv6 (piecesText pieces).toList = .ok (.ipv6 pieces) := by
  have hgap := splitGap_piecesText pieces []
  rw [List.append_nil, splitGap, Option.map_none] at hgap
  have hwhole : (some pieces).filter (fun read => decide (read.length = 8)) = some pieces := by
    simp [Option.filter, hlength]
  simp only [parseIpv6, hgap, side?_piecesText h, hwhole]

theorem parseIpv6_gap {front back : List Nat} {run : Nat} (hfront : ArePieces front)
    (hback : ArePieces back) (hrun : 1 ≤ run) (hsum : front.length + run + back.length = 8) :
    parseIpv6 ((piecesText front).toList ++ ':' :: ':' :: (piecesText back).toList) =
      .ok (.ipv6 (front ++ List.replicate run 0 ++ back)) := by
  have hgap := splitGap_piecesText front (':' :: ':' :: (piecesText back).toList)
  simp only [splitGap, Option.map_some, List.append_nil] at hgap
  have hdot : '.' ∉ (piecesText front).toList := fun hmem => by
    have hmark := mem_addressMarks_of_mem_piecesText hmem
    revert hmark
    decide
  have hzeros : 8 - front.length - back.length = run := by omega
  have hfew : front.length + back.length ≤ 7 := by omega
  simp [parseIpv6, hgap, hdot, side?_piecesText hfront, side?_piecesText hback, hfew, hzeros]

theorem parseIpv6_innerText {pieces : List Nat} (hlength : pieces.length = 8)
    (h : ArePieces pieces) : parseIpv6 (innerText pieces).toList = .ok (.ipv6 pieces) := by
  have hnone : IsRun [] (0, 0) := ⟨[], [], rfl, rfl⟩
  have hends : EndsInRun [] 0 0 := ⟨[], rfl, fun h => absurd rfl h⟩
  have hrun : IsRun pieces (longestRun 0 0 0 (0, 0) pieces) := isRun_longestRun hnone hends pieces
  unfold innerText
  cases hlongest : longestRun 0 0 0 (0, 0) pieces with
  | mk start run =>
  rw [hlongest] at hrun
  simp only
  split
  · exact parseIpv6_piecesText hlength h
  · rename_i hlong
    obtain ⟨front, back, hpieces, hstart⟩ := hrun
    simp only at hpieces hstart
    have htake : pieces.take start = front := by
      rw [hpieces, List.append_assoc, ← hstart, List.take_left]
    have hdrop : pieces.drop (start + run) = back := by
      rw [hpieces, ← hstart, List.drop_left' (by simp)]
    have hfront : ArePieces front := fun n hn => h n (by rw [hpieces]; simp [hn])
    have hback : ArePieces back := fun n hn => h n (by rw [hpieces]; simp [hn])
    have hsum : front.length + run + back.length = 8 := by
      rw [← hlength, hpieces, List.length_append, List.length_append, List.length_replicate]
    have htext : (piecesText (pieces.take start) ++ "::" ++
        piecesText (pieces.drop (start + run))).toList =
          (piecesText front).toList ++ ':' :: ':' :: (piecesText back).toList := by
      rw [htake, hdrop, String.toList_append, String.toList_append, List.append_assoc]
      rfl
    rw [htext, parseIpv6_gap hfront hback (by omega) hsum, hpieces]

theorem parse_ipv6 {pieces : List Nat} (hlength : pieces.length = 8) (h : ArePieces pieces) :
    parse (ipv6 pieces).text.toList = .ok (.ipv6 pieces) ∧
      parseOpaque (ipv6 pieces).text.toList = .ok (.ipv6 pieces) := by
  have hbracketed : bracketed? ('[' :: (innerText pieces).toList ++ [']']) =
      some (innerText pieces).toList := by
    rw [List.cons_append, bracketed?, if_pos (by simp), List.dropLast_concat]
  rw [toList_text_ipv6, parse, parseOpaque, hbracketed]
  exact ⟨parseIpv6_innerText hlength h, parseIpv6_innerText hlength h⟩

theorem lt_of_piece? {n : Nat} (h : piece? cs = some n) : n < 65536 := by
  unfold piece? at h
  split at h
  · cases h
  rename_i hlength
  simp only [Bool.or_eq_true, decide_eq_true_eq, not_or] at hlength
  obtain ⟨ds, hds, rfl⟩ := Option.map_eq_some_iff.1 h
  obtain ⟨hsame, hdigits⟩ := Quantity.length_of_values? hds
  calc Digits.fold 16 ds < 16 ^ ds.length := Digits.fold_lt hdigits
    _ ≤ 16 ^ 4 := Nat.pow_le_pow_right (by decide) (by omega)

theorem lt_of_octet? {n : Nat} (h : octet? cs = some n) : n < 256 := by
  unfold octet? at h
  split at h
  · cases h
  split at h
  · cases h
  · exact of_decide_eq_true (Option.filter_eq_some_iff.1 h).2

theorem arePieces_of_embedded? {pieces : List Nat} (h : embedded? cs = some pieces) :
    ArePieces pieces := by
  obtain ⟨octets, hoctets, h⟩ := Option.bind_eq_some_iff.1 h
  have hbound : ∀ n ∈ octets, n < 256 := fun n hn => by
    obtain ⟨part, -, hpart⟩ := exists_of_mem_right (mapM_eq_some_iff.1 hoctets) n hn
    exact lt_of_octet? hpart
  split at h
  · rename_i a b c d
    cases h
    have ha := hbound a (by simp)
    have hb := hbound b (by simp)
    have hc := hbound c (by simp)
    have hd := hbound d (by simp)
    intro n hn
    rcases List.mem_pair.1 hn with rfl | rfl <;> omega
  · cases h

theorem arePieces_of_pieces? {parts : List (List Char)} {pieces : List Nat}
    (h : pieces? parts = some pieces) : ArePieces pieces := by
  induction parts generalizing pieces with
  | nil =>
    cases h
    exact List.forall_mem_nil _
  | cons part parts ih =>
    cases parts with
    | nil =>
      rw [pieces?] at h
      split at h
      · exact arePieces_of_embedded? h
      · obtain ⟨n, hn, rfl⟩ := Option.map_eq_some_iff.1 h
        exact List.forall_mem_singleton.2 (lt_of_piece? hn)
    | cons next parts =>
      rw [pieces?] at h
      · obtain ⟨n, hn, h⟩ := Option.bind_eq_some_iff.1 h
        obtain ⟨rest, hrest, h⟩ := Option.bind_eq_some_iff.1 h
        cases h
        exact List.forall_mem_cons.2 ⟨lt_of_piece? hn, ih hrest⟩
      · exact List.cons_ne_nil _ _

theorem arePieces_of_side? {pieces : List Nat} (h : side? cs = some pieces) :
    ArePieces pieces := by
  unfold side? at h
  split at h
  · cases h
    exact List.forall_mem_nil _
  · exact arePieces_of_pieces? h

theorem of_parseIpv6 {pieces : List Nat} (h : parseIpv6 cs = .ok (.ipv6 pieces)) :
    pieces.length = 8 ∧ ArePieces pieces := by
  unfold parseIpv6 at h
  simp only at h
  split at h
  · rename_i read hread
    cases h
    split at hread
    · obtain ⟨hside, hlength⟩ := Option.filter_eq_some_iff.1 hread
      exact ⟨of_decide_eq_true hlength, arePieces_of_side? hside⟩
    · split at hread
      · cases hread
      obtain ⟨a, ha, hread⟩ := Option.bind_eq_some_iff.1 hread
      obtain ⟨b, hb, hread⟩ := Option.bind_eq_some_iff.1 hread
      obtain ⟨hfew, hread⟩ := Option.ite_none_right_eq_some.1 hread
      cases hread
      have hzeros : ∀ n ∈ List.replicate (8 - a.length - b.length) 0, n < 65536 := by
        intro n hn
        rw [List.eq_of_mem_replicate hn]
        decide
      refine ⟨?_, List.forall_mem_append.2 ⟨List.forall_mem_append.2
        ⟨arePieces_of_side? ha, hzeros⟩, arePieces_of_side? hb⟩⟩
      rw [List.length_append, List.length_append, List.length_replicate]
      omega
  · cases h

/-! ## Hosts that are read again -/

def HasAsciiName (host : Host) : Prop :=
  ∀ name, host = .name name → toAscii? name.toList = some name.toList

theorem parseOpaque_text (h : parseOpaque cs = .ok host) :
    parseOpaque host.text.toList = .ok host := by
  obtain ⟨inner, h⟩ | ⟨hallowed, rfl⟩ := cases_of_parseOpaque h
  · obtain ⟨pieces, rfl⟩ := exists_of_parseIpv6 h
    obtain ⟨hlength, hpieces⟩ := of_parseIpv6 h
    exact (parse_ipv6 hlength hpieces).2
  · have hmarks : ∀ c ∈ Percent.marks, isForbidden c = false ∧ Percent.isControl c = false :=
      List.all_iff_forall_prop.1 (by decide)
    have hchars : ∀ c ∈ Percent.encode Percent.isControl cs,
        isForbidden c = false ∧ Percent.isControl c = false :=
      Percent.forall_mem_encode (fun c hc hset => ⟨hallowed c hc, hset⟩) hmarks
    have hany : ¬(Percent.encode Percent.isControl cs).any isForbidden = true := by
      rw [List.any_eq_true]
      rintro ⟨c, hc, hforbidden⟩
      rw [(hchars c hc).1] at hforbidden
      cases hforbidden
    have hhead := head?_ne_bracket fun c hc => (hchars c hc).1
    rw [text, String.toList_ofList, parseOpaque, if_neg hhead, if_neg hany,
      Percent.encode_of_all_not fun c hc => (hchars c hc).2]

theorem parse_text_iff (h : parse cs = .ok host) :
    parse host.text.toList = .ok host ↔ host.HasAsciiName := by
  obtain ⟨inner, h⟩ | ⟨domain, h⟩ | ⟨domain, rfl, hne, hdomain, hnumber⟩ := cases_of_parse h
  · obtain ⟨pieces, rfl⟩ := exists_of_parseIpv6 h
    obtain ⟨hlength, hpieces⟩ := of_parseIpv6 h
    exact iff_of_true (parse_ipv6 hlength hpieces).1 nofun
  · obtain ⟨n, rfl⟩ := exists_of_parseIpv4 h
    exact iff_of_true (parse_ipv4 (lt_of_parseIpv4 h)) nofun
  · obtain ⟨given, -, hascii⟩ := Option.bind_eq_some_iff.1 hdomain
    have hallowed := fun c hc => (Domain.of_mem_toAscii? hascii c hc).1
    have hhead := head?_ne_bracket fun c hc => isForbidden_of_domain (hallowed c hc)
    have hname : (name (String.ofList domain)).HasAsciiName ↔ toAscii? domain = some domain := by
      constructor
      · intro h
        have hself := h _ rfl
        rwa [String.toList_ofList] at hself
      · intro hself other hother
        rwa [← Host.name.inj hother, String.toList_ofList]
    rw [hname, text, String.toList_ofList]
    constructor
    · intro hread
      obtain ⟨inner, hread⟩ | ⟨other, hread⟩ | ⟨other, hsame, -, hother, -⟩ := cases_of_parse hread
      · obtain ⟨pieces, hhost⟩ := exists_of_parseIpv6 hread
        cases hhost
      · obtain ⟨n, hhost⟩ := exists_of_parseIpv4 hread
        cases hhost
      · rw [domain?_eq_toAscii? hallowed] at hother
        rw [Host.name.injEq, String.ofList_inj] at hsame
        rw [hother, hsame]
    · intro hself
      have hdomain := (domain?_eq_toAscii? hallowed).trans hself
      rw [parse_of_domain? hhead hdomain hne, hnumber, if_neg Bool.false_ne_true]

end Tronkit.Host
