import Tronkit.Url.Basic
import Tronkit.Proofs.Number.Quantity
import Tronkit.Proofs.Url.Host
import Tronkit.Proofs.Url.Path

/-!
# Written authorities

The authority of a URL that was read is written: nothing in it is taken for an end of one of its
parts, and its port is not the one that the scheme implies. So it is read again part by part, and
only its host is looked at once more.
-/

namespace Tronkit

theorem Digits.filterMap_of_values? {base : Nat} {cs : List Char} {ds : List Nat}
    (h : values? base cs = some ds) : cs.filterMap (value? base) = ds := by
  induction cs generalizing ds with
  | nil =>
    cases h
    rfl
  | cons c cs ih =>
    obtain ⟨d, hd, h⟩ := Option.bind_eq_some_iff.1 h
    obtain ⟨rest, hrest, h⟩ := Option.bind_eq_some_iff.1 h
    cases h
    rw [List.filterMap_cons_some hd, ih hrest]

namespace Url

open Percent (inUserinfo encode)
open UrlPath (isHidden isSlash IsRooted)

variable {scheme : String} {special followed : Bool} {cs : List Char} {c : Char} {a : Authority}

def readHost (special : Bool) (cs : List Char) : Except UrlFault Host :=
  if special then Host.parse cs else Host.parseOpaque cs

theorem isWritten_of_readHost {host : Host} (h : readHost special cs = .ok host) :
    Host.IsWritten host.text.toList := by
  unfold readHost at h
  split at h
  · exact Host.isWritten_of_parse h
  · exact Host.isWritten_of_parseOpaque h

namespace Authority

def accountText (a : Authority) : List Char :=
  if a.username = "" ∧ a.password = "" then []
  else a.username.toList ++ (if a.password = "" then [] else ':' :: a.password.toList) ++ ['@']

def portText (a : Authority) : List Char :=
  match a.port with
  | some p => ':' :: Nat.toDigits 10 p
  | none => []

def text (a : Authority) : List Char := a.accountText ++ (a.host.text.toList ++ a.portText)

structure IsWritten (scheme : String) (a : Authority) : Prop where
  username : ∀ c ∈ a.username.toList, inUserinfo c = false
  password : ∀ c ∈ a.password.toList, inUserinfo c = false
  host : ∃ text, readHost (isSpecial scheme) text = .ok a.host
  port : ∀ p ∈ a.port, p ≤ 65535 ∧ defaultPort? scheme ≠ some p
  uncrowded : a.host.text = "" →
    isSpecial scheme = false ∧ a.username = "" ∧ a.password = "" ∧ a.port = none

theorem IsWritten.hostText (h : a.IsWritten scheme) : Host.IsWritten a.host.text.toList := by
  obtain ⟨text, hread⟩ := h.host
  exact isWritten_of_readHost hread

end Authority

/-! ## The parts of an authority -/

theorem splitUser_of_notMem (h : '@' ∉ cs) : splitUser cs = (none, cs) := by
  have hall : ∀ c ∈ cs.reverse, decide (c ≠ '@') = true := fun c hc =>
    decide_eq_true fun e => h (e ▸ List.mem_reverse.1 hc)
  have hhost : cs.reverse.takeWhile (· ≠ '@') = cs.reverse := List.takeWhile_eq_self_iff.2 hall
  simp only [splitUser, hhost, List.reverse_reverse, if_true]

theorem splitUser_append {user host : List Char} (h : '@' ∉ host) :
    splitUser (user ++ '@' :: host) = (some user, host) := by
  have hall : ∀ c ∈ host.reverse, decide (c ≠ '@') = true := fun c hc =>
    decide_eq_true fun e => h (e ▸ List.mem_reverse.1 hc)
  have hhost : (user ++ '@' :: host).reverse.takeWhile (· ≠ '@') = host.reverse := by
    rw [List.reverse_append, List.reverse_cons, List.append_assoc,
      List.takeWhile_append_of_pos hall]
    simp
  simp only [splitUser, hhost, List.reverse_reverse, List.length_append, List.length_cons]
  rw [if_neg (by omega), show user.length + (host.length + 1) - host.length - 1 = user.length by
    omega, List.take_left]

theorem splitUser_sublist (cs : List Char) : (splitUser cs).2.Sublist cs := by
  have hhost : (splitUser cs).2 = cs.rtakeWhile fun c => decide (c ≠ '@') := by
    simp only [splitUser]
    split <;> rfl
  rw [hhost]
  exact (List.rtakeWhile_suffix _ cs).sublist

theorem splitPort_sublist {inside : Bool} {digits : List Char}
    (h : (splitPort inside cs).2 = some digits) : digits.Sublist cs := by
  induction cs generalizing inside with
  | nil => cases h
  | cons c cs ih =>
    rw [splitPort] at h
    split at h
    · obtain rfl := Option.some.inj h
      exact List.sublist_cons_self c cs
    · exact (ih h).cons c

theorem splitPort_host {host : List Char} (h : Host.IsWritten host) (rest : List Char) :
    splitPort false (host ++ rest) =
      (host ++ (splitPort false rest).1, (splitPort false rest).2) := by
  cases h with
  | plain h =>
    induction host with
    | nil => rfl
    | cons c cs ih =>
      obtain ⟨hc, -⟩ := h c List.mem_cons_self
      have hcolon : c ≠ ':' := by rintro rfl; exact absurd hc (by decide)
      have hopen : c ≠ '[' := by rintro rfl; exact absurd hc (by decide)
      have hclose : c ≠ ']' := by rintro rfl; exact absurd hc (by decide)
      rw [List.cons_append, splitPort, if_neg (by simp [hcolon]), if_neg hopen, if_neg hclose,
        ih fun c hc => h c (List.mem_cons_of_mem _ hc)]
      rfl
  | @bracketed inner h =>
    have hinner : splitPort true (inner ++ ']' :: rest) =
        (inner ++ ']' :: (splitPort false rest).1, (splitPort false rest).2) := by
      induction inner with
      | nil => rfl
      | cons c cs ih =>
        have hmark := h c List.mem_cons_self
        have hopen : c ≠ '[' := by rintro rfl; exact absurd hmark (by decide)
        have hclose : c ≠ ']' := by rintro rfl; exact absurd hmark (by decide)
        rw [List.cons_append, splitPort, if_neg (by simp), if_neg hopen, if_neg hclose,
          ih fun c hc => h c (List.mem_cons_of_mem _ hc)]
        rfl
    rw [List.cons_append, List.cons_append, List.append_assoc, List.singleton_append, splitPort,
      if_neg (by decide), if_pos rfl, hinner]
    simp

theorem readPort_toDigits {p : Nat} (hp : p ≤ 65535) (hdefault : defaultPort? scheme ≠ some p) :
    readPort scheme (Nat.toDigits 10 p) = .ok (some p, []) := by
  have hdecimal : ∀ d < 10, Digits.isDecimal (Nat.digitChar d) = true := by decide
  have hall : ∀ c ∈ Nat.toDigits 10 p, Digits.isDecimal c = true := by
    intro c hc
    obtain ⟨d, hd, rfl⟩ := Digits.exists_digit_of_mem_toDigits (by decide) hc
    exact hdecimal d hd
  have hdenotes : Digits.Denotes 10 (Nat.toDigits 10 p) p :=
    Digits.denotes_toDigits (by decide) (by decide) p
  obtain ⟨hne, hvalue⟩ := hdenotes
  obtain ⟨ds, hds, hfold⟩ := Option.map_eq_some_iff.1 hvalue
  have hn : Digits.fold 10 ((Nat.toDigits 10 p).filterMap (Digits.value? 10)) = p := by
    rw [Digits.filterMap_of_values? hds, hfold]
  simp only [readPort, List.takeWhile_eq_self_iff.2 hall, List.dropWhile_eq_nil_iff.2 hall, hn]
  rw [if_neg (by simp; omega), if_neg (by simp [hne, hdefault])]

theorem readPort_spec {port : Option Nat} {rest : List Char}
    (h : readPort scheme cs = .ok (port, rest)) :
    (∀ p ∈ port, p ≤ 65535 ∧ defaultPort? scheme ≠ some p) ∧ rest.Sublist cs := by
  unfold readPort at h
  simp only at h
  split at h
  · cases h
  rename_i hlimit
  simp only [Bool.or_eq_true, decide_eq_true_eq, not_or] at hlimit
  split at h
  · cases h
    exact ⟨nofun, List.dropWhile_sublist _⟩
  · rename_i hdefault
    simp only [Bool.or_eq_true, decide_eq_true_eq, not_or] at hdefault
    cases h
    refine ⟨fun p hp => ?_, List.dropWhile_sublist _⟩
    rw [← Option.some.inj hp]
    exact ⟨Nat.not_lt.1 hlimit.1, hdefault.2⟩

/-! ## Authorities -/

namespace Authority

theorem exists_user (h : a.IsWritten scheme) {cs : List Char} (hcs : '@' ∉ cs) :
    ∃ user, splitUser (a.accountText ++ cs) = (user, cs) ∧ user ≠ some [] ∧
      ∃ secret, Split.first ':' (user.getD []) = (a.username.toList, secret) ∧
        secret.getD [] = a.password.toList := by
  have hcolon : ':' ∉ a.username.toList := fun hmem => absurd (h.username ':' hmem) (by decide)
  by_cases hnone : a.username = "" ∧ a.password = ""
  · refine ⟨none, ?_, nofun, none, ?_, ?_⟩
    · rw [accountText, if_pos hnone, List.nil_append, splitUser_of_notMem hcs]
    · rw [hnone.1]
      rfl
    · rw [hnone.2]
      rfl
  · by_cases hsecret : a.password = ""
    · have hname : a.username.toList ≠ [] := fun hnil =>
        hnone ⟨String.toList_inj.1 hnil, hsecret⟩
      refine ⟨some a.username.toList, ?_, fun hsome => hname (Option.some.inj hsome), none,
        Split.first_of_notMem hcolon, ?_⟩
      · rw [accountText, if_neg hnone, if_pos hsecret, List.append_nil, List.append_assoc]
        exact splitUser_append hcs
      · rw [hsecret]
        rfl
    · refine ⟨some (a.username.toList ++ ':' :: a.password.toList), ?_, ?_,
        some a.password.toList, Split.first_eq_some_iff.2 ⟨rfl, hcolon⟩, rfl⟩
      · rw [accountText, if_neg hnone, if_neg hsecret, List.append_assoc]
        exact splitUser_append hcs
      · simp

theorem of_mem_portText (a : Authority) :
    ∀ c ∈ a.portText, Percent.isControl c = false ∧ c ∉ Host.ends ∧ c ≠ '@' := by
  have hmarks : ∀ d < 10, Percent.isControl (Nat.digitChar d) = false ∧
      Nat.digitChar d ∉ Host.ends ∧ Nat.digitChar d ≠ '@' := by decide
  intro c hc
  unfold portText at hc
  split at hc
  · rcases List.mem_cons.1 hc with rfl | hc
    · decide
    · obtain ⟨d, hd, rfl⟩ := Digits.exists_digit_of_mem_toDigits (by decide) hc
      exact hmarks d hd
  · cases hc

theorem IsWritten.splitPort_text (h : a.IsWritten scheme) :
    splitPort false (a.host.text.toList ++ a.portText) =
      (a.host.text.toList, a.port.map (Nat.toDigits 10)) := by
  rw [splitPort_host h.hostText, portText]
  cases a.port with
  | none => simp [splitPort]
  | some p => simp [splitPort]

end Authority

def readRest (scheme : String) : Option (List Char) → Except UrlFault (Option Nat × List Char)
  | some digits => readPort scheme digits
  | none => .ok (none, [])

def encoded (cs : List Char) : String := String.ofList (encode inUserinfo cs)

theorem encoded_toList {s : String} (h : ∀ c ∈ s.toList, inUserinfo c = false) :
    encoded s.toList = s := by
  rw [encoded, Percent.encode_of_all_not h, String.ofList_toList]

/-- An authority is cut into its parts, and then its host and its port are read. -/
theorem readAuthority_of_parts {user secret digits : Option (List Char)}
    {hostPort account hostText : List Char} (huser : splitUser cs = (user, hostPort))
    (haccount : Split.first ':' (user.getD []) = (account, secret))
    (hport : splitPort false hostPort = (hostText, digits)) :
    readAuthority scheme followed cs =
      if (user = some [] && hostPort = [] && followed) || (hostText = [] &&
          (isSpecial scheme || digits.isSome || encoded account ≠ "" ||
            encoded (secret.getD []) ≠ "")) then .error .emptyHost
      else readHost (isSpecial scheme) hostText >>= fun host =>
        (readRest scheme digits).map fun read =>
          ⟨encoded account, encoded (secret.getD []), host, read.1, read.2⟩ := by
  simp only [readAuthority, huser, haccount, hport]
  split
  · rename_i hempty
    exact (if_pos hempty).symm
  · rename_i hempty
    rw [← encoded, ← encoded] at hempty ⊢
    rw [if_neg hempty]
    unfold readHost
    split
    all_goals
      refine bind_congr fun host => ?_
      cases digits with
      | none => rfl
      | some digits =>
        simp only [readRest]
        cases readPort scheme digits <;> rfl

theorem readAuthority_text (h : a.IsWritten scheme) (followed : Bool) :
    readAuthority scheme followed a.text =
      (readHost (isSpecial scheme) a.host.text.toList).map fun host =>
        { a with host := host, rest := [] } := by
  have hsign : '@' ∉ a.host.text.toList ++ a.portText := fun hmem => by
    rcases List.mem_append.1 hmem with hmem | hmem
    · exact (h.hostText.of_mem _ hmem).2.2 rfl
    · exact (a.of_mem_portText _ hmem).2.2 rfl
  obtain ⟨user, huser, hne, secret, hname, hsecret⟩ := Authority.exists_user h hsign
  have hrest : readRest scheme (a.port.map (Nat.toDigits 10)) = .ok (a.port, []) := by
    cases hport : a.port with
    | none => rfl
    | some p => exact readPort_toDigits (h.port p hport).1 (h.port p hport).2
  rw [Authority.text, readAuthority_of_parts huser hname h.splitPort_text, hsecret,
    encoded_toList h.username, encoded_toList h.password, hrest, if_neg]
  · cases readHost (isSpecial scheme) a.host.text.toList <;> rfl
  · intro hempty
    simp only [Bool.or_eq_true, Bool.and_eq_true, decide_eq_true_eq] at hempty
    rcases hempty with hempty | ⟨hhost, hcrowded⟩
    · exact hne hempty.1.1
    · obtain ⟨hspecial, hname, hpassword, hport⟩ := h.uncrowded (String.toList_inj.1 hhost)
      simp [hspecial, hname, hpassword, hport] at hcrowded

theorem of_readHost_empty {host : Host} (h : readHost special cs = .ok host)
    (hempty : host.text = "") : special = false ∧ cs = [] := by
  unfold readHost at h
  split at h
  · exact absurd hempty (Host.text_ne_empty_of_parse h)
  · rename_i hspecial
    exact ⟨Bool.eq_false_iff.2 hspecial, Host.eq_nil_of_parseOpaque h hempty⟩

theorem readRest_spec {digits : Option (List Char)} {port : Option Nat} {rest : List Char}
    (h : readRest scheme digits = .ok (port, rest)) :
    (∀ p ∈ port, p ≤ 65535 ∧ defaultPort? scheme ≠ some p) ∧ rest.Sublist (digits.getD []) ∧
      (digits = none → port = none) := by
  cases digits with
  | none =>
    cases h
    exact ⟨nofun, List.Sublist.refl [], fun _ => rfl⟩
  | some digits =>
    obtain ⟨hport, hrest⟩ := readPort_spec h
    exact ⟨hport, hrest, nofun⟩

theorem isWritten_of_readAuthority (h : readAuthority scheme followed cs = .ok a) :
    a.IsWritten scheme ∧ a.rest.Sublist cs := by
  have hmarks : ∀ c ∈ Percent.marks, inUserinfo c = false := List.all_iff_forall_prop.1 (by decide)
  have hencoded : ∀ text : List Char, ∀ c ∈ (encoded text).toList, inUserinfo c = false := by
    intro text
    rw [encoded, String.toList_ofList]
    exact Percent.forall_mem_encode (fun _ _ h => h) hmarks
  cases huser : splitUser cs with
  | mk user hostPort =>
  cases haccount : Split.first ':' (user.getD []) with
  | mk account secret =>
  cases hport : splitPort false hostPort with
  | mk hostText digits =>
  rw [readAuthority_of_parts huser haccount hport] at h
  split at h
  · cases h
  rename_i hcrowded
  obtain ⟨host, hhost, h⟩ := bind_eq_ok_iff.1 h
  obtain ⟨⟨port, rest⟩, hread, rfl⟩ := except_map_eq_ok_iff.1 h
  obtain ⟨hbounds, hrest, hnone⟩ := readRest_spec hread
  refine ⟨⟨hencoded _, hencoded _, ⟨hostText, hhost⟩, hbounds, fun hempty => ?_⟩, ?_⟩
  · obtain ⟨hspecial, hnil⟩ := of_readHost_empty hhost hempty
    simp only [hspecial, hnil, decide_true, Bool.false_or, Bool.true_and, Bool.or_eq_true, not_or,
      decide_eq_true_eq, ne_eq, Decidable.not_not, Bool.not_eq_true, Option.isSome_eq_false_iff,
      Option.isNone_iff_eq_none] at hcrowded
    exact ⟨hspecial, hcrowded.2.1.2, hcrowded.2.2, hnone hcrowded.2.1.1⟩
  · have hdigits : (digits.getD []).Sublist hostPort := by
      cases digits with
      | none => exact List.nil_sublist _
      | some digits => exact splitPort_sublist (congrArg Prod.snd hport)
    have hcs : hostPort.Sublist cs := by
      have h := splitUser_sublist cs
      rw [huser] at h
      exact h
    exact hrest.trans (hdigits.trans hcs)

/-! ## Authorities with a path -/

/-- Paths that can stand behind an authority: only if the scheme is special, there must be one. -/
def FollowsAuthority (special : Bool) (path : List Char) : Prop :=
  path = [] ∧ special = false ∨ IsRooted special path

theorem ends_of_inUserinfo (h : inUserinfo c = false) :
    Percent.isControl c = false ∧ c ∉ Host.ends := by
  have hends : ∀ c ∈ Host.ends, inUserinfo c = true := List.all_iff_forall_prop.1 (by decide)
  refine ⟨Percent.isControl_of_inFragment
    (Percent.inFragment_of_inPath (Percent.inPath_of_inUserinfo h)), fun hend => ?_⟩
  rw [hends c hend] at h
  cases h

theorem Authority.IsWritten.of_mem (h : a.IsWritten scheme) :
    ∀ c ∈ a.text, Percent.isControl c = false ∧ c ∉ Host.ends := by
  have hmarks : ∀ c ∈ [':', '@'], Percent.isControl c = false ∧ c ∉ Host.ends :=
    List.all_iff_forall_prop.1 (by decide)
  have haccount : ∀ c ∈ a.accountText, Percent.isControl c = false ∧ c ∉ Host.ends := by
    unfold accountText
    split
    · exact List.forall_mem_nil _
    · intro c hc
      rcases List.mem_append.1 hc with hc | hc
      · rcases List.mem_append.1 hc with hc | hc
        · exact ends_of_inUserinfo (h.username c hc)
        · split at hc
          · cases hc
          · rcases List.mem_cons.1 hc with rfl | hc
            · exact hmarks ':' (by decide)
            · exact ends_of_inUserinfo (h.password c hc)
      · rw [List.mem_singleton.1 hc]
        exact hmarks '@' (by decide)
  intro c hc
  rcases List.mem_append.1 hc with hc | hc
  · exact haccount c hc
  rcases List.mem_append.1 hc with hc | hc
  · exact ⟨(h.hostText.of_mem c hc).1, (h.hostText.of_mem c hc).2.1⟩
  · exact ⟨(a.of_mem_portText c hc).1, (a.of_mem_portText c hc).2.1⟩

theorem isSlash_of_notMem_ends (h : c ∉ Host.ends) (special : Bool) :
    isSlash special c = false := by
  have hslash : c ≠ '/' := by rintro rfl; exact h (by decide)
  have hback : c ≠ '\\' := by rintro rfl; exact h (by decide)
  simp [isSlash, hslash, hback]

theorem withAuthority_text (h : a.IsWritten scheme) {path : List Char}
    (hpath : FollowsAuthority (isSpecial scheme) path) (followed : Bool)
    (query fragment : Option String) :
    withAuthority scheme followed (a.text ++ path) query fragment =
      (readHost (isSpecial scheme) a.host.text.toList).map fun host =>
        ⟨scheme, a.username, a.password, some host, a.port, String.ofList path, query,
          fragment⟩ := by
  have htext : ∀ c ∈ a.text, (!isSlash (isSpecial scheme) c) = true := fun c hc => by
    rw [isSlash_of_notMem_ends (h.of_mem c hc).2]
    rfl
  have hcut : (a.text ++ path).takeWhile (!isSlash (isSpecial scheme) ·) = a.text ∧
      (a.text ++ path).dropWhile (!isSlash (isSpecial scheme) ·) = path := by
    rw [List.takeWhile_append_of_pos htext, List.dropWhile_append_of_pos htext]
    obtain ⟨rfl, -⟩ | hrooted := hpath
    · simp
    · obtain ⟨rest, rfl, -⟩ := hrooted.exists_rest
      simp [UrlPath.isSlash_slash]
  simp only [withAuthority, hcut.1, hcut.2, readAuthority_text h]
  cases readHost (isSpecial scheme) a.host.text.toList with
  | error fault => rfl
  | ok host =>
    obtain ⟨rfl, hspecial⟩ | hrooted := hpath
    · simp [hspecial, Except.map]
    · obtain ⟨rest, rfl, hrest⟩ := hrooted.exists_rest
      simp [UrlPath.isSlash_slash, UrlPath.follow_of_isWritten _ hrest, Except.map]

theorem exists_of_withAuthority {query fragment : Option String} {u : Url}
    (hshown : ∀ c ∈ cs, isHidden c = false)
    (h : withAuthority scheme followed cs query fragment = .ok u) :
    ∃ a path, Authority.IsWritten scheme a ∧ FollowsAuthority (isSpecial scheme) path ∧
      u = ⟨scheme, a.username, a.password, some a.host, a.port, String.ofList path, query,
        fragment⟩ := by
  unfold withAuthority at h
  simp only at h
  obtain ⟨a, ha, h⟩ := bind_eq_ok_iff.1 h
  obtain ⟨hwritten, hrest⟩ := isWritten_of_readAuthority ha
  cases h
  refine ⟨a, _, hwritten, ?_, rfl⟩
  have hbehind : ∀ c ∈ a.rest ++ cs.dropWhile (!isSlash (isSpecial scheme) ·),
      isHidden c = false := by
    intro c hc
    rcases List.mem_append.1 hc with hc | hc
    · exact hshown c ((List.takeWhile_sublist _).subset (hrest.subset hc))
    · exact hshown c ((List.dropWhile_sublist _).subset hc)
  split
  · rename_i hnone
    simp only [Bool.and_eq_true, Bool.not_eq_true'] at hnone
    exact .inl ⟨rfl, hnone.1⟩
  · refine .inr (UrlPath.isRooted_follow fun c hc => ?_)
    split at hc
    · exact hbehind c (List.mem_of_mem_drop hc)
    · exact hbehind c hc

end Url
end Tronkit
