import Tronkit.Node.Price
import Tronkit.Proofs.Number.Quantity
import Tronkit.Proofs.Text.Split

/-!
# The price in force

Of the entries that can be read and have begun, the one in force is the last of those that began at
the latest time. The scan holds the entry in force among those that it has seen, so the next one
takes its place unless it began earlier. Pieces of the text that are no such entries may be left
out, and entries of different times may stand in any order.
-/

namespace Tronkit

namespace Node.Price

/-- A number as the node writes it: decimal digits, perhaps behind a plus sign and between blanks. -/
def IsNumber (cs : List Char) (n : Nat) : Prop :=
  ∃ ds, (Blank.trim cs = ds ∨ Blank.trim cs = '+' :: ds) ∧ Digits.Denotes 10 ds n ∧ n < u64Limit

def Writes (piece : List Char) (e : Entry) : Prop :=
  ∃ since price, piece = since ++ ':' :: price ∧ ':' ∉ since ∧ IsNumber since e.since ∧
    IsNumber price e.price

inductive Begun (now : Nat) : List (List Char) → List Entry → Prop
  | nil : Begun now [] []
  | keep {piece : List Char} {e : Entry} {pieces : List (List Char)} {es : List Entry}
      (hwrites : Writes piece e) (hsince : e.since ≤ now) (h : Begun now pieces es) :
      Begun now (piece :: pieces) (e :: es)
  | skip {piece : List Char} {pieces : List (List Char)} {es : List Entry}
      (hskip : ∀ e, Writes piece e → now < e.since) (h : Begun now pieces es) :
      Begun now (piece :: pieces) es

def InForce (es : List Entry) (e : Entry) : Prop :=
  ∃ before later, es = before ++ e :: later ∧ (∀ k ∈ before, k.since ≤ e.since) ∧
    ∀ k ∈ later, k.since < e.since

variable {now : Nat} {es : List Entry} {e k : Entry} {piece : List Char}
  {pieces before later : List (List Char)}

/-! ## What a piece holds -/

theorem number?_eq_some_iff {cs : List Char} {n : Nat} : number? cs = some n ↔ IsNumber cs n := by
  have hread : number? cs = some n ↔ Unsigned.read 10 u64Limit (Blank.trim cs) = .ok n := by
    rw [number?]
    cases Unsigned.read 10 u64Limit (Blank.trim cs) <;> simp [Except.toOption]
  rw [hread]
  exact Unsigned.read_eq_ok_iff (by decide) (by decide)

theorem Entry.read?_of_first {since price : List Char}
    (h : Split.first ':' piece = (since, some price)) :
    Entry.read? piece = some e ↔ IsNumber since e.since ∧ IsNumber price e.price := by
  rw [Entry.read?, h]
  simp only [Option.bind_eq_bind, Option.bind_eq_some_iff, Option.pure_def, Option.some.injEq,
    number?_eq_some_iff]
  constructor
  · rintro ⟨start, hsince, amount, hprice, rfl⟩
    exact ⟨hsince, hprice⟩
  · rintro ⟨hsince, hprice⟩
    exact ⟨_, hsince, _, hprice, rfl⟩

theorem Entry.read?_eq_some_iff : Entry.read? piece = some e ↔ Writes piece e := by
  constructor
  · intro h
    cases hfirst : Split.first ':' piece with
    | mk since rest =>
      cases rest with
      | none =>
        rw [Entry.read?, hfirst] at h
        cases h
      | some price =>
        obtain ⟨hsince, hprice⟩ := (Entry.read?_of_first hfirst).1 h
        obtain ⟨hpiece, hcolon⟩ := Split.first_eq_some_iff.1 hfirst
        exact ⟨since, price, hpiece, hcolon, hsince, hprice⟩
  · rintro ⟨since, price, hpiece, hcolon, hsince, hprice⟩
    exact (Entry.read?_of_first (Split.first_eq_some_iff.2 ⟨hpiece, hcolon⟩)).2 ⟨hsince, hprice⟩

theorem begun_iff :
    Begun now pieces es ↔ es = (pieces.filterMap Entry.read?).filter (·.since ≤ now) := by
  induction pieces generalizing es with
  | nil =>
    constructor
    · intro h
      cases h
      rfl
    · rintro rfl
      exact .nil
  | cons piece pieces ih =>
    by_cases hbegun : ∃ e, Writes piece e ∧ e.since ≤ now
    · obtain ⟨e, hwrites, hsince⟩ := hbegun
      rw [List.filterMap_cons_some (Entry.read?_eq_some_iff.2 hwrites),
        List.filter_cons_of_pos (by simpa using hsince)]
      constructor
      · intro h
        cases h with
        | keep hwrites' hsince' h =>
          have hentry := (Entry.read?_eq_some_iff.2 hwrites').symm.trans
            (Entry.read?_eq_some_iff.2 hwrites)
          rw [Option.some.inj hentry, ih.1 h]
        | skip hskip h =>
          have hlater := hskip e hwrites
          omega
      · rintro rfl
        exact .keep hwrites hsince (ih.2 rfl)
    · have hskip : ∀ e, Writes piece e → now < e.since :=
        fun e hwrites => Nat.lt_of_not_le fun hsince => hbegun ⟨e, hwrites, hsince⟩
      have hnone : ((piece :: pieces).filterMap Entry.read?).filter (·.since ≤ now) =
          (pieces.filterMap Entry.read?).filter (·.since ≤ now) := by
        cases hentry : Entry.read? piece with
        | none => rw [List.filterMap_cons_none hentry]
        | some e =>
          have hlater := hskip e (Entry.read?_eq_some_iff.1 hentry)
          rw [List.filterMap_cons_some hentry, List.filter_cons_of_neg (by simpa using hlater)]
      rw [hnone, ← ih]
      constructor
      · intro h
        cases h with
        | keep hwrites hsince h => exact absurd ⟨_, hwrites, hsince⟩ hbegun
        | skip hskip h => exact h
      · exact .skip hskip

theorem Begun.since_le (h : Begun now pieces es) : ∀ e ∈ es, e.since ≤ now := by
  rw [begun_iff.1 h]
  intro e he
  simpa using (List.mem_filter.1 he).2

theorem Begun.of_skip (h : Begun now (before ++ piece :: later) es)
    (hskip : ∀ e, Writes piece e → now < e.since) : Begun now (before ++ later) es := by
  induction before generalizing es with
  | nil =>
    cases h with
    | keep hwrites hsince h =>
      have hlater := hskip _ hwrites
      omega
    | skip _ h => exact h
  | cons first before ih =>
    cases h with
    | keep hwrites hsince h => exact .keep hwrites hsince (ih h)
    | skip hskip' h => exact .skip hskip' (ih h)

/-! ## The entry in force -/

theorem InForce.mem (h : InForce es e) : e ∈ es := by
  obtain ⟨before, later, rfl, -, -⟩ := h
  simp

theorem InForce.since_le (h : InForce es e) : ∀ k ∈ es, k.since ≤ e.since := by
  obtain ⟨before, later, rfl, hbefore, hlater⟩ := h
  intro k hk
  rw [List.mem_append, List.mem_cons] at hk
  rcases hk with hk | rfl | hk
  · exact hbefore k hk
  · exact Nat.le_refl _
  · exact (hlater k hk).le

/-- Behind an entry in force no other can be. -/
theorem notMem_of_since {before behind rest : List Entry}
    (hle : ∀ j ∈ before ++ e :: rest, j.since ≤ k.since) (hlt : ∀ j ∈ behind, j.since < e.since) :
    k ∉ behind := by
  intro hk
  have h₁ := hle e (by simp)
  have h₂ := hlt k hk
  omega

theorem InForce.unique (h : InForce es e) (h' : InForce es k) : e = k := by
  obtain ⟨before, later, rfl, hbefore, hlater⟩ := h
  obtain ⟨before', later', hsplit, hbefore', hlater'⟩ := h'
  -- One of the two is the other or stands behind it.
  obtain ⟨rest, rfl, hrest⟩ | ⟨rest, rfl, hrest⟩ := List.append_eq_append_iff.1 hsplit
  · cases rest with
    | nil => exact (List.cons.inj hrest).1
    | cons j rest =>
      obtain ⟨rfl, rfl⟩ := List.cons.inj hrest
      exact absurd (by simp) (notMem_of_since hbefore' hlater)
  · cases rest with
    | nil => exact (List.cons.inj hrest).1.symm
    | cons j rest =>
      obtain ⟨rfl, rfl⟩ := List.cons.inj hrest
      exact absurd (by simp) (notMem_of_since hbefore hlater')

/-- Where no two entries are of one time, their order does not tell which is in force. -/
theorem inForce_iff_of_nodup (hnodup : (es.map Entry.since).Nodup) :
    InForce es e ↔ e ∈ es ∧ ∀ k ∈ es, k.since ≤ e.since := by
  refine ⟨fun h => ⟨h.mem, h.since_le⟩, ?_⟩
  rintro ⟨he, hmax⟩
  obtain ⟨before, later, rfl⟩ := List.append_of_mem he
  refine ⟨before, later, rfl, fun k hk => hmax k (by simp [hk]), fun k hk => ?_⟩
  have hne : e.since ≠ k.since := by
    rw [List.map_append, List.map_cons] at hnodup
    have hfresh := (List.nodup_cons.1 (List.nodup_append.1 hnodup).2.1).1
    exact fun h => hfresh (h ▸ List.mem_map_of_mem hk)
  have hle := hmax k (by simp [hk])
  omega

/-! ## The scan -/

theorem inForce_later (hsince : e.since ≤ now) (h : InForce es k) :
    ∃ held, Price.later now (some k) e = some held ∧ InForce (es ++ [e]) held := by
  rw [Price.later, if_neg (Nat.not_lt.2 hsince)]
  by_cases hle : k.since ≤ e.since
  · refine ⟨e, if_pos hle, es, [], rfl, fun j hj => (h.since_le j hj).trans hle, by simp⟩
  · obtain ⟨before, later, rfl, hbefore, hlater⟩ := h
    refine ⟨k, if_neg hle, before, later ++ [e], by simp, hbefore, fun j hj => ?_⟩
    rcases List.mem_append.1 hj with hj | hj
    · exact hlater j hj
    · obtain rfl := List.mem_singleton.1 hj
      exact Nat.lt_of_not_le hle

theorem exists_holding (hes : ∀ e ∈ es, e.since ≤ now) (hne : es ≠ []) :
    ∃ held, holding now es = some held ∧ InForce es held := by
  induction es using List.reverseRecOn with
  | nil => exact absurd rfl hne
  | append_singleton es e ih =>
    have hsince := hes e (by simp)
    rw [holding, List.foldl_append, ← holding, List.foldl_cons, List.foldl_nil]
    rcases List.eq_nil_or_concat es with rfl | hconcat
    · exact ⟨e, by simp [holding, Price.later, hsince], [], [], rfl, by simp, by simp⟩
    · have hpos : es ≠ [] := by
        rintro rfl
        simp at hconcat
      obtain ⟨k, hheld, hforce⟩ := ih (fun j hj => hes j (by simp [hj])) hpos
      rw [hheld]
      exact inForce_later hsince hforce

theorem holding_eq_none_iff (hes : ∀ e ∈ es, e.since ≤ now) : holding now es = none ↔ es = [] := by
  constructor
  · intro h
    by_contra hne
    obtain ⟨held, hheld, -⟩ := exists_holding hes hne
    rw [h] at hheld
    cases hheld
  · rintro rfl
    rfl

theorem holding_eq_some_iff (hes : ∀ e ∈ es, e.since ≤ now) :
    holding now es = some e ↔ InForce es e := by
  constructor
  · intro h
    have hne : es ≠ [] := by
      rintro rfl
      cases h
    obtain ⟨held, hheld, hforce⟩ := exists_holding hes hne
    rw [h] at hheld
    cases hheld
    exact hforce
  · intro h
    obtain ⟨held, hheld, hforce⟩ := exists_holding hes (List.ne_nil_of_mem h.mem)
    rw [hheld, h.unique hforce]

theorem foldl_later_filter (held : Option Entry) (es : List Entry) :
    (es.filter (·.since ≤ now)).foldl (Price.later now) held = es.foldl (Price.later now) held := by
  induction es generalizing held with
  | nil => rfl
  | cons e es ih =>
    by_cases hsince : e.since ≤ now
    · rw [List.filter_cons_of_pos (by simpa using hsince), List.foldl_cons, List.foldl_cons, ih]
    · have hskip : Price.later now held e = held := if_pos (Nat.lt_of_not_le hsince)
      rw [List.filter_cons_of_neg (by simpa using hsince), List.foldl_cons, hskip, ih]

theorem current_of_begun {prices : String} (h : Begun now (prices.toList.splitOn ',') es) :
    current prices now = (holding now es).map Entry.price := by
  rw [begun_iff.1 h, current, holding, holding, entries, Split.all_eq_splitOn, foldl_later_filter]

theorem holding_of_perm {es' : List Entry} (hes : ∀ e ∈ es, e.since ≤ now) (hperm : es'.Perm es)
    (hnodup : (es.map Entry.since).Nodup) : holding now es' = holding now es := by
  have hes' : ∀ e ∈ es', e.since ≤ now := fun e he => hes e (hperm.mem_iff.1 he)
  have hnodup' : (es'.map Entry.since).Nodup := (hperm.map Entry.since).nodup_iff.2 hnodup
  apply Option.ext
  intro e
  rw [holding_eq_some_iff hes', holding_eq_some_iff hes, inForce_iff_of_nodup hnodup',
    inForce_iff_of_nodup hnodup]
  simp only [hperm.mem_iff]

/-- The price is that of the entry in force among those that have begun, and there is none if no
entry has. It does not depend on a piece that holds no entry or one of the future, nor on the order
of entries of different times. -/
theorem current_in_force (prices : String) (now : Nat) :
    ∃ es, Begun now (prices.toList.splitOn ',') es ∧
      (current prices now = none ↔ es = []) ∧
      (∀ p, current prices now = some p ↔ ∃ e, InForce es e ∧ e.price = p) ∧
      (∀ other before piece later, prices.toList.splitOn ',' = before ++ piece :: later →
        (∀ e, Writes piece e → now < e.since) → other.toList.splitOn ',' = before ++ later →
        current other now = current prices now) ∧
      ∀ other es', Begun now (other.toList.splitOn ',') es' → es'.Perm es →
        (es.map Entry.since).Nodup → current other now = current prices now := by
  obtain ⟨es, hbegun⟩ : ∃ es, Begun now (prices.toList.splitOn ',') es := ⟨_, begun_iff.2 rfl⟩
  have hcurrent := current_of_begun hbegun
  refine ⟨es, hbegun, ?none, ?some, ?skipped, ?reordered⟩
  case none => rw [hcurrent, Option.map_eq_none_iff, holding_eq_none_iff hbegun.since_le]
  case some =>
    intro p
    simp only [hcurrent, Option.map_eq_some_iff, holding_eq_some_iff hbegun.since_le]
  case skipped =>
    intro other before piece later hprices hskip hother
    rw [hprices] at hbegun
    have hbegun' : Begun now (other.toList.splitOn ',') es := by
      rw [hother]
      exact hbegun.of_skip hskip
    rw [hcurrent, current_of_begun hbegun']
  case reordered =>
    intro other es' hbegun' hperm hnodup
    rw [hcurrent, current_of_begun hbegun', holding_of_perm hbegun.since_le hperm hnodup]

example : current "0:100,1575871200000:10,garbage, 1628077200000:+420,4102444800000:9" 1700000000000 =
    some 420 := by decide

end Node.Price
end Tronkit
