/-!
# Splitting

Texts cut at a separator: at every one, or at the first alone. `flatten_all` says that cutting at
every separator loses nothing but the separators.
-/

namespace Tronkit.Split

/-- The parts between separators, one more than there are separators. -/
def all (separator : Char) (cs : List Char) : List (List Char) :=
  cs.foldr (fun c parts => if c = separator then [] :: parts
    else match parts with
      | part :: rest => (c :: part) :: rest
      | [] => [[c]]) [[]]

def first (separator : Char) (cs : List Char) : List Char × Option (List Char) :=
  match cs.dropWhile (· ≠ separator) with
  | [] => (cs, none)
  | _ :: rest => (cs.takeWhile (· ≠ separator), some rest)

theorem all_ne_nil (separator : Char) (cs : List Char) : all separator cs ≠ [] := by
  induction cs with
  | nil => simp [all]
  | cons c cs ih =>
    simp only [all, List.foldr_cons] at ih ⊢
    split
    · simp
    · split <;> simp

theorem all_of_notMem {separator : Char} {cs : List Char} (h : separator ∉ cs) :
    all separator cs = [cs] := by
  induction cs with
  | nil => rfl
  | cons c cs ih =>
    simp only [List.mem_cons, not_or] at h
    have tail : all separator cs = [cs] := ih h.2
    simp only [all] at tail
    simp [all, Ne.symm h.1, tail]

theorem flatten_all (separator : Char) (cs : List Char) :
    (all separator cs).flatten = cs.filter (· ≠ separator) := by
  induction cs with
  | nil => rfl
  | cons c cs ih =>
    have step : all separator (c :: cs) = if c = separator then [] :: all separator cs
        else match all separator cs with
          | part :: rest => (c :: part) :: rest
          | [] => [[c]] := rfl
    rw [step]
    split
    · rename_i h; simp [h, ih]
    · rename_i h
      split
      · rename_i part rest hp
        rw [hp] at ih
        simpa [h] using ih
      · rename_i hp
        exact absurd hp (all_ne_nil separator cs)

end Tronkit.Split
