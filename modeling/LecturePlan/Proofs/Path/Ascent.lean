import LecturePlan.Path
import Mathlib.Data.List.DropRight
/-!
# Paths that leave their base

A walk forgets a step to the parent directory that finds no name to take back.  Below the root that is
as it should be, since the root is its own parent.  In a relative walk the directory that it starts from
is not known yet, and the step is forgotten all the same: seen from `.`, the paths `../x` and `x` lead to
one place.

`ascent` counts the steps that are forgotten.  With it a walk behind another one has an equation
(`walk_append`), and so have the two ways to see a path from a place of the file system, through a base
and by itself:

* `resolve_join_place` -- the base is joined to the place first: the steps are taken from the place;
* `resolve_resolve_place` -- the path is resolved against the base first: the steps are lost.

Hence the two agree for what is absolute, at the root, and for paths that stay below their base, and
for no others (`resolve_join_eq_iff`).
-/

namespace LecturePlan.Path

/-! ## 1. Walks that leave their start -/

/-- How many directories above its start a walk leads at the most. -/
def ascent : List Part → Nat
  | [] => 0
  | .name _ :: parts => ascent parts - 1
  | .parent :: parts => ascent parts + 1

/-- A walk that goes on takes back as many of the names walked so far as it ascends. -/
theorem foldl_step (walked : List String) (parts : List Part) :
    parts.foldl step walked = parts.foldl step [] ++ walked.drop (ascent parts) := by
  induction parts generalizing walked with
  | nil => rfl
  | cons part parts ih =>
    rw [List.foldl_cons, List.foldl_cons]
    cases part with
    | name s =>
      rw [step, step, ih (s :: walked), ih [s], List.append_assoc]
      congr 1
      rw [ascent]
      cases ascent parts <;> simp
    | parent =>
      rw [step, step, List.tail_nil, ih walked.tail, ascent, List.drop_tail]

theorem walk_append (parts more : List Part) :
    walk (parts ++ more) = (walk parts).rdrop (ascent more) ++ walk more := by
  rw [walk, List.foldl_append, foldl_step, List.reverse_append, List.rdrop_eq_reverse_drop_reverse,
    walk, walk, List.reverse_reverse]

theorem ascent_map_name (names : List String) : ascent (names.map .name) = 0 := by
  induction names with
  | nil => rfl
  | cons name names ih => rw [List.map_cons, ascent, ih]

/-- Names lead to themselves. -/
theorem walk_map_name (names : List String) : walk (names.map .name) = names := by
  induction names with
  | nil => rfl
  | cons name names ih =>
    have hcons : (name :: names).map Part.name = [.name name] ++ names.map Part.name := rfl
    rw [hcons, walk_append, ascent_map_name, List.rdrop_zero, ih]
    rfl

theorem rdrop_eq_self_iff {α : Type} {l : List α} {n : Nat} : l.rdrop n = l ↔ l = [] ∨ n = 0 := by
  constructor
  · intro h
    have hlength := congrArg List.length h
    rw [List.rdrop, List.length_take] at hlength
    rcases Nat.eq_zero_or_pos l.length with hl | hl
    · exact .inl (List.length_eq_zero_iff.mp hl)
    · exact .inr (by omega)
  · rintro (rfl | rfl)
    · exact List.rdrop_nil n
    · exact List.rdrop_zero l

/-! ## 2. Places of the file system -/

/-- The place that names lead to from the root. -/
def place (names : List String) : Path := ⟨true, names.map .name⟩

theorem place_injective {names names' : List String} (h : place names = place names') :
    names = names' := by
  have hwalk := congrArg (fun p : Path => walk p.parts) h
  simpa only [place, walk_map_name] using hwalk

theorem join_join (a b p : Path) : (a.join b).join p = a.join (b.join p) := by
  unfold join
  by_cases hp : p.rooted = true
  · rw [if_pos hp, if_pos hp, if_pos hp]
  · by_cases hb : b.rooted = true
    · simp [hp, hb]
    · simp [hp, hb, List.append_assoc]

/-- What is absolute is the same from everywhere. -/
theorem resolve_of_rooted {base p : Path} (h : (base.join p).rooted = true) (cwd : Path) :
    p.resolve (cwd.join base) = p.resolve base ∧ (p.resolve base).resolve cwd = p.resolve base := by
  have habsolute : (p.resolve base).rooted = true := h
  constructor
  · rw [resolve, join_join, join_of_rooted h, resolve]
  · rw [resolve, join_of_rooted habsolute, resolve, normalize, normalize, walk_map_name]

/-- Seen from a place, a relative path takes back names of the place. -/
theorem resolve_join_place {base p : Path} (h : (base.join p).rooted = false) (names : List String) :
    p.resolve ((place names).join base) =
      place (names.rdrop (ascent (base.join p).parts) ++ walk (base.join p).parts) := by
  rw [resolve, join_join, join, if_neg (by simp [h]), normalize, place, walk_append, walk_map_name,
    place]

/-- Resolved against its base before, it takes back none. -/
theorem resolve_resolve_place {base p : Path} (h : (base.join p).rooted = false)
    (names : List String) :
    (p.resolve base).resolve (place names) = place (names ++ walk (base.join p).parts) := by
  have hrelative : (p.resolve base).rooted = false := h
  have hparts : (p.resolve base).parts = (walk (base.join p).parts).map .name := rfl
  rw [resolve, join, if_neg (by simp [hrelative]), normalize, place, hparts, ← List.map_append,
    walk_map_name, place]

/-- **A path may be resolved against its base before the base has a place iff it does not leave the
base**, or is absolute, or the place is the root. -/
theorem resolve_join_eq_iff (names : List String) (base p : Path) :
    p.resolve ((place names).join base) = (p.resolve base).resolve (place names) ↔
      (base.join p).rooted = true ∨ names = [] ∨ ascent (base.join p).parts = 0 := by
  cases h : (base.join p).rooted with
  | true =>
    obtain ⟨hjoin, hresolve⟩ := resolve_of_rooted h (place names)
    simp only [hjoin, hresolve, true_or]
  | false =>
    rw [resolve_join_place h, resolve_resolve_place h]
    constructor
    · intro heq
      exact .inr (rdrop_eq_self_iff.mp (List.append_cancel_right (place_injective heq)))
    · rintro (habsolute | hstays)
      · cases habsolute
      · rw [rdrop_eq_self_iff.mpr hstays]

/-- From `.`, the path `../x` is `x`, which is another file. -/
theorem resolve_join_ne_of_parent :
    let cwd := ofString "/talks/week1"
    let base := ofString "."
    let p := ofString "../x"
    cwd = place ["talks", "week1"] ∧ (p.resolve base).toString = "x" ∧
      (p.resolve (cwd.join base)).toString = "/talks/x" ∧
      ((p.resolve base).resolve cwd).toString = "/talks/week1/x" ∧
      p.resolve (cwd.join base) ≠ (p.resolve base).resolve cwd := by
  decide +kernel

end LecturePlan.Path
