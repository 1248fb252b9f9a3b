import LecturePlan.Plan.Clip
/-!
# Keys of variants

A variant stands in its resource under a text that spells out its trim window and its fit.  A second
variant with the same text would be taken for the first, so the text has to tell all variants apart: the
bounds of a window never have a dash in them, which ends them, and a point in a file is told by its
canonical form, however many digits its hours have (`Variant.key_inj`).
-/

namespace LecturePlan

open LecturePlan.Text

/-! ## 1. Texts that end at a character -/

/-- Two texts that are cut at a character that neither has are told apart by what stands before it or
behind it. -/
theorem append_cons_inj_of_notMem {α : Type} {a b x y : List α} {c : α} (ha : c ∉ a) (hb : c ∉ b)
    (h : a ++ c :: x = b ++ c :: y) : a = b ∧ x = y := by
  induction a generalizing b with
  | nil =>
    cases b with
    | nil => exact ⟨rfl, (List.cons.inj h).2⟩
    | cons d b =>
      obtain ⟨rfl, -⟩ := List.cons.inj h
      exact absurd List.mem_cons_self hb
  | cons d a ih =>
    cases b with
    | nil =>
      obtain ⟨rfl, -⟩ := List.cons.inj h
      exact absurd List.mem_cons_self ha
    | cons e b =>
      obtain ⟨rfl, hrest⟩ := List.cons.inj h
      obtain ⟨rfl, hxy⟩ := ih (fun hm => ha (List.mem_cons_of_mem _ hm))
        (fun hm => hb (List.mem_cons_of_mem _ hm)) hrest
      exact ⟨rfl, hxy⟩

/-! ## 2. Bounds -/

open Text.Decimal

namespace Timestamp

theorem canonicalChars_eq (t : Timestamp) :
    t.canonicalChars = padded 2 t.hours ++ ':' :: (padded 2 t.minutes ++ ':' ::
      (padded 2 t.seconds ++ '.' :: padded 3 t.milliseconds)) := by
  simp [canonicalChars]

/-- The canonical form has digits, colons and a point. -/
theorem notMem_canonicalChars {t : Timestamp} {c : Char} (hdigit : isDigit c = false)
    (hcolon : c ≠ ':') (hpoint : c ≠ '.') : c ∉ t.canonicalChars := by
  simp [canonicalChars_eq, notMem_padded hdigit, hcolon, hpoint]

/-- The canonical form tells points apart, of any size. -/
theorem canonicalChars_injective {t u : Timestamp} (h : t.canonicalChars = u.canonicalChars) :
    t = u := by
  have hcolon {width n : Nat} : ':' ∉ padded width n := notMem_padded (by decide)
  have hpoint {width n : Nat} : '.' ∉ padded width n := notMem_padded (by decide)
  rw [canonicalChars_eq, canonicalChars_eq] at h
  obtain ⟨hhours, h⟩ := append_cons_inj_of_notMem hcolon hcolon h
  obtain ⟨hminutes, h⟩ := append_cons_inj_of_notMem hcolon hcolon h
  obtain ⟨hseconds, hmilliseconds⟩ := append_cons_inj_of_notMem hpoint hpoint h
  have hpadded {width m n : Nat} (h : padded width m = padded width n) : m = n := by
    rw [← value_padded width m, h, value_padded]
  have ht := t.parts_total
  rw [hpadded hhours, hpadded hminutes, hpadded hseconds, hpadded hmilliseconds, u.parts_total] at ht
  cases t
  cases u
  exact congrArg Timestamp.mk ht.symm

end Timestamp

namespace ClipBound

/-- The characters of a bound. -/
def chars (b : ClipBound) : List Char := b.toString.toList

theorem chars_at (t : Timestamp) : (ClipBound.at' t).chars = t.canonicalChars := by
  rw [chars, toString, Timestamp.canonical, String.toList_ofList]

/-- A bound has no dash in it. -/
theorem dash_notMem_chars (b : ClipBound) : '-' ∉ b.chars := by
  cases b with
  | start => decide
  | end' => decide
  | at' t =>
    rw [chars_at]
    exact Timestamp.notMem_canonicalChars (by decide) (by decide) (by decide)

/-- A point is told from both ends of a file by any letter of these. -/
theorem chars_at_ne {t : Timestamp} {s : List Char} {c : Char} (hc : c ∈ s)
    (hdigit : isDigit c = false) (hcolon : c ≠ ':') (hpoint : c ≠ '.') :
    (ClipBound.at' t).chars ≠ s := by
  rintro rfl
  rw [chars_at] at hc
  exact Timestamp.notMem_canonicalChars hdigit hcolon hpoint hc

theorem chars_injective {b e : ClipBound} (h : b.chars = e.chars) : b = e := by
  have hstart {t : Timestamp} : (ClipBound.at' t).chars ≠ ClipBound.start.chars :=
    chars_at_ne (c := 'S') (by decide) (by decide) (by decide) (by decide)
  have hend {t : Timestamp} : (ClipBound.at' t).chars ≠ ClipBound.end'.chars :=
    chars_at_ne (c := 'E') (by decide) (by decide) (by decide) (by decide)
  cases b with
  | start =>
    cases e with
    | start => rfl
    | end' => exact absurd h (by decide)
    | at' t => exact absurd h.symm hstart
  | end' =>
    cases e with
    | start => exact absurd h (by decide)
    | end' => rfl
    | at' t => exact absurd h.symm hend
  | at' t =>
    cases e with
    | start => exact absurd h hstart
    | end' => exact absurd h hend
    | at' u =>
      rw [chars_at, chars_at] at h
      rw [Timestamp.canonicalChars_injective h]

end ClipBound

/-! ## 3. Keys -/

namespace Variant

/-- The end of a key: the fit, if there is one. -/
def fitChars : Option Fit → List Char
  | some f => '-' :: f.name.toList
  | none => []

theorem toList_key (v : Variant) :
    v.key.toList = v.clipBegin.chars ++ '-' :: (v.clipEnd.chars ++ fitChars v.fit) := by
  obtain ⟨b, e, fit⟩ := v
  cases fit <;> simp [key, ClipBound.chars, fitChars]

/-- What follows the first dash is told apart: a bound, and a fit behind another dash if there is one. -/
theorem chars_append_fitChars_inj {b e : ClipBound} {f g : Option Fit}
    (h : b.chars ++ fitChars f = e.chars ++ fitChars g) : b = e ∧ f = g := by
  cases f with
  | none =>
    rw [fitChars, List.append_nil] at h
    cases g with
    | none =>
      rw [fitChars, List.append_nil] at h
      exact ⟨ClipBound.chars_injective h, rfl⟩
    | some g =>
      have hdash : '-' ∈ b.chars := by simp [h, fitChars]
      exact absurd hdash b.dash_notMem_chars
  | some f =>
    cases g with
    | none =>
      rw [fitChars, fitChars, List.append_nil] at h
      have hdash : '-' ∈ e.chars := by simp [← h]
      exact absurd hdash e.dash_notMem_chars
    | some g =>
      obtain ⟨hbound, hname⟩ :=
        append_cons_inj_of_notMem b.dash_notMem_chars e.dash_notMem_chars h
      exact ⟨ClipBound.chars_injective hbound,
        congrArg some (Fit.name_injective (String.toList_inj.mp hname))⟩

/-- **A key tells variants apart.** -/
theorem key_inj {v w : Variant} (h : v.key = w.key) : v = w := by
  have hchars := congrArg String.toList h
  rw [toList_key, toList_key] at hchars
  obtain ⟨hbegin, hrest⟩ := append_cons_inj_of_notMem v.clipBegin.dash_notMem_chars
    w.clipBegin.dash_notMem_chars hchars
  obtain ⟨hend, hfit⟩ := chars_append_fitChars_inj hrest
  cases v
  cases w
  rw [Variant.mk.injEq]
  exact ⟨ClipBound.chars_injective hbegin, hend, hfit⟩

end Variant

end LecturePlan
