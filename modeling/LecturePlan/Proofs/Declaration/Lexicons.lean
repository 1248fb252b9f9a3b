import LecturePlan.Declaration.Lexicon
import Mathlib.Data.List.Induction
/-!
# What a lexicon element declares

A lexicon is read lexeme by lexeme: a lexeme with a new written form is appended, and one with a written
form that is there takes the place of the earlier one.  This module says what comes out of that, without
the order of reading.  A lexeme element is two tags of plain text (`Element.lexeme?`); the written forms
stand in the order in which each came first, every one with the lexeme that came last (`latest`).

- `readLexeme_fst`, `read_fst`: what is read is what is declared.
- `nodup_latest`: no written form stands twice.

Which of several entries with one key is first (`firsts`) is asked again of decks and lexicons, where the
first one stays.
-/

namespace LecturePlan

open LecturePlan.Markup

/-! ## 1. The first of each key -/

section Firsts

variable {α : Type} {key : α → String}

/-- The first entry of each key, in order. -/
def firsts (key : α → String) : List α → List α
  | [] => []
  | a :: as => a :: (firsts key as).filter fun b => key b != key a

theorem sublist_firsts (l : List α) : (firsts key l).Sublist l := by
  induction l with
  | nil => exact .slnil
  | cons a l ih => exact (List.filter_sublist.trans ih).cons_cons a

theorem nodup_firsts (l : List α) : ((firsts key l).map key).Nodup := by
  induction l with
  | nil => exact List.nodup_nil
  | cons a l ih =>
    rw [firsts, List.map_cons, List.nodup_cons]
    refine ⟨?_, ih.sublist (List.filter_sublist.map key)⟩
    simp

/-- Looked up by their keys they are the same as all entries. -/
theorem find?_firsts (l : List α) (k : String) :
    (firsts key l).find? (fun a => key a == k) = l.find? fun a => key a == k := by
  induction l with
  | nil => rfl
  | cons a l ih =>
    rw [firsts, List.find?_cons, List.find?_cons, List.find?_filter]
    cases hk : key a == k with
    | true => rfl
    | false =>
      have hother : ∀ b, (decide ((key b != key a) = true ∧ (key b == k) = true)) = (key b == k) := by
        intro b
        by_cases hb : key b = k
        · have hne : k ≠ key a := fun h => by simp [h] at hk
          simp [hb, hne]
        · simp [hb]
      simp only [hother, ih]

/-- An entry is among them if its key is new. -/
theorem firsts_append_singleton (l : List α) (a : α) :
    firsts key (l ++ [a]) =
      if (l.find? fun b => key b == key a).isSome then firsts key l else firsts key l ++ [a] := by
  induction l with
  | nil => rfl
  | cons b l ih =>
    rw [List.cons_append, firsts, ih, List.find?_cons, firsts]
    cases hab : key b == key a with
    | true =>
      have hdrop : (key a != key b) = false := by rw [beq_iff_eq.mp hab, bne_self_eq_false]
      dsimp only [Option.isSome_some]
      rw [if_pos rfl]
      split
      · rfl
      · simp [List.filter_append, hdrop]
    | false =>
      have hkeep : (key a != key b) = true := by
        rw [bne_iff_ne]
        exact fun h => by simp [h] at hab
      dsimp only
      split
      · rfl
      · simp [List.filter_append, hkeep]

theorem isSome_find?_iff {l : List α} {k : String} :
    (l.find? fun a => key a == k).isSome = true ↔ k ∈ l.map key := by
  simp [List.find?_isSome]

/-- An entry of a key that no other has is found by it. -/
theorem find?_eq_some_of_nodup {l : List α} (h : (l.map key).Nodup) {a : α} (ha : a ∈ l) :
    (l.find? fun b => key b == key a) = some a := by
  induction l with
  | nil => exact absurd ha List.not_mem_nil
  | cons b l ih =>
    rw [List.map_cons, List.nodup_cons] at h
    rw [List.find?_cons]
    rcases List.mem_cons.mp ha with rfl | ha
    · rw [beq_self_eq_true]
    · have hne : (key b == key a) = false := by
        rw [beq_eq_false_iff_ne]
        exact fun hkey => h.1 (hkey ▸ List.mem_map_of_mem ha)
      rw [hne]
      exact ih h.2 ha

end Firsts

/-! ## 2. Lexemes -/

/-- What a tag inside of a lexeme gives, if it is a tag for that and has text alone in it. -/
def Markup.Element.lexemePart? (e : Element) : Option (Lexicon.Role × String) :=
  match e.children with
  | [.text s] => (Lexicon.Role.ofName? e.tag.name).map fun role => (role, s)
  | _ => none

/-- The lexeme that an element declares, if it is well formed: two tags and nothing else, one with the
written form and one with what is spoken for it, in either order. -/
def Markup.Element.lexeme? (e : Element) : Option Lexeme :=
  match e.children with
  | [.element t ns, .element u ms] =>
    match (Element.mk t ns).lexemePart?, (Element.mk u ms).lexemePart? with
    | some (.written, grapheme), some (.spoken kind, replacement) => some ⟨grapheme, kind, replacement⟩
    | some (.spoken kind, replacement), some (.written, grapheme) => some ⟨grapheme, kind, replacement⟩
    | _, _ => none
  | _ => none

namespace Lexicon

theorem readPart_fst (p : Parts) (e : Element) :
    (readPart p e).1 =
      match e.lexemePart? with
      | some (.written, s) => { p with grapheme := some s }
      | some (.spoken kind, s) => { p with spoken := some (kind, s) }
      | none => p := by
  obtain ⟨tag, children⟩ := e
  unfold readPart Element.lexemePart?
  dsimp only
  rcases Role.ofName? tag.name with _ | _ | kind
  all_goals
    match children with
    | [] => rfl
    | [.text s] => rfl
    | .text s :: _ :: _ => rfl
    | .element t ns :: _ => rfl

/-- A lexeme is read off its element. -/
theorem readLexeme_fst (e : Element) : (readLexeme e).1 = e.lexeme? := by
  obtain ⟨tag, children⟩ := e
  unfold readLexeme Element.lexeme?
  match children with
  | [.element t ns, .element u ms] =>
    have hparts : (readParts ⟨none, none⟩ [⟨t, ns⟩, ⟨u, ms⟩]).1 =
        (readPart (readPart ⟨none, none⟩ ⟨t, ns⟩).1 ⟨u, ms⟩).1 := rfl
    rw [readPart_fst, readPart_fst] at hparts
    simp only [Element.childElements, List.filterMap_cons, List.filterMap_nil, List.length_cons,
      List.length_nil, hparts]
    rcases (Element.mk t ns).lexemePart? with _ | ⟨_ | kind, s⟩ <;>
      rcases (Element.mk u ms).lexemePart? with _ | ⟨_ | kind', r⟩ <;> rfl
  | [] => rfl
  | [_] => simp
  | [.text s, .text r] => rfl
  | [.text s, .element u ms] => rfl
  | [.element t ns, .text s] => rfl
  | _ :: _ :: _ :: _ => simp

/-! ## 3. Written forms that come again -/

/-- The lexemes of distinct written forms.  Each stands where its form came first, and is the one that
came last with it. -/
def latest (ls : List Lexeme) : List Lexeme :=
  (firsts Lexeme.grapheme ls).map fun x =>
    (ls.reverse.find? fun l => l.grapheme == x.grapheme).getD x

/-- What stands for a written form has that form. -/
theorem grapheme_getD_find? (ls : List Lexeme) (x : Lexeme) :
    ((ls.find? fun l => l.grapheme == x.grapheme).getD x).grapheme = x.grapheme := by
  cases h : ls.find? fun l => l.grapheme == x.grapheme with
  | none => rfl
  | some l => simpa using List.find?_some h

theorem map_grapheme_latest (ls : List Lexeme) :
    (latest ls).map Lexeme.grapheme = (firsts Lexeme.grapheme ls).map Lexeme.grapheme := by
  rw [latest, List.map_map]
  exact List.map_congr_left fun x _ => grapheme_getD_find? _ x

theorem nodup_latest (ls : List Lexeme) : ((latest ls).map Lexeme.grapheme).Nodup := by
  rw [map_grapheme_latest]
  exact nodup_firsts ls

theorem latest_eq_nil_iff {ls : List Lexeme} : latest ls = [] ↔ ls = [] := by
  rw [latest, List.map_eq_nil_iff]
  cases ls <;> simp [firsts]

/-- A lexeme takes the place of another one with its written form, or stands behind all. -/
theorem insertLexeme_eq (l : Lexeme) {xs : List Lexeme} (h : (xs.map Lexeme.grapheme).Nodup) :
    insertLexeme l xs =
      if (xs.find? fun x => x.grapheme == l.grapheme).isSome then
        xs.map fun x => if x.grapheme = l.grapheme then l else x
      else xs ++ [l] := by
  induction xs with
  | nil => rfl
  | cons x xs ih =>
    rw [List.map_cons, List.nodup_cons] at h
    obtain ⟨hx, hxs⟩ := h
    rw [insertLexeme, List.find?_cons, List.map_cons]
    by_cases hsame : x.grapheme = l.grapheme
    · have hother : ∀ y ∈ xs, (if y.grapheme = l.grapheme then l else y) = y := fun y hy =>
        if_neg fun hy' => hx (List.mem_map.mpr ⟨y, hy, hy'.trans hsame.symm⟩)
      have hrest : xs.map (fun y => if y.grapheme = l.grapheme then l else y) = xs := by
        rw [List.map_congr_left hother, List.map_id']
      simp [hsame, hrest]
    · rw [if_neg hsame, ih hxs]
      have hb : (x.grapheme == l.grapheme) = false := by simpa using hsame
      simp only [hb, if_neg hsame]
      split <;> rfl

theorem latest_append_singleton (ls : List Lexeme) (l : Lexeme) :
    latest (ls ++ [l]) = insertLexeme l (latest ls) := by
  have hfound : ((latest ls).find? fun x => x.grapheme == l.grapheme).isSome =
      (ls.find? fun x => x.grapheme == l.grapheme).isSome := by
    rw [← find?_firsts ls, Bool.eq_iff_iff, isSome_find?_iff, isSome_find?_iff, map_grapheme_latest]
  -- what stands for a form is the new lexeme, if that is its form
  have hstep : ∀ x : Lexeme, (((ls ++ [l]).reverse.find? fun y => y.grapheme == x.grapheme).getD x) =
      let y := (ls.reverse.find? fun y => y.grapheme == x.grapheme).getD x
      if y.grapheme = l.grapheme then l else y := by
    intro x
    dsimp only
    rw [grapheme_getD_find?, List.reverse_append, List.reverse_singleton, List.singleton_append,
      List.find?_cons]
    by_cases hx : x.grapheme = l.grapheme
    · simp [hx]
    · have hlx : (l.grapheme == x.grapheme) = false := by simpa using fun h => hx h.symm
      rw [hlx, if_neg hx]
  rw [insertLexeme_eq l (nodup_latest ls), hfound, latest, firsts_append_singleton,
    funext hstep]
  split
  · rw [latest, List.map_map]
    rfl
  · next hnew =>
    have hmiss : l.grapheme ∉ (firsts Lexeme.grapheme ls).map Lexeme.grapheme := by
      rw [← isSome_find?_iff, find?_firsts]
      exact hnew
    rw [List.map_append, List.map_singleton, if_pos (grapheme_getD_find? _ l), latest]
    congr 1
    refine List.map_congr_left fun x hx => if_neg ?_
    rw [grapheme_getD_find?]
    exact fun h => hmiss (List.mem_map.mpr ⟨x, hx, h⟩)

/-- Lexemes that are added one by one. -/
theorem foldl_insertLexeme (ls : List Lexeme) :
    ls.foldl (fun xs l => insertLexeme l xs) [] = latest ls := by
  induction ls using List.reverseRecOn with
  | nil => rfl
  | append_singleton ls l ih =>
    rw [List.foldl_append, ih, latest_append_singleton]
    rfl

theorem readLexemes_fst (x : Lexicon) (es : List Element) :
    (readLexemes x es).1 =
      { x with
        lexemes := (es.filterMap Element.lexeme?).foldl (fun xs l => insertLexeme l xs) x.lexemes } := by
  induction es generalizing x with
  | nil => rfl
  | cons e es ih =>
    rw [readLexemes, List.filterMap_cons, ← readLexeme_fst]
    dsimp only
    split
    · next l hl =>
      rw [hl]
      exact ih _
    · next hl =>
      rw [hl]
      exact ih _

/-! ## 4. Lexicons -/

end Lexicon

/-- The lexemes that a lexicon element declares, in order. -/
def Markup.Element.lexemes (e : Element) : List Lexeme :=
  (e.childElements.filter fun c => c.tag.name == "lexeme").filterMap Element.lexeme?

/-- The lexicon that an element declares, if it has an id and a lexeme. -/
def Markup.Element.lexicon? (e : Element) : Option Lexicon :=
  match e.tag.nonEmptyAttr? "xml:id" with
  | some id =>
    if e.lexemes = [] then none
    else some ⟨id, e.tag.nonEmptyAttr? "alphabet", Lexicon.latest e.lexemes⟩
  | none => none

namespace Lexicon

/-- **A lexicon is read off its element.** -/
theorem read_fst (e : Element) : (read e).1 = e.lexicon? := by
  unfold read Element.lexicon?
  cases e.tag.nonEmptyAttr? "xml:id" with
  | none => rfl
  | some id =>
    have hfound : (readLexemes ⟨id, e.tag.nonEmptyAttr? "alphabet", []⟩
        (e.childElements.filter fun c => c.tag.name == "lexeme")).1 =
        ⟨id, e.tag.nonEmptyAttr? "alphabet", latest e.lexemes⟩ := by
      rw [readLexemes_fst, foldl_insertLexeme]
      rfl
    dsimp only
    rw [hfound]
    by_cases h : e.lexemes = [] <;> simp [h, latest_eq_nil_iff]

/-- A lexicon that is declared has an id and a lexeme, and no written form twice. -/
theorem sound_of_declared {e : Element} {x : Lexicon} (h : e.lexicon? = some x) :
    x.id ≠ "" ∧ x.lexemes ≠ [] ∧ (x.lexemes.map Lexeme.grapheme).Nodup := by
  unfold Element.lexicon? at h
  split at h
  · next id hid =>
    split at h
    · cases h
    · next hsome =>
      cases h
      have hne : id ≠ "" := by simpa using (Option.filter_eq_some_iff.mp hid).2
      exact ⟨hne, fun hnil => hsome (latest_eq_nil_iff.mp hnil), nodup_latest _⟩
  · cases h

end Lexicon

end LecturePlan
