import LecturePlan.Proofs.Rewrite.Passes
import LecturePlan.Proofs.Rewrite.WholeWord
import Mathlib.Data.List.Chain
/-!
# Words that touch

The entries in force are applied to a text one after the other, each to the text that those before it
have left.  Where an earlier entry has cut the text, a later one finds an end of text, and an end of
text is an edge.  So what a later entry speaks is a whole word of its piece, but not always of the text:
in `SQL's`, the entry of `SQL` leaves the piece `'s`, and an entry of `'s` speaks that although a letter
stands in front of it.

A `Seam` is what two neighbours in the pieces know of each other.  It says that this is the only way to
go wrong: an element that is no whole word of the text touches one of an earlier entry, which has no
edge there, with an edge of its own (`TouchesEarlier`).  `applyLexicons_words` says that conversely no
such element is a whole word.
-/

namespace LecturePlan.Rewrite

open LecturePlan.Markup LecturePlan.Text

/-! ## 1. Entries -/

/-- The characters that an entry looks for. -/
def Entry.chars (e : Entry) : List Char := e.1.grapheme.toList

/-- The element that an entry puts in their place. -/
def Entry.spoken (e : Entry) : Node := spokenForm e.1 e.2

theorem charsNode_spoken (e : Entry) : charsNode e.spoken = e.chars :=
  charsNode_toNode e.2 .word

/-- An entry in force is the first one of its grapheme. -/
theorem find?_of_mem_firstEntries {e : Entry} : ∀ {es : List Entry} {seen : List String},
    e ∈ firstEntries seen es →
      e.1.grapheme ∉ seen ∧ es.find? (fun e' => e'.1.grapheme == e.1.grapheme) = some e
  | [], _, h => absurd h List.not_mem_nil
  | e' :: es, seen, h => by
    rw [firstEntries] at h
    split at h
    · next hskip =>
      obtain ⟨hseen, hfind⟩ := find?_of_mem_firstEntries h
      have hne : e'.1.grapheme ≠ e.1.grapheme := by
        intro heq
        rw [heq] at hskip
        exact hskip.elim (grapheme_ne_empty_of_mem_firstEntries h) hseen
      exact ⟨hseen, by rw [List.find?_cons_of_neg (by simpa using hne), hfind]⟩
    · next hkeep =>
      rcases List.mem_cons.mp h with rfl | h
      · exact ⟨fun hseen => hkeep (.inr hseen), List.find?_cons_of_pos (by simp)⟩
      · obtain ⟨hseen, hfind⟩ := find?_of_mem_firstEntries h
        rw [List.mem_cons, not_or] at hseen
        refine ⟨hseen.2, ?_⟩
        rw [List.find?_cons_of_neg (by simpa using Ne.symm hseen.1), hfind]

/-- An element tells which entry in force it is of. -/
theorem eq_of_spoken_eq {active : List Lexicon} {e e' : Entry} (he : e ∈ entriesInForce active)
    (he' : e' ∈ entriesInForce active) (h : e.spoken = e'.spoken) : e = e' := by
  have hgrapheme : e.1.grapheme = e'.1.grapheme := by
    rw [Entry.spoken, Entry.spoken, spokenForm, spokenForm, Node.element.injEq] at h
    simpa using h.2
  have hfind := (find?_of_mem_firstEntries he).2
  rw [hgrapheme, (find?_of_mem_firstEntries he').2] at hfind
  exact (Option.some.inj hfind).symm

/-! ## 2. Neighbours -/

/-- **What may stand side by side** in a text to which some entries have been applied in order.  Between
text and an element the text has an edge.  Of two elements the one that came first made sure of an edge
on the side of the other, and of two of one entry each did so. -/
inductive Seam (es : List Entry) : Node → Node → Prop
  | textWord {s : String} {e : Entry} : e ∈ es → s ≠ "" → isEdge s.toList.getLast? = true →
      Seam es (.text s) e.spoken
  | wordText {e : Entry} {s : String} : e ∈ es → s ≠ "" → isEdge s.toList.head? = true →
      Seam es e.spoken (.text s)
  | same {e : Entry} : e ∈ es → isEdge e.chars.getLast? = true → isEdge e.chars.head? = true →
      Seam es e.spoken e.spoken
  | behindEarlier {e e' : Entry} : [e, e'].Sublist es → isEdge e'.chars.head? = true →
      Seam es e.spoken e'.spoken
  | beforeEarlier {e e' : Entry} : [e', e].Sublist es → isEdge e.chars.getLast? = true →
      Seam es e.spoken e'.spoken

/-- Nodes that some entries have made of a text. -/
structure Seamed (es : List Entry) (ns : List Node) : Prop where
  made : ∀ n ∈ ns, (∃ s, n = .text s) ∨ ∃ e ∈ es, n = e.spoken
  seams : ns.IsChain (Seam es)

section Step

variable {es : List Entry} {e : Entry}

theorem Seam.more {m n : Node} (h : Seam es m n) (e : Entry) : Seam (es ++ [e]) m n := by
  have hsub : es.Sublist (es ++ [e]) := List.sublist_append_left es [e]
  cases h with
  | textWord he hs hedge => exact .textWord (hsub.mem he) hs hedge
  | wordText he hs hedge => exact .wordText (hsub.mem he) hs hedge
  | same he hlast hhead => exact .same (hsub.mem he) hlast hhead
  | behindEarlier hpair hedge => exact .behindEarlier (hpair.trans hsub) hedge
  | beforeEarlier hpair hedge => exact .beforeEarlier (hpair.trans hsub) hedge

theorem pair_sublist {e' : Entry} (h : e' ∈ es) (e : Entry) : [e', e].Sublist (es ++ [e]) :=
  (List.singleton_sublist.mpr h).append (List.Sublist.refl [e])

/-- The pieces that an entry cuts a text into. -/
theorem CutAt.seams {front : List Char} {ps : List Piece} (he : e.chars ≠ [])
    (h : CutAt e.chars front ps) :
    (ps.map (Piece.toNode e.1 e.2)).IsChain (Seam (es ++ [e])) := by
  have hmem : e ∈ es ++ [e] := by simp
  induction h with
  | nil front => exact .nil
  | @word front ps hword hrest ih =>
    refine List.isChain_cons.mpr ⟨fun n hn => ?_, ih⟩
    cases hrest with
    | nil => cases hn
    | word hword' _ =>
      cases hn
      refine .same hmem ?_ ?_
      · simpa [List.getLast?_append_of_ne_nil _ he] using hword'.1
      · simpa [Piece.chars, List.head?_append_of_ne_nil _ he] using hword.2
    | @plain _ s _ hs _ _ _ =>
      cases hn
      refine .wordText hmem (fun h => hs (String.ofList_eq_empty_iff.mp h)) ?_
      simpa [Piece.chars, List.head?_append_of_ne_nil _ hs] using hword.2
  | @plain front s ps hs hqs _ hrest ih =>
    refine List.isChain_cons.mpr ⟨fun n hn => ?_, ih⟩
    cases hrest with
    | nil => cases hn
    | word hword _ =>
      cases hn
      refine .textWord hmem (fun h => hs (String.ofList_eq_empty_iff.mp h)) ?_
      simpa [List.getLast?_append_of_ne_nil _ hs] using hword.1
    | plain _ _ _ _ => exact absurd rfl (hqs _ _)

/-- Where a text had an earlier element in front of it, its first piece has. -/
theorem CutAt.head {front : List Char} {ps : List Piece} (he : e.chars ≠ [])
    (h : CutAt e.chars front ps) {e' : Entry} (he' : e' ∈ es)
    (hedge : isEdge (ps.flatMap (Piece.chars e.chars)).head? = true) :
    ∀ n ∈ (ps.map (Piece.toNode e.1 e.2)).head?, Seam (es ++ [e]) e'.spoken n := by
  intro n hn
  cases h with
  | nil => cases hn
  | word _ _ =>
    cases hn
    refine .behindEarlier (pair_sublist he' e) ?_
    simpa [Piece.chars, List.head?_append_of_ne_nil _ he] using hedge
  | plain hs _ _ _ =>
    cases hn
    refine .wordText (List.mem_append_left _ he') (fun h => hs (String.ofList_eq_empty_iff.mp h)) ?_
    simpa [Piece.chars, List.head?_append_of_ne_nil _ hs] using hedge

/-- Where it had one behind it, its last piece has. -/
theorem CutAt.last {front : List Char} {ps : List Piece} (he : e.chars ≠ [])
    (h : CutAt e.chars front ps) {e' : Entry} (he' : e' ∈ es)
    (hedge : isEdge (ps.flatMap (Piece.chars e.chars)).getLast? = true) :
    ∀ n ∈ (ps.map (Piece.toNode e.1 e.2)).getLast?, Seam (es ++ [e]) n e'.spoken := by
  intro n hn
  rcases List.eq_nil_or_concat' ps with rfl | ⟨qs, p, rfl⟩
  · cases hn
  · rw [List.map_append, List.map_singleton, List.getLast?_concat] at hn
    cases hn
    rw [List.flatMap_append, List.flatMap_singleton] at hedge
    cases h.behind with
    | word _ _ =>
      refine .beforeEarlier (pair_sublist he' e) ?_
      simpa [Piece.chars, List.getLast?_append_of_ne_nil _ he] using hedge
    | plain hs _ _ _ =>
      refine .textWord (List.mem_append_left _ he')
        (fun h => hs (String.ofList_eq_empty_iff.mp h)) ?_
      simpa [Piece.chars, List.getLast?_append_of_ne_nil _ hs] using hedge

end Step

/-! ## 3. One entry after the other -/

/-- The nodes that an entry makes of one node. -/
def Entry.applyTo (e : Entry) : Node → List Node
  | .text s => replaceGrapheme s e.1 e.2
  | n => [n]

section Apply

variable {es : List Entry} {e : Entry}

theorem applyEntry_eq_flatten (ns : List Node) :
    applyEntry e ns = (ns.map e.applyTo).flatten := by
  rw [applyEntry, List.flatMap_def]
  rfl

theorem Entry.applyTo_spoken (e' : Entry) : e.applyTo e'.spoken = [e'.spoken] := rfl

theorem Entry.applyTo_ne_nil (n : Node) : e.applyTo n ≠ [] := by
  cases n with
  | text s => exact (spelled_replaceGrapheme s e.1 e.2).1
  | element tag children => exact List.cons_ne_nil _ _

theorem Entry.applyTo_empty : e.applyTo (.text "") = [.text ""] :=
  replaceGrapheme_empty e.2

variable (he : e.chars ≠ [])

include he

theorem Entry.applyTo_text {s : String} (hs : s ≠ "") :
    e.applyTo (.text s) = (cutWords e.chars none s.toList).map (Piece.toNode e.1 e.2) :=
  replaceGrapheme_eq_map s e.2 (fun h => he (by rw [chars, h]; rfl)) hs

theorem Entry.seamed_applyTo {n : Node} (hn : (∃ s, n = .text s) ∨ ∃ e' ∈ es, n = e'.spoken) :
    Seamed (es ++ [e]) (e.applyTo n) := by
  rcases hn with ⟨s, rfl⟩ | ⟨e', he', rfl⟩
  · by_cases hs : s = ""
    · rw [hs, applyTo_empty]
      exact ⟨fun m hm => .inl ⟨"", List.mem_singleton.mp hm⟩, .singleton _⟩
    · rw [applyTo_text he hs]
      refine ⟨fun m hm => ?_, (cutAt_cutWords he none s.toList [] rfl).seams he⟩
      obtain ⟨p, -, rfl⟩ := List.mem_map.mp hm
      cases p with
      | plain t => exact .inl ⟨_, rfl⟩
      | word => exact .inr ⟨e, by simp, rfl⟩
  · rw [applyTo_spoken]
    refine ⟨fun m hm => .inr ⟨e', List.mem_append_left _ he', List.mem_singleton.mp hm⟩, .singleton _⟩

/-- What stands side by side before an entry is applied does so afterwards, as far as it is left. -/
theorem Seam.applyTo {m n : Node} (h : Seam es m n) :
    ∀ᵉ (x ∈ (e.applyTo m).getLast?) (y ∈ (e.applyTo n).head?), Seam (es ++ [e]) x y := by
  intro x hx y hy
  cases h with
  | @textWord s e' he' hs hedge =>
    cases hy
    rw [Entry.applyTo_text he hs] at hx
    exact (cutAt_cutWords he none s.toList [] rfl).last he he' (by rwa [flatten_cutWords he]) x hx
  | @wordText e' s he' hs hedge =>
    cases hx
    rw [Entry.applyTo_text he hs] at hy
    exact (cutAt_cutWords he none s.toList [] rfl).head he he' (by rwa [flatten_cutWords he]) y hy
  | same he' hlast hhead =>
    cases hx
    cases hy
    exact (Seam.same he' hlast hhead).more e
  | behindEarlier hpair hedge =>
    cases hx
    cases hy
    exact (Seam.behindEarlier hpair hedge).more e
  | beforeEarlier hpair hedge =>
    cases hx
    cases hy
    exact (Seam.beforeEarlier hpair hedge).more e

theorem Seamed.applyEntry {ns : List Node} (h : Seamed es ns) :
    Seamed (es ++ [e]) (applyEntry e ns) := by
  have hpieces : ∀ l ∈ ns.map e.applyTo, Seamed (es ++ [e]) l := by
    intro l hl
    obtain ⟨n, hn, rfl⟩ := List.mem_map.mp hl
    exact Entry.seamed_applyTo he (h.made n hn)
  rw [applyEntry_eq_flatten]
  constructor
  · intro n hn
    obtain ⟨l, hl, hnl⟩ := List.mem_flatten.mp hn
    exact (hpieces l hl).made n hnl
  · have hnil : [] ∉ ns.map e.applyTo := by
      intro hmem
      obtain ⟨n, -, hn⟩ := List.mem_map.mp hmem
      exact Entry.applyTo_ne_nil n hn
    refine (List.isChain_flatten hnil).mpr ⟨fun l hl => (hpieces l hl).seams, ?_⟩
    rw [List.isChain_map]
    exact h.seams.imp fun m n hmn => hmn.applyTo he

end Apply

/-- **What the entries in force make of a text.** -/
theorem seamed_applyLexicons (text : String) (active : List Lexicon) :
    Seamed (entriesInForce active) (applyLexicons text active) := by
  have hfold : ∀ (es done : List Entry) (ns : List Node), (∀ e ∈ es, e.1.grapheme ≠ "") →
      Seamed done ns → Seamed (done ++ es) (es.foldl (fun pieces e => applyEntry e pieces) ns) := by
    intro es
    induction es with
    | nil =>
      intro done ns _ h
      simpa using h
    | cons e es ih =>
      intro done ns hes h
      have he : e.chars ≠ [] := fun hnil =>
        hes e List.mem_cons_self (String.toList_eq_nil_iff.mp hnil)
      have hrest := ih (done ++ [e]) _ (fun e' he' => hes e' (List.mem_cons_of_mem e he'))
        (h.applyEntry he)
      rwa [List.append_assoc] at hrest
  refine hfold _ [] [.text text] (fun e he => grapheme_ne_empty_of_mem_firstEntries he) ?_
  exact ⟨fun n hn => .inl ⟨text, List.mem_singleton.mp hn⟩, .singleton _⟩

/-! ## 4. Whole words of the text -/

/-- Whether the element of an entry, with the pieces `before` and `after` around it, touches one of an
earlier entry that has no edge where they touch, while it has an edge there itself. -/
inductive TouchesEarlier (es : List Entry) (before : List Node) (e : Entry) (after : List Node) : Prop
  | behind (e' : Entry) : [e', e].Sublist es → before.getLast? = some e'.spoken →
      isEdge e'.chars.getLast? = false → isEdge e.chars.head? = true →
        TouchesEarlier es before e after
  | inFront (e' : Entry) : [e', e].Sublist es → after.head? = some e'.spoken →
      isEdge e'.chars.head? = false → isEdge e.chars.getLast? = true →
        TouchesEarlier es before e after

section Touching

variable {active : List Lexicon} {e : Entry}

theorem chars_ne_nil_of_mem (he : e ∈ entriesInForce active) : e.chars ≠ [] := fun hnil =>
  grapheme_ne_empty_of_mem_firstEntries he (String.toList_eq_nil_iff.mp hnil)

/-- In front of an element there is an edge, or an element that came earlier. -/
theorem Seam.edge_behind {n : Node} (he : e ∈ entriesInForce active)
    (h : Seam (entriesInForce active) n e.spoken) :
    (charsNode n ≠ [] ∧ isEdge (charsNode n).getLast? = true) ∨
      ∃ e' : Entry, [e', e].Sublist (entriesInForce active) ∧ n = e'.spoken ∧
        isEdge e.chars.head? = true := by
  generalize hn : e.spoken = m at h
  cases h with
  | textWord _ hs hedge => exact .inl ⟨fun hnil => hs (String.toList_eq_nil_iff.mp hnil), hedge⟩
  | wordText => cases hn
  | same he' hlast _ =>
    rw [charsNode_spoken]
    exact .inl ⟨chars_ne_nil_of_mem he', hlast⟩
  | behindEarlier hpair hedge =>
    cases eq_of_spoken_eq he (hpair.mem (by simp)) hn
    exact .inr ⟨_, hpair, rfl, hedge⟩
  | beforeEarlier hpair hedge =>
    rw [charsNode_spoken]
    exact .inl ⟨chars_ne_nil_of_mem (hpair.mem (by simp)), hedge⟩

/-- And so there is behind it. -/
theorem Seam.edge_inFront {n : Node} (he : e ∈ entriesInForce active)
    (h : Seam (entriesInForce active) e.spoken n) :
    (charsNode n ≠ [] ∧ isEdge (charsNode n).head? = true) ∨
      ∃ e' : Entry, [e', e].Sublist (entriesInForce active) ∧ n = e'.spoken ∧
        isEdge e.chars.getLast? = true := by
  generalize hm : e.spoken = m at h
  cases h with
  | textWord => cases hm
  | wordText _ hs hedge => exact .inl ⟨fun hnil => hs (String.toList_eq_nil_iff.mp hnil), hedge⟩
  | same he' _ hhead =>
    rw [charsNode_spoken]
    exact .inl ⟨chars_ne_nil_of_mem he', hhead⟩
  | behindEarlier hpair hedge =>
    rw [charsNode_spoken]
    exact .inl ⟨chars_ne_nil_of_mem (hpair.mem (by simp)), hedge⟩
  | beforeEarlier hpair hedge =>
    cases eq_of_spoken_eq he (hpair.mem (by simp)) hm
    exact .inr ⟨_, hpair, rfl, hedge⟩

/-- An element that touches an earlier one without an edge is no whole word of the text. -/
theorem TouchesEarlier.not_wholeWord {before after : List Node}
    (h : TouchesEarlier (entriesInForce active) before e after) :
    ¬ WholeWord (charsAll before) (charsAll after) := by
  rintro ⟨hbefore, hafter⟩
  cases h with
  | behind e' hpair hlast hno _ =>
    obtain ⟨ns, rfl⟩ := List.getLast?_eq_some_iff.mp hlast
    rw [charsAll_append, charsAll_singleton, charsNode_spoken,
      List.getLast?_append_of_ne_nil _ (chars_ne_nil_of_mem (hpair.mem (by simp))), hno] at hbefore
    exact absurd hbefore Bool.false_ne_true
  | inFront e' hpair hhead hno _ =>
    obtain ⟨ns, rfl⟩ := List.head?_eq_some_iff.mp hhead
    rw [charsAll, charsNode_spoken,
      List.head?_append_of_ne_nil _ (chars_ne_nil_of_mem (hpair.mem (by simp))), hno] at hafter
    exact absurd hafter Bool.false_ne_true

/-- Every other element is one. -/
theorem wholeWord_of_not_touchesEarlier {before after : List Node} (he : e ∈ entriesInForce active)
    (hseams : (before ++ e.spoken :: after).IsChain (Seam (entriesInForce active)))
    (h : ¬ TouchesEarlier (entriesInForce active) before e after) :
    WholeWord (charsAll before) (charsAll after) := by
  constructor
  · rcases List.eq_nil_or_concat' before with rfl | ⟨ns, n, rfl⟩
    · rfl
    · have hseam := (List.isChain_append.mp hseams).2.2 n (by simp) e.spoken rfl
      rw [charsAll_append, charsAll_singleton]
      rcases hseam.edge_behind he with ⟨hne, hedge⟩ | ⟨e', hpair, rfl, hhead⟩
      · rwa [List.getLast?_append_of_ne_nil _ hne]
      · have he' : e'.chars ≠ [] := chars_ne_nil_of_mem (hpair.mem (by simp))
        rw [charsNode_spoken, List.getLast?_append_of_ne_nil _ he', ← Bool.not_eq_false]
        exact fun hno => h (.behind e' hpair (by simp) hno hhead)
  · cases after with
    | nil => rfl
    | cons n ns =>
      have hseam := (List.isChain_cons.mp (List.isChain_append.mp hseams).2.1).1 n rfl
      rw [charsAll]
      rcases hseam.edge_inFront he with ⟨hne, hedge⟩ | ⟨e', hpair, rfl, hlast⟩
      · rwa [List.head?_append_of_ne_nil _ hne]
      · have he' : e'.chars ≠ [] := chars_ne_nil_of_mem (hpair.mem (by simp))
        rw [charsNode_spoken, List.head?_append_of_ne_nil _ he', ← Bool.not_eq_false]
        exact fun hno => h (.inFront e' hpair rfl hno hlast)

end Touching

theorem charsAll_applyLexicons (text : String) (active : List Lexicon) :
    charsAll (applyLexicons text active) = text.toList := by
  rw [(rewritten_applyLexicons text active).charsAll_eq, charsAll_singleton, charsNode]

/-- **Words of a text that several lexicons speak.**  The pieces put together are the text.  Each is plain
text or the element of an entry in force, and the element stands for a whole word of the text unless it
touches one of an earlier entry. -/
theorem applyLexicons_words (text : String) (active : List Lexicon) :
    charsAll (applyLexicons text active) = text.toList ∧
      ∀ before n after, applyLexicons text active = before ++ n :: after →
        (∃ s, n = .text s) ∨ ∃ e ∈ entriesInForce active, n = e.spoken ∧
          (WholeWord (charsAll before) (charsAll after) ↔
            ¬ TouchesEarlier (entriesInForce active) before e after) := by
  refine ⟨charsAll_applyLexicons text active, fun before n after h => ?_⟩
  have hseamed := seamed_applyLexicons text active
  rw [h] at hseamed
  rcases hseamed.made n (by simp) with htext | ⟨e, he, rfl⟩
  · exact .inl htext
  · refine .inr ⟨e, he, rfl, fun hword htouch => htouch.not_wholeWord hword, ?_⟩
    exact wholeWord_of_not_touchesEarlier he hseamed.seams

/-- Whether all elements among the pieces of a text stand for whole words of it. -/
def AllWhole (ns : List Node) : Prop :=
  ∀ before tag children after, ns = before ++ .element tag children :: after →
    WholeWord (charsAll before) (charsAll after)

/-- The ending of a word is spoken as a word of its own behind a word that was spoken before. -/
theorem not_allWhole_of_ending :
    ¬ AllWhole (applyLexicons "SQL's"
      [⟨"cs", none, [⟨"SQL", .alias, "sequel"⟩, ⟨"'s", .alias, "is"⟩]⟩]) := by
  intro hall
  have hfirst : cutWords ['S', 'Q', 'L'] none ['S', 'Q', 'L', '\'', 's'] =
      [.word, .plain ['\'', 's']] := by
    have hedge : isEdge (some '\'') = true := by decide
    simp [cutWords, consPlain, hedge, show isEdge none = true from rfl]
  have hsecond : cutWords ['\'', 's'] none ['\'', 's'] = [.word] := by
    simp [cutWords, show isEdge none = true from rfl]
  have hpieces : applyLexicons "SQL's"
      [⟨"cs", none, [⟨"SQL", .alias, "sequel"⟩, ⟨"'s", .alias, "is"⟩]⟩] =
        [.element ⟨"sub", [("alias", "sequel")]⟩ [.text "SQL"],
          .element ⟨"sub", [("alias", "is")]⟩ [.text "'s"]] := by
    simp [applyLexicons, entriesInForce, firstEntries, applyEntry, replaceGrapheme, hfirst, hsecond,
      Piece.toNode, spokenForm, spokenTag]
  have hword := hall [_] _ _ [] hpieces
  exact absurd hword.1 (by decide)

end LecturePlan.Rewrite
