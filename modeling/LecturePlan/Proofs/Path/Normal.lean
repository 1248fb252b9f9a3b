import LecturePlan.Proofs.Path.Ascent
/-!
# Normal paths

A resolved path holds names and nothing else (`Normal`): what is empty or `.` between two separators is
not read, and a walk takes every `..` back or forgets it.  Hence its text can be read again
(`ofString_toString_of_normal`), and resolving goes on from it as from the path that it was made from
(`resolve_join`).  The laws are stated on texts (`resolveText_composes`): how two texts are joined, with
separators at the end of the one or at the front of the other, is said by `joinText`, and reading makes
of it the join of two paths (`ofString_joinText`).

Where a walk leads is said a second time by `Leads`, one step after the other from the root on, so that
two spellings below an absolute base are seen to give one path iff they lead to the same names.
-/

namespace LecturePlan.Path

/-! ## 1. The steps of a text -/

/-- The steps that are read from a text. -/
def partsOf (s : List Char) : List Part := (s.splitOn '/').filterMap Part.ofPiece?

theorem ofString_eq (s : String) : ofString s = ⟨s.toList.head? == some '/', partsOf s.toList⟩ := rfl

/-- A separator keeps the steps in front of it and behind it apart. -/
theorem partsOf_append (s t : List Char) : partsOf (s ++ '/' :: t) = partsOf s ++ partsOf t := by
  have hcut : (s ++ '/' :: t).splitOn '/' = s.splitOn '/' ++ t.splitOn '/' :=
    List.splitOnP_append_cons s t (beq_self_eq_true '/')
  rw [partsOf, hcut, List.filterMap_append, partsOf, partsOf]

/-- One more separator makes no step. -/
theorem partsOf_separator (s : List Char) : partsOf ('/' :: s) = partsOf s := partsOf_append [] s

/-- Text without a separator is one piece. -/
theorem partsOf_of_notMem {s : List Char} (h : '/' ∉ s) : partsOf s = (Part.ofPiece? s).toList := by
  rw [partsOf, List.splitOn_eq_singleton h]
  cases hpiece : Part.ofPiece? s <;> simp [hpiece]

/-- No piece has a separator in it. -/
theorem notMem_of_mem_splitOn {c : Char} {s piece : List Char} (h : piece ∈ s.splitOn c) :
    c ∉ piece := by
  induction s generalizing piece with
  | nil =>
    rw [List.splitOn_nil, List.mem_singleton] at h
    simp [h]
  | cons d s ih =>
    obtain ⟨first, rest, hsplit⟩ := List.exists_cons_of_ne_nil (List.splitOnP_ne_nil (· == c) s)
    have hpieces : ∀ p ∈ first :: rest, c ∉ p := by
      intro p hp
      rw [← hsplit] at hp
      exact ih hp
    rw [List.splitOn, List.splitOnP_cons_eq_if_modifyHead, hsplit] at h
    split at h
    · rcases List.mem_cons.mp h with rfl | h
      · exact List.not_mem_nil
      · exact hpieces piece h
    · next hd =>
      rw [List.modifyHead_cons] at h
      rcases List.mem_cons.mp h with rfl | h
      · simp only [List.mem_cons, not_or]
        exact ⟨fun heq => hd (by simp [heq]), hpieces first List.mem_cons_self⟩
      · exact hpieces piece (List.mem_cons_of_mem first h)

/-! ## 2. Names -/

/-- A text that names something in a directory. -/
structure IsName (s : String) : Prop where
  nonempty : s ≠ ""
  ne_here : s ≠ "."
  ne_parent : s ≠ ".."
  undivided : '/' ∉ s.toList

theorem IsName.toList_ne_nil {s : String} (h : IsName s) : s.toList ≠ [] :=
  fun heq => h.nonempty (String.toList_inj.mp heq)

theorem partsOf_name {s : String} (h : IsName s) : partsOf s.toList = [.name s] := by
  have hne := h.toList_ne_nil
  have hhere : s.toList ≠ ['.'] := fun heq => h.ne_here (String.toList_inj.mp heq)
  have hparent : s.toList ≠ ['.', '.'] := fun heq => h.ne_parent (String.toList_inj.mp heq)
  simp [partsOf_of_notMem h.undivided, Part.ofPiece?, hne, hhere, hparent]

/-- What is read as a name is one. -/
theorem isName_of_mem_partsOf {s : List Char} {n : String} (h : .name n ∈ partsOf s) : IsName n := by
  obtain ⟨piece, hpiece, hn⟩ := List.mem_filterMap.mp h
  have hundivided := notMem_of_mem_splitOn hpiece
  unfold Part.ofPiece? at hn
  split at hn
  · cases hn
  · next hskip =>
    rw [not_or] at hskip
    split at hn
    · cases hn
    · next hparent =>
      cases hn
      have hne (t : List Char) (ht : piece ≠ t) : String.ofList piece ≠ String.ofList t :=
        fun heq => ht (String.ofList_injective heq)
      exact ⟨hne [] hskip.1, hne ['.'] hskip.2, hne ['.', '.'] hparent,
        by rwa [String.toList_ofList]⟩

/-- All names in a list of steps are names. -/
def Named (parts : List Part) : Prop := ∀ n, .name n ∈ parts → IsName n

theorem named_ofString (s : String) : Named (ofString s).parts :=
  fun _ hn => isName_of_mem_partsOf hn

theorem named_join {base p : Path} (hbase : Named base.parts) (hp : Named p.parts) :
    Named (base.join p).parts := by
  unfold join
  split
  · exact hp
  · intro n hn
    rcases List.mem_append.mp hn with hn | hn
    · exact hbase n hn
    · exact hp n hn

theorem mem_of_mem_foldl_step {parts : List Part} {walked : List String} {n : String}
    (h : n ∈ parts.foldl step walked) : n ∈ walked ∨ .name n ∈ parts := by
  induction parts generalizing walked with
  | nil => exact .inl h
  | cons part parts ih =>
    rcases ih h with hstep | hmem
    · cases part with
      | name s =>
        rcases List.mem_cons.mp hstep with rfl | hstep
        · exact .inr List.mem_cons_self
        · exact .inl hstep
      | parent => exact .inl (List.mem_of_mem_tail hstep)
    · exact .inr (List.mem_cons_of_mem part hmem)

/-- A walk finds no names but those of its steps. -/
theorem name_mem_of_mem_walk {parts : List Part} {n : String} (h : n ∈ walk parts) :
    .name n ∈ parts :=
  (mem_of_mem_foldl_step (List.mem_reverse.mp h)).resolve_left List.not_mem_nil

/-! ## 3. Normal paths and their texts -/

/-- A path that holds names only. -/
def Normal (p : Path) : Prop :=
  ∃ names : List String, (∀ n ∈ names, IsName n) ∧ p.parts = names.map .name

theorem normal_normalize {p : Path} (h : Named p.parts) : p.normalize.Normal :=
  ⟨walk p.parts, fun n hn => h n (name_mem_of_mem_walk hn), rfl⟩

/-- A path of names is written as these names, with one separator between two of them. -/
theorem toString_names (rooted : Bool) (names : List String) :
    (⟨rooted, names.map .name⟩ : Path).toString =
      (if rooted then "/" else "") ++ String.intercalate "/" names := by
  have hmap : (names.map Part.name).map Part.toString = names := by
    rw [List.map_map]
    exact List.map_id names
  rw [toString, hmap]

theorem partsOf_intercalate {names : List String} (h : ∀ n ∈ names, IsName n) :
    partsOf (['/'].intercalate (names.map String.toList)) = names.map .name := by
  induction names with
  | nil => rfl
  | cons n names ih =>
    obtain ⟨hn, hnames⟩ := List.forall_mem_cons.mp h
    cases names with
    | nil => simpa using partsOf_name hn
    | cons m names =>
      have hrest := ih hnames
      simp only [List.map_cons] at hrest ⊢
      rw [List.intercalate_cons_cons, List.append_assoc, List.singleton_append, partsOf_append,
        partsOf_name hn, hrest]
      rfl

/-- Names do not begin with a separator. -/
theorem head?_intercalate {names : List String} (h : ∀ n ∈ names, IsName n) :
    (['/'].intercalate (names.map String.toList)).head? ≠ some '/' := by
  cases names with
  | nil => simp
  | cons n names =>
    obtain ⟨hn, -⟩ := List.forall_mem_cons.mp h
    obtain ⟨c, s, hcs⟩ := List.exists_cons_of_ne_nil (hn.toList_ne_nil)
    have hc : c ≠ '/' := by
      rintro rfl
      exact hn.undivided (by simp [hcs])
    cases names with
    | nil => simp [hcs, hc]
    | cons m names => simp [List.intercalate_cons_cons, hcs, hc]

/-- **A normal path is read back from its text.** -/
theorem ofString_toString_of_normal {p : Path} (h : p.Normal) : ofString p.toString = p := by
  obtain ⟨names, hnames, hparts⟩ := h
  obtain ⟨rooted, parts⟩ := p
  cases hparts
  have htext : (String.intercalate "/" names).toList = ['/'].intercalate (names.map String.toList) :=
    String.toList_intercalate
  rw [toString_names, ofString_eq]
  cases rooted with
  | true => simp [htext, partsOf_separator, partsOf_intercalate hnames]
  | false =>
    have hhead : ((['/'].intercalate (names.map String.toList)).head? == some '/') = false :=
      beq_eq_false_iff_ne.mpr (head?_intercalate hnames)
    simp [htext, hhead, partsOf_intercalate hnames]

/-! ## 4. Texts that are joined -/

/-- Joins two texts of paths: an absolute one stands for itself, and another one is put behind the first,
with a separator between them unless there is one. -/
def joinChars (p q : List Char) : List Char :=
  if q.head? = some '/' then q
  else if p = [] ∨ p.getLast? = some '/' then p ++ q
  else p ++ '/' :: q

/-- Joins two texts of paths. -/
def joinText (p q : String) : String := String.ofList (joinChars p.toList q.toList)

/-- What is put behind a text adds its steps to it, wherever the separator between them comes from. -/
theorem partsOf_joinChars {p q : List Char} (h : q.head? ≠ some '/') :
    partsOf (joinChars p q) = partsOf p ++ partsOf q := by
  rw [joinChars, if_neg h]
  split
  · next hend =>
    rcases hend with rfl | hlast
    · rfl
    · obtain ⟨p, rfl⟩ := List.getLast?_eq_some_iff.mp hlast
      rw [List.append_assoc, List.singleton_append, partsOf_append, partsOf_append]
      exact congrArg (· ++ partsOf q) (List.append_nil _).symm
  · exact partsOf_append p q

theorem head?_joinChars {p q : List Char} (h : q.head? ≠ some '/') (hp : p ≠ []) :
    (joinChars p q).head? = p.head? := by
  obtain ⟨c, s, rfl⟩ := List.exists_cons_of_ne_nil hp
  rw [joinChars, if_neg h]
  split <;> rfl

/-- **A joined text is read as the join of two paths.** -/
theorem ofString_joinText (p q : String) : ofString (joinText p q) = (ofString p).join (ofString q) := by
  rw [join, ofString_eq q]
  by_cases hq : q.toList.head? = some '/'
  · rw [joinText, joinChars, if_pos hq, String.ofList_toList, ofString_eq, hq]
    rfl
  · have hrelative : (q.toList.head? == some '/') = false := beq_eq_false_iff_ne.mpr hq
    rw [joinText, ofString_eq, String.toList_ofList, partsOf_joinChars hq, hrelative, ofString_eq p]
    by_cases hp : p.toList = []
    · simp [hp, joinChars, hq, hrelative]
    · rw [head?_joinChars hq hp]
      rfl

/-! ## 5. Resolving step by step -/

/-- Walking on from where a walk has led is walking all the way. -/
theorem normalize_join_normalize (base p : Path) :
    (base.normalize.join p).normalize = (base.join p).normalize := by
  unfold join
  by_cases hp : p.rooted = true
  · rw [if_pos hp, if_pos hp]
  · rw [if_neg hp, if_neg hp]
    simp only [normalize, walk_append, walk_map_name]

/-- **Resolving composes.** -/
theorem resolve_join (base p q : Path) : (p.join q).resolve base = q.resolve (p.resolve base) := by
  rw [resolve, resolve, resolve, normalize_join_normalize, join_join]

theorem rooted_resolve (p base : Path) : (p.resolve base).rooted = (p.rooted || base.rooted) := by
  rw [resolve, rooted_normalize, join]
  cases hp : p.rooted <;> simp [hp]

/-- What is read from two texts is resolved to a normal path. -/
theorem normal_resolve (p base : String) : ((ofString p).resolve (ofString base)).Normal :=
  normal_normalize (named_join (named_ofString base) (named_ofString p))

/-! ## 6. Where steps lead -/

/-- From the directory that the names lead to from the root, the steps lead to other names.  The parent
of the root is the root. -/
inductive Leads : List String → List Part → List String → Prop
  | here (names : List String) : Leads names [] names
  | entry {names names' : List String} {s : String} {parts : List Part} :
      Leads (names ++ [s]) parts names' → Leads names (.name s :: parts) names'
  | back {names names' : List String} {s : String} {parts : List Part} :
      Leads names parts names' → Leads (names ++ [s]) (.parent :: parts) names'
  | root {names' : List String} {parts : List Part} :
      Leads [] parts names' → Leads [] (.parent :: parts) names'

theorem foldl_step_of_leads {names names' : List String} {parts : List Part}
    (h : Leads names parts names') : parts.foldl step names.reverse = names'.reverse := by
  induction h with
  | here names => rfl
  | entry h ih | back h ih | root h ih => simpa [step] using ih

theorem leads_foldl_step (parts : List Part) (names : List String) :
    Leads names parts (parts.foldl step names.reverse).reverse := by
  induction parts generalizing names with
  | nil => simpa using Leads.here names
  | cons part parts ih =>
    cases part with
    | name s => exact .entry (by simpa [step] using ih (names ++ [s]))
    | parent =>
      rcases List.eq_nil_or_concat names with rfl | ⟨names, s, rfl⟩
      · exact .root (ih [])
      · rw [List.concat_eq_append]
        exact .back (by simpa [step] using ih names)

/-- A walk finds the names that its steps lead to from the root, and no others. -/
theorem leads_iff {parts : List Part} {names : List String} :
    Leads [] parts names ↔ walk parts = names := by
  constructor
  · intro h
    rw [walk, ← List.reverse_nil, foldl_step_of_leads h, List.reverse_reverse]
  · rintro rfl
    exact leads_foldl_step parts []

/-! ## 7. Texts that are resolved -/

/-- The text of the place that a path denotes, seen from a base directory. -/
def resolveText (p base : String) : String := ((ofString p).resolve (ofString base)).toString

/-- Whether the text of a path is absolute. -/
def IsAbsolute (s : String) : Prop := s.toList.head? = some '/'

instance (s : String) : Decidable (IsAbsolute s) :=
  inferInstanceAs (Decidable (s.toList.head? = some '/'))

/-- A resolved text is read as the path that it was written for. -/
theorem ofString_resolveText (p base : String) :
    ofString (resolveText p base) = (ofString p).resolve (ofString base) :=
  ofString_toString_of_normal (normal_resolve p base)

theorem resolveText_inj {p q base : String} : resolveText p base = resolveText q base ↔
    (ofString p).resolve (ofString base) = (ofString q).resolve (ofString base) := by
  constructor
  · intro h
    rw [← ofString_resolveText, h, ofString_resolveText]
  · intro h
    rw [resolveText, h, resolveText]

theorem isAbsolute_iff {s : String} : IsAbsolute s ↔ (ofString s).rooted = true := beq_iff_eq.symm

theorem resolveText_eq_names (p base : String) : ∃ names : List String, (∀ n ∈ names, IsName n) ∧
    resolveText p base =
      (if IsAbsolute p ∨ IsAbsolute base then "/" else "") ++ String.intercalate "/" names := by
  obtain ⟨names, hnames, hparts⟩ := normal_resolve p base
  have hpath : (ofString p).resolve (ofString base) =
      ⟨(ofString p).rooted || (ofString base).rooted, names.map .name⟩ := by
    rw [← hparts, ← rooted_resolve]
  refine ⟨names, hnames, ?_⟩
  simp only [resolveText, hpath, toString_names, Bool.or_eq_true, isAbsolute_iff]

theorem isAbsolute_resolveText {p base : String} :
    IsAbsolute (resolveText p base) ↔ IsAbsolute p ∨ IsAbsolute base := by
  simp only [isAbsolute_iff, ofString_resolveText, rooted_resolve, Bool.or_eq_true]

/-- What is absolute is resolved to itself from everywhere. -/
theorem resolveText_resolveText {p base : String} (h : IsAbsolute (resolveText p base))
    (base' : String) : resolveText (resolveText p base) base' = resolveText p base := by
  rw [isAbsolute_iff, ofString_resolveText] at h
  rw [resolveText, ofString_resolveText, (resolve_of_rooted h (ofString base')).2, resolveText]

/-- Below a rooted base, paths are told apart by the names that they lead to. -/
theorem resolve_eq_iff {base p q : Path} (h : base.rooted = true) :
    p.resolve base = q.resolve base ↔
      ∃ names, Leads [] (base.join p).parts names ∧ Leads [] (base.join q).parts names := by
  have hrooted (p : Path) : (base.join p).rooted = true := by
    have hresolve := rooted_resolve p base
    rw [h, Bool.or_true] at hresolve
    exact hresolve
  simp only [leads_iff, exists_eq_left']
  constructor
  · intro heq
    have hwalk := congrArg (fun r : Path => walk r.parts) heq
    simp only [resolve, normalize, walk_map_name] at hwalk
    exact hwalk.symm
  · intro hwalk
    rw [resolve, resolve, normalize, normalize, hrooted, hrooted, hwalk]

/-- **Resolving composes and gives normal forms.**  Resolving a joined path is resolving one path after
the other.  What is resolved is absolute iff the path or its base is, and is written with names only.  An
absolute result is resolved to itself from everywhere.  Below an absolute base, two spellings have one
result iff they lead to the same names. -/
theorem resolveText_composes :
    (∀ base p q : String, resolveText (joinText p q) base = resolveText q (resolveText p base)) ∧
    (∀ base p : String, (IsAbsolute (resolveText p base) ↔ IsAbsolute p ∨ IsAbsolute base) ∧
      ∃ names : List String, (∀ n ∈ names, IsName n) ∧ resolveText p base =
        (if IsAbsolute p ∨ IsAbsolute base then "/" else "") ++ String.intercalate "/" names) ∧
    (∀ base p base' : String, IsAbsolute (resolveText p base) →
      resolveText (resolveText p base) base' = resolveText p base) ∧
    ∀ base p q : String, IsAbsolute base → (resolveText p base = resolveText q base ↔
      ∃ names, Leads [] (ofString (joinText base p)).parts names ∧
        Leads [] (ofString (joinText base q)).parts names) := by
  refine ⟨?_, fun base p => ⟨isAbsolute_resolveText, resolveText_eq_names p base⟩,
    fun base p base' h => resolveText_resolveText h base', ?_⟩
  · intro base p q
    rw [resolveText, ofString_joinText, resolve_join, resolveText, ofString_resolveText]
  · intro base p q h
    rw [resolveText_inj, resolve_eq_iff (isAbsolute_iff.mp h), ofString_joinText, ofString_joinText]

/-- A way over the root and a way around it, with repeated separators, lead to one file. -/
theorem resolveText_composes_behind_root :
    let base := "/talks/week1"
    let p := "../../../media//./logo.png"
    let q := "x/../../../media/logo.png"
    IsAbsolute base ∧ IsAbsolute (resolveText p base) ∧ resolveText p base = "/media/logo.png" ∧
      resolveText (resolveText p base) "." = resolveText p base ∧
      resolveText p base = resolveText q base := by
  intro base p q
  have hbase : IsAbsolute base := by decide +kernel
  have hp : IsAbsolute (resolveText p base) := by decide +kernel
  refine ⟨hbase, hp, by decide +kernel, resolveText_composes.2.2.1 base p "." hp, ?_⟩
  refine (resolveText_composes.2.2.2 base p q hbase).mpr ⟨["media", "logo.png"], ?_, ?_⟩
  · exact leads_iff.mpr (by decide +kernel)
  · exact leads_iff.mpr (by decide +kernel)

end LecturePlan.Path
