import LecturePlan.Compile.PageRequest
/-!
# The page that is asked for

A request is one of five words, or a number with or without a sign (`Written`), and it asks for a page
that may lie anywhere: a number has as many digits as one likes, and a step leads off the deck
(`Written.page`).  Reading keeps no more of a number than fits a word, unsigned or signed, and the step
saturates.  Neither changes the page that is shown: what is cut off lies beyond the last page of every deck
whose pages are counted in 32 bits, and clamping forgets it.

* `ofString?_eq_some_iff`: what is read is what is written, and nothing else is,
* `resolve_request`: the page of a request is the page that was asked for, brought into the deck, which
  is `Written.pageIn` (`resolve_request_eq_pageIn`),
* `inWords_request`, `inSignedWord_target`: no number on the way leaves its word.
-/

namespace LecturePlan.PageRequest

open LecturePlan.Text Decimal Word

/-! ## 1. Written requests -/

/-- What a request is written with: a word, or digits. -/
inductive Written where
  | next
  | previous
  | current
  | first
  | last
  | number (digits : List Char)
  | forward (digits : List Char)
  | back (digits : List Char)
deriving DecidableEq, Repr

namespace Written

/-- A number has one or more digits. -/
def WellFormed : Written → Prop
  | .number digits | .forward digits | .back digits => digits ≠ [] ∧ digits.all isDigit = true
  | _ => True

/-- The text of a request. -/
def text : Written → String
  | .next => "next"
  | .previous => "previous"
  | .current => "current"
  | .first => "first"
  | .last => "last"
  | .number digits => String.ofList digits
  | .forward digits => String.ofList ('+' :: digits)
  | .back digits => String.ofList ('-' :: digits)

/-- The page that is asked for, in the deck or not. -/
def page (current pageCount : Int) : Written → Int
  | .next => current + 1
  | .previous => current - 1
  | .current => current
  | .first => 1
  | .last => pageCount
  | .number digits => value digits
  | .forward digits => current + value digits
  | .back digits => current - value digits

/-- The page of a deck that is asked for: what is written, brought into the deck.  A deck counts as
having at least one page. -/
def pageIn (w : Written) (current pageCount : Nat) : Nat :=
  let last : Nat := max 1 pageCount
  (max 1 (min (w.page current last) last)).toNat

theorem pageIn_mem (w : Written) (current pageCount : Nat) :
    1 ≤ w.pageIn current pageCount ∧ w.pageIn current pageCount ≤ max 1 pageCount := by
  simp only [pageIn]
  omega

/-- What is kept of a request when it is read. -/
def request : Written → PageRequest
  | .next => .next
  | .previous => .previous
  | .current => .current
  | .first => .first
  | .last => .last
  | .number digits => .absolute (min max64 (value digits))
  | .forward digits => .relative (min maxInt64 (min max64 (value digits)) : Nat)
  | .back digits => .relative (-(min maxInt64 (min max64 (value digits)) : Nat))

end Written

/-! ## 2. Reading -/

namespace Written

/-- Digits in a form that takes some. -/
def ofDigits? (form : List Char → Written) (digits : List Char) : Option Written :=
  if digits ≠ [] ∧ digits.all isDigit = true then some (form digits) else none

/-- The request that a number is, with or without a sign. -/
def ofNumber? : List Char → Option Written
  | '+' :: digits => ofDigits? .forward digits
  | '-' :: digits => ofDigits? .back digits
  | digits => ofDigits? .number digits

/-- The request that a text is. -/
def ofString? (s : String) : Option Written :=
  match s with
  | "next" => some .next
  | "previous" => some .previous
  | "current" => some .current
  | "first" => some .first
  | "last" => some .last
  | s => ofNumber? s.toList

theorem ofDigits?_eq_some_iff {form : List Char → Written} {digits : List Char} {w : Written} :
    ofDigits? form digits = some w ↔
      (digits ≠ [] ∧ digits.all isDigit = true) ∧ form digits = w := by
  rw [ofDigits?, Option.ite_none_right_eq_some, Option.some_inj]

theorem ofDigits?_of_digits (form : List Char → Written) {digits : List Char}
    (h : digits ≠ [] ∧ digits.all isDigit = true) : ofDigits? form digits = some (form digits) :=
  ofDigits?_eq_some_iff.mpr ⟨h, rfl⟩

theorem text_of_ofNumber? {s : List Char} {w : Written} (h : ofNumber? s = some w) :
    w.WellFormed ∧ w.text = String.ofList s := by
  unfold ofNumber? at h
  split at h
  all_goals
    obtain ⟨hdigits, rfl⟩ := ofDigits?_eq_some_iff.mp h
    exact ⟨hdigits, rfl⟩

theorem ofNumber?_digits {s : List Char} (h : s ≠ [] ∧ s.all isDigit = true) :
    ofNumber? s = some (.number s) := by
  unfold ofNumber?
  -- Digits do not begin with a sign.
  split
  · exact absurd h.2 (by simp [isDigit])
  · exact absurd h.2 (by simp [isDigit])
  · exact ofDigits?_of_digits .number h

/-- The requests that are words. -/
def words : List String := ["next", "previous", "current", "first", "last"]

theorem ofString?_of_notMem {s : String} (h : s ∉ words) : ofString? s = ofNumber? s.toList := by
  unfold ofString?
  split
  iterate 5 · exact absurd (by decide) h
  · rfl

theorem lt_letter_of_isDigit {c : Char} (h : isDigit c = true) : c < 'a' := by
  have h9 : c.toNat ≤ '9'.toNat := by
    simp only [isDigit, Bool.and_eq_true, decide_eq_true_eq] at h
    exact h.2
  exact Char.lt_def.mpr (UInt32.lt_iff_toNat_lt.mpr (Nat.lt_of_le_of_lt h9 (by decide)))

/-- What does not begin with a letter is no word. -/
theorem ofString?_cons {c : Char} (hc : c < 'a') (s : List Char) :
    ofString? (String.ofList (c :: s)) = ofNumber? (c :: s) := by
  have hletter : ∀ word ∈ words, word.toList.head?.all ('a' ≤ ·) = true := by decide
  rw [ofString?_of_notMem, String.toList_ofList]
  intro hmem
  have hfirst : 'a' ≤ c := by simpa using hletter _ hmem
  exact absurd hc (Char.not_lt.mpr hfirst)

theorem text_of_ofString? {s : String} {w : Written} (h : ofString? s = some w) :
    w.WellFormed ∧ w.text = s := by
  unfold ofString? at h
  split at h
  iterate 5
    · cases h
      exact ⟨trivial, rfl⟩
  · rw [← String.ofList_toList (s := s)]
    exact text_of_ofNumber? h

theorem ofString?_text {w : Written} (hwell : w.WellFormed) : ofString? w.text = some w := by
  cases w with
  | next | previous | current | first | last => rfl
  | number digits =>
    obtain ⟨c, s, rfl⟩ := List.exists_cons_of_ne_nil hwell.1
    have hc : isDigit c = true := List.all_eq_true.mp hwell.2 c List.mem_cons_self
    calc ofString? (String.ofList (c :: s)) = ofNumber? (c :: s) :=
          ofString?_cons (lt_letter_of_isDigit hc) s
      _ = some (.number (c :: s)) := ofNumber?_digits hwell
  | forward digits =>
    calc ofString? (String.ofList ('+' :: digits)) = ofNumber? ('+' :: digits) :=
          ofString?_cons (by decide) digits
      _ = some (.forward digits) := ofDigits?_of_digits .forward hwell
  | back digits =>
    calc ofString? (String.ofList ('-' :: digits)) = ofNumber? ('-' :: digits) :=
          ofString?_cons (by decide) digits
      _ = some (.back digits) := ofDigits?_of_digits .back hwell

/-- A text is the request that is written so, and no other. -/
theorem ofString?_eq_some_iff {s : String} {w : Written} :
    ofString? s = some w ↔ w.WellFormed ∧ w.text = s := by
  constructor
  · exact text_of_ofString?
  · rintro ⟨hwell, rfl⟩
    exact ofString?_text hwell

end Written

/-- Of digits the nearest word is kept. -/
theorem map_magnitude? (f : Nat → PageRequest) (form : List Char → Written)
    (hf : ∀ digits, (form digits).request = f (min max64 (value digits))) (digits : List Char) :
    (magnitude? digits).map f = (Written.ofDigits? form digits).map Written.request := by
  by_cases h : digits ≠ [] ∧ digits.all isDigit = true
  · have hread : read? digits = some (value digits) := by simp [read?, h.1, h.2]
    rw [Written.ofDigits?_of_digits form h, magnitude?, hread]
    exact congrArg some (hf digits).symm
  · have hread : read? digits = none := by simpa [read?, Classical.or_iff_not_imp_left] using h
    rw [Written.ofDigits?, if_neg h, magnitude?, hread]
    rfl

theorem ofNumber?_eq (s : List Char) : ofNumber? s = (Written.ofNumber? s).map Written.request := by
  unfold ofNumber?
  split
  · exact map_magnitude? _ .forward (fun _ => rfl) _
  · exact map_magnitude? _ .back (fun _ => rfl) _
  · next hplus hminus =>
    rw [Written.ofNumber?]
    · exact map_magnitude? _ .number (fun _ => rfl) _
    · exact hplus
    · exact hminus

/-- **Of a written request is read what is kept of it**, and of no other text anything. -/
theorem ofString?_eq (s : String) : ofString? s = (Written.ofString? s).map Written.request := by
  unfold ofString?
  split
  iterate 5 · rfl
  · next hnext hprevious hcurrent hfirst hlast =>
    have hs : s ∉ Written.words := by
      simp only [Written.words, List.mem_cons, List.not_mem_nil, not_or]
      exact ⟨hnext, hprevious, hcurrent, hfirst, hlast, not_false⟩
    rw [Written.ofString?_of_notMem hs]
    exact ofNumber?_eq _

theorem ofString?_text {w : Written} (hwell : w.WellFormed) : ofString? w.text = some w.request := by
  rw [ofString?_eq, Written.ofString?_text hwell]
  rfl

/-- **What is read is what is written.** -/
theorem ofString?_eq_some_iff {s : String} {r : PageRequest} :
    ofString? s = some r ↔ ∃ w : Written, w.WellFormed ∧ w.text = s ∧ w.request = r := by
  simp only [ofString?_eq, Option.map_eq_some_iff, Written.ofString?_eq_some_iff, and_assoc]

/-! ## 3. Words on the way -/

/-- A number that is a signed word. -/
def InSignedWord (n : Int) : Prop := -(maxInt64 + 1) ≤ n ∧ n ≤ maxInt64

/-- The number of a request is a word: unsigned for a page, signed for a distance. -/
def InWords : PageRequest → Prop
  | .absolute n => n ≤ max64
  | .relative distance => InSignedWord distance
  | _ => True

/-- What is read is kept in words, however many digits were written. -/
theorem inWords_request (w : Written) : w.request.InWords := by
  cases w with
  | next | previous | current | first | last => trivial
  | number digits => exact Nat.min_le_left max64 (value digits)
  | forward digits | back digits =>
    simp only [Written.request, InWords, InSignedWord]
    omega

theorem inSignedWord_saturate (n : Int) : InSignedWord (saturate n) := by
  unfold InSignedWord saturate
  omega

/-- The page that a request means is a signed word before it is brought into the deck. -/
theorem inSignedWord_target (r : PageRequest) {current pageCount : Nat} (hcurrent : current ≤ max32)
    (hlast : pageCount ≤ max32) : InSignedWord (r.target current pageCount) := by
  have hmax : max32 ≤ maxInt64 ∧ 1 ≤ maxInt64 := by decide
  cases r with
  | next | previous | absolute | relative => exact inSignedWord_saturate _
  | current | first | last =>
    simp only [target, InSignedWord]
    omega

/-! ## 4. The page that is shown -/

theorem resolve_eq (r : PageRequest) (current : Nat) {pageCount : Nat} (h : 1 ≤ pageCount) :
    (r.resolve current pageCount : Int) = max 1 (min (r.target current pageCount) pageCount) := by
  have hcount : max 1 pageCount = pageCount := Nat.max_eq_right h
  simp only [resolve, hcount]
  omega

/-- The nearest signed word lies in a deck where the number itself does, since no deck reaches the end of
the words. -/
theorem clamp_saturate (n : Int) {last : Nat} (h : last ≤ max32) :
    max 1 (min (saturate n) last) = max 1 (min n last) := by
  have hmax : max32 ≤ maxInt64 := by decide
  unfold saturate
  omega

/-- **The page of a request is the page that was asked for, brought into the deck.** -/
theorem resolve_request (w : Written) {current pageCount : Nat} (hcurrent : current ≤ max32)
    (hfirst : 1 ≤ pageCount) (hlast : pageCount ≤ max32) :
    (w.request.resolve current pageCount : Int) =
      max 1 (min (w.page current pageCount) pageCount) := by
  have hmax : max32 ≤ max64 ∧ 2 * max32 ≤ maxInt64 := by decide
  rw [resolve_eq _ _ hfirst]
  cases w with
  | next | previous => exact clamp_saturate _ hlast
  | current | first | last => rfl
  | number digits | forward digits | back digits =>
    simp only [Written.request, target, clamp_saturate _ hlast, Written.page]
    omega

/-- **What the walk computes is the page of the deck that was asked for**, if the pages of the deck are
counted in 32 bits. -/
theorem resolve_request_eq_pageIn (w : Written) {current pageCount : Nat} (hcurrent : current ≤ max32)
    (hlast : pageCount ≤ max32) : w.request.resolve current pageCount = w.pageIn current pageCount := by
  have hexact := resolve_request w hcurrent (Nat.le_max_left 1 pageCount)
    (Nat.max_le.mpr ⟨by decide, hlast⟩)
  have hcount : w.request.resolve current (max 1 pageCount) = w.request.resolve current pageCount := by
    simp only [resolve, ← Nat.max_assoc, Nat.max_self]
  rw [← hcount, Written.pageIn, ← hexact, Int.toNat_natCast]

/-- **Page arithmetic is exact.**  Whatever is written as a request is read, and nothing else is.  The page
that is shown is the one that was asked for, in whole numbers of any size, brought into the deck; and no
number on the way leaves its word. -/
theorem resolve_exact :
    (∀ s : String, ofString? s = none ↔ ∀ w : Written, w.WellFormed → w.text ≠ s) ∧
    ∀ w : Written, w.WellFormed → ∃ r, ofString? w.text = some r ∧ r.InWords ∧
      ∀ current pageCount : Nat, current ≤ max32 → 1 ≤ pageCount → pageCount ≤ max32 →
        (r.resolve current pageCount : Int) = max 1 (min (w.page current pageCount) pageCount) ∧
          InSignedWord (r.target current pageCount) ∧ r.resolve current pageCount ≤ max32 := by
  constructor
  · intro s
    constructor
    · intro hnone w hwell htext
      rw [← htext, ofString?_text hwell] at hnone
      cases hnone
    · intro hunwritten
      rw [Option.eq_none_iff_forall_ne_some]
      intro r hr
      obtain ⟨w, hwell, htext, -⟩ := ofString?_eq_some_iff.mp hr
      exact hunwritten w hwell htext
  · intro w hwell
    refine ⟨w.request, ofString?_text hwell, inWords_request w, ?_⟩
    intro current pageCount hcurrent hfirst hlast
    obtain ⟨-, hin⟩ := w.request.resolve_mem current hfirst
    exact ⟨resolve_request w hcurrent hfirst hlast, inSignedWord_target _ hcurrent hlast,
      Nat.le_trans hin hlast⟩

/-- From the last page that can be counted, a number far beyond the words leads back to the first. -/
theorem resolve_exact_far_back :
    let w := Written.back ("100000000000000000000000000000".toList)
    w.WellFormed ∧ w.text = "-100000000000000000000000000000" ∧
      ∃ r, ofString? w.text = some r ∧ (r.resolve max32 max32 : Int) = 1 := by
  intro w
  have hwell : w.WellFormed := ⟨by decide, by decide⟩
  obtain ⟨r, hr, -, hpage⟩ := resolve_exact.2 w hwell
  refine ⟨hwell, rfl, r, hr, ?_⟩
  rw [(hpage max32 max32 (by decide) (by decide) (by decide)).1]
  decide +kernel

end LecturePlan.PageRequest
