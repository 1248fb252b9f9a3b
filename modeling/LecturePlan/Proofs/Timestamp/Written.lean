import Mathlib.Algebra.Ring.Nat
import LecturePlan.Timestamp
/-!
# What timestamps denote

A `Written` timestamp is spelled in one way (`Written.chars`), and its value is a number of any
size.  Reading goes the other way, by the texts between colons, and computes in words of 64 bits.

* `recognize?_eq_some_iff`: what is recognised is what was spelled, and nothing else is,
* `Written.millis?_eq_fit?`: computing in words gives the value if it fits, and nothing otherwise.

No step of the computation makes its number smaller, so a number that does not fit never comes back
into the words: `fit?_bind` says this once for all steps.
-/

namespace LecturePlan

open LecturePlan.Text

/-! ## 1. Numbers that fit -/

namespace Word

/-- A number, if it fits. -/
def fit? (n : Nat) : Option Nat := if n ≤ max64 then some n else none

theorem fit?_eq (n : Nat) : fit? n = if n < 2 ^ 64 then some n else none := by
  have hmax : n ≤ max64 ↔ n < 2 ^ 64 := by
    rw [max64]
    omega
  simp only [fit?, hmax]

/-- **A step that makes no number smaller may be checked at its end.** -/
theorem fit?_bind {f : Nat → Nat} {n : Nat} (h : n ≤ f n) :
    ((fit? n).bind fun n => fit? (f n)) = fit? (f n) := by
  by_cases hn : n ≤ max64
  · rw [fit?, if_pos hn]
    rfl
  · rw [fit?, if_neg hn, fit?, if_neg (by omega)]
    rfl

end Word

namespace Text.Decimal

theorem readUpTo?_eq_fit? {s : List Char} (hne : s ≠ []) (h : s.all isDigit = true) :
    readUpTo? Word.max64 s = Word.fit? (value s) := by
  have hread : read? s = some (value s) := by simp [read?, hne, h]
  rw [readUpTo?, hread, Option.filter_some, Word.fit?]
  simp

end Text.Decimal

namespace Timestamp

open Word Decimal

/-! ## 2. Spelling -/

/-- The numbers of a timestamp are digits, as many as its style asks for. -/
def Written.WellFormed : Written → Prop
  | .clock h m s ms => (2 ≤ h.length ∧ h.all isDigit = true) ∧ isDigits 2 m = true ∧
      isDigits 2 s = true ∧ ∀ d ∈ ms, isDigits 3 d = true
  | .minutes m s => isDigits 2 m = true ∧ isDigits 2 s = true
  | .seconds n => n ≠ [] ∧ n.all isDigit = true
  | .milliseconds n => n ≠ [] ∧ n.all isDigit = true

/-- The seconds of a clock, with milliseconds behind a point or without. -/
def secondsChars (s : List Char) : Option (List Char) → List Char
  | none => s
  | some ms => s ++ '.' :: ms

/-- The characters of a timestamp. -/
def Written.chars : Written → List Char
  | .clock h m s ms => h ++ ':' :: (m ++ ':' :: secondsChars s ms)
  | .minutes m s => m ++ ':' :: s
  | .seconds n => n ++ ['s']
  | .milliseconds n => n ++ ['m', 's']

theorem isDigits_iff {n : Nat} {s : List Char} :
    isDigits n s = true ↔ s.length = n ∧ s.all isDigit = true := by
  simp [isDigits]

theorem colon_notMem_of_all {s : List Char} (h : s.all isDigit = true) : ':' ∉ s := by
  intro hmem
  exact absurd (List.all_eq_true.mp h ':' hmem) (by decide)

theorem colon_notMem_of_isDigits {n : Nat} {s : List Char} (h : isDigits n s = true) : ':' ∉ s :=
  colon_notMem_of_all (isDigits_iff.mp h).2

theorem clockSeconds?_eq_some_iff {x s : List Char} {ms : Option (List Char)} :
    clockSeconds? x = some (s, ms) ↔
      (isDigits 2 s = true ∧ ∀ d ∈ ms, isDigits 3 d = true) ∧ secondsChars s ms = x := by
  constructor
  · intro h
    unfold clockSeconds? at h
    split at h
    · next hx =>
      cases h
      exact ⟨⟨hx, fun d hd => absurd hd (Option.not_mem_none d)⟩, rfl⟩
    · split at h
      · next hx =>
        cases h
        simp only [Bool.and_eq_true, beq_iff_eq] at hx
        obtain ⟨⟨hs, hpoint⟩, hms⟩ := hx
        obtain ⟨d, hd⟩ := List.head?_eq_some_iff.mp hpoint
        have hrest : x.drop 3 = d := by rw [← List.tail_drop, hd, List.tail_cons]
        refine ⟨⟨hs, fun d hd => by cases hd; exact hms⟩, ?_⟩
        rw [secondsChars, hrest, ← hd, List.take_append_drop]
      · cases h
  · rintro ⟨⟨hs, hms⟩, rfl⟩
    unfold clockSeconds?
    cases ms with
    | none => rw [secondsChars, if_pos hs]
    | some d =>
      have hlength : s.length = 2 := (isDigits_iff.mp hs).1
      have hlong : isDigits 2 (s ++ '.' :: d) = false := by
        rw [Bool.eq_false_iff, Ne, isDigits_iff]
        intro h
        rw [List.length_append, List.length_cons] at h
        omega
      have htake : (s ++ '.' :: d).take 2 = s := by rw [← hlength, List.take_left]
      have hdrop : (s ++ '.' :: d).drop 2 = '.' :: d := by rw [← hlength, List.drop_left]
      have hrest : (s ++ '.' :: d).drop 3 = d := by rw [← List.tail_drop, hdrop, List.tail_cons]
      rw [secondsChars, hlong, if_neg Bool.false_ne_true, htake, hdrop, hrest, hs, hms d rfl]
      rfl

/-! ### Digits with a unit -/

theorem spelled_of_unit? {s : List Char} {w : Written} (h : unit? s = some w) :
    w.WellFormed ∧ w.chars = s := by
  have happ := splitBefore_append (fun c => !isDigit c) s
  have hdigits : (splitBefore (fun c => !isDigit c) s).1.all isDigit = true := by
    simp only [splitBefore, Bool.not_not]
    exact List.all_takeWhile
  unfold unit? at h
  dsimp only at h
  split at h
  · cases h
  · next hne =>
    rw [List.isEmpty_iff] at hne
    split at h
    · next hunit =>
      cases h
      exact ⟨⟨hne, hdigits⟩, by rw [Written.chars, ← hunit, happ]⟩
    · split at h
      · next hunit =>
        cases h
        exact ⟨⟨hne, hdigits⟩, by rw [Written.chars, ← hunit, happ]⟩
      · cases h

theorem splitBefore_digits {n : List Char} (h : n.all isDigit = true) {c : Char}
    (hc : isDigit c = false) (rest : List Char) :
    splitBefore (fun c => !isDigit c) (n ++ c :: rest) = (n, c :: rest) :=
  splitBefore_of_forall (fun d hd => by simp [List.all_eq_true.mp h d hd]) (by simp [hc]) rest

theorem unit?_seconds {n : List Char} (hne : n ≠ []) (h : n.all isDigit = true) :
    unit? (n ++ ['s']) = some (.seconds n) := by
  rw [unit?, splitBefore_digits h (by decide)]
  simp [hne]

theorem unit?_milliseconds {n : List Char} (hne : n ≠ []) (h : n.all isDigit = true) :
    unit? (n ++ ['m', 's']) = some (.milliseconds n) := by
  rw [unit?, splitBefore_digits h (by decide)]
  simp [hne]

/-! ### Texts between colons -/

theorem intercalate_two (a b : List Char) : [':'].intercalate [a, b] = a ++ ':' :: b := by
  simp [List.intercalate]

theorem intercalate_three (a b c : List Char) :
    [':'].intercalate [a, b, c] = a ++ ':' :: (b ++ ':' :: c) := by
  simp [List.intercalate]

theorem notMem_secondsChars {s : List Char} {ms : Option (List Char)}
    (hs : isDigits 2 s = true) (hms : ∀ d ∈ ms, isDigits 3 d = true) :
    ':' ∉ secondsChars s ms := by
  have hsec := colon_notMem_of_isDigits hs
  cases ms with
  | none => exact hsec
  | some d => simp [secondsChars, hsec, colon_notMem_of_isDigits (hms d rfl)]

theorem splitOn_clock {h m s : List Char} {ms : Option (List Char)}
    (hwell : (Written.clock h m s ms).WellFormed) :
    (Written.clock h m s ms).chars.splitOn ':' = [h, m, secondsChars s ms] := by
  obtain ⟨⟨-, hh⟩, hm, hs, hms⟩ := hwell
  rw [Written.chars, ← intercalate_three]
  refine List.splitOn_intercalate ':' (fun piece hpiece => ?_) (List.cons_ne_nil _ _)
  simp only [List.mem_cons, List.not_mem_nil, or_false] at hpiece
  obtain rfl | rfl | rfl := hpiece
  · exact colon_notMem_of_all hh
  · exact colon_notMem_of_isDigits hm
  · exact notMem_secondsChars hs hms

theorem splitOn_minutes {m s : List Char} (hwell : (Written.minutes m s).WellFormed) :
    (Written.minutes m s).chars.splitOn ':' = [m, s] := by
  rw [Written.chars, ← intercalate_two]
  refine List.splitOn_intercalate ':' (fun piece hpiece => ?_) (List.cons_ne_nil _ _)
  simp only [List.mem_cons, List.not_mem_nil, or_false] at hpiece
  obtain rfl | rfl := hpiece
  · exact colon_notMem_of_isDigits hwell.1
  · exact colon_notMem_of_isDigits hwell.2

theorem recognize?_of_notMem {s : List Char} (h : ':' ∉ s) : recognize? s = unit? s := by
  rw [recognize?, List.splitOn_eq_singleton h]

/-! ### Recognition -/

theorem spelled_of_recognize? {s : List Char} {w : Written} (h : recognize? s = some w) :
    w.WellFormed ∧ w.chars = s := by
  have hjoin : [':'].intercalate (s.splitOn ':') = s := List.intercalate_splitOn ':'
  unfold recognize? at h
  split at h
  · next hours m sec hcut =>
    rw [hcut] at hjoin
    split at h
    · next hdigits =>
      obtain ⟨⟨s', ms⟩, hsec, h⟩ := Option.map_eq_some_iff.mp h
      cases h
      obtain ⟨hwell, hchars⟩ := clockSeconds?_eq_some_iff.mp hsec
      refine ⟨⟨⟨hdigits.1, hdigits.2.1⟩, hdigits.2.2, hwell.1, hwell.2⟩, ?_⟩
      rw [Written.chars, hchars, ← hjoin, intercalate_three]
    · cases h
  · next m sec hcut =>
    rw [hcut] at hjoin
    split at h
    · next hdigits =>
      cases h
      rw [Bool.and_eq_true] at hdigits
      exact ⟨hdigits, by rw [← hjoin, intercalate_two, Written.chars]⟩
    · cases h
  · exact spelled_of_unit? h

theorem recognize?_chars {w : Written} (hwell : w.WellFormed) : recognize? w.chars = some w := by
  cases w with
  | clock h m sec ms =>
    have hsec := clockSeconds?_eq_some_iff.mpr ⟨hwell.2.2, rfl⟩
    rw [recognize?, splitOn_clock hwell]
    simp only [hsec]
    exact if_pos ⟨hwell.1.1, hwell.1.2, hwell.2.1⟩
  | minutes m sec =>
    rw [recognize?, splitOn_minutes hwell]
    simp only [hwell.1, hwell.2, Bool.and_self, if_true]
  | seconds n =>
    have hmem := colon_notMem_of_all hwell.2
    rw [Written.chars, recognize?_of_notMem (by simp [hmem]), unit?_seconds hwell.1 hwell.2]
  | milliseconds n =>
    have hmem := colon_notMem_of_all hwell.2
    rw [Written.chars, recognize?_of_notMem (by simp [hmem]), unit?_milliseconds hwell.1 hwell.2]

/-- **What is recognised is what was spelled.** -/
theorem recognize?_eq_some_iff {s : List Char} {w : Written} :
    recognize? s = some w ↔ w.WellFormed ∧ w.chars = s := by
  constructor
  · exact spelled_of_recognize?
  · rintro ⟨hwell, rfl⟩
    exact recognize?_chars hwell

/-! ## 3. Values -/

/-- The checked operations of a clock, as numbers that fit. -/
theorem clockMillis?_eq_fit? (h m s ms : Nat) :
    clockMillis? h m s ms = fit? (((h * 60 + m) * 60 + s) * 1000 + ms) := by
  -- A checked operation is `fit?` of the exact one, by definition.
  calc clockMillis? h m s ms
      = (fit? (h * 60)).bind fun n => (fit? (n + m)).bind fun n => (fit? (n * 60)).bind fun n =>
          (fit? (n + s)).bind fun n => (fit? (n * 1000)).bind fun n => fit? (n + ms) := rfl
    _ = fit? (((h * 60 + m) * 60 + s) * 1000 + ms) := by
      simp (disch := omega) only [fit?_bind]

theorem word?_eq_fit? {s : List Char} (hne : s ≠ []) (h : s.all isDigit = true) :
    word? s = fit? (value s) :=
  readUpTo?_eq_fit? hne h

theorem word?_eq_fit?_of_isDigits {n : Nat} {s : List Char} (hn : 0 < n)
    (h : isDigits n s = true) : word? s = fit? (value s) := by
  obtain ⟨hlength, hdigits⟩ := isDigits_iff.mp h
  exact word?_eq_fit? (List.ne_nil_of_length_pos (by omega)) hdigits

/-- **Computing in words is exact.** -/
theorem Written.millis?_eq_fit? {w : Written} (h : w.WellFormed) : w.millis? = fit? w.value := by
  cases w with
  | clock hours m s ms =>
    obtain ⟨⟨hlength, hhours⟩, hm, hs, hms⟩ := h
    have hours_eq := word?_eq_fit? (List.ne_nil_of_length_pos (by omega)) hhours
    have m_eq := word?_eq_fit?_of_isDigits (by decide) hm
    have s_eq := word?_eq_fit?_of_isDigits (by decide) hs
    cases ms with
    | none =>
      calc (Written.clock hours m s none).millis?
          = (word? hours).bind fun h => (word? m).bind fun m => (word? s).bind fun s =>
              clockMillis? h m s 0 := rfl
        _ = fit? (((Decimal.value hours * 60 + Decimal.value m) * 60 +
              Decimal.value s) * 1000 + 0) := by
          rw [hours_eq, m_eq, s_eq]
          simp (disch := omega) only [clockMillis?_eq_fit?, fit?_bind]
    | some ms =>
      have ms_eq := word?_eq_fit?_of_isDigits (by decide) (hms ms rfl)
      calc (Written.clock hours m s (some ms)).millis?
          = (word? hours).bind fun h => (word? m).bind fun m => (word? s).bind fun s =>
              (word? ms).bind fun ms => clockMillis? h m s ms := rfl
        _ = fit? (((Decimal.value hours * 60 + Decimal.value m) * 60 +
              Decimal.value s) * 1000 + Decimal.value ms) := by
          rw [hours_eq, m_eq, s_eq, ms_eq]
          simp (disch := omega) only [clockMillis?_eq_fit?, fit?_bind]
  | minutes m s =>
    have m_eq := word?_eq_fit?_of_isDigits (by decide) h.1
    have s_eq := word?_eq_fit?_of_isDigits (by decide) h.2
    calc (Written.minutes m s).millis?
        = (word? m).bind fun m => (word? s).bind fun s => clockMillis? 0 m s 0 := rfl
      _ = fit? ((Decimal.value m * 60 + Decimal.value s) * 1000) := by
        rw [m_eq, s_eq]
        simp (disch := omega) only [clockMillis?_eq_fit?, fit?_bind, Nat.zero_mul, Nat.zero_add,
          Nat.add_zero]
  | seconds n =>
    calc (Written.seconds n).millis?
        = (word? n).bind fun n => fit? (n * 1000) := rfl
      _ = fit? (Decimal.value n * 1000) := by
        rw [word?_eq_fit? h.1 h.2]
        simp (disch := omega) only [fit?_bind]
  | milliseconds n => exact word?_eq_fit? h.1 h.2

/-! ## 4. Reading -/

theorem parse?_of_chars {s : String} {w : Written} (hwell : w.WellFormed)
    (hchars : w.chars = s.toList) :
    parse? s = if w.value < 2 ^ 64 then some ⟨w.value⟩ else none := by
  have hrec : recognize? s.toList = some w := recognize?_eq_some_iff.mpr ⟨hwell, hchars⟩
  rw [parse?, hrec, Option.bind_some, Written.millis?_eq_fit? hwell, fit?_eq]
  split <;> rfl

theorem isValid_iff {s : String} :
    isValid s = true ↔ ∃ w : Written, w.WellFormed ∧ w.chars = s.toList := by
  rw [isValid, Option.isSome_iff_exists]
  exact exists_congr fun w => recognize?_eq_some_iff

theorem parse?_of_not_isValid {s : String} (h : ¬ isValid s = true) : parse? s = none := by
  rw [isValid, Option.not_isSome_iff_eq_none] at h
  rw [parse?, h, Option.bind_none]

theorem parts_lt (t : Timestamp) : t.minutes < 60 ∧ t.seconds < 60 ∧ t.milliseconds < 1000 :=
  ⟨Nat.mod_lt _ (by decide), Nat.mod_lt _ (by decide), Nat.mod_lt _ (by decide)⟩

/-- **Reading is exact.**  A text that spells a timestamp gives its value if that fits 64 bits, no
other text gives one, and the parts of every timestamp recompose to its milliseconds. -/
theorem parse?_exact (s : String) :
    (∀ w : Written, w.WellFormed → w.chars = s.toList →
      parse? s = if w.value < 2 ^ 64 then some ⟨w.value⟩ else none) ∧
    ((∀ w : Written, w.WellFormed → w.chars ≠ s.toList) → parse? s = none) ∧
    (isValid s = true ↔ ∃ w : Written, w.WellFormed ∧ w.chars = s.toList) ∧
    ∀ t ∈ parse? s, t.minutes < 60 ∧ t.seconds < 60 ∧ t.milliseconds < 1000 ∧
      ((t.hours * 60 + t.minutes) * 60 + t.seconds) * 1000 + t.milliseconds = t.total := by
  refine ⟨fun w => parse?_of_chars, fun hnone => ?_, isValid_iff, fun t _ => ?_⟩
  · refine parse?_of_not_isValid fun hvalid => ?_
    obtain ⟨w, hwell, hchars⟩ := isValid_iff.mp hvalid
    exact hnone w hwell hchars
  · obtain ⟨hm, hs, hms⟩ := parts_lt t
    exact ⟨hm, hs, hms, parts_total t⟩

/-- Leading zeros do not count, and the last millisecond that fits is read. -/
example : parse? "0005124095576030:25:51.615" = some ⟨2 ^ 64 - 1⟩ ∧
    parse? "0005124095576030:25:51.616" = none := by
  decide +kernel

end Timestamp

end LecturePlan
