import LecturePlan.Proofs.Timestamp.Written
/-!
# The canonical form loses nothing

The canonical form is a spelling like any other: a clock with milliseconds, whose numbers are padded
(`spelling`).  So it is read by the rules for all spellings, and what it denotes is the number of
milliseconds that it was made from.

`Denotes` says what a text denotes, by its spelling alone and whether or not the number fits a word.
Reading finds what is denoted (`parse?_eq_some_iff`), and therefore two timestamps have one canonical form
iff they denote one number, in whatever styles they are written (`canonical?_lossless`).
-/

namespace LecturePlan

/-! ## 1. Numbers of fixed width -/

namespace Text.Decimal

theorem length_digits_le {n width : Nat} (hwidth : 0 < width) (h : n < 10 ^ width) :
    (digits n).length ≤ width := by
  induction width generalizing n with
  | zero => omega
  | succ width ih =>
    rw [digits]
    split
    · simp
    · next hten =>
      rcases Nat.eq_zero_or_pos width with rfl | hpos
      · omega
      · have hrest : n / 10 < 10 ^ width := by
          rw [Nat.pow_succ] at h
          omega
        have hle := ih hpos hrest
        rw [List.length_append, List.length_singleton]
        omega

/-- A number that needs no more digits is padded to the width exactly. -/
theorem length_padded {width n : Nat} (hwidth : 0 < width) (h : n < 10 ^ width) :
    (padded width n).length = width := by
  have hle := length_digits_le hwidth h
  simp only [padded, List.length_append, List.length_replicate]
  omega

end Text.Decimal

namespace Timestamp

open Text Word Decimal

/-! ## 2. The canonical spelling -/

/-- How the canonical form is spelled: with as many hours as there are, and all other parts. -/
def spelling (t : Timestamp) : Written :=
  .clock (padded 2 t.hours) (padded 2 t.minutes) (padded 2 t.seconds) (some (padded 3 t.milliseconds))

theorem chars_spelling (t : Timestamp) : t.spelling.chars = t.canonical.toList := by
  simp [spelling, Written.chars, secondsChars, canonical, canonicalChars]

theorem value_spelling (t : Timestamp) : t.spelling.value = t.total := by
  simp only [spelling, Written.value, value_padded]
  exact t.parts_total

/-- A part with an upper bound has a fixed number of digits. -/
theorem isDigits_padded {width n : Nat} (hwidth : 0 < width) (h : n < 10 ^ width) :
    isDigits width (padded width n) = true :=
  isDigits_iff.mpr ⟨length_padded hwidth h, all_isDigit_padded width n⟩

/-- The hours have no upper bound, and a clock asks for none. -/
theorem wellFormed_spelling (t : Timestamp) : t.spelling.WellFormed := by
  obtain ⟨hm, hs, hms⟩ := parts_lt t
  refine ⟨⟨le_length_padded 2 t.hours, all_isDigit_padded 2 t.hours⟩, ?_, ?_, ?_⟩
  · exact isDigits_padded (by decide) (by omega)
  · exact isDigits_padded (by decide) (by omega)
  · intro d hd
    cases hd
    exact isDigits_padded (by decide) (by omega)

/-! ## 3. What a text denotes -/

/-- A text denotes a number of milliseconds if it spells a timestamp of that value. -/
def Denotes (s : String) (n : Nat) : Prop :=
  ∃ w : Written, w.WellFormed ∧ w.chars = s.toList ∧ w.value = n

theorem denotes_canonical (t : Timestamp) : Denotes t.canonical t.total :=
  ⟨t.spelling, wellFormed_spelling t, chars_spelling t, value_spelling t⟩

/-- Reading finds what is denoted, if it fits. -/
theorem Denotes.parse?_eq {s : String} {n : Nat} (h : Denotes s n) :
    parse? s = if n < 2 ^ 64 then some ⟨n⟩ else none := by
  obtain ⟨w, hwell, hchars, rfl⟩ := h
  exact parse?_of_chars hwell hchars

theorem parse?_eq_some_iff {s : String} {t : Timestamp} :
    parse? s = some t ↔ Denotes s t.total ∧ t.total < 2 ^ 64 := by
  constructor
  · intro h
    have hvalid : isValid s = true := by
      by_contra hnot
      rw [parse?_of_not_isValid hnot] at h
      cases h
    obtain ⟨w, hwell, hchars⟩ := isValid_iff.mp hvalid
    rw [parse?_of_chars hwell hchars] at h
    split at h
    · next hfits =>
      cases h
      exact ⟨⟨w, hwell, hchars, rfl⟩, hfits⟩
    · cases h
  · rintro ⟨hdenotes, hfits⟩
    rw [hdenotes.parse?_eq, if_pos hfits]

/-- The canonical form of what fits is read as what it was made from. -/
theorem parse?_canonical {t : Timestamp} (h : t.total < 2 ^ 64) : parse? t.canonical = some t :=
  parse?_eq_some_iff.mpr ⟨denotes_canonical t, h⟩

theorem canonical?_eq_some_iff {s c : String} :
    canonical? s = some c ↔ ∃ t, parse? s = some t ∧ t.canonical = c :=
  Option.map_eq_some_iff

/-! ## 4. Nothing is lost -/

/-- The canonical form is a fixed point. -/
theorem canonical?_of_canonical? {s c : String} (h : canonical? s = some c) :
    canonical? c = some c := by
  obtain ⟨t, ht, rfl⟩ := canonical?_eq_some_iff.mp h
  obtain ⟨-, hfits⟩ := parse?_eq_some_iff.mp ht
  exact canonical?_eq_some_iff.mpr ⟨t, parse?_canonical hfits, rfl⟩

/-- Two texts that are read have one canonical form iff they are read as one point. -/
theorem canonical?_eq_iff {s s' : String} {t t' : Timestamp} (h : parse? s = some t)
    (h' : parse? s' = some t') : canonical? s = canonical? s' ↔ t = t' := by
  rw [canonical?, canonical?, h, h', Option.map_some, Option.map_some, Option.some_inj]
  constructor
  · intro heq
    have hread := parse?_canonical (parse?_eq_some_iff.mp h).2
    rw [heq, parse?_canonical (parse?_eq_some_iff.mp h').2] at hread
    exact (Option.some_inj.mp hread).symm
  · rintro rfl
    rfl

/-- **The canonical form is lossless.**  Every number of milliseconds that fits 64 bits is read back from
it, it is its own canonical form, and two timestamps have the same one iff they denote the same number of
milliseconds. -/
theorem canonical?_lossless :
    (∀ n < 2 ^ 64, parse? (Timestamp.mk n).canonical = some ⟨n⟩) ∧
    (∀ s c : String, canonical? s = some c → canonical? c = some c) ∧
    ∀ s s' : String, (parse? s).isSome → (parse? s').isSome →
      (canonical? s = canonical? s' ↔ ∃ n, Denotes s n ∧ Denotes s' n) := by
  refine ⟨fun n hn => parse?_canonical hn, fun s c => canonical?_of_canonical?, ?_⟩
  intro s s' hs hs'
  obtain ⟨t, ht⟩ := Option.isSome_iff_exists.mp hs
  obtain ⟨t', ht'⟩ := Option.isSome_iff_exists.mp hs'
  obtain ⟨hdenotes, hfits⟩ := parse?_eq_some_iff.mp ht
  rw [canonical?_eq_iff ht ht']
  constructor
  · rintro rfl
    exact ⟨t.total, hdenotes, (parse?_eq_some_iff.mp ht').1⟩
  · rintro ⟨n, hn, hn'⟩
    -- A text is read as one point only, so `n` is what both were read as.
    rw [hn.parse?_eq] at ht
    rw [hn'.parse?_eq] at ht'
    exact Option.some_inj.mp (ht.symm.trans ht')

/-- The last millisecond, in two styles. -/
theorem canonical?_lossless_at_last_millisecond :
    let n := 2 ^ 64 - 1
    n < 2 ^ 64 ∧ parse? (Timestamp.mk n).canonical = some ⟨n⟩ ∧
      (parse? "18446744073709551615ms").isSome ∧ (parse? "05124095576030:25:51.615").isSome ∧
      canonical? "18446744073709551615ms" = canonical? "05124095576030:25:51.615" := by
  intro n
  have hn : n < 2 ^ 64 := by decide
  have hunit : parse? "18446744073709551615ms" = some ⟨n⟩ := by decide +kernel
  have hclock : parse? "05124095576030:25:51.615" = some ⟨n⟩ := by decide +kernel
  have hs := Option.isSome_of_eq_some hunit
  have hs' := Option.isSome_of_eq_some hclock
  refine ⟨hn, canonical?_lossless.1 n hn, hs, hs', ?_⟩
  rw [canonical?_lossless.2.2 _ _ hs hs']
  exact ⟨n, (parse?_eq_some_iff.mp hunit).1, (parse?_eq_some_iff.mp hclock).1⟩

end Timestamp

end LecturePlan
