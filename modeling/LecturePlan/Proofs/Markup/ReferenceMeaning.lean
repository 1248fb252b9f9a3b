import LecturePlan.Proofs.Markup.ReadBack
/-!
# What references mean

References are read in two places, by two readers that share nothing but the five names and the digits.
Here it is said once, without either of them, which character a reference stands for (`Denotes`): the
character of its name, or the one whose number is written in it.  The number is exact and of any length, and
a reference never stands for the character with number zero.

The reader of values reads just that (`resolveInValue_eq_ok_iff`).  The reader of text reads that too, and
it takes some liberties besides: it reads `#X` as `#x`, and it does not mind a plus sign or the number zero.
Bodies of this kind are told by `takesLiberty`, and on all other bodies the two
readers agree (`resolve?_eq_some_iff`).
-/

namespace LecturePlan.Markup

open LecturePlan.Text

/-! ## 1. Numbers of any length -/

/-- The number that is written with some digits behind those of another one. -/
def numeralFrom? (base n : Nat) : List Char → Option Nat
  | [] => some n
  | c :: s => (digitIn? base c).bind fun d => numeralFrom? base (n * base + d) s

/-- The number that is written with one or more digits. -/
def numeral? (base : Nat) (s : List Char) : Option Nat :=
  if s.isEmpty then none else numeralFrom? base 0 s

/-- More digits do not make a number smaller. -/
theorem le_of_numeralFrom? {base n m : Nat} (hbase : 1 ≤ base) {s : List Char}
    (h : numeralFrom? base n s = some m) : n ≤ m := by
  induction s generalizing n with
  | nil => exact Nat.le_of_eq (Option.some.inj h)
  | cons c s ih =>
    obtain ⟨d, -, hs⟩ := Option.bind_eq_some_iff.mp h
    calc n = n * 1 := (Nat.mul_one n).symm
      _ ≤ n * base := Nat.mul_le_mul_left n hbase
      _ ≤ n * base + d := Nat.le_add_right _ d
      _ ≤ m := ih hs

/-- A word is read iff the exact number fits: what is too large on the way stays too large. -/
theorem word32From_eq_ok_iff {base n m : Nat} (hbase : 1 ≤ base) (hn : n ≤ Word.max32)
    (s : List Char) :
    word32From base n s = .ok m ↔ numeralFrom? base n s = some m ∧ m ≤ Word.max32 := by
  induction s generalizing n with
  | nil =>
    simp only [word32From, numeralFrom?, Except.ok.injEq, Option.some.injEq]
    exact ⟨fun h => ⟨h, h ▸ hn⟩, And.left⟩
  | cons c s ih =>
    rw [word32From, numeralFrom?]
    cases digitIn? base c with
    | none => simp
    | some d =>
      dsimp only [Option.bind_some]
      split
      · next hfits => exact ih hfits
      · next hlarge =>
        refine iff_of_false (by simp) fun ⟨hs, hm⟩ => hlarge ?_
        exact (le_of_numeralFrom? hbase hs).trans hm

theorem word32_eq_ok_iff {base m : Nat} (hbase : 1 ≤ base) (s : List Char) :
    word32 base s = .ok m ↔ numeral? base s = some m ∧ m ≤ Word.max32 := by
  unfold word32 numeral?
  split
  · simp
  · exact word32From_eq_ok_iff hbase (Nat.zero_le _) s

/-- A number begins with a digit. -/
theorem head?_ne_of_numeral? {base n : Nat} {s : List Char} (h : numeral? base s = some n) {c : Char}
    (hc : hexValue? c = none) : s.head? ≠ some c := by
  intro hhead
  obtain ⟨t, rfl⟩ := List.head?_eq_some_iff.mp hhead
  rw [numeral?, if_neg (by simp), numeralFrom?, digitIn?, hc] at h
  cases h

/-- A number is zero iff all its digits are. -/
theorem numeralFrom?_eq_zero_iff {base : Nat} (hbase : 1 ≤ base) (s : List Char) :
    numeralFrom? base 0 s = some 0 ↔ ∀ c ∈ s, digitIn? base c = some 0 := by
  induction s with
  | nil => simp [numeralFrom?]
  | cons c s ih =>
    rw [numeralFrom?, List.forall_mem_cons]
    cases digitIn? base c with
    | none => simp
    | some d =>
      rw [Option.bind_some, Nat.zero_mul, Nat.zero_add, Option.some.injEq]
      constructor
      · intro h
        obtain rfl : d = 0 := Nat.le_zero.mp (le_of_numeralFrom? hbase h)
        exact ⟨rfl, ih.mp h⟩
      · rintro ⟨rfl, h⟩
        exact ih.mpr h

/-! ## 2. The meaning of a reference -/

/-- **What a reference stands for**, given what is between `&` and `;`. -/
inductive Denotes : List Char → Char → Prop
  | named {body : List Char} {c : Char} : named? body = some c → Denotes body c
  | decimal {s : List Char} {c : Char} : numeral? 10 s = some c.toNat → c.toNat ≠ 0 →
      Denotes ('#' :: s) c
  | hexadecimal {s : List Char} {c : Char} : numeral? 16 s = some c.toNat → c.toNat ≠ 0 →
      Denotes ('#' :: 'x' :: s) c

theorem named?_number (s : List Char) : named? ('#' :: s) = none := by simp [named?]

/-- What a hexadecimal reference stands for: the mark in it is no decimal digit. -/
theorem denotes_hexadecimal_iff {s : List Char} {c : Char} :
    Denotes ('#' :: 'x' :: s) c ↔ numeral? 16 s = some c.toNat ∧ c.toNat ≠ 0 := by
  constructor
  · rintro (h | ⟨h, -⟩ | ⟨h, h0⟩)
    · rw [named?_number] at h
      cases h
    · exact absurd rfl (head?_ne_of_numeral? h (c := 'x') rfl)
    · exact ⟨h, h0⟩
  · exact fun ⟨h, h0⟩ => .hexadecimal h h0

theorem denotes_decimal_iff {s : List Char} (hs : s.head? ≠ some 'x') {c : Char} :
    Denotes ('#' :: s) c ↔ numeral? 10 s = some c.toNat ∧ c.toNat ≠ 0 := by
  constructor
  · intro h
    generalize hbody : '#' :: s = body at h
    cases h with
    | named h =>
      rw [← hbody, named?_number] at h
      cases h
    | decimal h h0 =>
      cases hbody
      exact ⟨h, h0⟩
    | hexadecimal h h0 =>
      cases hbody
      exact absurd rfl hs
  · exact fun ⟨h, h0⟩ => .decimal h h0

theorem denotes_name_iff {body : List Char} (h : body.head? ≠ some '#') {c : Char} :
    Denotes body c ↔ named? body = some c := by
  constructor
  · intro hbody
    cases hbody with
    | named hname => exact hname
    | decimal => exact absurd rfl h
    | hexadecimal => exact absurd rfl h
  · exact .named

/-! ## 3. References in values -/

theorem charOfCode?_eq_some_iff {n : Nat} {c : Char} : charOfCode? n = some c ↔ n = c.toNat :=
  ⟨fun h => (toNat_of_charOfCode? h).symm, fun h => h ▸ charOfCode?_toNat c⟩

theorem charInValue_eq_ok_iff {n : Nat} {c : Char} :
    charInValue n = .ok c ↔ n = c.toNat ∧ c.toNat ≠ 0 := by
  unfold charInValue
  split
  · next h0 =>
    refine iff_of_false (by simp) fun ⟨hn, hc⟩ => ?_
    exact hc (hn ▸ h0)
  · next h0 =>
    split
    · next c' hc' =>
      rw [Except.ok.injEq, ← Option.some.injEq, ← hc', charOfCode?_eq_some_iff]
      exact ⟨fun h => ⟨h, h ▸ h0⟩, And.left⟩
    · next hnone =>
      refine iff_of_false (by simp) fun ⟨hn, _⟩ => ?_
      rw [charOfCode?_eq_some_iff.mpr hn] at hnone
      cases hnone

/-- Every character has a number that fits a word. -/
theorem toNat_le_max32 (c : Char) : c.toNat ≤ Word.max32 := by
  have hvalid : c.toNat.isValidChar := c.valid
  unfold Nat.isValidChar at hvalid
  unfold Word.max32
  omega

theorem codeInValue_eq_ok_iff {base n : Nat} (hbase : 1 ≤ base) (s : List Char) :
    codeInValue base s = .ok n ↔ numeral? base s = some n ∧ n ≤ Word.max32 := by
  have hsign (c : Char) (hc : hexValue? c = none) (s : List Char) :
      ¬ (numeral? base (c :: s) = some n ∧ n ≤ Word.max32) := fun h =>
    absurd rfl (head?_ne_of_numeral? h.1 hc)
  unfold codeInValue
  split
  · exact iff_of_false (by simp) (hsign '+' rfl _)
  · exact iff_of_false (by simp) (hsign '-' rfl _)
  · rw [← word32_eq_ok_iff hbase]
    cases word32 base s <;> simp [Except.mapError]

/-- The number in a reference and its character. -/
theorem codeInValue_bind_eq_ok_iff {base : Nat} (hbase : 1 ≤ base) {s : List Char} {c : Char} :
    codeInValue base s >>= charInValue = .ok c ↔ numeral? base s = some c.toNat ∧ c.toNat ≠ 0 := by
  constructor
  · intro h
    cases hcode : codeInValue base s with
    | error f =>
      rw [hcode] at h
      cases h
    | ok n =>
      rw [hcode] at h
      obtain ⟨rfl, h0⟩ := charInValue_eq_ok_iff.mp h
      exact ⟨((codeInValue_eq_ok_iff hbase s).mp hcode).1, h0⟩
  · rintro ⟨h, h0⟩
    rw [(codeInValue_eq_ok_iff hbase s).mpr ⟨h, toNat_le_max32 c⟩]
    exact charInValue_eq_ok_iff.mpr ⟨rfl, h0⟩

/-- **In a value a reference is read as what it stands for**, and as nothing else. -/
theorem resolveInValue_eq_ok_iff (start : Nat) (body : List Char) (c : Char) :
    resolveInValue start body = .ok c ↔ Denotes body c := by
  unfold resolveInValue
  split
  · next s => rw [codeInValue_bind_eq_ok_iff (by decide), denotes_hexadecimal_iff]
  · next s hx =>
    have hs : s.head? ≠ some 'x' := fun hhead => by
      obtain ⟨t, rfl⟩ := List.head?_eq_some_iff.mp hhead
      exact hx t rfl
    rw [codeInValue_bind_eq_ok_iff (by decide), denotes_decimal_iff hs]
  · next hnumber =>
    have hbody : body.head? ≠ some '#' := fun hhead => by
      obtain ⟨t, rfl⟩ := List.head?_eq_some_iff.mp hhead
      exact hnumber t rfl
    rw [denotes_name_iff hbody]
    cases named? body <;> simp

/-! ## 4. References in text -/

theorem dropPlus_of_head? {s : List Char} (h : s.head? ≠ some '+') : dropPlus s = s := by
  unfold dropPlus
  split
  · exact absurd rfl h
  · rfl

/-- Digits without a mark in front of them are decimal. -/
theorem codeInText?_decimal {s : List Char} (hx : s.head? ≠ some 'x') (hX : s.head? ≠ some 'X') :
    codeInText? ('#' :: s) = (word32 10 (dropPlus s)).toOption := by
  unfold codeInText?
  split
  · next heq =>
    cases heq
    exact absurd rfl hx
  · next heq =>
    cases heq
    exact absurd rfl hX
  · next heq =>
    cases heq
    rfl
  · next hno => exact absurd rfl (hno s)

theorem codeInText?_name {body : List Char} (h : body.head? ≠ some '#') :
    codeInText? body = none := by
  unfold codeInText?
  split
  · exact absurd rfl h
  · exact absurd rfl h
  · exact absurd rfl h
  · rfl

/-- The reader of text reads the numbers that the digits write. -/
theorem charOfCode?_of_numeral? {base : Nat} (hbase : 1 ≤ base) {s : List Char} {c : Char}
    (h : numeral? base s = some c.toNat) :
    (word32 base (dropPlus s)).toOption >>= charOfCode? = some c := by
  rw [dropPlus_of_head? (head?_ne_of_numeral? h rfl),
    (word32_eq_ok_iff hbase s).mpr ⟨h, toNat_le_max32 c⟩]
  exact charOfCode?_toNat c

/-- **Whatever a reference stands for, it is read in text as that.** -/
theorem resolve?_of_denotes {body : List Char} {c : Char} (h : Denotes body c) :
    resolve? body = some c := by
  unfold resolve?
  cases h with
  | named hname => rw [hname]
  | @decimal s _ hs =>
    rw [named?_number,
      codeInText?_decimal (head?_ne_of_numeral? hs rfl) (head?_ne_of_numeral? hs rfl)]
    exact charOfCode?_of_numeral? (by decide) hs
  | hexadecimal hs =>
    rw [named?_number]
    exact charOfCode?_of_numeral? (by decide) hs

/-- Digits that only the reader of text accepts: with a plus sign in front, or all of them zero. -/
def freeDigits (s : List Char) : Bool := s.head? == some '+' || (!s.isEmpty && s.all (· == '0'))

/-- Bodies of references with which the reader of text takes a liberty. -/
def takesLiberty : List Char → Bool
  | '#' :: 'X' :: _ => true
  | '#' :: 'x' :: s => freeDigits s
  | '#' :: s => freeDigits s
  | _ => false

/-- Only the digit zero has the value zero. -/
theorem eq_zero_of_digitIn? {base : Nat} {c : Char} (h : digitIn? base c = some 0) : c = '0' := by
  have hvalue : hexValue? c = some 0 := (Option.filter_eq_some_iff.mp h).1
  have h0 : '0'.toNat = 48 := rfl
  have h9 : '9'.toNat = 57 := rfl
  refine Char.toNat_inj.mp ?_
  simp only [hexValue?, isDigit, Bool.and_eq_true, decide_eq_true_eq] at hvalue
  split at hvalue
  · have := Option.some.inj hvalue
    omega
  · split at hvalue
    · have := Option.some.inj hvalue
      omega
    · split at hvalue
      · have := Option.some.inj hvalue
        omega
      · cases hvalue

/-- Digits that take no liberty do not write the number zero. -/
theorem numeral?_ne_zero {base : Nat} (hbase : 1 ≤ base) {s : List Char} (h : freeDigits s = false) :
    numeral? base s ≠ some 0 := by
  intro hzero
  unfold numeral? at hzero
  split at hzero
  · cases hzero
  · next hne =>
    have hall : s.all (· == '0') = true := List.all_eq_true.mpr fun c hc =>
      beq_iff_eq.mpr (eq_zero_of_digitIn? ((numeralFrom?_eq_zero_iff hbase s).mp hzero c hc))
    simp [freeDigits, hall, hne] at h

/-- Where no liberty is taken, the digits write the number that is read. -/
theorem numeral?_of_charOfCode? {base : Nat} (hbase : 1 ≤ base) {s : List Char}
    (h : freeDigits s = false) {c : Char}
    (hread : (word32 base (dropPlus s)).toOption >>= charOfCode? = some c) :
    numeral? base s = some c.toNat ∧ c.toNat ≠ 0 := by
  have hplus : s.head? ≠ some '+' := by
    intro hhead
    simp [freeDigits, hhead] at h
  rw [dropPlus_of_head? hplus] at hread
  cases hword : word32 base s with
  | error f =>
    rw [hword] at hread
    cases hread
  | ok n =>
    rw [hword] at hread
    obtain rfl := charOfCode?_eq_some_iff.mp hread
    have hnumeral := ((word32_eq_ok_iff hbase s).mp hword).1
    exact ⟨hnumeral, fun h0 => numeral?_ne_zero hbase h (h0 ▸ hnumeral)⟩

/-- **Where no liberty is taken, a reference is read in text as what it stands for**, and as nothing
else. -/
theorem resolve?_eq_some_iff {body : List Char} (h : takesLiberty body = false) (c : Char) :
    resolve? body = some c ↔ Denotes body c := by
  refine ⟨fun hread => ?_, resolve?_of_denotes⟩
  unfold takesLiberty at h
  split at h
  · cases h
  · next s =>
    rw [resolve?, named?_number] at hread
    obtain ⟨hs, h0⟩ := numeral?_of_charOfCode? (by decide) h hread
    exact .hexadecimal hs h0
  · next s hX hx =>
    have hmark : ∀ d, (∀ t, s ≠ d :: t) → s.head? ≠ some d := by
      intro d hd hhead
      obtain ⟨t, ht⟩ := List.head?_eq_some_iff.mp hhead
      exact hd t ht
    rw [resolve?, named?_number,
      codeInText?_decimal (hmark 'x' fun t ht => hx t (ht ▸ rfl))
        (hmark 'X' fun t ht => hX t (ht ▸ rfl))] at hread
    obtain ⟨hs, h0⟩ := numeral?_of_charOfCode? (by decide) h hread
    exact .decimal hs h0
  · next hX hx hnumber =>
    have hbody : body.head? ≠ some '#' := fun hhead => by
      obtain ⟨t, rfl⟩ := List.head?_eq_some_iff.mp hhead
      exact hnumber t rfl
    rw [resolve?, codeInText?_name hbody] at hread
    refine .named ?_
    cases hname : named? body with
    | none =>
      rw [hname] at hread
      cases hread
    | some d =>
      rw [hname] at hread
      exact hread

/-- The reader of text does not mind which of two marks stands before hexadecimal digits. -/
theorem resolve?_capital (s : List Char) :
    resolve? ('#' :: 'X' :: s) = resolve? ('#' :: 'x' :: s) := by
  rw [resolve?, resolve?, named?_number, named?_number, codeInText?, codeInText?]

end LecturePlan.Markup
