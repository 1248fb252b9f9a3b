import LecturePlan.Text.CharClass
/-!
# Decimal numbers

Natural numbers are written with their decimal digits and read back from them.  Reading accepts any
number of leading zeros; a number that has to fit a word is bounded by the caller, after the exact
value is known.  Main statement: a written number reads back as itself (`read?_digits`).
-/

namespace LecturePlan.Text.Decimal

/-! ## 1. Writing -/

/-- The digit character of a number below ten. -/
def digitChar (d : Nat) : Char := Char.ofNat (d + 48)

/-- The decimal digits of a number, most significant first. -/
def digits (n : Nat) : List Char :=
  if n < 10 then [digitChar n] else digits (n / 10) ++ [digitChar (n % 10)]
termination_by n
decreasing_by exact Nat.div_lt_self (by omega) (by omega)

/-- The digits of a number with zeros in front, so that there are at least `width` of them. -/
def padded (width n : Nat) : List Char :=
  List.replicate (width - (digits n).length) '0' ++ digits n

/-- The decimal text of a natural number. -/
def ofNat (n : Nat) : String := String.ofList (digits n)

/-- The decimal text of an integer. -/
def ofInt : Int → String
  | .ofNat n => ofNat n
  | .negSucc n => "-" ++ ofNat (n + 1)

/-! ## 2. Reading -/

/-- The number below ten that a digit character stands for. -/
def digitValue (c : Char) : Nat := c.toNat - 48

/-- The value of a run of digits, any number of leading zeros included. -/
def value (s : List Char) : Nat := s.foldl (fun n c => n * 10 + digitValue c) 0

/-- Reads one or more digits and nothing else. -/
def read? (s : List Char) : Option Nat :=
  if s.isEmpty || !s.all isDigit then none else some (value s)

/-- Reads one or more digits whose value is at most `bound`. -/
def readUpTo? (bound : Nat) (s : List Char) : Option Nat :=
  (read? s).filter (· ≤ bound)

/-! ## 3. Reading back what was written -/

theorem toNat_digitChar {d : Nat} (h : d < 10) : (digitChar d).toNat = d + 48 := by
  have all : ∀ d : Fin 10, (digitChar d.val).toNat = d.val + 48 := by decide
  exact all ⟨d, h⟩

theorem digitValue_digitChar {d : Nat} (h : d < 10) : digitValue (digitChar d) = d := by
  rw [digitValue, toNat_digitChar h]
  omega

theorem isDigit_digitChar {d : Nat} (h : d < 10) : isDigit (digitChar d) = true := by
  have h0 : '0'.toNat = 48 := rfl
  have h9 : '9'.toNat = 57 := rfl
  simp only [isDigit, toNat_digitChar h, h0, h9, Bool.and_eq_true, decide_eq_true_eq]
  omega

theorem digits_ne_nil (n : Nat) : digits n ≠ [] := by
  rw [digits]
  split <;> simp

theorem all_isDigit_digits (n : Nat) : (digits n).all isDigit = true := by
  induction n using Nat.strongRecOn with
  | _ n ih =>
    rw [digits]
    split
    · next h => simp [isDigit_digitChar h]
    · next h =>
      have hd := isDigit_digitChar (Nat.mod_lt n (by omega : 10 > 0))
      simp [ih (n / 10) (Nat.div_lt_self (by omega) (by omega)), hd]

theorem value_append_singleton (s : List Char) (c : Char) :
    value (s ++ [c]) = value s * 10 + digitValue c := by
  simp [value, List.foldl_append]

theorem value_digits (n : Nat) : value (digits n) = n := by
  induction n using Nat.strongRecOn with
  | _ n ih =>
    rw [digits]
    split
    · next h => simp [value, digitValue_digitChar h]
    · next h =>
      rw [value_append_singleton, ih (n / 10) (Nat.div_lt_self (by omega) (by omega)),
        digitValue_digitChar (Nat.mod_lt n (by omega))]
      omega

/-- A written number reads back as itself. -/
theorem read?_digits (n : Nat) : read? (digits n) = some n := by
  have h := digits_ne_nil n
  simp [read?, all_isDigit_digits, value_digits, h]

/-! ## 4. Zeros in front -/

/-- Zeros in front do not count. -/
theorem value_zeros_append (n : Nat) (s : List Char) :
    value (List.replicate n '0' ++ s) = value s := by
  induction n with
  | zero => rfl
  | succ n ih => exact ih

theorem value_padded (width n : Nat) : value (padded width n) = n := by
  rw [padded, value_zeros_append, value_digits]

theorem isDigit_of_mem_padded {width n : Nat} {c : Char} (h : c ∈ padded width n) :
    isDigit c = true := by
  rcases List.mem_append.mp h with h | h
  · rw [List.eq_of_mem_replicate h]
    rfl
  · exact List.all_eq_true.mp (all_isDigit_digits n) c h

theorem notMem_padded {width n : Nat} {c : Char} (hc : isDigit c = false) : c ∉ padded width n :=
  fun h => by rw [isDigit_of_mem_padded h] at hc; cases hc

theorem all_isDigit_padded (width n : Nat) : (padded width n).all isDigit = true :=
  List.all_eq_true.mpr fun _ hc => isDigit_of_mem_padded hc

theorem le_length_padded (width n : Nat) : width ≤ (padded width n).length := by
  simp only [padded, List.length_append, List.length_replicate]
  omega

end LecturePlan.Text.Decimal
