import LecturePlan.Text.CharClass
/-!
# Code points

Markup, JSON and PDF name characters by number, in hexadecimal digits of either case.  This module
holds the digits and the step from a number to its character.  Main statements: a written digit
reads back as itself (`hexValue?_hexDigit`), and a character is the one that its own number names
(`charOfCode?_toNat`).
-/

namespace LecturePlan.Text

/-! ## 1. Hexadecimal digits -/

/-- The value of a hexadecimal digit, in either case. -/
def hexValue? (c : Char) : Option Nat :=
  let n := c.toNat
  if isDigit c then some (n - 48)
  else if 97 ≤ n ∧ n ≤ 102 then some (n - 87)
  else if 65 ≤ n ∧ n ≤ 70 then some (n - 55)
  else none

/-- The hexadecimal digit of a number below sixteen, in small letters. -/
def hexDigit (n : Nat) : Char := if n < 10 then Char.ofNat (n + 48) else Char.ofNat (n + 87)

theorem hexValue?_hexDigit {n : Nat} (h : n < 16) : hexValue? (hexDigit n) = some n := by
  have all : ∀ n : Fin 16, hexValue? (hexDigit n.val) = some n.val := by decide
  exact all ⟨n, h⟩

/-! ## 2. Characters by number -/

/-- The character with a code point; surrogates and numbers above the last one have none. -/
def charOfCode? (n : Nat) : Option Char := if n.isValidChar then some (Char.ofNat n) else none

theorem charOfCode?_toNat (c : Char) : charOfCode? c.toNat = some c := by
  have h : c.toNat.isValidChar := c.valid
  simp [charOfCode?, h, Char.ofNat_toNat]

theorem toNat_of_charOfCode? {n : Nat} {c : Char} (h : charOfCode? n = some c) : c.toNat = n := by
  unfold charOfCode? at h
  split at h
  · next hn =>
    cases h
    rw [Char.ofNat, dif_pos hn]
    rfl
  · cases h

end LecturePlan.Text
