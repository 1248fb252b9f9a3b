/-!
# Words of 64 bits

Arithmetic on numbers that have to fit a word.  A checked operation gives nothing where its exact
result does not fit; a saturating one gives the nearest number that does.
-/

namespace LecturePlan.Word

/-- The largest unsigned word of 16 bits. -/
def max16 : Nat := 0xFFFF

/-- The largest unsigned word of 32 bits. -/
def max32 : Nat := 0xFFFFFFFF

/-- The largest unsigned word of 64 bits. -/
def max64 : Nat := 0xFFFFFFFFFFFFFFFF

/-- The largest signed word of 64 bits. -/
def maxInt64 : Nat := 0x7FFFFFFFFFFFFFFF

/-- The sum, if it fits. -/
def add? (a b : Nat) : Option Nat := if a + b ≤ max64 then some (a + b) else none

/-- The product, if it fits. -/
def mul? (a b : Nat) : Option Nat := if a * b ≤ max64 then some (a * b) else none

/-- The nearest signed word. -/
def saturate (n : Int) : Int := max (-(maxInt64 + 1)) (min n maxInt64)

end LecturePlan.Word
