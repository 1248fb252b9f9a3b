import LecturePlan.Text.Encoding.Stepwise
/-!
# UTF-8

A character is a byte below 128, or a lead byte and one to three further bytes.  Bytes that cannot
be continued to a character give nothing, and reading starts again at the first byte that does not
continue them.  Main definition: `decode`.
-/

namespace LecturePlan.Text.Utf8

/-- A character of which some bytes are read. -/
structure Pending where
  /-- The number of bytes after the next one. -/
  more : Nat
  /-- The least next byte. -/
  low : Nat
  /-- The greatest next byte. -/
  high : Nat
  /-- The bits read so far. -/
  value : Nat
deriving DecidableEq, Repr

/-- What a byte begins. -/
def lead (b : UInt8) : Progressed (Option Pending) :=
  let n := b.toNat
  if n < 0x80 then ([some (Char.ofNat n)], none)
  else if n < 0xC2 then ([none], none)
  else if n < 0xE0 then ([], some ⟨0, 0x80, 0xBF, n - 0xC0⟩)
  else if n < 0xF0 then
    -- No character of two bytes is written with three, and none is a surrogate.
    ([], some ⟨1, if n = 0xE0 then 0xA0 else 0x80, if n = 0xED then 0x9F else 0xBF, n - 0xE0⟩)
  else if n < 0xF5 then
    -- No character of three bytes is written with four, and none is above the last code point.
    ([], some ⟨2, if n = 0xF0 then 0x90 else 0x80, if n = 0xF4 then 0x8F else 0xBF, n - 0xF0⟩)
  else ([none], none)

/-- A pending character with one more byte. -/
def Pending.extend (p : Pending) (b : UInt8) : Progressed (Option Pending) :=
  let n := b.toNat
  if n < p.low || p.high < n then (none :: (lead b).1, (lead b).2)
  else
    let value := p.value * 64 + (n - 0x80)
    match p.more with
    | 0 => ([some (Char.ofNat value)], none)
    | more + 1 => ([], some ⟨more, 0x80, 0xBF, value⟩)

/-- Reads a byte. -/
def step : Option Pending → UInt8 → Progressed (Option Pending)
  | none, b => lead b
  | some p, b => p.extend b

/-- The steps of UTF-8. -/
def steps : Stepwise (Option Pending) := ⟨none, step, unfinished⟩

/-- Reads a text; bytes that are no characters give nothing, once for each attempt. -/
def decode (bytes : List UInt8) : List (Option Char) := steps.read bytes

/-- The text of bytes, all of which have to be characters. -/
def decode? (bytes : List UInt8) : Option (List Char) := (decode bytes).mapM id

/-- Bytes below 128 are characters of their own. -/
theorem decode_ascii {bytes : List UInt8} (h : ∀ b ∈ bytes, b.toNat < 0x80) :
    decode bytes = bytes.map fun b => some (Char.ofNat b.toNat) := by
  induction bytes with
  | nil => rfl
  | cons b bs ih =>
    have hb : steps.step steps.start b = ([some (Char.ofNat b.toNat)], steps.start) := by
      simp [steps, step, lead, h b (by simp)]
    have hs := ih fun c hc => h c (by simp [hc])
    rw [decode, Stepwise.read, Stepwise.readFrom_cons_of_step hb]
    exact congrArg (_ :: ·) hs

end LecturePlan.Text.Utf8
