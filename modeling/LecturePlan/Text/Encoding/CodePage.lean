/-!
# Code pages

In a code page every byte is a character.  The bytes below 128 are ASCII; `runs` says what the upper
ones are, where they are not the character of the same number, and `gaps` which of them are none.
The tables are those of the encoding standard of the web, with the labels it knows them by.
-/

namespace LecturePlan.Text

/-- A set of 256 characters. -/
structure CodePage where
  /-- Names, in small letters. -/
  labels : List String
  /-- First and last byte of a run, and the code point of its first byte. -/
  runs : List (Nat × Nat × Nat)
  /-- First and last byte of a stretch without characters. -/
  gaps : List (Nat × Nat)
deriving DecidableEq, Repr

namespace CodePage

/-- The character of a byte, if it is one. -/
def char? (p : CodePage) (b : UInt8) : Option Char :=
  let n := b.toNat
  if p.gaps.any fun g => g.1 ≤ n && n ≤ g.2 then none
  else match p.runs.find? fun r => r.1 ≤ n && n ≤ r.2.1 with
    | some r => some (Char.ofNat (r.2.2 + (n - r.1)))
    | none => some (Char.ofNat n)

/-- Reads a text of this code page; bytes that are no character give nothing. -/
def decode (p : CodePage) (bytes : List UInt8) : List (Option Char) := bytes.map p.char?

/-! ## 1. The pages -/

/-- Cyrillic on personal computers. -/
def ibm866 : CodePage where
  labels := ["866", "cp866", "csibm866", "ibm866"]
  runs := [
    (0x80, 0xAF, 0x0410), (0xB0, 0xB2, 0x2591), (0xB3, 0xB3, 0x2502), (0xB4, 0xB4, 0x2524),
    (0xB5, 0xB6, 0x2561), (0xB7, 0xB7, 0x2556), (0xB8, 0xB8, 0x2555), (0xB9, 0xB9, 0x2563),
    (0xBA, 0xBA, 0x2551), (0xBB, 0xBB, 0x2557), (0xBC, 0xBC, 0x255D), (0xBD, 0xBD, 0x255C),
    (0xBE, 0xBE, 0x255B), (0xBF, 0xBF, 0x2510), (0xC0, 0xC0, 0x2514), (0xC1, 0xC1, 0x2534),
    (0xC2, 0xC2, 0x252C), (0xC3, 0xC3, 0x251C), (0xC4, 0xC4, 0x2500), (0xC5, 0xC5, 0x253C),
    (0xC6, 0xC7, 0x255E), (0xC8, 0xC8, 0x255A), (0xC9, 0xC9, 0x2554), (0xCA, 0xCA, 0x2569),
    (0xCB, 0xCB, 0x2566), (0xCC, 0xCC, 0x2560), (0xCD, 0xCD, 0x2550), (0xCE, 0xCE, 0x256C),
    (0xCF, 0xD0, 0x2567), (0xD1, 0xD2, 0x2564), (0xD3, 0xD3, 0x2559), (0xD4, 0xD4, 0x2558),
    (0xD5, 0xD6, 0x2552), (0xD7, 0xD7, 0x256B), (0xD8, 0xD8, 0x256A), (0xD9, 0xD9, 0x2518),
    (0xDA, 0xDA, 0x250C), (0xDB, 0xDB, 0x2588), (0xDC, 0xDC, 0x2584), (0xDD, 0xDD, 0x258C),
    (0xDE, 0xDE, 0x2590), (0xDF, 0xDF, 0x2580), (0xE0, 0xEF, 0x0440), (0xF0, 0xF0, 0x0401),
    (0xF1, 0xF1, 0x0451), (0xF2, 0xF2, 0x0404), (0xF3, 0xF3, 0x0454), (0xF4, 0xF4, 0x0407),
    (0xF5, 0xF5, 0x0457), (0xF6, 0xF6, 0x040E), (0xF7, 0xF7, 0x045E), (0xF8, 0xF8, 0x00B0),
    (0xF9, 0xF9, 0x2219), (0xFA, 0xFA, 0x00B7), (0xFB, 0xFB, 0x221A), (0xFC, 0xFC, 0x2116),
    (0xFD, 0xFD, 0x00A4), (0xFE, 0xFE, 0x25A0), (0xFF, 0xFF, 0x00A0)]
  gaps := []

/-- Central European. -/
def iso8859Part2 : CodePage where
  labels := [
    "csisolatin2", "iso-8859-2", "iso-ir-101", "iso8859-2", "iso88592", "iso_8859-2",
    "iso_8859-2:1987", "l2", "latin2"]
  runs := [
    (0xA1, 0xA1, 0x0104), (0xA2, 0xA2, 0x02D8), (0xA3, 0xA3, 0x0141), (0xA5, 0xA5, 0x013D),
    (0xA6, 0xA6, 0x015A), (0xA9, 0xA9, 0x0160), (0xAA, 0xAA, 0x015E), (0xAB, 0xAB, 0x0164),
    (0xAC, 0xAC, 0x0179), (0xAE, 0xAE, 0x017D), (0xAF, 0xAF, 0x017B), (0xB1, 0xB1, 0x0105),
    (0xB2, 0xB2, 0x02DB), (0xB3, 0xB3, 0x0142), (0xB5, 0xB5, 0x013E), (0xB6, 0xB6, 0x015B),
    (0xB7, 0xB7, 0x02C7), (0xB9, 0xB9, 0x0161), (0xBA, 0xBA, 0x015F), (0xBB, 0xBB, 0x0165),
    (0xBC, 0xBC, 0x017A), (0xBD, 0xBD, 0x02DD), (0xBE, 0xBE, 0x017E), (0xBF, 0xBF, 0x017C),
    (0xC0, 0xC0, 0x0154), (0xC3, 0xC3, 0x0102), (0xC5, 0xC5, 0x0139), (0xC6, 0xC6, 0x0106),
    (0xC8, 0xC8, 0x010C), (0xCA, 0xCA, 0x0118), (0xCC, 0xCC, 0x011A), (0xCF, 0xCF, 0x010E),
    (0xD0, 0xD0, 0x0110), (0xD1, 0xD1, 0x0143), (0xD2, 0xD2, 0x0147), (0xD5, 0xD5, 0x0150),
    (0xD8, 0xD8, 0x0158), (0xD9, 0xD9, 0x016E), (0xDB, 0xDB, 0x0170), (0xDE, 0xDE, 0x0162),
    (0xE0, 0xE0, 0x0155), (0xE3, 0xE3, 0x0103), (0xE5, 0xE5, 0x013A), (0xE6, 0xE6, 0x0107),
    (0xE8, 0xE8, 0x010D), (0xEA, 0xEA, 0x0119), (0xEC, 0xEC, 0x011B), (0xEF, 0xEF, 0x010F),
    (0xF0, 0xF0, 0x0111), (0xF1, 0xF1, 0x0144), (0xF2, 0xF2, 0x0148), (0xF5, 0xF5, 0x0151),
    (0xF8, 0xF8, 0x0159), (0xF9, 0xF9, 0x016F), (0xFB, 0xFB, 0x0171), (0xFE, 0xFE, 0x0163),
    (0xFF, 0xFF, 0x02D9)]
  gaps := []

/-- South European. -/
def iso8859Part3 : CodePage where
  labels := [
    "csisolatin3", "iso-8859-3", "iso-ir-109", "iso8859-3", "iso88593", "iso_8859-3",
    "iso_8859-3:1988", "l3", "latin3"]
  runs := [
    (0xA1, 0xA1, 0x0126), (0xA2, 0xA2, 0x02D8), (0xA6, 0xA6, 0x0124), (0xA9, 0xA9, 0x0130),
    (0xAA, 0xAA, 0x015E), (0xAB, 0xAB, 0x011E), (0xAC, 0xAC, 0x0134), (0xAF, 0xAF, 0x017B),
    (0xB1, 0xB1, 0x0127), (0xB6, 0xB6, 0x0125), (0xB9, 0xB9, 0x0131), (0xBA, 0xBA, 0x015F),
    (0xBB, 0xBB, 0x011F), (0xBC, 0xBC, 0x0135), (0xBF, 0xBF, 0x017C), (0xC5, 0xC5, 0x010A),
    (0xC6, 0xC6, 0x0108), (0xD5, 0xD5, 0x0120), (0xD8, 0xD8, 0x011C), (0xDD, 0xDD, 0x016C),
    (0xDE, 0xDE, 0x015C), (0xE5, 0xE5, 0x010B), (0xE6, 0xE6, 0x0109), (0xF5, 0xF5, 0x0121),
    (0xF8, 0xF8, 0x011D), (0xFD, 0xFD, 0x016D), (0xFE, 0xFE, 0x015D), (0xFF, 0xFF, 0x02D9)]
  gaps := [
    (0xA5, 0xA5), (0xAE, 0xAE), (0xBE, 0xBE), (0xC3, 0xC3), (0xD0, 0xD0), (0xE3, 0xE3),
    (0xF0, 0xF0)]

/-- North European. -/
def iso8859Part4 : CodePage where
  labels := [
    "csisolatin4", "iso-8859-4", "iso-ir-110", "iso8859-4", "iso88594", "iso_8859-4",
    "iso_8859-4:1988", "l4", "latin4"]
  runs := [
    (0xA1, 0xA1, 0x0104), (0xA2, 0xA2, 0x0138), (0xA3, 0xA3, 0x0156), (0xA5, 0xA5, 0x0128),
    (0xA6, 0xA6, 0x013B), (0xA9, 0xA9, 0x0160), (0xAA, 0xAA, 0x0112), (0xAB, 0xAB, 0x0122),
    (0xAC, 0xAC, 0x0166), (0xAE, 0xAE, 0x017D), (0xB1, 0xB1, 0x0105), (0xB2, 0xB2, 0x02DB),
    (0xB3, 0xB3, 0x0157), (0xB5, 0xB5, 0x0129), (0xB6, 0xB6, 0x013C), (0xB7, 0xB7, 0x02C7),
    (0xB9, 0xB9, 0x0161), (0xBA, 0xBA, 0x0113), (0xBB, 0xBB, 0x0123), (0xBC, 0xBC, 0x0167),
    (0xBD, 0xBD, 0x014A), (0xBE, 0xBE, 0x017E), (0xBF, 0xBF, 0x014B), (0xC0, 0xC0, 0x0100),
    (0xC7, 0xC7, 0x012E), (0xC8, 0xC8, 0x010C), (0xCA, 0xCA, 0x0118), (0xCC, 0xCC, 0x0116),
    (0xCF, 0xCF, 0x012A), (0xD0, 0xD0, 0x0110), (0xD1, 0xD1, 0x0145), (0xD2, 0xD2, 0x014C),
    (0xD3, 0xD3, 0x0136), (0xD9, 0xD9, 0x0172), (0xDD, 0xDD, 0x0168), (0xDE, 0xDE, 0x016A),
    (0xE0, 0xE0, 0x0101), (0xE7, 0xE7, 0x012F), (0xE8, 0xE8, 0x010D), (0xEA, 0xEA, 0x0119),
    (0xEC, 0xEC, 0x0117), (0xEF, 0xEF, 0x012B), (0xF0, 0xF0, 0x0111), (0xF1, 0xF1, 0x0146),
    (0xF2, 0xF2, 0x014D), (0xF3, 0xF3, 0x0137), (0xF9, 0xF9, 0x0173), (0xFD, 0xFD, 0x0169),
    (0xFE, 0xFE, 0x016B), (0xFF, 0xFF, 0x02D9)]
  gaps := []

/-- Cyrillic. -/
def iso8859Part5 : CodePage where
  labels := [
    "csisolatincyrillic", "cyrillic", "iso-8859-5", "iso-ir-144", "iso8859-5", "iso88595",
    "iso_8859-5", "iso_8859-5:1988"]
  runs := [
    (0xA1, 0xAC, 0x0401), (0xAE, 0xEF, 0x040E), (0xF0, 0xF0, 0x2116), (0xF1, 0xFC, 0x0451),
    (0xFD, 0xFD, 0x00A7), (0xFE, 0xFF, 0x045E)]
  gaps := []

/-- Arabic. -/
def iso8859Part6 : CodePage where
  labels := [
    "arabic", "asmo-708", "csiso88596e", "csiso88596i", "csisolatinarabic", "ecma-114",
    "iso-8859-6", "iso-8859-6-e", "iso-8859-6-i", "iso-ir-127", "iso8859-6", "iso88596",
    "iso_8859-6", "iso_8859-6:1987"]
  runs := [
    (0xAC, 0xAC, 0x060C), (0xBB, 0xBB, 0x061B), (0xBF, 0xBF, 0x061F), (0xC1, 0xDA, 0x0621),
    (0xE0, 0xF2, 0x0640)]
  gaps := [
    (0xA1, 0xA3), (0xA5, 0xAB), (0xAE, 0xBA), (0xBC, 0xBE), (0xC0, 0xC0), (0xDB, 0xDF),
    (0xF3, 0xFF)]

/-- Greek. -/
def iso8859Part7 : CodePage where
  labels := [
    "csisolatingreek", "ecma-118", "elot_928", "greek", "greek8", "iso-8859-7", "iso-ir-126",
    "iso8859-7", "iso88597", "iso_8859-7", "iso_8859-7:1987", "sun_eu_greek"]
  runs := [
    (0xA1, 0xA2, 0x2018), (0xA4, 0xA4, 0x20AC), (0xA5, 0xA5, 0x20AF), (0xAA, 0xAA, 0x037A),
    (0xAF, 0xAF, 0x2015), (0xB4, 0xB6, 0x0384), (0xB8, 0xBA, 0x0388), (0xBC, 0xBC, 0x038C),
    (0xBE, 0xD1, 0x038E), (0xD3, 0xFE, 0x03A3)]
  gaps := [(0xAE, 0xAE), (0xD2, 0xD2), (0xFF, 0xFF)]

/-- Hebrew. -/
def iso8859Part8 : CodePage where
  labels := [
    "csiso88598e", "csiso88598i", "csisolatinhebrew", "hebrew", "iso-8859-8", "iso-8859-8-e",
    "iso-8859-8-i", "iso-ir-138", "iso8859-8", "iso88598", "iso_8859-8", "iso_8859-8:1988",
    "logical", "visual"]
  runs := [
    (0xAA, 0xAA, 0x00D7), (0xBA, 0xBA, 0x00F7), (0xDF, 0xDF, 0x2017), (0xE0, 0xFA, 0x05D0),
    (0xFD, 0xFE, 0x200E)]
  gaps := [(0xA1, 0xA1), (0xBF, 0xDE), (0xFB, 0xFC), (0xFF, 0xFF)]

/-- Nordic. -/
def iso8859Part10 : CodePage where
  labels := ["csisolatin6", "iso-8859-10", "iso-ir-157", "iso8859-10", "iso885910", "l6", "latin6"]
  runs := [
    (0xA1, 0xA1, 0x0104), (0xA2, 0xA2, 0x0112), (0xA3, 0xA3, 0x0122), (0xA4, 0xA4, 0x012A),
    (0xA5, 0xA5, 0x0128), (0xA6, 0xA6, 0x0136), (0xA8, 0xA8, 0x013B), (0xA9, 0xA9, 0x0110),
    (0xAA, 0xAA, 0x0160), (0xAB, 0xAB, 0x0166), (0xAC, 0xAC, 0x017D), (0xAE, 0xAE, 0x016A),
    (0xAF, 0xAF, 0x014A), (0xB1, 0xB1, 0x0105), (0xB2, 0xB2, 0x0113), (0xB3, 0xB3, 0x0123),
    (0xB4, 0xB4, 0x012B), (0xB5, 0xB5, 0x0129), (0xB6, 0xB6, 0x0137), (0xB8, 0xB8, 0x013C),
    (0xB9, 0xB9, 0x0111), (0xBA, 0xBA, 0x0161), (0xBB, 0xBB, 0x0167), (0xBC, 0xBC, 0x017E),
    (0xBD, 0xBD, 0x2015), (0xBE, 0xBE, 0x016B), (0xBF, 0xBF, 0x014B), (0xC0, 0xC0, 0x0100),
    (0xC7, 0xC7, 0x012E), (0xC8, 0xC8, 0x010C), (0xCA, 0xCA, 0x0118), (0xCC, 0xCC, 0x0116),
    (0xD1, 0xD1, 0x0145), (0xD2, 0xD2, 0x014C), (0xD7, 0xD7, 0x0168), (0xD9, 0xD9, 0x0172),
    (0xE0, 0xE0, 0x0101), (0xE7, 0xE7, 0x012F), (0xE8, 0xE8, 0x010D), (0xEA, 0xEA, 0x0119),
    (0xEC, 0xEC, 0x0117), (0xF1, 0xF1, 0x0146), (0xF2, 0xF2, 0x014D), (0xF7, 0xF7, 0x0169),
    (0xF9, 0xF9, 0x0173), (0xFF, 0xFF, 0x0138)]
  gaps := []

/-- Baltic. -/
def iso8859Part13 : CodePage where
  labels := ["iso-8859-13", "iso8859-13", "iso885913"]
  runs := [
    (0xA1, 0xA1, 0x201D), (0xA5, 0xA5, 0x201E), (0xA8, 0xA8, 0x00D8), (0xAA, 0xAA, 0x0156),
    (0xAF, 0xAF, 0x00C6), (0xB4, 0xB4, 0x201C), (0xB8, 0xB8, 0x00F8), (0xBA, 0xBA, 0x0157),
    (0xBF, 0xBF, 0x00E6), (0xC0, 0xC0, 0x0104), (0xC1, 0xC1, 0x012E), (0xC2, 0xC2, 0x0100),
    (0xC3, 0xC3, 0x0106), (0xC6, 0xC6, 0x0118), (0xC7, 0xC7, 0x0112), (0xC8, 0xC8, 0x010C),
    (0xCA, 0xCA, 0x0179), (0xCB, 0xCB, 0x0116), (0xCC, 0xCC, 0x0122), (0xCD, 0xCD, 0x0136),
    (0xCE, 0xCE, 0x012A), (0xCF, 0xCF, 0x013B), (0xD0, 0xD0, 0x0160), (0xD1, 0xD1, 0x0143),
    (0xD2, 0xD2, 0x0145), (0xD4, 0xD4, 0x014C), (0xD8, 0xD8, 0x0172), (0xD9, 0xD9, 0x0141),
    (0xDA, 0xDA, 0x015A), (0xDB, 0xDB, 0x016A), (0xDD, 0xDD, 0x017B), (0xDE, 0xDE, 0x017D),
    (0xE0, 0xE0, 0x0105), (0xE1, 0xE1, 0x012F), (0xE2, 0xE2, 0x0101), (0xE3, 0xE3, 0x0107),
    (0xE6, 0xE6, 0x0119), (0xE7, 0xE7, 0x0113), (0xE8, 0xE8, 0x010D), (0xEA, 0xEA, 0x017A),
    (0xEB, 0xEB, 0x0117), (0xEC, 0xEC, 0x0123), (0xED, 0xED, 0x0137), (0xEE, 0xEE, 0x012B),
    (0xEF, 0xEF, 0x013C), (0xF0, 0xF0, 0x0161), (0xF1, 0xF1, 0x0144), (0xF2, 0xF2, 0x0146),
    (0xF4, 0xF4, 0x014D), (0xF8, 0xF8, 0x0173), (0xF9, 0xF9, 0x0142), (0xFA, 0xFA, 0x015B),
    (0xFB, 0xFB, 0x016B), (0xFD, 0xFD, 0x017C), (0xFE, 0xFE, 0x017E), (0xFF, 0xFF, 0x2019)]
  gaps := []

/-- Celtic. -/
def iso8859Part14 : CodePage where
  labels := ["iso-8859-14", "iso8859-14", "iso885914"]
  runs := [
    (0xA1, 0xA2, 0x1E02), (0xA4, 0xA5, 0x010A), (0xA6, 0xA6, 0x1E0A), (0xA8, 0xA8, 0x1E80),
    (0xAA, 0xAA, 0x1E82), (0xAB, 0xAB, 0x1E0B), (0xAC, 0xAC, 0x1EF2), (0xAF, 0xAF, 0x0178),
    (0xB0, 0xB1, 0x1E1E), (0xB2, 0xB3, 0x0120), (0xB4, 0xB5, 0x1E40), (0xB7, 0xB7, 0x1E56),
    (0xB8, 0xB8, 0x1E81), (0xB9, 0xB9, 0x1E57), (0xBA, 0xBA, 0x1E83), (0xBB, 0xBB, 0x1E60),
    (0xBC, 0xBC, 0x1EF3), (0xBD, 0xBE, 0x1E84), (0xBF, 0xBF, 0x1E61), (0xD0, 0xD0, 0x0174),
    (0xD7, 0xD7, 0x1E6A), (0xDE, 0xDE, 0x0176), (0xF0, 0xF0, 0x0175), (0xF7, 0xF7, 0x1E6B),
    (0xFE, 0xFE, 0x0177)]
  gaps := []

/-- Western European with the euro sign. -/
def iso8859Part15 : CodePage where
  labels := ["csisolatin9", "iso-8859-15", "iso8859-15", "iso885915", "iso_8859-15", "l9"]
  runs := [
    (0xA4, 0xA4, 0x20AC), (0xA6, 0xA6, 0x0160), (0xA8, 0xA8, 0x0161), (0xB4, 0xB4, 0x017D),
    (0xB8, 0xB8, 0x017E), (0xBC, 0xBD, 0x0152), (0xBE, 0xBE, 0x0178)]
  gaps := []

/-- South-Eastern European. -/
def iso8859Part16 : CodePage where
  labels := ["iso-8859-16"]
  runs := [
    (0xA1, 0xA2, 0x0104), (0xA3, 0xA3, 0x0141), (0xA4, 0xA4, 0x20AC), (0xA5, 0xA5, 0x201E),
    (0xA6, 0xA6, 0x0160), (0xA8, 0xA8, 0x0161), (0xAA, 0xAA, 0x0218), (0xAC, 0xAC, 0x0179),
    (0xAE, 0xAF, 0x017A), (0xB2, 0xB2, 0x010C), (0xB3, 0xB3, 0x0142), (0xB4, 0xB4, 0x017D),
    (0xB5, 0xB5, 0x201D), (0xB8, 0xB8, 0x017E), (0xB9, 0xB9, 0x010D), (0xBA, 0xBA, 0x0219),
    (0xBC, 0xBD, 0x0152), (0xBE, 0xBE, 0x0178), (0xBF, 0xBF, 0x017C), (0xC3, 0xC3, 0x0102),
    (0xC5, 0xC5, 0x0106), (0xD0, 0xD0, 0x0110), (0xD1, 0xD1, 0x0143), (0xD5, 0xD5, 0x0150),
    (0xD7, 0xD7, 0x015A), (0xD8, 0xD8, 0x0170), (0xDD, 0xDD, 0x0118), (0xDE, 0xDE, 0x021A),
    (0xE3, 0xE3, 0x0103), (0xE5, 0xE5, 0x0107), (0xF0, 0xF0, 0x0111), (0xF1, 0xF1, 0x0144),
    (0xF5, 0xF5, 0x0151), (0xF7, 0xF7, 0x015B), (0xF8, 0xF8, 0x0171), (0xFD, 0xFD, 0x0119),
    (0xFE, 0xFE, 0x021B)]
  gaps := []

/-- Russian. -/
def koi8r : CodePage where
  labels := ["cskoi8r", "koi", "koi8", "koi8-r", "koi8_r"]
  runs := [
    (0x80, 0x80, 0x2500), (0x81, 0x81, 0x2502), (0x82, 0x82, 0x250C), (0x83, 0x83, 0x2510),
    (0x84, 0x84, 0x2514), (0x85, 0x85, 0x2518), (0x86, 0x86, 0x251C), (0x87, 0x87, 0x2524),
    (0x88, 0x88, 0x252C), (0x89, 0x89, 0x2534), (0x8A, 0x8A, 0x253C), (0x8B, 0x8B, 0x2580),
    (0x8C, 0x8C, 0x2584), (0x8D, 0x8D, 0x2588), (0x8E, 0x8E, 0x258C), (0x8F, 0x92, 0x2590),
    (0x93, 0x93, 0x2320), (0x94, 0x94, 0x25A0), (0x95, 0x96, 0x2219), (0x97, 0x97, 0x2248),
    (0x98, 0x99, 0x2264), (0x9A, 0x9A, 0x00A0), (0x9B, 0x9B, 0x2321), (0x9C, 0x9C, 0x00B0),
    (0x9D, 0x9D, 0x00B2), (0x9E, 0x9E, 0x00B7), (0x9F, 0x9F, 0x00F7), (0xA0, 0xA2, 0x2550),
    (0xA3, 0xA3, 0x0451), (0xA4, 0xB2, 0x2553), (0xB3, 0xB3, 0x0401), (0xB4, 0xBE, 0x2562),
    (0xBF, 0xBF, 0x00A9), (0xC0, 0xC0, 0x044E), (0xC1, 0xC2, 0x0430), (0xC3, 0xC3, 0x0446),
    (0xC4, 0xC5, 0x0434), (0xC6, 0xC6, 0x0444), (0xC7, 0xC7, 0x0433), (0xC8, 0xC8, 0x0445),
    (0xC9, 0xD0, 0x0438), (0xD1, 0xD1, 0x044F), (0xD2, 0xD5, 0x0440), (0xD6, 0xD6, 0x0436),
    (0xD7, 0xD7, 0x0432), (0xD8, 0xD8, 0x044C), (0xD9, 0xD9, 0x044B), (0xDA, 0xDA, 0x0437),
    (0xDB, 0xDB, 0x0448), (0xDC, 0xDC, 0x044D), (0xDD, 0xDD, 0x0449), (0xDE, 0xDE, 0x0447),
    (0xDF, 0xDF, 0x044A), (0xE0, 0xE0, 0x042E), (0xE1, 0xE2, 0x0410), (0xE3, 0xE3, 0x0426),
    (0xE4, 0xE5, 0x0414), (0xE6, 0xE6, 0x0424), (0xE7, 0xE7, 0x0413), (0xE8, 0xE8, 0x0425),
    (0xE9, 0xF0, 0x0418), (0xF1, 0xF1, 0x042F), (0xF2, 0xF5, 0x0420), (0xF6, 0xF6, 0x0416),
    (0xF7, 0xF7, 0x0412), (0xF8, 0xF8, 0x042C), (0xF9, 0xF9, 0x042B), (0xFA, 0xFA, 0x0417),
    (0xFB, 0xFB, 0x0428), (0xFC, 0xFC, 0x042D), (0xFD, 0xFD, 0x0429), (0xFE, 0xFE, 0x0427),
    (0xFF, 0xFF, 0x042A)]
  gaps := []

/-- Ukrainian. -/
def koi8u : CodePage where
  labels := ["koi8-ru", "koi8-u"]
  runs := [
    (0x80, 0x80, 0x2500), (0x81, 0x81, 0x2502), (0x82, 0x82, 0x250C), (0x83, 0x83, 0x2510),
    (0x84, 0x84, 0x2514), (0x85, 0x85, 0x2518), (0x86, 0x86, 0x251C), (0x87, 0x87, 0x2524),
    (0x88, 0x88, 0x252C), (0x89, 0x89, 0x2534), (0x8A, 0x8A, 0x253C), (0x8B, 0x8B, 0x2580),
    (0x8C, 0x8C, 0x2584), (0x8D, 0x8D, 0x2588), (0x8E, 0x8E, 0x258C), (0x8F, 0x92, 0x2590),
    (0x93, 0x93, 0x2320), (0x94, 0x94, 0x25A0), (0x95, 0x96, 0x2219), (0x97, 0x97, 0x2248),
    (0x98, 0x99, 0x2264), (0x9A, 0x9A, 0x00A0), (0x9B, 0x9B, 0x2321), (0x9C, 0x9C, 0x00B0),
    (0x9D, 0x9D, 0x00B2), (0x9E, 0x9E, 0x00B7), (0x9F, 0x9F, 0x00F7), (0xA0, 0xA2, 0x2550),
    (0xA3, 0xA3, 0x0451), (0xA4, 0xA4, 0x0454), (0xA5, 0xA5, 0x2554), (0xA6, 0xA7, 0x0456),
    (0xA8, 0xAC, 0x2557), (0xAD, 0xAD, 0x0491), (0xAE, 0xAE, 0x045E), (0xAF, 0xB2, 0x255E),
    (0xB3, 0xB3, 0x0401), (0xB4, 0xB4, 0x0404), (0xB5, 0xB5, 0x2563), (0xB6, 0xB7, 0x0406),
    (0xB8, 0xBC, 0x2566), (0xBD, 0xBD, 0x0490), (0xBE, 0xBE, 0x040E), (0xBF, 0xBF, 0x00A9),
    (0xC0, 0xC0, 0x044E), (0xC1, 0xC2, 0x0430), (0xC3, 0xC3, 0x0446), (0xC4, 0xC5, 0x0434),
    (0xC6, 0xC6, 0x0444), (0xC7, 0xC7, 0x0433), (0xC8, 0xC8, 0x0445), (0xC9, 0xD0, 0x0438),
    (0xD1, 0xD1, 0x044F), (0xD2, 0xD5, 0x0440), (0xD6, 0xD6, 0x0436), (0xD7, 0xD7, 0x0432),
    (0xD8, 0xD8, 0x044C), (0xD9, 0xD9, 0x044B), (0xDA, 0xDA, 0x0437), (0xDB, 0xDB, 0x0448),
    (0xDC, 0xDC, 0x044D), (0xDD, 0xDD, 0x0449), (0xDE, 0xDE, 0x0447), (0xDF, 0xDF, 0x044A),
    (0xE0, 0xE0, 0x042E), (0xE1, 0xE2, 0x0410), (0xE3, 0xE3, 0x0426), (0xE4, 0xE5, 0x0414),
    (0xE6, 0xE6, 0x0424), (0xE7, 0xE7, 0x0413), (0xE8, 0xE8, 0x0425), (0xE9, 0xF0, 0x0418),
    (0xF1, 0xF1, 0x042F), (0xF2, 0xF5, 0x0420), (0xF6, 0xF6, 0x0416), (0xF7, 0xF7, 0x0412),
    (0xF8, 0xF8, 0x042C), (0xF9, 0xF9, 0x042B), (0xFA, 0xFA, 0x0417), (0xFB, 0xFB, 0x0428),
    (0xFC, 0xFC, 0x042D), (0xFD, 0xFD, 0x0429), (0xFE, 0xFE, 0x0427), (0xFF, 0xFF, 0x042A)]
  gaps := []

/-- Western European, the Macintosh set. -/
def macRoman : CodePage where
  labels := ["csmacintosh", "mac", "macintosh", "x-mac-roman"]
  runs := [
    (0x80, 0x81, 0x00C4), (0x82, 0x82, 0x00C7), (0x83, 0x83, 0x00C9), (0x84, 0x84, 0x00D1),
    (0x85, 0x85, 0x00D6), (0x86, 0x86, 0x00DC), (0x87, 0x87, 0x00E1), (0x88, 0x88, 0x00E0),
    (0x89, 0x89, 0x00E2), (0x8A, 0x8A, 0x00E4), (0x8B, 0x8B, 0x00E3), (0x8C, 0x8C, 0x00E5),
    (0x8D, 0x8D, 0x00E7), (0x8E, 0x8E, 0x00E9), (0x8F, 0x8F, 0x00E8), (0x90, 0x91, 0x00EA),
    (0x92, 0x92, 0x00ED), (0x93, 0x93, 0x00EC), (0x94, 0x95, 0x00EE), (0x96, 0x96, 0x00F1),
    (0x97, 0x97, 0x00F3), (0x98, 0x98, 0x00F2), (0x99, 0x99, 0x00F4), (0x9A, 0x9A, 0x00F6),
    (0x9B, 0x9B, 0x00F5), (0x9C, 0x9C, 0x00FA), (0x9D, 0x9D, 0x00F9), (0x9E, 0x9F, 0x00FB),
    (0xA0, 0xA0, 0x2020), (0xA1, 0xA1, 0x00B0), (0xA4, 0xA4, 0x00A7), (0xA5, 0xA5, 0x2022),
    (0xA6, 0xA6, 0x00B6), (0xA7, 0xA7, 0x00DF), (0xA8, 0xA8, 0x00AE), (0xAA, 0xAA, 0x2122),
    (0xAB, 0xAB, 0x00B4), (0xAC, 0xAC, 0x00A8), (0xAD, 0xAD, 0x2260), (0xAE, 0xAE, 0x00C6),
    (0xAF, 0xAF, 0x00D8), (0xB0, 0xB0, 0x221E), (0xB2, 0xB3, 0x2264), (0xB4, 0xB4, 0x00A5),
    (0xB6, 0xB6, 0x2202), (0xB7, 0xB7, 0x2211), (0xB8, 0xB8, 0x220F), (0xB9, 0xB9, 0x03C0),
    (0xBA, 0xBA, 0x222B), (0xBB, 0xBB, 0x00AA), (0xBC, 0xBC, 0x00BA), (0xBD, 0xBD, 0x03A9),
    (0xBE, 0xBE, 0x00E6), (0xBF, 0xBF, 0x00F8), (0xC0, 0xC0, 0x00BF), (0xC1, 0xC1, 0x00A1),
    (0xC2, 0xC2, 0x00AC), (0xC3, 0xC3, 0x221A), (0xC4, 0xC4, 0x0192), (0xC5, 0xC5, 0x2248),
    (0xC6, 0xC6, 0x2206), (0xC7, 0xC7, 0x00AB), (0xC8, 0xC8, 0x00BB), (0xC9, 0xC9, 0x2026),
    (0xCA, 0xCA, 0x00A0), (0xCB, 0xCB, 0x00C0), (0xCC, 0xCC, 0x00C3), (0xCD, 0xCD, 0x00D5),
    (0xCE, 0xCF, 0x0152), (0xD0, 0xD1, 0x2013), (0xD2, 0xD3, 0x201C), (0xD4, 0xD5, 0x2018),
    (0xD6, 0xD6, 0x00F7), (0xD7, 0xD7, 0x25CA), (0xD8, 0xD8, 0x00FF), (0xD9, 0xD9, 0x0178),
    (0xDA, 0xDA, 0x2044), (0xDB, 0xDB, 0x20AC), (0xDC, 0xDD, 0x2039), (0xDE, 0xDF, 0xFB01),
    (0xE0, 0xE0, 0x2021), (0xE1, 0xE1, 0x00B7), (0xE2, 0xE2, 0x201A), (0xE3, 0xE3, 0x201E),
    (0xE4, 0xE4, 0x2030), (0xE5, 0xE5, 0x00C2), (0xE6, 0xE6, 0x00CA), (0xE7, 0xE7, 0x00C1),
    (0xE8, 0xE8, 0x00CB), (0xE9, 0xE9, 0x00C8), (0xEA, 0xEC, 0x00CD), (0xED, 0xED, 0x00CC),
    (0xEE, 0xEF, 0x00D3), (0xF0, 0xF0, 0xF8FF), (0xF1, 0xF1, 0x00D2), (0xF2, 0xF3, 0x00DA),
    (0xF4, 0xF4, 0x00D9), (0xF5, 0xF5, 0x0131), (0xF6, 0xF6, 0x02C6), (0xF7, 0xF7, 0x02DC),
    (0xF8, 0xF8, 0x00AF), (0xF9, 0xFB, 0x02D8), (0xFC, 0xFC, 0x00B8), (0xFD, 0xFD, 0x02DD),
    (0xFE, 0xFE, 0x02DB), (0xFF, 0xFF, 0x02C7)]
  gaps := []

/-- Thai. -/
def windows874 : CodePage where
  labels := ["dos-874", "iso-8859-11", "iso8859-11", "iso885911", "tis-620", "windows-874"]
  runs := [
    (0x80, 0x80, 0x20AC), (0x85, 0x85, 0x2026), (0x91, 0x92, 0x2018), (0x93, 0x94, 0x201C),
    (0x95, 0x95, 0x2022), (0x96, 0x97, 0x2013), (0xA1, 0xDA, 0x0E01), (0xDF, 0xFB, 0x0E3F)]
  gaps := [(0xDB, 0xDE), (0xFC, 0xFF)]

/-- Central European, the Windows set. -/
def windows1250 : CodePage where
  labels := ["cp1250", "windows-1250", "x-cp1250"]
  runs := [
    (0x80, 0x80, 0x20AC), (0x82, 0x82, 0x201A), (0x84, 0x84, 0x201E), (0x85, 0x85, 0x2026),
    (0x86, 0x87, 0x2020), (0x89, 0x89, 0x2030), (0x8A, 0x8A, 0x0160), (0x8B, 0x8B, 0x2039),
    (0x8C, 0x8C, 0x015A), (0x8D, 0x8D, 0x0164), (0x8E, 0x8E, 0x017D), (0x8F, 0x8F, 0x0179),
    (0x91, 0x92, 0x2018), (0x93, 0x94, 0x201C), (0x95, 0x95, 0x2022), (0x96, 0x97, 0x2013),
    (0x99, 0x99, 0x2122), (0x9A, 0x9A, 0x0161), (0x9B, 0x9B, 0x203A), (0x9C, 0x9C, 0x015B),
    (0x9D, 0x9D, 0x0165), (0x9E, 0x9E, 0x017E), (0x9F, 0x9F, 0x017A), (0xA1, 0xA1, 0x02C7),
    (0xA2, 0xA2, 0x02D8), (0xA3, 0xA3, 0x0141), (0xA5, 0xA5, 0x0104), (0xAA, 0xAA, 0x015E),
    (0xAF, 0xAF, 0x017B), (0xB2, 0xB2, 0x02DB), (0xB3, 0xB3, 0x0142), (0xB9, 0xB9, 0x0105),
    (0xBA, 0xBA, 0x015F), (0xBC, 0xBC, 0x013D), (0xBD, 0xBD, 0x02DD), (0xBE, 0xBE, 0x013E),
    (0xBF, 0xBF, 0x017C), (0xC0, 0xC0, 0x0154), (0xC3, 0xC3, 0x0102), (0xC5, 0xC5, 0x0139),
    (0xC6, 0xC6, 0x0106), (0xC8, 0xC8, 0x010C), (0xCA, 0xCA, 0x0118), (0xCC, 0xCC, 0x011A),
    (0xCF, 0xCF, 0x010E), (0xD0, 0xD0, 0x0110), (0xD1, 0xD1, 0x0143), (0xD2, 0xD2, 0x0147),
    (0xD5, 0xD5, 0x0150), (0xD8, 0xD8, 0x0158), (0xD9, 0xD9, 0x016E), (0xDB, 0xDB, 0x0170),
    (0xDE, 0xDE, 0x0162), (0xE0, 0xE0, 0x0155), (0xE3, 0xE3, 0x0103), (0xE5, 0xE5, 0x013A),
    (0xE6, 0xE6, 0x0107), (0xE8, 0xE8, 0x010D), (0xEA, 0xEA, 0x0119), (0xEC, 0xEC, 0x011B),
    (0xEF, 0xEF, 0x010F), (0xF0, 0xF0, 0x0111), (0xF1, 0xF1, 0x0144), (0xF2, 0xF2, 0x0148),
    (0xF5, 0xF5, 0x0151), (0xF8, 0xF8, 0x0159), (0xF9, 0xF9, 0x016F), (0xFB, 0xFB, 0x0171),
    (0xFE, 0xFE, 0x0163), (0xFF, 0xFF, 0x02D9)]
  gaps := []

/-- Cyrillic, the Windows set. -/
def windows1251 : CodePage where
  labels := ["cp1251", "windows-1251", "x-cp1251"]
  runs := [
    (0x80, 0x81, 0x0402), (0x82, 0x82, 0x201A), (0x83, 0x83, 0x0453), (0x84, 0x84, 0x201E),
    (0x85, 0x85, 0x2026), (0x86, 0x87, 0x2020), (0x88, 0x88, 0x20AC), (0x89, 0x89, 0x2030),
    (0x8A, 0x8A, 0x0409), (0x8B, 0x8B, 0x2039), (0x8C, 0x8C, 0x040A), (0x8D, 0x8D, 0x040C),
    (0x8E, 0x8E, 0x040B), (0x8F, 0x8F, 0x040F), (0x90, 0x90, 0x0452), (0x91, 0x92, 0x2018),
    (0x93, 0x94, 0x201C), (0x95, 0x95, 0x2022), (0x96, 0x97, 0x2013), (0x99, 0x99, 0x2122),
    (0x9A, 0x9A, 0x0459), (0x9B, 0x9B, 0x203A), (0x9C, 0x9C, 0x045A), (0x9D, 0x9D, 0x045C),
    (0x9E, 0x9E, 0x045B), (0x9F, 0x9F, 0x045F), (0xA1, 0xA1, 0x040E), (0xA2, 0xA2, 0x045E),
    (0xA3, 0xA3, 0x0408), (0xA5, 0xA5, 0x0490), (0xA8, 0xA8, 0x0401), (0xAA, 0xAA, 0x0404),
    (0xAF, 0xAF, 0x0407), (0xB2, 0xB2, 0x0406), (0xB3, 0xB3, 0x0456), (0xB4, 0xB4, 0x0491),
    (0xB8, 0xB8, 0x0451), (0xB9, 0xB9, 0x2116), (0xBA, 0xBA, 0x0454), (0xBC, 0xBC, 0x0458),
    (0xBD, 0xBD, 0x0405), (0xBE, 0xBE, 0x0455), (0xBF, 0xBF, 0x0457), (0xC0, 0xFF, 0x0410)]
  gaps := []

/-- Western European, which ASCII and Latin 1 are read as. -/
def windows1252 : CodePage where
  labels := [
    "ansi_x3.4-1968", "ascii", "cp1252", "cp819", "csisolatin1", "ibm819", "iso-8859-1",
    "iso-ir-100", "iso8859-1", "iso88591", "iso_8859-1", "iso_8859-1:1987", "l1", "latin1",
    "us-ascii", "windows-1252", "x-cp1252"]
  runs := [
    (0x80, 0x80, 0x20AC), (0x82, 0x82, 0x201A), (0x83, 0x83, 0x0192), (0x84, 0x84, 0x201E),
    (0x85, 0x85, 0x2026), (0x86, 0x87, 0x2020), (0x88, 0x88, 0x02C6), (0x89, 0x89, 0x2030),
    (0x8A, 0x8A, 0x0160), (0x8B, 0x8B, 0x2039), (0x8C, 0x8C, 0x0152), (0x8E, 0x8E, 0x017D),
    (0x91, 0x92, 0x2018), (0x93, 0x94, 0x201C), (0x95, 0x95, 0x2022), (0x96, 0x97, 0x2013),
    (0x98, 0x98, 0x02DC), (0x99, 0x99, 0x2122), (0x9A, 0x9A, 0x0161), (0x9B, 0x9B, 0x203A),
    (0x9C, 0x9C, 0x0153), (0x9E, 0x9E, 0x017E), (0x9F, 0x9F, 0x0178)]
  gaps := []

/-- Greek, the Windows set. -/
def windows1253 : CodePage where
  labels := ["cp1253", "windows-1253", "x-cp1253"]
  runs := [
    (0x80, 0x80, 0x20AC), (0x82, 0x82, 0x201A), (0x83, 0x83, 0x0192), (0x84, 0x84, 0x201E),
    (0x85, 0x85, 0x2026), (0x86, 0x87, 0x2020), (0x89, 0x89, 0x2030), (0x8B, 0x8B, 0x2039),
    (0x91, 0x92, 0x2018), (0x93, 0x94, 0x201C), (0x95, 0x95, 0x2022), (0x96, 0x97, 0x2013),
    (0x99, 0x99, 0x2122), (0x9B, 0x9B, 0x203A), (0xA1, 0xA2, 0x0385), (0xAF, 0xAF, 0x2015),
    (0xB4, 0xB4, 0x0384), (0xB8, 0xBA, 0x0388), (0xBC, 0xBC, 0x038C), (0xBE, 0xD1, 0x038E),
    (0xD3, 0xFE, 0x03A3)]
  gaps := [(0xAA, 0xAA), (0xD2, 0xD2), (0xFF, 0xFF)]

/-- Turkish, the Windows set. -/
def windows1254 : CodePage where
  labels := [
    "cp1254", "csisolatin5", "iso-8859-9", "iso-ir-148", "iso8859-9", "iso88599", "iso_8859-9",
    "iso_8859-9:1989", "l5", "latin5", "windows-1254", "x-cp1254"]
  runs := [
    (0x80, 0x80, 0x20AC), (0x82, 0x82, 0x201A), (0x83, 0x83, 0x0192), (0x84, 0x84, 0x201E),
    (0x85, 0x85, 0x2026), (0x86, 0x87, 0x2020), (0x88, 0x88, 0x02C6), (0x89, 0x89, 0x2030),
    (0x8A, 0x8A, 0x0160), (0x8B, 0x8B, 0x2039), (0x8C, 0x8C, 0x0152), (0x91, 0x92, 0x2018),
    (0x93, 0x94, 0x201C), (0x95, 0x95, 0x2022), (0x96, 0x97, 0x2013), (0x98, 0x98, 0x02DC),
    (0x99, 0x99, 0x2122), (0x9A, 0x9A, 0x0161), (0x9B, 0x9B, 0x203A), (0x9C, 0x9C, 0x0153),
    (0x9F, 0x9F, 0x0178), (0xD0, 0xD0, 0x011E), (0xDD, 0xDD, 0x0130), (0xDE, 0xDE, 0x015E),
    (0xF0, 0xF0, 0x011F), (0xFD, 0xFD, 0x0131), (0xFE, 0xFE, 0x015F)]
  gaps := []

/-- Hebrew, the Windows set. -/
def windows1255 : CodePage where
  labels := ["cp1255", "windows-1255", "x-cp1255"]
  runs := [
    (0x80, 0x80, 0x20AC), (0x82, 0x82, 0x201A), (0x83, 0x83, 0x0192), (0x84, 0x84, 0x201E),
    (0x85, 0x85, 0x2026), (0x86, 0x87, 0x2020), (0x88, 0x88, 0x02C6), (0x89, 0x89, 0x2030),
    (0x8B, 0x8B, 0x2039), (0x91, 0x92, 0x2018), (0x93, 0x94, 0x201C), (0x95, 0x95, 0x2022),
    (0x96, 0x97, 0x2013), (0x98, 0x98, 0x02DC), (0x99, 0x99, 0x2122), (0x9B, 0x9B, 0x203A),
    (0xA4, 0xA4, 0x20AA), (0xAA, 0xAA, 0x00D7), (0xBA, 0xBA, 0x00F7), (0xC0, 0xD3, 0x05B0),
    (0xD4, 0xD8, 0x05F0), (0xE0, 0xFA, 0x05D0), (0xFD, 0xFE, 0x200E)]
  gaps := [(0xD9, 0xDF), (0xFB, 0xFC), (0xFF, 0xFF)]

/-- Arabic, the Windows set. -/
def windows1256 : CodePage where
  labels := ["cp1256", "windows-1256", "x-cp1256"]
  runs := [
    (0x80, 0x80, 0x20AC), (0x81, 0x81, 0x067E), (0x82, 0x82, 0x201A), (0x83, 0x83, 0x0192),
    (0x84, 0x84, 0x201E), (0x85, 0x85, 0x2026), (0x86, 0x87, 0x2020), (0x88, 0x88, 0x02C6),
    (0x89, 0x89, 0x2030), (0x8A, 0x8A, 0x0679), (0x8B, 0x8B, 0x2039), (0x8C, 0x8C, 0x0152),
    (0x8D, 0x8D, 0x0686), (0x8E, 0x8E, 0x0698), (0x8F, 0x8F, 0x0688), (0x90, 0x90, 0x06AF),
    (0x91, 0x92, 0x2018), (0x93, 0x94, 0x201C), (0x95, 0x95, 0x2022), (0x96, 0x97, 0x2013),
    (0x98, 0x98, 0x06A9), (0x99, 0x99, 0x2122), (0x9A, 0x9A, 0x0691), (0x9B, 0x9B, 0x203A),
    (0x9C, 0x9C, 0x0153), (0x9D, 0x9E, 0x200C), (0x9F, 0x9F, 0x06BA), (0xA1, 0xA1, 0x060C),
    (0xAA, 0xAA, 0x06BE), (0xBA, 0xBA, 0x061B), (0xBF, 0xBF, 0x061F), (0xC0, 0xC0, 0x06C1),
    (0xC1, 0xD6, 0x0621), (0xD8, 0xDB, 0x0637), (0xDC, 0xDF, 0x0640), (0xE1, 0xE1, 0x0644),
    (0xE3, 0xE6, 0x0645), (0xEC, 0xED, 0x0649), (0xF0, 0xF3, 0x064B), (0xF5, 0xF6, 0x064F),
    (0xF8, 0xF8, 0x0651), (0xFA, 0xFA, 0x0652), (0xFD, 0xFE, 0x200E), (0xFF, 0xFF, 0x06D2)]
  gaps := []

/-- Baltic, the Windows set. -/
def windows1257 : CodePage where
  labels := ["cp1257", "windows-1257", "x-cp1257"]
  runs := [
    (0x80, 0x80, 0x20AC), (0x82, 0x82, 0x201A), (0x84, 0x84, 0x201E), (0x85, 0x85, 0x2026),
    (0x86, 0x87, 0x2020), (0x89, 0x89, 0x2030), (0x8B, 0x8B, 0x2039), (0x8D, 0x8D, 0x00A8),
    (0x8E, 0x8E, 0x02C7), (0x8F, 0x8F, 0x00B8), (0x91, 0x92, 0x2018), (0x93, 0x94, 0x201C),
    (0x95, 0x95, 0x2022), (0x96, 0x97, 0x2013), (0x99, 0x99, 0x2122), (0x9B, 0x9B, 0x203A),
    (0x9D, 0x9D, 0x00AF), (0x9E, 0x9E, 0x02DB), (0xA8, 0xA8, 0x00D8), (0xAA, 0xAA, 0x0156),
    (0xAF, 0xAF, 0x00C6), (0xB8, 0xB8, 0x00F8), (0xBA, 0xBA, 0x0157), (0xBF, 0xBF, 0x00E6),
    (0xC0, 0xC0, 0x0104), (0xC1, 0xC1, 0x012E), (0xC2, 0xC2, 0x0100), (0xC3, 0xC3, 0x0106),
    (0xC6, 0xC6, 0x0118), (0xC7, 0xC7, 0x0112), (0xC8, 0xC8, 0x010C), (0xCA, 0xCA, 0x0179),
    (0xCB, 0xCB, 0x0116), (0xCC, 0xCC, 0x0122), (0xCD, 0xCD, 0x0136), (0xCE, 0xCE, 0x012A),
    (0xCF, 0xCF, 0x013B), (0xD0, 0xD0, 0x0160), (0xD1, 0xD1, 0x0143), (0xD2, 0xD2, 0x0145),
    (0xD4, 0xD4, 0x014C), (0xD8, 0xD8, 0x0172), (0xD9, 0xD9, 0x0141), (0xDA, 0xDA, 0x015A),
    (0xDB, 0xDB, 0x016A), (0xDD, 0xDD, 0x017B), (0xDE, 0xDE, 0x017D), (0xE0, 0xE0, 0x0105),
    (0xE1, 0xE1, 0x012F), (0xE2, 0xE2, 0x0101), (0xE3, 0xE3, 0x0107), (0xE6, 0xE6, 0x0119),
    (0xE7, 0xE7, 0x0113), (0xE8, 0xE8, 0x010D), (0xEA, 0xEA, 0x017A), (0xEB, 0xEB, 0x0117),
    (0xEC, 0xEC, 0x0123), (0xED, 0xED, 0x0137), (0xEE, 0xEE, 0x012B), (0xEF, 0xEF, 0x013C),
    (0xF0, 0xF0, 0x0161), (0xF1, 0xF1, 0x0144), (0xF2, 0xF2, 0x0146), (0xF4, 0xF4, 0x014D),
    (0xF8, 0xF8, 0x0173), (0xF9, 0xF9, 0x0142), (0xFA, 0xFA, 0x015B), (0xFB, 0xFB, 0x016B),
    (0xFD, 0xFD, 0x017C), (0xFE, 0xFE, 0x017E), (0xFF, 0xFF, 0x02D9)]
  gaps := [(0xA1, 0xA1), (0xA5, 0xA5)]

/-- Vietnamese. -/
def windows1258 : CodePage where
  labels := ["cp1258", "windows-1258", "x-cp1258"]
  runs := [
    (0x80, 0x80, 0x20AC), (0x82, 0x82, 0x201A), (0x83, 0x83, 0x0192), (0x84, 0x84, 0x201E),
    (0x85, 0x85, 0x2026), (0x86, 0x87, 0x2020), (0x88, 0x88, 0x02C6), (0x89, 0x89, 0x2030),
    (0x8B, 0x8B, 0x2039), (0x8C, 0x8C, 0x0152), (0x91, 0x92, 0x2018), (0x93, 0x94, 0x201C),
    (0x95, 0x95, 0x2022), (0x96, 0x97, 0x2013), (0x98, 0x98, 0x02DC), (0x99, 0x99, 0x2122),
    (0x9B, 0x9B, 0x203A), (0x9C, 0x9C, 0x0153), (0x9F, 0x9F, 0x0178), (0xC3, 0xC3, 0x0102),
    (0xCC, 0xCC, 0x0300), (0xD0, 0xD0, 0x0110), (0xD2, 0xD2, 0x0309), (0xD5, 0xD5, 0x01A0),
    (0xDD, 0xDD, 0x01AF), (0xDE, 0xDE, 0x0303), (0xE3, 0xE3, 0x0103), (0xEC, 0xEC, 0x0301),
    (0xF0, 0xF0, 0x0111), (0xF2, 0xF2, 0x0323), (0xF5, 0xF5, 0x01A1), (0xFD, 0xFD, 0x01B0),
    (0xFE, 0xFE, 0x20AB)]
  gaps := []

/-- Cyrillic, the Macintosh set. -/
def macCyrillic : CodePage where
  labels := ["x-mac-cyrillic", "x-mac-ukrainian"]
  runs := [
    (0x80, 0x9F, 0x0410), (0xA0, 0xA0, 0x2020), (0xA1, 0xA1, 0x00B0), (0xA2, 0xA2, 0x0490),
    (0xA4, 0xA4, 0x00A7), (0xA5, 0xA5, 0x2022), (0xA6, 0xA6, 0x00B6), (0xA7, 0xA7, 0x0406),
    (0xA8, 0xA8, 0x00AE), (0xAA, 0xAA, 0x2122), (0xAB, 0xAB, 0x0402), (0xAC, 0xAC, 0x0452),
    (0xAD, 0xAD, 0x2260), (0xAE, 0xAE, 0x0403), (0xAF, 0xAF, 0x0453), (0xB0, 0xB0, 0x221E),
    (0xB2, 0xB3, 0x2264), (0xB4, 0xB4, 0x0456), (0xB6, 0xB6, 0x0491), (0xB7, 0xB7, 0x0408),
    (0xB8, 0xB8, 0x0404), (0xB9, 0xB9, 0x0454), (0xBA, 0xBA, 0x0407), (0xBB, 0xBB, 0x0457),
    (0xBC, 0xBC, 0x0409), (0xBD, 0xBD, 0x0459), (0xBE, 0xBE, 0x040A), (0xBF, 0xBF, 0x045A),
    (0xC0, 0xC0, 0x0458), (0xC1, 0xC1, 0x0405), (0xC2, 0xC2, 0x00AC), (0xC3, 0xC3, 0x221A),
    (0xC4, 0xC4, 0x0192), (0xC5, 0xC5, 0x2248), (0xC6, 0xC6, 0x2206), (0xC7, 0xC7, 0x00AB),
    (0xC8, 0xC8, 0x00BB), (0xC9, 0xC9, 0x2026), (0xCA, 0xCA, 0x00A0), (0xCB, 0xCB, 0x040B),
    (0xCC, 0xCC, 0x045B), (0xCD, 0xCD, 0x040C), (0xCE, 0xCE, 0x045C), (0xCF, 0xCF, 0x0455),
    (0xD0, 0xD1, 0x2013), (0xD2, 0xD3, 0x201C), (0xD4, 0xD5, 0x2018), (0xD6, 0xD6, 0x00F7),
    (0xD7, 0xD7, 0x201E), (0xD8, 0xD8, 0x040E), (0xD9, 0xD9, 0x045E), (0xDA, 0xDA, 0x040F),
    (0xDB, 0xDB, 0x045F), (0xDC, 0xDC, 0x2116), (0xDD, 0xDD, 0x0401), (0xDE, 0xDE, 0x0451),
    (0xDF, 0xDF, 0x044F), (0xE0, 0xFE, 0x0430), (0xFF, 0xFF, 0x20AC)]
  gaps := []

/-- All code pages. -/
def all : List CodePage := [
  ibm866, iso8859Part2, iso8859Part3, iso8859Part4, iso8859Part5, iso8859Part6, iso8859Part7,
  iso8859Part8, iso8859Part10, iso8859Part13, iso8859Part14, iso8859Part15, iso8859Part16, koi8r,
  koi8u, macRoman, windows874, windows1250, windows1251, windows1252, windows1253, windows1254,
  windows1255, windows1256, windows1257, windows1258, macCyrillic]

/-- The code page with a label. -/
def ofLabel? (label : String) : Option CodePage := all.find? fun p => p.labels.contains label

end CodePage

end LecturePlan.Text
