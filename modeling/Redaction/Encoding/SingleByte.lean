/-
  Encodings with one byte for each character.

  * ASCII knows the bytes below 128, Latin 1 takes every byte for the character of its number, and
    Windows 1252 has characters of its own from 128 to 159, five of which are not assigned.
-/
import Redaction.Encoding.Basic

namespace Redaction.Encoding

/-- Reads a byte of ASCII. -/
def asciiStep (b : UInt8) (_ : Bytes) : Step :=
  if b < 0x80 then .char (CodePoint.ofNat b.toNat) 0 else .bad 0 .beyondAscii

/-- Reads a byte of Latin 1. -/
def latin1Step (b : UInt8) (_ : Bytes) : Step := .char (CodePoint.ofNat b.toNat) 0

/-- The characters of Windows 1252 for the bytes from 128 to 159. -/
def windows1252Characters : List (Option Nat) :=
  [some 0x20AC, none, some 0x201A, some 0x192, some 0x201E, some 0x2026, some 0x2020, some 0x2021,
   some 0x2C6, some 0x2030, some 0x160, some 0x2039, some 0x152, none, some 0x17D, none,
   none, some 0x2018, some 0x2019, some 0x201C, some 0x201D, some 0x2022, some 0x2013, some 0x2014,
   some 0x2DC, some 0x2122, some 0x161, some 0x203A, some 0x153, none, some 0x17E, some 0x178]

/-- Reads a byte of Windows 1252. -/
def windows1252Step (b : UInt8) (_ : Bytes) : Step :=
  if 0x80 ≤ b ∧ b ≤ 0x9F then
    match windows1252Characters[b.toNat - 0x80]? with
    | some (some n) => .char (CodePoint.ofNat n) 0
    | _ => .bad 0 .unassigned
  else .char (CodePoint.ofNat b.toNat) 0

/-- The byte for a character below a bound. -/
def byteBelow (bound : Nat) (c : CodePoint) : Option Bytes :=
  if c.val < bound then some [UInt8.ofNat c.val] else none

end Redaction.Encoding
