/-
  UTF-8.

  A character takes one to four bytes.  Only the shortest form counts, and surrogates have none.
  Bad bytes are taken together as far as they could have started a character.

  * `utf8Step` reads a character and `utf8Bytes` writes one.
-/
import Redaction.Encoding.Basic

namespace Redaction.Encoding

/-- A byte that continues a character. -/
def isContinuation (b : UInt8) : Bool := 0x80 ≤ b && b ≤ 0xBF

/-- The six bits that a continuing byte carries. -/
def payload (b : UInt8) : Nat := b.toNat % 0x40

/-- The range of the second byte behind a first byte of a longer character. -/
def secondRange (b : UInt8) : UInt8 × UInt8 :=
  if b = 0xE0 then (0xA0, 0xBF)
  else if b = 0xED then (0x80, 0x9F)
  else if b = 0xF0 then (0x90, 0xBF)
  else if b = 0xF4 then (0x80, 0x8F)
  else (0x80, 0xBF)

/-- Reads a character of UTF-8. -/
def utf8Step (b₁ : UInt8) (rest : Bytes) : Step :=
  if b₁ < 0x80 then .char (CodePoint.ofNat b₁.toNat) 0
  else if b₁ < 0xC2 ∨ 0xF4 < b₁ then .bad 0 .badStart
  else
    match rest with
    | [] => .bad 0 .endsEarly
    | b₂ :: rest =>
      if b₂ < (secondRange b₁).1 ∨ (secondRange b₁).2 < b₂ then .bad 0 .badContinuation
      else if b₁ < 0xE0 then .char (CodePoint.ofNat ((b₁.toNat - 0xC0) * 0x40 + payload b₂)) 1
      else
        match rest with
        | [] => .bad 1 .endsEarly
        | b₃ :: rest =>
          if ! isContinuation b₃ then .bad 1 .badContinuation
          else if b₁ < 0xF0 then
            .char (CodePoint.ofNat
              (((b₁.toNat - 0xE0) * 0x40 + payload b₂) * 0x40 + payload b₃)) 2
          else
            match rest with
            | [] => .bad 2 .endsEarly
            | b₄ :: _ =>
              if ! isContinuation b₄ then .bad 2 .badContinuation
              else
                .char (CodePoint.ofNat
                  ((((b₁.toNat - 0xF0) * 0x40 + payload b₂) * 0x40 + payload b₃) * 0x40
                    + payload b₄)) 3

/-- The byte that carries six bits of a character. -/
def continuation (n : Nat) : UInt8 := UInt8.ofNat (0x80 + n % 0x40)

/-- Writes a character in UTF-8. -/
def utf8Bytes (c : CodePoint) : Option Bytes :=
  let n := c.val
  if c.isSurrogate then none
  else if n < 0x80 then some [UInt8.ofNat n]
  else if n < 0x800 then some [UInt8.ofNat (0xC0 + n / 0x40), continuation n]
  else if n < 0x10000 then
    some [UInt8.ofNat (0xE0 + n / 0x1000), continuation (n / 0x40), continuation n]
  else
    some [UInt8.ofNat (0xF0 + n / 0x40000), continuation (n / 0x1000), continuation (n / 0x40),
      continuation n]

/-- The signature that may stand before a text in UTF-8. -/
def utf8Signature : Bytes := [0xEF, 0xBB, 0xBF]

end Redaction.Encoding
