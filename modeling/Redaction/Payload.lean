/-
  What a caller hands over: text, or bytes that are not decoded yet.

  * `Payload` is either of them, `Payload.quoted` shows it in a message;
  * `Bytes.firstWord` is the first word of bytes in capitals, where only ASCII has blanks and
    letters.
-/
import Redaction.Text.Cut
import Redaction.Text.Quoted

namespace Redaction

/-- Text, or bytes. -/
inductive Payload where
  | text (t : Text)
  | bytes (b : Bytes)
  deriving DecidableEq

namespace Bytes

/-- A blank of ASCII. -/
def isBlank (b : UInt8) : Bool := b = 0x20 || (0x09 ≤ b && b ≤ 0x0D)

/-- A small letter of ASCII as a capital one. -/
def upperByte (b : UInt8) : UInt8 := if 0x61 ≤ b ∧ b ≤ 0x7A then b - 0x20 else b

/-- The first word of bytes in capitals; empty where there is no word. -/
def firstWord (bytes : Bytes) : Bytes :=
  ((bytes.dropWhile isBlank).takeWhile fun b => ! isBlank b).map upperByte

end Bytes

namespace Payload

/-- Whether there is nothing in it. -/
def isEmpty : Payload → Bool
  | text t => t.isEmpty
  | bytes b => b.isEmpty

/-- Text or bytes as a message shows them. -/
def quoted : Payload → Text
  | text t => t.quoted
  | bytes b => b.quoted

end Payload

end Redaction
