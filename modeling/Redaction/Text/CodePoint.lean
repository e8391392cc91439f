/-
  Characters and texts.

  A text is a list of code points.  A surrogate is a code point like any other, so a text can
  hold half of a pair, which an escape in a document is free to write; `Char` could not.

  * `CodePoint` is a number below `0x110000`, and every `Char` is one;
  * `CodePoint.ofNat` reads a number as a code point, with the replacement character in place
    of a number that is none;
  * `Text.ofString` and `Text.decimal` write a string and a number as texts.
-/

namespace Redaction

/-- A Unicode code point, surrogates included. -/
structure CodePoint where
  /-- The number of the code point. -/
  val : Nat
  val_lt : val < 0x110000
  deriving DecidableEq

namespace CodePoint

/-- The code point of a character. -/
def ofChar (c : Char) : CodePoint :=
  ⟨c.toNat, by
    have h : c.toNat.isValidChar := c.valid
    rcases h with h | h <;> omega⟩

instance : Coe Char CodePoint := ⟨ofChar⟩

@[simp] theorem ofChar_val (c : Char) : (ofChar c).val = c.toNat := rfl

/-- Two code points with one number are the same. -/
@[ext] theorem ext {a b : CodePoint} (h : a.val = b.val) : a = b := by
  cases a; cases b; cases h; rfl

theorem ofChar_inj {a b : Char} : ofChar a = ofChar b ↔ a = b := by
  constructor
  · intro h
    have hv : a.toNat = b.toNat := congrArg CodePoint.val h
    exact Char.ext (UInt32.toNat_inj.mp hv)
  · rintro rfl; rfl

/-- U+FFFD, which stands for what cannot be shown. -/
def replacement : CodePoint := ⟨0xFFFD, by decide⟩

/-- U+FEFF, the mark that may stand before a document to tell the order of its bytes. -/
def byteOrderMark : CodePoint := ⟨0xFEFF, by decide⟩

/-- The code point with a number, and the replacement character where there is none. -/
def ofNat (n : Nat) : CodePoint :=
  if h : n < 0x110000 then ⟨n, h⟩ else replacement

theorem ofNat_of_lt {n : Nat} (h : n < 0x110000) : ofNat n = ⟨n, h⟩ := by
  simp [ofNat, h]

@[simp] theorem ofNat_val (c : CodePoint) : ofNat c.val = c :=
  ofNat_of_lt c.val_lt

instance : Inhabited CodePoint := ⟨replacement⟩

/-- The first half of a surrogate pair. -/
def isLeading (c : CodePoint) : Bool := 0xD800 ≤ c.val && c.val ≤ 0xDBFF

/-- The second half of a surrogate pair. -/
def isTrailing (c : CodePoint) : Bool := 0xDC00 ≤ c.val && c.val ≤ 0xDFFF

/-- Half of a surrogate pair, which no encoding of text can write. -/
def isSurrogate (c : CodePoint) : Bool := 0xD800 ≤ c.val && c.val ≤ 0xDFFF

/-- The code point that a leading and a trailing surrogate stand for together. -/
def join (leading trailing : CodePoint) : CodePoint :=
  ofNat (0x10000 + (leading.val - 0xD800) * 0x400 + (trailing.val - 0xDC00))

/-- A letter of the English alphabet. -/
def isAsciiLetter (c : CodePoint) : Bool :=
  (0x41 ≤ c.val && c.val ≤ 0x5A) || (0x61 ≤ c.val && c.val ≤ 0x7A)

/-- One of the ten digits `0` to `9`. -/
def isAsciiDigit (c : CodePoint) : Bool := 0x30 ≤ c.val && c.val ≤ 0x39

/-- The digit `0`. -/
def isZero (c : CodePoint) : Bool := c.val = 0x30

/-- What a hexadecimal digit stands for. -/
def hexValue? (c : CodePoint) : Option Nat :=
  if c.isAsciiDigit then some (c.val - 0x30)
  else if 0x61 ≤ c.val && c.val ≤ 0x66 then some (c.val - 0x61 + 10)
  else if 0x41 ≤ c.val && c.val ≤ 0x46 then some (c.val - 0x41 + 10)
  else none

/-- A letter or digit that can stand in a hexadecimal number. -/
def isHexDigit (c : CodePoint) : Bool := c.hexValue?.isSome

/-- The small hexadecimal digit for a number below sixteen. -/
def ofHexValue (n : Nat) : CodePoint := ofChar (Nat.digitChar n)

end CodePoint

/-- A text: code points in order. -/
abbrev Text := List CodePoint

namespace Text

/-- The characters of a string. -/
def ofString (s : String) : Text := s.toList.map CodePoint.ofChar

instance : Coe String (List CodePoint) := ⟨ofString⟩

/-- A number in decimal notation. -/
def decimal (n : Nat) : Text := (Nat.toDigits 10 n).map CodePoint.ofChar

/-- An integer in decimal notation, with a minus sign where it is negative. -/
def integer : Int → Text
  | .ofNat n => decimal n
  | .negSucc n => CodePoint.ofChar '-' :: decimal (n + 1)

/-- A number in hexadecimal notation with small letters, filled with zeros to a width. -/
def hex (width n : Nat) : Text :=
  let digits := (Nat.toDigits 16 n).map CodePoint.ofChar
  List.replicate (width - digits.length) (CodePoint.ofChar '0') ++ digits

/-- The number that a run of decimal digits from `0` to `9` writes. -/
def digitsValue (digits : Text) : Nat :=
  digits.foldl (fun n c => 10 * n + (c.val - 0x30)) 0

end Text

end Redaction
