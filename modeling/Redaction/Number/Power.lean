/-
  Powers of two and ten.

  * `twoTo n` and `tenTo n` are the powers that numerals and floating-point numbers are made of.
-/

namespace Redaction

/-- A power of two. -/
def twoTo (n : Nat) : Nat := Nat.pow 2 n

/-- A power of ten. -/
def tenTo (n : Nat) : Nat := Nat.pow 10 n

end Redaction
