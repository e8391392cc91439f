/-
  Binary floating-point numbers of 64 bits, as exact values.

  * `Binary64` is a sign with a significand and a power of two, an infinity, or no number;
  * `roundQuotient` rounds a quotient to the nearest integer, a tie to the even one;
  * `Binary64.ofRatio` is the number nearest to a ratio, and `Binary64.ofNumeral` the one that a
    numeral in decimal notation writes.
-/
import Redaction.Number.Power
import Redaction.Text.CodePoint

namespace Redaction

/-- A floating-point number. A finite one is `significand * 2 ^ exponent`, with fewer than 54
    binary digits in the significand and an exponent of at least `-1074`. -/
inductive Binary64 where
  | finite (negative : Bool) (significand : Nat) (exponent : Int)
  | infinite (negative : Bool)
  | nan
  deriving DecidableEq, Repr

/-- The integer nearest to `n / d`; a quotient halfway between two goes to the even one. -/
def roundQuotient (n d : Nat) : Nat :=
  let q := n / d
  let twice := 2 * (n % d)
  if twice < d then q
  else if twice = d then q + q % 2
  else q + 1

namespace Binary64

/-- Whether a number is zero, of either sign. -/
def isZero : Binary64 → Bool
  | finite _ 0 _ => true
  | _ => false

/-- The power of two of the last binary digit of the number nearest to `n / d`: 53 digits, unless
    that would take an exponent below the least one. -/
def lastPlace (n d : Nat) : Int :=
  let guess : Int := (n.log2 : Int) - d.log2 - 52
  let tooHigh :=
    if 0 ≤ guess + 52 then n < d <<< (guess + 52).toNat
    else n <<< (-(guess + 52)).toNat < d
  max (if tooHigh then guess - 1 else guess) (-1074)

/-- The floating-point number nearest to `n / d`, where `d` is not zero. What would need more than
    the largest exponent is infinite. -/
def ofRatio (negative : Bool) (n d : Nat) : Binary64 :=
  if n = 0 then finite negative 0 0
  else
    let q := lastPlace n d
    let m := if 0 ≤ q then roundQuotient n (d <<< q.toNat) else roundQuotient (n <<< (-q).toNat) d
    let (m, q) := if m = twoTo 53 then (twoTo 52, q + 1) else (m, q)
    if 971 < q then infinite negative else finite negative m q

/-- The floating-point number nearest to `n * 10 ^ e`. -/
def ofDecimal (negative : Bool) (n : Nat) (e : Int) : Binary64 :=
  if 0 ≤ e then ofRatio negative (n * tenTo e.toNat) 1 else ofRatio negative n (tenTo (-e).toNat)

/-- The size of an exponent written with the given digits. Sizes beyond a million millions are
    all the same to a floating-point number. -/
def exponentSize (digits : Text) : Nat :=
  let digits := digits.dropWhile CodePoint.isZero
  if 12 < digits.length then tenTo 12 else Text.digitsValue digits

/-- The floating-point number that a numeral writes: digits before and behind the point, and a
    power of ten. No more than 800 digits can decide to which side a numeral is rounded, beside
    the question whether any other follows them. -/
def ofNumeral (negative : Bool) (whole fraction : Text) (e : Int) : Binary64 :=
  let digits := (whole ++ fraction).dropWhile CodePoint.isZero
  let kept := digits.take 800
  let others := digits.drop 800
  let size : Int := digits.length - fraction.length + e
  if digits.isEmpty then finite negative 0 0
  else if 310 < size then infinite negative
  else if size < -330 then finite negative 0 0
  else
    let n := Text.digitsValue kept
    let e := e - fraction.length + others.length
    if others.all CodePoint.isZero then ofDecimal negative n e else ofDecimal negative (10 * n + 1) (e - 1)

/-- The integer part of a finite number. -/
def truncate? : Binary64 → Option Int
  | finite negative m q =>
    let size : Nat := if 0 ≤ q then m <<< q.toNat else m >>> (-q).toNat
    some (if negative then -size else size)
  | _ => none

end Binary64

end Redaction
