/-
  Floating-point numbers in decimal notation.

  A number is written with the fewest digits that are read back as the number; among numerals with
  that many digits with the nearest one, and of two equally near with the one whose last digit is
  even.

  * `shortest` finds the digits on the grids of multiples of powers of ten, from the coarsest on;
  * `Binary64.text` writes them: with a point as long as the point comes neither more than 16
    places behind the first digit nor more than 3 places before it, with an exponent otherwise.
-/
import Redaction.Number.Binary64

namespace Redaction

/-! ## Digits -/

/-- The decimal numbers `n * 10 ^ grid` that are compared with multiples of a power of two, as
    integers of one scale: `k * 2 ^ place` becomes `binary k`, and `n * 10 ^ grid` becomes
    `decimal n`. -/
structure Scale where
  place : Int
  grid : Int

namespace Scale

/-- `k * 2 ^ place` on the common scale. -/
def binary (s : Scale) (k : Nat) : Nat := (k * tenTo (-s.grid).toNat) <<< s.place.toNat

/-- `n * 10 ^ grid` on the common scale. -/
def decimal (s : Scale) (n : Nat) : Nat := (n * tenTo s.grid.toNat) <<< (-s.place).toNat

end Scale

/-- The point of the grid `10 ^ grid` that stands for the number `m * 2 ^ q`, if one does: the
    nearer of the two points beside the number among those that are rounded to it. -/
def onGrid? (m : Nat) (q : Int) (grid : Int) : Option Nat :=
  let s : Scale := ⟨q - 2, grid⟩
  let value := s.binary (4 * m)
  let low := s.binary (4 * m - (if m = twoTo 52 ∧ -1074 < q then 1 else 2))
  let high := s.binary (4 * m + 2)
  let within (x : Nat) := if m % 2 = 0 then low ≤ x ∧ x ≤ high else low < x ∧ x < high
  let below := value / s.decimal 1
  let above := below + 1
  if within (s.decimal below) then
    if within (s.decimal above) then
      let down := value - s.decimal below
      let up := s.decimal above - value
      if down < up then some below
      else if up < down then some above
      else some (below + below % 2)
    else some below
  else if within (s.decimal above) then some above
  else none

/-- The first grid, in steps to finer ones, that has a point for the number. -/
def firstGrid (m : Nat) (q : Int) (grid : Int) : Nat → Nat × Int
  | 0 => (0, grid)
  | steps + 1 =>
    match onGrid? m q grid with
    | some n => (n, grid)
    | none => firstGrid m q (grid - 1) steps

/-- The fewest digits for `m * 2 ^ q`: a number `n` and a power of ten. Seventeen digits always
    do; the first grid is no finer than the place of the first digit. -/
def shortest (m : Nat) (q : Int) : Nat × Int :=
  let size := (q + m.log2) * 30103 / 100000
  firstGrid m q (size + 1) 20

/-! ## Notation -/

/-- The words for what has no digits. -/
structure SpecialNumerals where
  nan : Text
  infinity : Text

/-- So many zeros. -/
def zeros (n : Nat) : Text := List.replicate n '0'

/-- Digits with a point, `point` places behind their start. -/
def positional (digits : Text) (point : Int) : Text :=
  if point ≤ 0 then ("0." : Text) ++ zeros (-point).toNat ++ digits
  else if digits.length ≤ point then
    digits ++ zeros (point.toNat - digits.length) ++ (".0" : Text)
  else digits.take point.toNat ++ ("." : Text) ++ digits.drop point.toNat

/-- Digits with a power of ten, which has a sign and at least two digits. -/
def scientific (digits : Text) (point : Int) : Text :=
  let e := point - 1
  let size := Text.decimal e.natAbs
  digits.take 1 ++ (if digits.length ≤ 1 then [] else ("." : Text) ++ digits.drop 1) ++
    (if e < 0 then ("e-" : Text) else ("e+" : Text)) ++ zeros (2 - size.length) ++ size

/-- Digits in the shorter of the two notations. -/
def numeral (digits : Text) (point : Int) : Text :=
  if -4 < point ∧ point ≤ 16 then positional digits point else scientific digits point

/-- A minus sign where it is needed. -/
def minus (negative : Bool) : Text := if negative then ['-'] else []

namespace Binary64

/-- The digits of `m * 2 ^ q` without zeros at their end, and the place of the point. -/
def digits (m : Nat) (q : Int) : Text × Int :=
  if m = 0 then (['0'], 1)
  else
    let (n, grid) := shortest m q
    let digits := Text.decimal n
    ((digits.reverse.dropWhile CodePoint.isZero).reverse, digits.length + grid)

/-- A floating-point number in decimal notation. -/
def text (special : SpecialNumerals) : Binary64 → Text
  | nan => special.nan
  | infinite negative => minus negative ++ special.infinity
  | finite negative m q =>
    let (digits, point) := digits m q
    minus negative ++ numeral digits point

end Binary64

end Redaction
