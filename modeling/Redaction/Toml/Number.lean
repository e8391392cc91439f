/-
  Numbers of a settings file.

  * `number` reads an integer in one of four bases, or a floating-point number;
  * `digitRun` reads digits with single low lines between them.
-/
import Redaction.Toml.Lexical
import Redaction.Value

namespace Redaction.Toml

/-- The digits of a class that a text starts with, where a low line may stand between two of them.
    The low lines are left out of the result. -/
def digitRunOnto (p : CodePoint → Bool) (done : Text) : Text → Text × Text
  | [] => (done.reverse, [])
  | c :: rest =>
    if p c then digitRunOnto p (c :: done) rest
    else if c = '_' ∧ done ≠ [] then
      match rest with
      | [] => (done.reverse, c :: rest)
      | d :: more => if p d then digitRunOnto p (d :: done) more else (done.reverse, c :: rest)
    else (done.reverse, c :: rest)

/-- Reads digits of a class with single low lines between them. -/
def digitRun (p : CodePoint → Bool) (t : Text) : Text × Text := digitRunOnto p [] t

/-- The number that digits write in a base. -/
def valueInBase (base : Nat) (digits : Text) : Nat :=
  digits.foldl (fun n c => base * n + c.hexValue?.getD 0) 0

/-- Reads an integer in another base behind its leading zero: a letter for the base, and digits. -/
def otherBase? (t : Text) : Scan Nat :=
  match t with
  | [] => none
  | letter :: rest =>
    let digits? (base : Nat) : Scan Nat :=
      match digitRun (fun c => c.hexValue?.any (· < base)) rest with
      | ([], _) => none
      | (digits, rest) => some (valueInBase base digits, rest)
    if letter = 'x' then digits? 16
    else if letter = 'b' then digits? 2
    else if letter = 'o' then digits? 8
    else none

/-- The digits behind a point, if a point with digits comes first. -/
def fraction (t : Text) : Text × Text :=
  match t with
  | [] => ([], [])
  | c :: rest =>
    if c = '.' then
      match digitRun CodePoint.isAsciiDigit rest with
      | ([], _) => ([], t)
      | found => found
    else ([], t)

/-- The exponent, if one with digits comes first. -/
def exponent? (t : Text) : Scan Int :=
  match t with
  | [] => none
  | c :: rest =>
    if c = 'e' ∨ c = 'E' then
      let digits :=
        if rest.head? = some '+' ∨ rest.head? = some '-' then rest.drop 1 else rest
      match digitRun CodePoint.isAsciiDigit digits with
      | ([], _) => none
      | (digits, more) =>
        let size : Int := Binary64.exponentSize digits
        some (if rest.head? = some '-' then -size else size, more)
    else none

/-- Decimal integers with more digits than this are not read. -/
def digitLimit : Nat := 4300

/-- Reads a decimal number. The outer result is there where the text starts with one, the inner
    one where it can be read. -/
def decimal? (t : Text) : Option (Scan Value) :=
  let negative := t.head? = some '-'
  let unsigned := if negative ∨ t.head? = some '+' then t.drop 1 else t
  let (whole, rest) : Text × Text :=
    if unsigned.head? = some '0' then (['0'], unsigned.drop 1)
    else digitRun CodePoint.isAsciiDigit unsigned
  if whole.isEmpty then none
  else
    let (fractionDigits, rest) := fraction rest
    match exponent? rest with
    | some (e, rest) =>
      some (some (.float (Binary64.ofNumeral negative whole fractionDigits e), rest))
    | none =>
      if ! fractionDigits.isEmpty then
        some (some (.float (Binary64.ofNumeral negative whole fractionDigits 0), rest))
      else if digitLimit < whole.length then some none
      else
        let size : Int := Text.digitsValue whole
        some (some (.integer (if negative then -size else size), rest))

/-- Reads infinity or what is no number, with or without a sign. -/
def specialFloat? (t : Text) : Scan Value :=
  let negative := t.head? = some '-'
  let unsigned := if negative ∨ t.head? = some '+' then t.drop 1 else t
  match after? ("inf" : Text) unsigned with
  | some rest => some (.float (.infinite negative), rest)
  | none => (after? ("nan" : Text) unsigned).map fun rest => (.float .nan, rest)

/-- Reads a number. -/
def number (t : Text) : Scan Value :=
  let other : Scan Nat := if t.head? = some '0' then otherBase? (t.drop 1) else none
  match other with
  | some (n, rest) => some (.integer n, rest)
  | none =>
    match decimal? t with
    | some result => result
    | none => specialFloat? t

end Redaction.Toml
