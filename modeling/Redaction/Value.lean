/-
  Values of settings.

  A setting can be given any value before it is checked, and a settings file has values of its own
  sorts, among them dates and times.

  * `Value` is such a value, `Moment` a date, a time, or both;
  * `Value.isTruthy` tells which values count as yes;
  * `Value.literal` shows a value in a message, `Value.plain` is its text: a text is its own;
  * `Value.obstacle?` finds what keeps a value from being written out;
  * `Value.sort` names the sort of a value.
-/
import Redaction.Number.Shortest
import Redaction.Text.Quoted

namespace Redaction

/-! ## Dates and times -/

/-- A day of the calendar. -/
structure Date where
  year : Nat
  month : Nat
  day : Nat
  deriving DecidableEq, Repr

/-- A time of the day. -/
structure Time where
  hour : Nat
  minute : Nat
  second : Nat
  microsecond : Nat
  deriving DecidableEq, Repr

/-- A date, a time, or both; with both, also how many minutes the clock is ahead of the universal
    time, if that is known. -/
inductive Moment where
  | date (d : Date)
  | time (t : Time)
  | dateTime (d : Date) (t : Time) (offset : Option Int)
  deriving DecidableEq, Repr

/-- A value of a setting. The entries of a table are in the order in which they were made. -/
inductive Value where
  | null
  | boolean (b : Bool)
  | integer (n : Int)
  | float (x : Binary64)
  | text (t : Text)
  | bytes (b : Bytes)
  | moment (m : Moment)
  | list (items : List Value)
  | table (entries : List (Text × Value))

/-! ## Notation of dates and times -/

/-- A number filled with zeros to a width. -/
def padded (width n : Nat) : Text :=
  let digits := Text.decimal n
  zeros (width - digits.length) ++ digits

/-- Numbers with commas between them. -/
def commaSeparated (items : List Text) : Text := (", " : Text).intercalate items

namespace Date

/-- A date with hyphens. -/
def plain (d : Date) : Text :=
  ("-" : Text).intercalate [padded 4 d.year, padded 2 d.month, padded 2 d.day]

/-- The numbers of a date. -/
def numbers (d : Date) : List Text :=
  [Text.decimal d.year, Text.decimal d.month, Text.decimal d.day]

end Date

namespace Time

/-- A time with colons; fractions of a second are shown where there are any. -/
def plain (t : Time) : Text :=
  (":" : Text).intercalate [padded 2 t.hour, padded 2 t.minute, padded 2 t.second] ++
    if t.microsecond = 0 then [] else ("." : Text) ++ padded 6 t.microsecond

/-- The numbers of a time, without zeros from the seconds on at their end. -/
def numbers (t : Time) : List Text :=
  [Text.decimal t.hour, Text.decimal t.minute] ++
    if t.microsecond ≠ 0 then [Text.decimal t.second, Text.decimal t.microsecond]
    else if t.second ≠ 0 then [Text.decimal t.second]
    else []

end Time

/-- The distance of a clock from the universal time, as hours and minutes. -/
def offsetPlain (minutes : Int) : Text :=
  let size := minutes.natAbs
  (if minutes < 0 then ("-" : Text) else ("+" : Text)) ++ padded 2 (size / 60) ++ (":" : Text) ++
    padded 2 (size % 60)

/-- The distance of a clock from the universal time, as days and seconds with no negative
    seconds. -/
def offsetLiteral (minutes : Int) : Text :=
  if minutes = 0 then ("datetime.timezone.utc" : Text)
  else
    let seconds := minutes * 60
    ("datetime.timezone(datetime.timedelta(" : Text) ++
      (if seconds < 0 then
        ("days=-1, seconds=" : Text) ++ Text.integer (seconds + 86400)
      else ("seconds=" : Text) ++ Text.integer seconds) ++ ("))" : Text)

namespace Moment

/-- A date and time as text. -/
def plain : Moment → Text
  | date d => d.plain
  | time t => t.plain
  | dateTime d t none => d.plain ++ (" " : Text) ++ t.plain
  | dateTime d t (some offset) => d.plain ++ (" " : Text) ++ t.plain ++ offsetPlain offset

/-- A date and time in a message. -/
def literal : Moment → Text
  | date d => ("datetime.date(" : Text) ++ commaSeparated d.numbers ++ (")" : Text)
  | time t => ("datetime.time(" : Text) ++ commaSeparated t.numbers ++ (")" : Text)
  | dateTime d t offset =>
    let zone : List Text :=
      match offset with
      | none => []
      | some offset => [("tzinfo=" : Text) ++ offsetLiteral offset]
    ("datetime.datetime(" : Text) ++ commaSeparated (d.numbers ++ t.numbers ++ zone) ++
      (")" : Text)

end Moment

/-! ## Values -/

namespace Value

/-- The words for floating-point numbers that have no digits. -/
def specialNumerals : SpecialNumerals := ⟨("nan" : Text), ("inf" : Text)⟩

/-- Whether a value counts as yes: all do but nothing, no, zero, and what is empty. -/
def isTruthy : Value → Bool
  | null => false
  | boolean b => b
  | integer n => n ≠ 0
  | float x => ! x.isZero
  | text t => ! t.isEmpty
  | bytes b => ! b.isEmpty
  | moment _ => true
  | list items => ! items.isEmpty
  | table entries => ! entries.isEmpty

theorem sizeOf_lt_of_mem_items {items : List Value} {item : Value} (h : item ∈ items) :
    sizeOf item < sizeOf (list items) := by
  have := List.sizeOf_lt_of_mem h
  simp only [list.sizeOf_spec]
  omega

theorem sizeOf_lt_of_mem_entries {entries : List (Text × Value)} {entry : Text × Value}
    (h : entry ∈ entries) : sizeOf entry.2 < sizeOf (table entries) := by
  have := List.sizeOf_lt_of_mem h
  obtain ⟨key, value⟩ := entry
  simp only [Prod.mk.sizeOf_spec, table.sizeOf_spec] at this ⊢
  omega

/-- Integers with more digits than this are not written out. -/
def digitLimit : Nat := 4300

/-- Values are nested in at most so many others where they are written out. -/
def nestingLimit : Nat := 980

/-- What keeps a value from being written out. -/
inductive Obstacle where
  /-- An integer has too many digits. -/
  | longInteger
  /-- Values are nested too deeply. -/
  | deepNesting
  deriving DecidableEq, Repr

/-- The first thing in a value that keeps it from being written out inside of so many values as are
    missing from the limit. -/
def obstacleWithin? (room : Nat) : Value → Option Obstacle
  | integer n => if n.natAbs < tenTo digitLimit then none else some .longInteger
  | list items =>
    match room with
    | 0 => some .deepNesting
    | room + 1 => (items.map fun item => item.obstacleWithin? room).findSome? id
  | table entries =>
    match room with
    | 0 => some .deepNesting
    | room + 1 => (entries.map fun entry => entry.2.obstacleWithin? room).findSome? id
  | _ => none
  termination_by value => sizeOf value
  decreasing_by
    · exact sizeOf_lt_of_mem_items ‹_›
    · exact sizeOf_lt_of_mem_entries ‹_›

/-- The first thing in a value that keeps it from being written out. -/
def obstacle? (value : Value) : Option Obstacle := value.obstacleWithin? nestingLimit

/-- A value as a message shows it. -/
def literal : Value → Text
  | null => ("None" : Text)
  | boolean b => if b then ("True" : Text) else ("False" : Text)
  | integer n => Text.integer n
  | float x => x.text specialNumerals
  | text t => t.quoted
  | bytes b => b.quoted
  | moment m => m.literal
  | list items =>
    ("[" : Text) ++ commaSeparated (items.map fun item => item.literal) ++ ("]" : Text)
  | table entries =>
    ("\x7b" : Text) ++
      commaSeparated (entries.map fun entry =>
        Text.quoted entry.1 ++ (": " : Text) ++ entry.2.literal) ++
      ("\x7d" : Text)
  termination_by value => sizeOf value
  decreasing_by
    · exact sizeOf_lt_of_mem_items ‹_›
    · exact sizeOf_lt_of_mem_entries ‹_›

/-- A value, or another one in place of a value that does not count as yes. -/
def orElse (value other : Value) : Value := if value.isTruthy then value else other

/-- The sort of a value, as a message names it. -/
def sort : Value → Text
  | null => ("NoneType" : Text)
  | boolean _ => ("bool" : Text)
  | integer _ => ("int" : Text)
  | float _ => ("float" : Text)
  | text _ => ("str" : Text)
  | bytes _ => ("bytes" : Text)
  | moment (.date _) => ("datetime.date" : Text)
  | moment (.time _) => ("datetime.time" : Text)
  | moment (.dateTime ..) => ("datetime.datetime" : Text)
  | list _ => ("list" : Text)
  | table _ => ("dict" : Text)

/-- The text of a value. Inside a list or a table, values stand as in a message. -/
def plain : Value → Text
  | text t => t
  | moment m => m.plain
  | value => value.literal

end Value

end Redaction
