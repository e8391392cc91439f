/-
  Settings files.

  A file is a series of headers and of keys with values, each on a line of its own.  A header opens a
  table, or adds one to an array of tables, and the keys behind it belong there.

  * `value?` reads a value; arrays and inline tables hold others;
  * `Tables` are the tables read so far, with the paths that must not be opened again and those that
    must not be changed;
  * `Tables.openTable?`, `Tables.addTable?` and `Tables.assign?` are what a header, a doubled header
    and a key with a value do;
  * `parse?` reads a file.
-/
import Redaction.Toml.Moment
import Redaction.Toml.Number

namespace Redaction.Toml

/-- The entries of a table in the order in which they were made. -/
abbrev Entries := List (Text × Value)

/-- A dotted key: the names of tables, the outermost first, and a name in the last of them. -/
abbrev Path := List Text

/-! ## Tables in tables -/

/-- The entries with another value under a key that is there. -/
def Entries.replace (entries : Entries) (key : Text) (value : Value) : Entries :=
  entries.map fun entry => if entry.1 = key then (key, value) else entry

/-- The entries after a change of the table behind a path. Tables on the path that are missing are
    made. With `inArrays` a path goes through an array of tables to its last table. -/
def changeAt? (inArrays : Bool) (change : Entries → Option Entries) :
    Path → Entries → Option Entries
  | [], entries => change entries
  | key :: path, entries =>
    match entries.lookup key with
    | none =>
      (changeAt? inArrays change path []).map fun table => entries ++ [(key, .table table)]
    | some (.table table) =>
      (changeAt? inArrays change path table).map fun table => Entries.replace entries key (.table table)
    | some (.list items) =>
      match inArrays, items.getLast? with
      | true, some (.table table) =>
        (changeAt? inArrays change path table).map fun table =>
          Entries.replace entries key (.list (items.dropLast ++ [.table table]))
      | _, _ => none
    | some _ => none

/-- The entries with one more, unless the key is taken. -/
def addUnique? (key : Text) (value : Value) (entries : Entries) : Option Entries :=
  if (entries.lookup key).isSome then none else some (entries ++ [(key, value)])

/-- The entries with one more table at the end of an array of tables, which is made if it is
    missing. -/
def addToArray? (key : Text) (entries : Entries) : Option Entries :=
  match entries.lookup key with
  | none => some (entries ++ [(key, .list [.table []])])
  | some (.list items) => some (Entries.replace entries key (.list (items ++ [.table []])))
  | some _ => none

/-- Whether one of the paths leads to a table on the way. -/
def covers (paths : List Path) (path : Path) : Bool :=
  paths.any fun p => p.isPrefixOf path

/-! ## Values -/

/-- Whether a value holds others. -/
def isNested : Value → Bool
  | .list _ => true
  | .table _ => true
  | _ => false

/-- Reads a value that holds no others. -/
def plainValue? (t : Text) : Scan Value :=
  if t.head? = some CodePoint.doubleQuote then
    match after? (triple CodePoint.doubleQuote) t with
    | some rest => (basicLines? rest).map fun (text, rest) => (.text text, rest)
    | none => (basicLine? (t.drop 1)).map fun (text, rest) => (.text text, rest)
  else if t.head? = some CodePoint.quote then
    match after? (triple CodePoint.quote) t with
    | some rest => (literalLines? rest).map fun (text, rest) => (.text text, rest)
    | none => (literalLine? (t.drop 1)).map fun (text, rest) => (.text text, rest)
  else
    match after? ("true" : Text) t, after? ("false" : Text) t with
    | some rest, _ => some (.boolean true, rest)
    | none, some rest => some (.boolean false, rest)
    | none, none =>
      match moment? t with
      | some result => result.map fun (moment, rest) => (.moment moment, rest)
      | none => number t

/-- The room for values in values. A value for which there is no room is not read. -/
def nestingRoom : Nat := 980

/-- The room that an array takes. -/
def arrayRoom : Nat := 2

/-- The room that an inline table takes. -/
def inlineTableRoom : Nat := 3

mutual

/-- Reads a value, given the room for values in values. -/
def value? : (fuel room : Nat) → Text → Scan Value
  | 0, _, _ => none
  | fuel + 1, room, t =>
    if t.head? = some '[' then
      if room < arrayRoom then none
      else
        match skipFiller? (t.drop 1) with
        | none => none
        | some rest =>
          if rest.head? = some ']' then some (.list [], rest.drop 1)
          else items? fuel (room - arrayRoom) [] rest
    else if t.head? = some '{' then
      if room < inlineTableRoom then none
      else
        let rest := skipBlanks (t.drop 1)
        if rest.head? = some '}' then some (.table [], rest.drop 1)
        else entries? fuel (room - inlineTableRoom) [] [] rest
    else plainValue? t

/-- Reads the items of an array from one item on, behind those already `done`, which are in
    reverse. A comma may follow the last one. -/
def items? : (fuel room : Nat) → List Value → Text → Scan Value
  | 0, _, _, _ => none
  | fuel + 1, room, done, t =>
    match value? fuel room t with
    | none => none
    | some (item, rest) =>
      match skipFiller? rest with
      | none => none
      | some rest =>
        if rest.head? = some ']' then some (.list (item :: done).reverse, rest.drop 1)
        else if rest.head? = some ',' then
          match skipFiller? (rest.drop 1) with
          | none => none
          | some rest =>
            if rest.head? = some ']' then some (.list (item :: done).reverse, rest.drop 1)
            else items? fuel room (item :: done) rest
        else none

/-- Reads the entries of an inline table from one key on, into the entries already `done`. Values
    under the `closed` paths cannot be changed. No comma may follow the last entry. -/
def entries? : (fuel room : Nat) → (closed : List Path) → (done : Entries) → Text → Scan Value
  | 0, _, _, _, _ => none
  | fuel + 1, room, closed, done, t =>
    match key? t with
    | none => none
    | some (path, rest) =>
      if rest.head? = some '=' then
        match value? fuel room (skipBlanks (rest.drop 1)) with
        | none => none
        | some (value, rest) =>
          if covers closed path then none
          else
            match changeAt? false (addUnique? (path.getLastD []) value) path.dropLast done with
            | none => none
            | some done =>
              let rest := skipBlanks rest
              if rest.head? = some '}' then some (.table done, rest.drop 1)
              else if rest.head? = some ',' then
                entries? fuel room (if isNested value then path :: closed else closed) done
                  (skipBlanks (rest.drop 1))
              else none
      else none

end

/-! ## Files -/

/-- The tables of a file as far as it is read. -/
structure Tables where
  entries : Entries
  /-- Paths of tables that cannot be opened by a header again. -/
  opened : List Path
  /-- Paths of values that cannot be changed, nor what is in them. -/
  closed : List Path
  /-- Paths that count as opened from the next header on. -/
  pending : List Path
  /-- The path of the table that keys belong to. -/
  current : Path

namespace Tables

/-- No tables. -/
def empty : Tables := ⟨[], [], [], [], []⟩

/-- What a header does before its path is known. -/
def settle (tables : Tables) : Tables :=
  { tables with opened := tables.pending ++ tables.opened, pending := [] }

/-- Opens a table, which must not have been opened before. -/
def openTable? (path : Path) (tables : Tables) : Option Tables :=
  if tables.opened.contains path || covers tables.closed path then none
  else
    (changeAt? true some path tables.entries).map fun entries =>
      { tables with entries := entries, opened := path :: tables.opened, current := path }

/-- Adds a table to an array of tables. What was opened or closed inside the table before it is free
    again. -/
def addTable? (path : Path) (tables : Tables) : Option Tables :=
  if covers tables.closed path then none
  else
    let free (paths : List Path) := paths.filter fun p => ! path.isPrefixOf p
    (changeAt? true (addToArray? (path.getLastD [])) path.dropLast tables.entries).map
      fun entries =>
        { tables with
          entries := entries
          opened := path :: free tables.opened
          closed := free tables.closed
          current := path }

/-- Puts a value under a key of the current table. -/
def assign? (path : Path) (value : Value) (tables : Tables) : Option Tables :=
  let between := (List.range (path.length - 1)).map fun i => tables.current ++ path.take (i + 1)
  let parent := tables.current ++ path.dropLast
  if between.any tables.opened.contains then none
  else if covers tables.closed parent then none
  else
    (changeAt? true (addUnique? (path.getLastD []) value) parent tables.entries).map
      fun entries =>
        { tables with
          entries := entries
          closed :=
            if isNested value then (tables.current ++ path) :: tables.closed else tables.closed
          pending := between ++ tables.pending }

end Tables

/-- Reads the closing brackets of a header. -/
def closing? (brackets : Text) (result : Option Tables) (t : Text) : Scan Tables :=
  match result, after? brackets t with
  | some tables, some rest => some (tables, rest)
  | _, _ => none

/-- Reads a header, or a key with its value. -/
def statement? (tables : Tables) (t : Text) : Scan Tables :=
  match t with
  | [] => none
  | c :: rest =>
    if c = '[' then
      let tables := tables.settle
      if rest.head? = some '[' then
        match key? (skipBlanks (rest.drop 1)) with
        | none => none
        | some (path, rest) => closing? (("]]" : Text)) (tables.addTable? path) rest
      else
        match key? (skipBlanks rest) with
        | none => none
        | some (path, rest) => closing? (("]" : Text)) (tables.openTable? path) rest
    else
      match key? (c :: rest) with
      | none => none
      | some (path, rest) =>
        if rest.head? = some '=' then
          let t := skipBlanks (rest.drop 1)
          match value? (2 * t.length + 2) nestingRoom t with
          | none => none
          | some (value, rest) => (tables.assign? path value).map fun tables => (tables, rest)
        else none

/-- Reads the lines of a file, of which there are fewer than `lines`. -/
def linesOnto? : (lines : Nat) → Tables → Text → Option Tables
  | 0, _, _ => none
  | lines + 1, tables, t =>
    match skipBlanks t with
    | [] => some tables
    | c :: rest =>
      let statement : Scan Tables :=
        if c = CodePoint.lineFeed ∨ c = '#' then some (tables, c :: rest)
        else statement? tables (c :: rest)
      match statement with
      | none => none
      | some (tables, rest) =>
        match skipComment? (skipBlanks rest) with
        | none => none
        | some [] => some tables
        | some (c :: rest) =>
          if c = CodePoint.lineFeed then linesOnto? lines tables rest else none

/-- A text in which every line feed behind a carriage return stands for both. -/
def joinLineEnds (done : Text) : Text → Text
  | [] => done.reverse
  | c :: rest =>
    if c = CodePoint.carriageReturn ∧ rest.head? = some CodePoint.lineFeed then
      joinLineEnds done rest
    else joinLineEnds (c :: done) rest

/-- The entries of a settings file, if the text is one. -/
def parse? (t : Text) : Option Entries :=
  let t := joinLineEnds [] t
  (linesOnto? (t.length + 1) .empty t).map (·.entries)

end Redaction.Toml
