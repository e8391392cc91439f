/-
  Folders and files around a call.

  * `Folder` is the name of a folder, `Folder.ofText` reads one and `Folder.file` is the path of a file
    in it;
  * `FileSystem` is all that is asked of the system: what a path leads to, and what is in the file there.
    Nothing is assumed of its answers. `FileSystem.isFile?` tells whether a path leads to a file;
  * `Files` are files in the working folder, and `Files.fileSystem` the system that has no others.
-/
import Redaction.Encoding.Basic
import Redaction.Text.Words

namespace Redaction

/-! ## Names of folders -/

/-- The name of a folder: steps from the working folder, or from the root under one or two
    slashes. -/
structure Folder where
  root : Text
  steps : List Text
  deriving DecidableEq

namespace Folder

/-- The slash between the steps. -/
def slash : CodePoint := '/'

/-- A single dot stays where it is. -/
def stay : Text := ['.']

/-- Two dots go one folder up. -/
def up : Text := ['.', '.']

/-- The folder of a name. Doubled slashes and single dots do not count; a name that starts with two
    slashes keeps them. -/
def ofText (t : Text) : Folder :=
  let slashes := (t.takeWhile (· = slash)).length
  { root := if slashes = 0 then [] else if slashes = 2 then [slash, slash] else [slash]
    steps := (t.splitOn slash).filter fun step => step ≠ [] ∧ step ≠ stay }

/-- The path of a file in a folder. -/
def file (folder : Folder) (name : Text) : Text :=
  folder.root ++ [slash].intercalate (folder.steps ++ [name])

end Folder

/-! ## File systems -/

/-- What a path leads to. -/
inductive PathTarget where
  | file
  /-- A folder, or anything else that is there. -/
  | other
  deriving DecidableEq, Repr

/-- Why it cannot be told what a path leads to. -/
inductive PathError where
  /-- Nothing is there. -/
  | missing
  /-- A step on the way is no folder. -/
  | notFolder
  /-- Links lead round in a circle. -/
  | circle
  /-- The path stands for an open file, and no such file is open. -/
  | notOpen
  /-- No file can have the name: it holds the character zero, or surrogates. -/
  | malformed
  /-- Anything else, such as a step that is too long or that the program may not take. -/
  | denied
  deriving DecidableEq, Repr

/-- What the system tells of files, by their paths. -/
structure FileSystem where
  /-- What a path leads to. -/
  target : Text → Except PathError PathTarget
  /-- What is in the file that a path leads to, if it can be read. -/
  read? : Text → Option Bytes

/-- Whether a path leads to a file. It does not if there is nothing to be found or the path is none, but
    any other error of the system leaves the question open. -/
def FileSystem.isFile? (fileSystem : FileSystem) (path : Text) : Option Bool :=
  match fileSystem.target path with
  | .ok .file => some true
  | .ok .other => some false
  | .error .denied => none
  | .error _ => some false

/-! ## Files in the working folder -/

/-- What is in the working folder: files with their contents, and folders, each by its steps. -/
structure Files where
  files : List (List Text × Bytes)
  folders : List (List Text)

namespace Files

/-- Nothing. -/
def empty : Files := ⟨[], []⟩

/-- Whether there is such a folder. A folder is there if anything is in it. -/
def hasFolder (files : Files) (steps : List Text) : Bool :=
  files.folders.any steps.isPrefixOf ||
    files.files.any fun file => steps.isPrefixOf file.1 && steps ≠ file.1

/-- The folder that steps lead to from a folder. There is no way out of the working folder. -/
def walk? (files : Files) : List Text → List Text → Option (List Text)
  | here, [] => some here
  | here, step :: steps =>
    if step = Folder.up then
      if here.isEmpty then none else walk? files here.dropLast steps
    else
      let next := here ++ [step]
      if files.hasFolder next then walk? files next steps else none

/-- The contents of the file that a path leads to, if it does. There is nothing under the root. -/
def read? (files : Files) (path : Text) : Option Bytes :=
  let folder := Folder.ofText path
  if folder.root.isEmpty then
    match files.walk? [] folder.steps.dropLast with
    | none => none
    | some here => files.files.lookup (here ++ folder.steps.drop (folder.steps.length - 1))
  else none

/-- The system with these files, and no others. -/
def fileSystem (files : Files) : FileSystem where
  target path := if (files.read? path).isSome then .ok .file else .error .missing
  read? := files.read?

end Files

end Redaction
