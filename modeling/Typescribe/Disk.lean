/-
A disk: directories and files, and the directory that relative paths start
from.

A place is the row of names that leads to it, the innermost name first, so
that the parent of a place is its tail and the root is the empty row.  The
root is a directory and its own parent.  Names have at most 255 bytes and
paths fewer than 4096.  Beyond that the system may refuse what is asked of it
at any place, for reasons that do not show on the disk.

Directories are made one after the other along a path, and those made before
an obstacle stay; a file is written as a whole or not at all.
-/
import Typescribe.Path
import Typescribe.Text.Utf8

namespace Typescribe

/-- What stands at a place. -/
inductive Entry where
  | directory
  | file (content : List UInt8)
deriving DecidableEq, Repr

/-- Names from the innermost to the outermost. -/
abbrev Place := List Text

/-- Directories and files by their places, and the working directory. -/
structure Disk where
  entries : List (Place × Entry)
  working : Place
  /-- The system lets nobody enter, make or write what is at the place: there
  is no permission, say, or no space left. -/
  refuses : Place → Bool

namespace Disk

/-- A place and the places it lies in, the root apart. -/
def upward : Place → List Place
  | [] => []
  | name :: above => (name :: above) :: upward above

/-- A disk on which there is nothing but an empty working directory and the
directories it lies in.  It refuses nothing. -/
def emptyAt (working : Place) : Disk :=
  ⟨(upward working).map fun place => (place, .directory), working, fun _ => false⟩

/-- A disk with an empty working directory directly under the root. -/
def blank : Disk := emptyAt ["work"]

/-- What stands at a place. -/
def find? (d : Disk) (place : Place) : Option Entry :=
  if place = [] then some .directory else (d.entries.find? fun e => e.1 = place).map (·.2)

/-- The content of the file at a place. -/
def file? (d : Disk) (place : Place) : Option (List UInt8) :=
  match d.find? place with
  | some (.file content) => some content
  | _ => none

/-- Puts an entry at a place, for whatever stood there. -/
def put (d : Disk) (place : Place) (entry : Entry) : Disk :=
  { d with entries := (place, entry) :: d.entries.filter fun e => e.1 ≠ place }

/-! ## Limits -/

/-- A name that is not too long. -/
def nameFits (name : Text) : Bool := (Utf8.encode name).length ≤ 255

/-- A path that is not too long. -/
def pathFits (path : Text) : Bool := (Utf8.encode path).length < 4096

/-! ## Walking -/

/-- Where a path starts. -/
def start (d : Disk) (path : Text) : Place := if Path.isAbsolute path then [] else d.working

/-- The directory that components lead to. -/
def walk (d : Disk) (here : Place) : List Text → Option Place
  | [] => some here
  | c :: more =>
    if c = ['.'] then walk d here more
    else if c = ['.', '.'] then walk d here.tail more
    else if d.find? (c :: here) = some .directory ∧ d.refuses (c :: here) = false then
      walk d (c :: here) more
    else none

/-- Makes the directories that components lead through, where they are
missing: whether all of them are there, and the disk afterwards. -/
def makeAlong (d : Disk) (here : Place) : List Text → Bool × Disk
  | [] => (true, d)
  | c :: more =>
    if c = ['.'] then makeAlong d here more
    else if c = ['.', '.'] then makeAlong d here.tail more
    else if !nameFits c || d.refuses (c :: here) then (false, d)
    else
      match d.find? (c :: here) with
      | some .directory => makeAlong d (c :: here) more
      | some (.file _) => (false, d)
      | none => makeAlong (d.put (c :: here) .directory) (c :: here) more

/-- Makes a directory and those it lies in, where they are missing. -/
def makeDirectories (d : Disk) (path : Text) : Bool × Disk :=
  if path = [] then (true, d)
  else if pathFits path then d.makeAlong (d.start path) (Path.components path)
  else (false, d)

/-- The place that a file of a path has, if the directories on the way are
there and the name is one a file may have. -/
def filePlace? (d : Disk) (path : Text) : Option Place :=
  match Path.fileName? path with
  | none => none
  | some name =>
    if pathFits path && nameFits name then
      (d.walk (d.start path) (Path.components path).dropLast).map (name :: ·)
    else none

/-- Writes a file in a directory that is there: whether that went well, and
the disk afterwards. -/
def writeFile (d : Disk) (path : Text) (content : List UInt8) : Bool × Disk :=
  match d.filePlace? path with
  | none => (false, d)
  | some place =>
    if d.find? place = some .directory ∨ d.refuses place then (false, d)
    else (true, d.put place (.file content))

/-- Writes a file, after making the directories it lies in. -/
def save (d : Disk) (path : Text) (content : List UInt8) : Bool × Disk :=
  match d.makeDirectories (Path.parent path) with
  | (false, d) => (false, d)
  | (true, d) => d.writeFile path content

/-- The content of a file.  A path that ends in a slash or a dot names no
file. -/
def read? (d : Disk) (path : Text) : Option (List UInt8) :=
  if (Path.segments path).getLast? = Path.fileName? path then
    (d.filePlace? path).bind d.file?
  else none

/-! ## Listing -/

/-- The absolute path of a place. -/
def pathOf (place : Place) : Text := '/' :: Path.joinSegments place.reverse

/-- The names from the working directory down to a place under it, outermost
first. -/
def below? (d : Disk) (place : Place) : Option (List Text) :=
  let depth := place.length - d.working.length
  if depth ≠ 0 ∧ place.drop depth = d.working then some (place.take depth).reverse else none

/-- Everything under the working directory: paths, with a slash at the end for
directories, and the content of files. -/
def listing (d : Disk) : List (Text × Option (List UInt8)) :=
  d.entries.filterMap fun (place, entry) =>
    (d.below? place).map fun names =>
      match entry with
      | .directory => (Path.joinSegments names ++ ['/'], none)
      | .file content => (Path.joinSegments names, some content)

end Disk

end Typescribe
