/-
File paths: cutting a path into directory and file name, and joining them.

A path is text; a slash separates, and one at the front makes the path
absolute.  Between the slashes stand segments, of which the empty ones and
the single dot do not count, except a dot that a relative path starts with.
The segments that count are the components of the path: a dot, two dots for
the parent, or a name.

Cutting and joining work on the text, so that slashes and dots in the middle
of a path are kept as they are.
-/
import Typescribe.Text.Basic

namespace Typescribe.Path

/-- A path that starts at the root. -/
def isAbsolute (path : Text) : Bool := path.head? = some '/'

/-- The segments between the slashes, the root apart. -/
def segments (path : Text) : List Text :=
  Text.splitAll '/' (if isAbsolute path then path.drop 1 else path)

/-- Whether a segment counts; `first` says that it is the first of a relative
path. -/
def counts (first : Bool) (segment : Text) : Bool :=
  segment ≠ [] && (first || segment ≠ ['.'])

/-- The segments that count. -/
def significant (first : Bool) : List Text → List Text
  | [] => []
  | s :: more => if counts first s then s :: significant false more else significant false more

/-- The components of a path. -/
def components (path : Text) : List Text := significant (!isAbsolute path) (segments path)

/-- A component that is a name. -/
def isName (component : Text) : Bool := component ≠ ['.'] && component ≠ ['.', '.']

/-- The last component, if it is a name. -/
def fileName? (path : Text) : Option Text := (components path).getLast?.filter isName

/-- The segments up to the last one that counts. -/
def upToLast (first : Bool) : List Text → List Text
  | [] => []
  | s :: more =>
    match upToLast false more with
    | [] => if counts first s then [s] else []
    | kept => s :: kept

/-- Segments with slashes between them. -/
def joinSegments : List Text → Text
  | [] => []
  | [s] => s
  | s :: more => s ++ '/' :: joinSegments more

/-- The path of the directory that a path lies in: what stands before the
last component, without the slashes and dots that do not count at its end.
The root alone stays a slash; a bare name lies in the empty path. -/
def parent (path : Text) : Text :=
  let relative := !isAbsolute path
  let body := joinSegments (upToLast relative (upToLast relative (segments path)).dropLast)
  if relative then body else '/' :: body

/-- A file's path from the path of a directory and a name: one slash between
them unless the directory is empty or ends in a slash. -/
def join (directory name : Text) : Text :=
  if directory = [] then name
  else if directory.getLast? = some '/' then directory ++ name
  else directory ++ '/' :: name

end Typescribe.Path
