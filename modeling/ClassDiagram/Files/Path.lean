import ClassDiagram.Text.Parts

/-!
Paths as text. An absolute path in normal form has neither empty segments nor steps to the same or
the outer directory; `relative` gives the way from one such path to another.
-/

namespace ClassDiagram.Path

def segments (path : String) : List String := (path.toList.splitOn '/').map String.ofList

def isAbsolute (path : String) : Bool := path.toList.head? = some '/'

/-- A name in a directory; an absolute one stands for itself. -/
def join (directory name : String) : String :=
  if isAbsolute name ∨ directory = "" then name
  else if directory.toList.getLast? = some '/' then directory ++ name
  else directory ++ "/" ++ name

/-- What stands behind the last slash. -/
def baseName (path : String) : String := (segments path).getLastD ""

/-- Behind some segments, goes the step that a segment stands for. -/
def advance (done : List String) (segment : String) : List String :=
  if segment = "" ∨ segment = "." then done
  else if segment = ".." then done.dropLast
  else done ++ [segment]

/-- The normal form of the segments of an absolute path. -/
def normal (segments : List String) : List String := segments.foldl advance []

/-- An absolute path in normal form. Two slashes at its start stand for another root than one. -/
structure Absolute where
  doubled : Bool
  parts : List String
  deriving DecidableEq, Repr

def Absolute.text (path : Absolute) : String :=
  (if path.doubled then "//" else "/") ++ "/".intercalate path.parts

/-- A path, seen from a directory with these segments. -/
def absolute (directory : List String) (path : String) : Absolute :=
  match path.toList with
  | '/' :: cs =>
    { doubled := cs.head? = some '/' && (cs.drop 1).head? ≠ some '/'
      parts := normal (segments path) }
  | _ => { doubled := false, parts := normal (directory ++ segments path) }

/-- Two paths without the segments that they begin with in common. -/
def dropCommon : List String → List String → List String × List String
  | a :: as, b :: bs => if a = b then dropCommon as bs else (a :: as, b :: bs)
  | as, bs => (as, bs)

/-- The way from a directory to a path. -/
def relative (start path : List String) : List String :=
  let (up, down) := dropCommon start path
  let way := up.map (fun _ => "..") ++ down
  if way = [] then ["."] else way

/-- A name up to its last point, if more than points stands before that. -/
def withoutExtension (name : String) : String :=
  let stem := (Text.Dotted.splitLast name).1
  if stem.toList.any (· ≠ '.') then stem else name

theorem dropCommon_append (start rest : List String) :
    dropCommon start (start ++ rest) = ([], rest) := by
  induction start with
  | nil => cases rest <;> rfl
  | cons a as ih => simp [dropCommon, ih]

end ClassDiagram.Path
