import ClassDiagram.Files.FileSystem
import ClassDiagram.Log

/-!
The search path on which programs are found: directories parted by colons. `locate` looks for the
drawing program on it. `withLocation` puts a directory first while a computation runs, and takes it
away again however the computation ends.
-/

namespace ClassDiagram

namespace SearchPath

/-- The name of the drawing program. -/
def executable : String := "dot"

def directories (path : String) : List String := (path.toList.splitOn ':').map String.ofList

/-- One text stands somewhere in another. -/
def occurs (part whole : List Char) : Bool :=
  match whole with
  | [] => part.isEmpty
  | c :: cs => part.isPrefixOf (c :: cs) || occurs part cs

/-- The first directory of a search path that holds the drawing program. -/
def holder? (fs : FileSystem) (path : String) : Option String :=
  (directories path).find? fun d => d ≠ "" && fs.isFile (Path.join d executable)

def notFound : LogEntry := ⟨.warning, "Could not find Graphviz in PATH."⟩

/-- The directory of the drawing program, with an entry that tells whether it was found. On one
platform only the text of the search path is looked at, and no directory is told. -/
def locate {ε : Type} (fs : FileSystem) (platform path : String) : Logged ε (Option String) :=
  if platform = "win32" then
    if occurs "Graphviz".toList path.toList then pure none
    else ⟨[notFound], .ok none⟩
  else
    match holder? fs path with
    | some d => ⟨[⟨.debug, "Using Graphviz from " ++ d⟩], .ok (some d)⟩
    | none => ⟨[notFound], .ok none⟩

end SearchPath

/-- The search path, and what computations have left behind. -/
structure Surroundings (τ : Type) where
  path : String
  trace : τ

/-- Computations that see the search path, leave a trace, and can fail. -/
abbrev Shell (τ ε : Type) := ExceptT ε (StateM (Surroundings τ))

namespace Shell

variable {τ ε α : Type}

def searchPath : Shell τ ε String := return (← get).path

/-- Adds to the trace. -/
def record (f : τ → τ) : Shell τ ε Unit := modify fun s => { s with trace := f s.trace }

/-- Runs a computation with a directory first on the search path. An empty one changes nothing. -/
def withLocation (location : Option String) (body : Shell τ ε α) : Shell τ ε α :=
  match location with
  | none => body
  | some l =>
    if l = "" then body
    else fun s =>
      let run := body { s with path := l ++ ":" ++ s.path }
      (run.1, { run.2 with path := s.path })

/-- Puts directories first, one after the other, and tells the search path before each, innermost,
and behind each that ends well. -/
def nested (body : Shell (List String) ε Unit) :
    List (Option String) → Shell (List String) ε Unit
  | [] => do
    observe
    body
  | l :: ls => do
    observe
    withLocation l (nested body ls)
    observe
where
  observe : Shell (List String) ε Unit := do
    let path ← searchPath
    record (· ++ [path])

theorem path_withLocation (l : String) (h : l ≠ "") (body : Shell τ ε α) (s : Surroundings τ) :
    (withLocation (some l) body s).2.path = s.path := by
  simp [withLocation, h]

end Shell

end ClassDiagram
