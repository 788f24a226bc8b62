import ClassDiagram.Dictionary
import ClassDiagram.Files.Path
import ClassDiagram.Text.Parts

/-!
A file system without links: a tree of entries, and the directory that relative paths start from.
Every step of a path but the last has to lead to a directory, also a step back (`Entry.follow`).
-/

namespace ClassDiagram

inductive Entry
  | file (content : ByteArray)
  | folder (entries : List (String × Entry))

namespace Entry

instance : Inhabited Entry := ⟨folder []⟩

def entries : Entry → List (String × Entry)
  | file _ => []
  | folder entries => entries

/-- The entry that segments lead to from an entry in nested folders, the nearest first. -/
def follow : List Entry → Entry → List String → Option Entry
  | _, here, [] => some here
  | _, .file _, _ :: _ => none
  | outer, .folder entries, s :: ss =>
    if s = "" ∨ s = "." then follow outer (.folder entries) ss
    else if s = ".." then
      match outer with
      | [] => follow [] (.folder entries) ss
      | parent :: above => follow above parent ss
    else
      match Dictionary.get? entries s with
      | some e => follow (.folder entries :: outer) e ss
      | none => none

/-- Puts an entry at the end of a way; folders on the way are made. -/
def insert (new : Entry) : List String → Entry → Entry
  | [], _ => new
  | s :: ss, here =>
    let inner := (Dictionary.get? here.entries s).getD (folder [])
    folder (Dictionary.put s (insert new ss inner) here.entries)

/-- Makes the folders of a way. -/
def insertFolder : List String → Entry → Entry
  | [], here => here
  | s :: ss, here =>
    let inner := (Dictionary.get? here.entries s).getD (folder [])
    folder (Dictionary.put s (insertFolder ss inner) here.entries)

end Entry

structure FileSystem where
  root : Entry := .folder []
  /-- The directory that relative paths start from. -/
  current : List String := []

namespace FileSystem

def absolute (fs : FileSystem) (path : String) : Path.Absolute := Path.absolute fs.current path

/-- The entry at a path, if there is one. -/
def find? (fs : FileSystem) (path : String) : Option Entry :=
  if path = "" then none
  else
    let start := if Path.isAbsolute path then [] else fs.current
    Entry.follow [] fs.root (start ++ Path.segments path)

def contains (fs : FileSystem) (path : String) : Bool := (fs.find? path).isSome

def isFile (fs : FileSystem) (path : String) : Bool :=
  match fs.find? path with
  | some (.file _) => true
  | _ => false

def isFolder (fs : FileSystem) (path : String) : Bool :=
  match fs.find? path with
  | some (.folder _) => true
  | _ => false

/-- The text of a file, with unified line ends; none if there is no file or no text in it. -/
def readText? (fs : FileSystem) (path : String) : Option String :=
  match fs.find? path with
  | some (.file content) =>
    (String.fromUTF8? content).map fun text => String.ofList (Text.Lines.unify text.toList)
  | _ => none

def addFile (fs : FileSystem) (path : String) (content : ByteArray) : FileSystem :=
  { fs with root := Entry.insert (.file content) (fs.absolute path).parts fs.root }

def addFolder (fs : FileSystem) (path : String) : FileSystem :=
  { fs with root := Entry.insertFolder (fs.absolute path).parts fs.root }

end FileSystem

end ClassDiagram
