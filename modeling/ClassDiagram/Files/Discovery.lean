import ClassDiagram.Files.FileSystem
import ClassDiagram.Log
import ClassDiagram.Text.Alphabetical

/-!
The source files at a target, and the names of their modules. A directory's own files come first, by
name, and then those of the directories in it, by name; `sourceFiles` lists them with or without the
latter. A file is named by the way to it from the root of its project; the file that makes a
directory a package is named as the directory (`ModuleName.ofFile`).
-/

namespace ClassDiagram

open Text (sortBy)

namespace Entry

def isFile : Entry → Bool
  | file _ => true
  | folder _ => false

@[simp] theorem isFile_file (content : ByteArray) : (file content).isFile = true := rfl

@[simp] theorem isFile_folder (entries : List (String × Entry)) :
    (folder entries).isFile = false := rfl

/-- A name that source files have. -/
def isSourceName (name : String) : Bool := ".py".toList.isSuffixOf name.toList

/-- The names of the source files among entries. -/
def sourceNames (entries : List (String × Entry)) : List String :=
  sortBy id ((entries.filter fun (name, e) => isSourceName name && e.isFile).map Prod.fst)

/-- The source files in the directory at a path. -/
def ownFiles (path : String) (e : Entry) : List String :=
  (sourceNames e.entries).map (Path.join path)

/-- The source files in the directory at a path, and in all directories in it. -/
def filesBelow (path : String) : Entry → List String
  | file _ => []
  | folder entries =>
    ownFiles path (folder entries) ++ (sortBy Prod.fst (foldersBelow path entries)).flatMap Prod.snd
where
  foldersBelow (path : String) : List (String × Entry) → List (String × List String)
    | [] => []
    | (name, e) :: es => (name, filesBelow (Path.join path name) e) :: foldersBelow path es

end Entry

namespace FileSystem

/-- The source files at a target: the target itself, or those in it. -/
def sourceFiles {ε : Type} (fs : FileSystem) (target : String) (recursive : Bool) :
    Logged ε (List String) :=
  match fs.find? target with
  | none => do
    Logged.log .error ("'" ++ target ++ "' does not exist")
    return []
  | some (.file _) => return [target]
  | some (.folder entries) =>
    return if recursive then Entry.filesBelow target (.folder entries)
      else Entry.ownFiles target (.folder entries)

end FileSystem

/-! ## Names of modules -/

/-- The name of the file that makes a directory a package, without its extension. -/
def packageStem : String := "__init__"

def isPackageFile (path : String) : Bool := Path.baseName path = packageStem ++ ".py"

namespace ModuleName

/-- The segments of the name of a file at the end of a way from the root. -/
def ofWay (way : List String) : List String :=
  let parts := way.dropLast ++ [Path.withoutExtension (way.getLastD "")]
  if parts.getLast? = some packageStem then parts.dropLast else parts

/-- The name of a file of a project with this root, both absolute. -/
def ofFile (root file : List String) : String :=
  match ofWay (Path.relative root file) with
  | [] => root.getLastD ""
  | parts => Text.Dotted.join parts

/-- The name of the file at a path; a path without text names no file. A project that is a file
has one module. -/
def ofPath? (fs : FileSystem) (root path : String) : Option String :=
  if fs.isFile root then some (Path.withoutExtension (Path.baseName root))
  else if path = "" then none
  else some (ofFile (fs.absolute root).parts (fs.absolute path).parts)

end ModuleName

end ClassDiagram
