import ClassDiagram.Analysis.ModuleText
import ClassDiagram.Dependency.Cycles
import ClassDiagram.Dependency.Summary
import ClassDiagram.Diagram.Builder
import ClassDiagram.Files.Discovery
import ClassDiagram.Render.Renderer
import ClassDiagram.Text.Quoted

/-!
Projects: the modules at a target, and what can be made of them. Each task analyses the files
anew; a project remembers the modules of all analyses that came to an end (`remember`).
-/

namespace ClassDiagram

/-- The module in a file of the project with this root. -/
def Module.ofFile (fs : FileSystem) (root path : String) : Logged AnalysisError Module := do
  Logged.log .debug ("Parsing file: " ++ path)
  if '\x00' ∈ path.toList then Logged.fail .nullInPath
  else
    match fs.readText? path, ModuleName.ofPath? fs root path with
    | some text, some name => Module.ofText path name (isPackageFile path) text
    | _, _ => AnalysisError.logged (.unreadable path)

/-- The modules in files, unless one of them has a fault. -/
def Module.ofFiles (fs : FileSystem) (root : String) :
    List String → Logged AnalysisError (List Module)
  | [] => return []
  | path :: paths => do
    let m ← Module.ofFile fs root path
    return m :: (← Module.ofFiles fs root paths)

structure Project where
  root : String
  recursive : Bool := false
  /-- The modules of all analyses so far. -/
  modules : List Module := []

namespace Project

/-- The project at a target. -/
def atTarget (fs : FileSystem) (target : String) (recursive : Bool) : Project where
  root := (fs.absolute target).text
  recursive

def remember (p : Project) (analysis : Logged AnalysisError (List Module)) : Project :=
  match analysis.result with
  | .ok modules => { p with modules := p.modules ++ modules }
  | .error _ => p

/-- The modules in files, and the project that remembers them. -/
def addFiles (p : Project) (fs : FileSystem) (paths : List String) :
    Logged AnalysisError (List Module) × Project :=
  let analysis := Module.ofFiles fs p.root paths
  (analysis, p.remember analysis)

/-- The modules of the project. -/
def analyse (p : Project) (fs : FileSystem) : Logged AnalysisError (List Module) := do
  Logged.log .info ("Starting analysis of project at: " ++ p.root)
  let files ← fs.sourceFiles p.root p.recursive
  Logged.log .debug ("Python files found: " ++ Text.Quoted.quotedList files)
  let modules ← Module.ofFiles fs p.root files
  Logged.log .info ("Found " ++ toString modules.length ++ " module(s)")
  return modules

/-- The project behind a task, each of which begins with an analysis. -/
def afterTask (p : Project) (fs : FileSystem) : Project := p.remember (p.analyse fs)

def cycleEntry (text : String) : LogEntry := ⟨.warning, "Dependency cycle detected: " ++ text⟩

/-- The diagram of modules. With the diagram of dependencies their cycles are logged, in the order
of their texts: the order in which a search comes upon them is not modelled. -/
def diagramOf (modules : List Module) (dependenciesOnly : Bool) :
    Logged AnalysisError Diagram := do
  if dependenciesOnly then
    Logged.logAll ((Text.sortBy id ((Dependency.cycles modules).map Dependency.cycleText)).map
      cycleEntry)
  Diagram.build modules dependenciesOnly

/-- The diagram of the project. -/
def draw (p : Project) (fs : FileSystem) (dependenciesOnly : Bool) :
    Logged AnalysisError Diagram := do
  diagramOf (← p.analyse fs) dependenciesOnly

def summary (p : Project) (fs : FileSystem) : Logged AnalysisError (List DependencySummary) := do
  return DependencySummary.ofModules (← p.analyse fs)

end Project

/-- Why a project gives no image. -/
inductive ProjectError
  | unanalysed (e : AnalysisError)
  | unrendered (output : String)
  deriving DecidableEq, Repr

namespace ProjectError

def message : ProjectError → String
  | unanalysed e => e.message
  | unrendered output => "Failed to render diagram to " ++ output

end ProjectError

namespace Project

/-- Renders the diagram of the project to an image file. -/
def create (p : Project) (fs : FileSystem) (renderer : Renderer) (output : String)
    (dependenciesOnly : Bool) (format : ImageFormat) : Shell RenderTrace ProjectError String := do
  let d ← Shell.ofLogged ((p.draw fs dependenciesOnly).mapError .unanalysed)
  Shell.render fs renderer (.unrendered output) d output format

end Project

end ClassDiagram
