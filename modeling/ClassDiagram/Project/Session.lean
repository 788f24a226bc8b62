import ClassDiagram.Project.Project

/-!
Calls on one project, one after the other. Each call analyses the files anew; the project remembers
the modules of every analysis that comes to an end, whatever becomes of the call behind it. A call
that fails keeps what it has done until then (`Call`), and the next call goes on from there (`run`).
-/

namespace ClassDiagram

/-- What steps give one after the other, each with the state behind it. -/
def trail {σ ι ρ : Type} (step : σ → ι → ρ × σ) : σ → List ι → List (ρ × σ)
  | _, [] => []
  | s, x :: xs => step s x :: trail step (step s x).2 xs

/-- The modules in the files of each call, and the project that remembers them. -/
def Project.addAll (p : Project) (fs : FileSystem) (calls : List (List String)) :
    List (Logged AnalysisError (List Module) × Project) :=
  trail (fun p paths => p.addFiles fs paths) p calls

/-- A project in use, and the search path on which its calls find the drawing program. -/
structure Session where
  project : Project
  path : String

namespace Session

/-- What a call works on. -/
structure Work where
  project : Project
  trace : RenderTrace := {}

abbrev Call (α : Type) := Shell Work ProjectError α

section

variable {α : Type}

/-- A computation that does not see the project. -/
def apart (x : Shell RenderTrace ProjectError α) : Call α := fun s =>
  let run := x ⟨s.path, s.trace.trace⟩
  (run.1, ⟨run.2.path, { s.trace with trace := run.2.trace }⟩)

def logged (x : Logged AnalysisError α) : Call α := apart (Shell.ofLogged (x.mapError .unanalysed))

end

/-- The modules of the project, which it remembers. -/
def analyse (fs : FileSystem) : Call (List Module) := fun s =>
  let p := s.trace.project
  logged (p.analyse fs) { s with trace.project := p.afterTask fs }

def draw (fs : FileSystem) (dependenciesOnly : Bool) : Call Diagram := do
  logged (Project.diagramOf (← analyse fs) dependenciesOnly)

def summary (fs : FileSystem) : Call (List DependencySummary) := do
  return DependencySummary.ofModules (← analyse fs)

/-- Renders the diagram of the project to an image file. -/
def create (fs : FileSystem) (renderer : Renderer) (output : String) (dependenciesOnly : Bool)
    (format : ImageFormat) : Call String := do
  let d ← draw fs dependenciesOnly
  apart (Shell.render fs renderer (.unrendered output) d output format)

inductive Task
  | analyse
  | draw (dependenciesOnly : Bool)
  | summarise
  | create (renderer : Renderer) (output : String) (dependenciesOnly : Bool) (format : ImageFormat)

inductive Answer
  | modules (modules : List Module)
  | diagram (d : Diagram)
  | summaries (summaries : List DependencySummary)
  | image (file : String)

def Task.call (fs : FileSystem) : Task → Call Answer
  | analyse => return .modules (← Session.analyse fs)
  | draw dependenciesOnly => return .diagram (← Session.draw fs dependenciesOnly)
  | summarise => return .summaries (← summary fs)
  | create renderer output dependenciesOnly format =>
    return .image (← Session.create fs renderer output dependenciesOnly format)

/-- What a call gives, and what it leaves behind. -/
structure Reply where
  result : Except ProjectError Answer
  trace : RenderTrace

def perform (fs : FileSystem) (s : Session) (t : Task) : Reply × Session :=
  let run := t.call fs ⟨s.path, { project := s.project }⟩
  (⟨run.1, run.2.trace.trace⟩, ⟨run.2.trace.project, run.2.path⟩)

/-- The replies to tasks, each with the session behind it. -/
def run (fs : FileSystem) (s : Session) (tasks : List Task) : List (Reply × Session) :=
  trail (perform fs) s tasks

end Session

end ClassDiagram
