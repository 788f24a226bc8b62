import ClassDiagram.Dot.Printer
import ClassDiagram.Render.SearchPath

/-!
Rendering diagrams to image files by the drawing program. The program is a parameter: what it does
with a request (`Renderer`).
-/

namespace ClassDiagram

inductive ImageFormat
  | png
  | svg
  deriving DecidableEq, Repr

namespace ImageFormat

def text : ImageFormat → String
  | png => "png"
  | svg => "svg"

def label : ImageFormat → String
  | png => "PNG"
  | svg => "SVG"

end ImageFormat

/-- What the drawing program is asked for. -/
structure RenderRequest where
  output : String
  format : ImageFormat
  /-- The search path on which the program is found. -/
  path : String
  /-- The diagram in the DOT language. -/
  source : String
  deriving DecidableEq, Repr

inductive RenderFailure
  | notFound
  | failed (format : ImageFormat)
  deriving DecidableEq, Repr

namespace RenderFailure

def message : RenderFailure → String
  | notFound =>
    "failed to execute 'dot', make sure the Graphviz executables are on your systems' PATH"
  | failed format =>
    "Command '['dot', '-T" ++ format.text ++ "']' returned non-zero exit status 1."

end RenderFailure

/-- The image file that a request gives, or why it gives none. -/
abbrev Renderer := RenderRequest → Except RenderFailure String

namespace Renderer

def working : Renderer := fun r => .ok r.output

def missing : Renderer := fun _ => .error .notFound

def failing : Renderer := fun r => .error (.failed r.format)

end Renderer

/-- What rendering leaves behind: log entries, and the requests made. -/
structure RenderTrace where
  log : Log := []
  requests : List RenderRequest := []

namespace Shell

variable {ε α : Type}

def log (level : LogLevel) (message : String) : Shell RenderTrace ε Unit :=
  record fun t => { t with log := t.log ++ [⟨level, message⟩] }

/-- A computation that only logs. -/
def ofLogged (x : Logged ε α) : Shell RenderTrace ε α := do
  record fun t => { t with log := t.log ++ x.entries }
  match x.result with
  | .ok a => return a
  | .error e => throw e

/-- Asks for an image, on the search path as it is. -/
def ask (renderer : Renderer) (output : String) (format : ImageFormat) (source : String) :
    Shell RenderTrace ε (Except RenderFailure String) := do
  let request : RenderRequest := { output, format, path := ← searchPath, source }
  record fun t => { t with requests := t.requests ++ [request] }
  return renderer request

/-- Renders a diagram to an image file, with the directory of the drawing program first on the
search path. Whatever keeps the program from it is logged, and gives one error. -/
def render (fs : FileSystem) (renderer : Renderer) (unrendered : ε) (d : Diagram)
    (output : String) (format : ImageFormat) : Shell RenderTrace ε String := do
  let location ← ofLogged (SearchPath.locate fs "linux" (← searchPath))
  log .info ("Rendering " ++ format.label ++ " to " ++ output)
  match ← withLocation location (ask renderer output format (Dot.text d)) with
  | .ok file => do
    log .info ("Diagram saved to " ++ file)
    return file
  | .error failure => do
    log .error ("Failed to render diagram: " ++ failure.message)
    throw unrendered

end Shell

end ClassDiagram
