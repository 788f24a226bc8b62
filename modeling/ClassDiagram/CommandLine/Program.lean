import ClassDiagram.CommandLine.Options
import ClassDiagram.Log.Logger
import ClassDiagram.Project.Project

/-!
The program on the command line: it draws the diagram of a project, or prints the summary of its
dependencies. The log goes to the standard output, unless the summary is printed there.
-/

namespace ClassDiagram.CommandLine

open Text.Quoted (quoted)

/-- What the program is asked to do. -/
structure Task where
  target : String
  output : String := "diagram.png"
  dependenciesOnly : Bool := false
  recursive : Bool := false
  format : ImageFormat := .png
  summary : Bool := false
  level : LogLevel := .info
  deriving DecidableEq, Repr

/-- The names of the two streams that a program writes to. -/
def outputStream : String := "stdout"

def errorStream : String := "stderr"

/-- The logger for a task: it leaves the standard output to the summary. -/
def Task.logger (t : Task) : Logger :=
  ({} : Logger).setUp t.level (if t.summary then errorStream else outputStream)

/-- What a run leaves behind. A fault that the program has no words for ends it as it is. -/
structure Outcome where
  exitCode : Nat
  standardOutput : String := ""
  standardError : String := ""
  uncaught : Option AnalysisError := none
  requests : List RenderRequest := []

def usage : String := "Usage: main [OPTIONS] TARGET [OUTPUT]\n"

def helpLines : List String :=
  ["",
   "  pyumlviz: draws UML class diagrams and module dependency diagrams of Python",
   "  projects.",
   "",
   "  TARGET is a Python file or a directory; OUTPUT is the image file to write.",
   "",
   "Options:",
   "  -d, --dependencies              Produce the modules' dependencies diagram",
   "                                  instead of the class diagram.",
   "  -r, --recursive                 Include files in subdirectories.",
   "  --svg                           Write an SVG file instead of a PNG.",
   "  --json                          Print the modules' dependencies as JSON",
   "                                  instead of drawing a diagram.",
   "  --log-level [debug|info|warning|error]",
   "                                  Logging verbosity.",
   "  --help                          Show this message and exit."]

def helpText : String := usage ++ String.join (helpLines.map (· ++ "\n"))

/-- The task that options and arguments describe; none if help is asked for. -/
def task? (fs : FileSystem) (w : Written) : Except UsageError (Option Task) := do
  if .help ∈ w.flags then return none
  let level ← match w.level with
    | some name => level name
    | none => pure .info
  match w.arguments with
  | [] => .error .missingTarget
  | target :: more =>
    if !fs.contains target then
      .error (.invalidValue "TARGET" ("Path " ++ quoted target ++ " does not exist."))
    else
      let output := more.headD "diagram.png"
      if fs.isFolder output then
        .error (.invalidValue "[OUTPUT]" ("File " ++ quoted output ++ " is a directory."))
      else if more.length > 1 then .error (.extraArguments (more.drop 1))
      else return some {
        target, output, level
        dependenciesOnly := .dependencies ∈ w.flags
        recursive := .recursive ∈ w.flags
        format := if .svg ∈ w.flags then .svg else .png
        summary := .json ∈ w.flags }

namespace Outcome

def ofUsageError (e : UsageError) : Outcome where
  exitCode := 2
  standardError :=
    (if e.isTerse then "" else usage ++ "Try 'main --help' for help.\n\n")
      ++ "Error: " ++ e.message ++ "\n"

def help : Outcome where
  exitCode := 0
  standardOutput := helpText

/-- What a logger has written so far. -/
def ofLogger (exitCode : Nat) (l : Logger) : Outcome where
  exitCode
  standardOutput := l.written outputStream
  standardError := l.written errorStream

/-- Prints a text on a line of its own. -/
def echo (o : Outcome) (text : String) : Outcome :=
  { o with standardOutput := o.standardOutput ++ text ++ "\n" }

/-- Tells an error. -/
def tell (o : Outcome) (message : String) : Outcome :=
  { o with standardError := o.standardError ++ "Error: " ++ message ++ "\n" }

/-- Ends with an error: it is told, or left as it is where there are no words for it. -/
def failWith (o : Outcome) (e : AnalysisError) : Outcome :=
  match e with
  | .unreadable _ | .ungrammatical _ => o.tell e.message
  | .faulty _ | .nullInPath => { o with uncaught := some e }

def ofSummary (l : Logger) (result : Except AnalysisError (List DependencySummary)) : Outcome :=
  match result with
  | .ok summaries => (ofLogger 0 l).echo (DependencySummary.text summaries)
  | .error e => (ofLogger 1 l).failWith e

def ofDrawing (l : Logger) (result : Except ProjectError String) (requests : List RenderRequest) :
    Outcome :=
  match result with
  | .ok _ => { (ofLogger 0 l).echo "Done" with requests }
  | .error (.unanalysed e) => { (ofLogger 1 l).failWith e with requests }
  | .error (.unrendered output) =>
    { (ofLogger 1 l).tell (ProjectError.unrendered output).message with requests }

end Outcome

/-- Does a task, with the drawing program on a search path. -/
def perform (fs : FileSystem) (renderer : Renderer) (path : String) (t : Task) : Outcome :=
  let p := Project.atTarget fs t.target t.recursive
  if t.summary then
    let run := p.summary fs
    .ofSummary (t.logger.logAll run.entries) run.result
  else
    let drawing := p.create fs renderer t.output t.dependenciesOnly t.format
    let (result, after) := drawing { path, trace := {} }
    .ofDrawing (t.logger.logAll after.trace.log) result after.trace.requests

/-- Runs the program with these arguments. -/
def run (fs : FileSystem) (renderer : Renderer) (path : String) (arguments : List String) :
    Outcome :=
  match Written.read {} arguments >>= task? fs with
  | .error e => .ofUsageError e
  | .ok none => .help
  | .ok (some t) => perform fs renderer path t

end ClassDiagram.CommandLine
