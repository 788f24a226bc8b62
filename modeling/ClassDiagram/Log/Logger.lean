import ClassDiagram.Dictionary
import ClassDiagram.Log

/-!
A logger that can be set up again and again. The first set-up adds a handler, and a later one sends
the handlers that are there to another stream. Each handler writes the entries that the level of the
latest set-up admits. Before the first set-up there is no handler, and nothing is written: the last
resort of a logging system, which shows warnings and errors on standard error while there are no
handlers, is not modelled.
-/

namespace ClassDiagram

structure Logger where
  level : LogLevel := .critical
  /-- The stream of each handler. -/
  handlers : List String := []
  /-- What has been written to each stream. -/
  streams : Dictionary String := []
  deriving DecidableEq, Repr

namespace Logger

inductive Step
  | setUp (level : LogLevel) (stream : String)
  | log (entry : LogEntry)
  deriving DecidableEq, Repr

def handlerCount (l : Logger) : Nat := l.handlers.length

def written (l : Logger) (stream : String) : String := (l.streams.get? stream).getD ""

def setUp (l : Logger) (level : LogLevel) (stream : String) : Logger :=
  if l.handlers = [] then { l with level, handlers := [stream] }
  else { l with level, handlers := l.handlers.map fun _ => stream }

/-- Writes a text behind what is on a stream. -/
def write (text : String) (l : Logger) (stream : String) : Logger :=
  { l with streams := l.streams.put stream (l.written stream ++ text) }

def log (l : Logger) (entry : LogEntry) : Logger :=
  if l.level.admits entry.level then l.handlers.foldl (write (entry.line ++ "\n")) l else l

def logAll (l : Logger) (entries : Log) : Logger := entries.foldl log l

def step (l : Logger) : Step → Logger
  | .setUp level stream => l.setUp level stream
  | .log entry => l.log entry

/-- The logger behind each step. -/
def run (l : Logger) : List Step → List Logger
  | [] => []
  | s :: ss => l.step s :: (l.step s).run ss

theorem written_write (text : String) (l : Logger) (stream other : String) :
    (l.write text stream).written other =
      if other = stream then l.written stream ++ text else l.written other := by
  rw [write, written, Dictionary.get?_put]
  split
  · rfl
  · rfl

end Logger

end ClassDiagram
