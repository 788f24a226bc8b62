import ClassDiagram.CommandLine.Program

/-!
The outer layer of the program: it loads the files that a run can ask for, and writes what the run
leaves behind. The drawing program is not started from here. Its input is left beside the image
file, and the run ends like one that has not found it.
-/

namespace ClassDiagram

/-- Adds what is at a path: a file with its content, or a directory with all that is in it. -/
partial def loadFrom (path : String) (fs : FileSystem) : IO FileSystem := do
  let place := (← IO.currentDir) / path
  if ← place.isDir then
    let mut loaded := fs.addFolder path
    for entry in ← place.readDir do
      loaded ← loadFrom (Path.join path entry.fileName) loaded
    return loaded
  else if ← place.pathExists then
    return fs.addFile path (← IO.FS.readBinFile place)
  else return fs

/-- Adds the drawing program where a search path has it. -/
def loadExecutables (searchPath : String) (fs : FileSystem) : IO FileSystem := do
  let mut loaded := fs
  for directory in SearchPath.directories searchPath do
    let path := Path.join directory SearchPath.executable
    let place := (← IO.currentDir) / path
    if directory ≠ "" then
      if (← place.pathExists) && !(← place.isDir) then
        loaded := loaded.addFile path ByteArray.empty
  return loaded

/-- The files that a run with these arguments can ask for. -/
def loadFor (arguments : List String) (searchPath : String) : IO FileSystem := do
  let start : FileSystem := { current := Path.segments (← IO.currentDir).toString }
  let mut loaded := start.addFolder "."
  match CommandLine.Written.read {} arguments with
  | .ok { arguments := target :: more, .. } =>
    loaded ← loadFrom target loaded
    let output := more.headD "diagram.png"
    if ← ((← IO.currentDir) / output).isDir then loaded := loaded.addFolder output
  | _ => pure ()
  loadExecutables searchPath loaded

/-- Runs the program, and tells its exit code. -/
def runWith (arguments : List String) : IO UInt32 := do
  let searchPath := (← IO.getEnv "PATH").getD ""
  let fs ← loadFor arguments searchPath
  let outcome := CommandLine.run fs Renderer.missing searchPath arguments
  for request in outcome.requests do
    IO.FS.writeFile (((← IO.currentDir) / request.output).withExtension "gv") request.source
  IO.print outcome.standardOutput
  IO.eprint outcome.standardError
  if let some e := outcome.uncaught then IO.eprintln e.message
  return outcome.exitCode.toUInt32

end ClassDiagram

def main (arguments : List String) : IO UInt32 := ClassDiagram.runWith arguments
