import ClassDiagram.Analysis.ModuleAnalysis

/-!
The analysis of the text of a module. It fails on a text that cannot be read or is not grammatical;
only the latter is logged.
-/

namespace ClassDiagram

/-- Why files cannot be analysed. -/
inductive AnalysisError
  | unreadable (file : String)
  | ungrammatical (file : String)
  /-- A text, or the text of an annotation, cannot be read at all. -/
  | faulty (fault : TextFault)
  /-- A path holds the character zero. -/
  | nullInPath
  deriving DecidableEq, Repr

namespace AnalysisError

def message : AnalysisError → String
  | unreadable file => "Failed to read " ++ file
  | ungrammatical file => "Failed to parse " ++ file
  | faulty fault => fault.message
  | nullInPath => "embedded null byte"

/-- An error that is about a file is logged before it ends an analysis. The entry has the message
alone; the reason that the system or the grammar gives for the failure is not modelled, and a log
that adds it to the message has a longer text. -/
def logged {α : Type} (e : AnalysisError) : Logged AnalysisError α := do
  Logged.log .error e.message
  Logged.fail e

end AnalysisError

/-- The module with this text, which was read from a file of this name. -/
def Module.ofText (file moduleName : String) (isPackage : Bool) (text : String) :
    Logged AnalysisError Module :=
  let characters := text.toList
  if '\x00' ∈ characters then Logged.fail (.faulty .nullCharacter)
  else match Source.Program.ofText? characters with
    | none => AnalysisError.logged (.ungrammatical file)
    | some stmts => (ModuleAnalysis.run moduleName isPackage stmts).mapError .faulty

end ClassDiagram
