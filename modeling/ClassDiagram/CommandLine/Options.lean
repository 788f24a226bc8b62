import ClassDiagram.Log
import ClassDiagram.Text.Quoted

/-!
Options and arguments. Options may stand before, between and behind the arguments, flags of one
letter can be written together, and two dashes end the options. A fault in how an option is written
is found before a missing or superfluous argument.
-/

namespace ClassDiagram.CommandLine

open Text.Quoted (quoted)

inductive Flag
  | dependencies
  | recursive
  | svg
  | json
  | help
  deriving DecidableEq, Repr

inductive UsageError
  | noSuchOption (name : String)
  | missingValue (option : String)
  | superfluousValue (option : String)
  | missingTarget
  | invalidValue (parameter reason : String)
  | extraArguments (arguments : List String)
  deriving DecidableEq, Repr

namespace UsageError

/-- Two faults are told without the lines on usage. -/
def isTerse : UsageError → Bool
  | missingValue _ | superfluousValue _ => true
  | _ => false

def message : UsageError → String
  | noSuchOption name => "No such option " ++ quoted name ++ "."
  | missingValue option => "Option " ++ quoted option ++ " requires an argument."
  | superfluousValue option => "Option " ++ quoted option ++ " does not take a value."
  | missingTarget => "Missing argument 'TARGET'."
  | invalidValue parameter reason => "Invalid value for '" ++ parameter ++ "': " ++ reason
  | extraArguments [argument] => "Got unexpected extra argument (" ++ argument ++ ")"
  | extraArguments arguments =>
    "Got unexpected extra arguments (" ++ " ".intercalate arguments ++ ")"

end UsageError

/-- Options and arguments as they are written. -/
structure Written where
  flags : List Flag := []
  /-- The last level asked for. -/
  level : Option String := none
  arguments : List String := []
  deriving DecidableEq, Repr

def shortFlag? : Char → Option Flag
  | 'd' => some .dependencies
  | 'r' => some .recursive
  | _ => none

def longFlag? : String → Option Flag
  | "--dependencies" => some .dependencies
  | "--recursive" => some .recursive
  | "--svg" => some .svg
  | "--json" => some .json
  | "--help" => some .help
  | _ => none

def levelOption : String := "--log-level"

namespace Written

def addFlag (w : Written) (f : Flag) : Written := { w with flags := w.flags ++ [f] }

/-- Adds the flags that letters stand for. -/
def addLetters (w : Written) : List Char → Except UsageError Written
  | [] => .ok w
  | c :: cs =>
    match shortFlag? c with
    | some f => (w.addFlag f).addLetters cs
    | none => .error (.noSuchOption (String.ofList ['-', c]))

/-- An option without the value that an equals sign attaches, and that value. -/
def splitValue (cs : List Char) : String × Option String :=
  (String.ofList (cs.takeWhile (· ≠ '=')),
    match cs.dropWhile (· ≠ '=') with
    | [] => none
    | _ :: value => some (String.ofList value))

/-- Adds an option that takes no value, or letters for some. -/
def addOption (w : Written) (cs : List Char) : Except UsageError Written :=
  let (name, value) := splitValue cs
  match longFlag? name with
  | some f => if value.isSome then .error (.superfluousValue name) else .ok (w.addFlag f)
  | none =>
    if ['-', '-'].isPrefixOf cs then .error (.noSuchOption name) else w.addLetters (cs.drop 1)

/-- An argument of more than a dash that begins with one is an option. -/
def isOption (cs : List Char) : Bool := cs.head? = some '-' && cs.length > 1

def read (w : Written) : List String → Except UsageError Written
  | [] => .ok w
  | arg :: rest =>
    if arg = "--" then .ok { w with arguments := w.arguments ++ rest }
    else if isOption arg.toList then
      if (splitValue arg.toList).1 = levelOption then
        match (splitValue arg.toList).2, rest with
        | some value, rest => read { w with level := some value } rest
        | none, value :: rest => read { w with level := some value } rest
        | none, [] => .error (.missingValue levelOption)
      else
        match w.addOption arg.toList with
        | .ok w => read w rest
        | .error e => .error e
    else read { w with arguments := w.arguments ++ [arg] } rest

end Written

/-! ## Levels -/

def levels : List LogLevel := [.debug, .info, .warning, .error]

def levelName (l : LogLevel) : String := String.ofList (l.label.toList.map Char.toLower)

/-- The level of a name, in letters of any case. -/
def level (name : String) : Except UsageError LogLevel :=
  match levels.find? fun l => levelName l = String.ofList (name.toList.map Char.toLower) with
  | some l => .ok l
  | none => .error (.invalidValue levelOption
      (quoted name ++ " is not one of " ++ ", ".intercalate (levels.map fun l =>
        quoted (levelName l)) ++ "."))

end ClassDiagram.CommandLine
