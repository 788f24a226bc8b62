import ClassDiagram.Dictionary
import ClassDiagram.Log
import ClassDiagram.Model.QualifiedName
import ClassDiagram.Source.Stmt

/-!
Scopes: what the names of a module refer to. A name is that of a class of the module, or bound by
an import, or known to the language, or of unknown origin.
-/

namespace ClassDiagram

open Text.Dotted (segments join)

structure Scope where
  moduleName : String
  isPackage : Bool := false
  /-- The names of the classes that are direct statements of the module. -/
  classes : List String := []
  /-- Names bound by imports, and the dotted names that they stand for. -/
  bindings : Dictionary String := []

namespace Scope

/-- Names that the language defines by itself. -/
def builtins : List String :=
  ["ArithmeticError", "AssertionError", "AttributeError", "BaseException", "BaseExceptionGroup",
   "BlockingIOError", "BrokenPipeError", "BufferError", "BytesWarning", "ChildProcessError",
   "ConnectionAbortedError", "ConnectionError", "ConnectionRefusedError",
   "ConnectionResetError", "DeprecationWarning", "EOFError", "Ellipsis", "EncodingWarning",
   "EnvironmentError", "Exception", "ExceptionGroup", "False", "FileExistsError",
   "FileNotFoundError", "FloatingPointError", "FutureWarning", "GeneratorExit", "IOError",
   "ImportError", "ImportWarning", "IndentationError", "IndexError", "InterruptedError",
   "IsADirectoryError", "KeyError", "KeyboardInterrupt", "LookupError", "MemoryError",
   "ModuleNotFoundError", "NameError", "None", "NotADirectoryError", "NotImplemented",
   "NotImplementedError", "OSError", "OverflowError", "PendingDeprecationWarning",
   "PermissionError", "ProcessLookupError", "RecursionError", "ReferenceError",
   "ResourceWarning", "RuntimeError", "RuntimeWarning", "StopAsyncIteration", "StopIteration",
   "SyntaxError", "SyntaxWarning", "SystemError", "SystemExit", "TabError", "TimeoutError",
   "True", "TypeError", "UnboundLocalError", "UnicodeDecodeError", "UnicodeEncodeError",
   "UnicodeError", "UnicodeTranslateError", "UnicodeWarning", "UserWarning", "ValueError",
   "Warning", "ZeroDivisionError", "__build_class__", "__debug__", "__doc__", "__import__",
   "__loader__", "__name__", "__package__", "__spec__", "abs", "aiter", "all", "anext", "any",
   "ascii", "bin", "bool", "breakpoint", "bytearray", "bytes", "callable", "chr", "classmethod",
   "compile", "complex", "copyright", "credits", "delattr", "dict", "dir", "divmod",
   "enumerate", "eval", "exec", "exit", "filter", "float", "format", "frozenset", "getattr",
   "globals", "hasattr", "hash", "help", "hex", "id", "input", "int", "isinstance",
   "issubclass", "iter", "len", "license", "list", "locals", "map", "max", "memoryview", "min",
   "next", "object", "oct", "open", "ord", "pow", "print", "property", "quit", "range", "repr",
   "reversed", "round", "set", "setattr", "slice", "sorted", "staticmethod", "str", "sum",
   "super", "tuple", "type", "vars", "zip"]

/-- Names of typing constructs that are no types of a project. -/
def typingNames : List String := ["Any", "None", "NoReturn", "Self", "TypeVar", "Callable"]

/-- Modules that define typing constructs. -/
def typingModules : List String := ["typing", "typing_extensions", "collections.abc"]

/-- The type that a chain of identifiers refers to, if it is one of a project. -/
def resolveChain (s : Scope) : List String → Option QualifiedName
  | [] => none
  | [id] =>
    if id ∈ s.classes then some (.pair s.moduleName id)
    else match s.bindings.get? id with
      | some target =>
        let q := QualifiedName.ofDotted target
        if q.first ∈ typingModules then none else some q
      | none => if id ∈ builtins ∨ id ∈ typingNames then none else some (.single id)
  | head :: second :: rest =>
    let front := match s.bindings.get? head with
      | some target => segments target
      | none => [head]
    let chain := front ++ second :: rest
    let scope := join chain.dropLast
    if scope ∈ typingModules then none else some (.pair scope (chain.getLastD ""))

/-! ## Imports -/

/-- What an import statement does: the names that it binds, and the modules that it makes the
module depend on. -/
structure ImportEffect where
  bindings : List (String × String) := []
  dependencies : List String := []
  deriving DecidableEq, Repr

/-- The package that a relative import starts from. -/
def package (s : Scope) (level : Nat) : Except Unit (List String) :=
  let parts := segments s.moduleName
  let parts := if s.isPackage then parts else parts.dropLast
  if parts.length < level - 1 then .error () else .ok (parts.take (parts.length - (level - 1)))

/-- The module that a `from` import names, which may be empty. An import that leaves the top
package starts from nowhere, with a warning. -/
def importSource {ε : Type} (s : Scope) (source : Option String) (level : Nat) :
    Logged ε String :=
  if level = 0 then pure (source.getD "")
  else
    match s.package level with
    | .ok package => pure (join (package ++ source.toList))
    | .error () => do
      Logged.log .warning
        ("Invalid relative import in " ++ s.moduleName ++ ": level " ++ toString level
          ++ " too high")
      return join source.toList

def boundName (a : Source.Alias) : String := a.bound.getD a.name

/-- The effect of `import` with these names. -/
def importModules (aliases : List Source.Alias) : ImportEffect where
  bindings := aliases.map fun a =>
    match a.bound with
    | some id => (id, a.name)
    | none => (Text.Dotted.head a.name, Text.Dotted.head a.name)
  dependencies := aliases.map (·.name)

/-- A name in a package that may be the empty one. -/
def within (package name : String) : String :=
  if package = "" then name else package ++ "." ++ name

/-- The effect of `from` without a module: the names are modules of the package. -/
def importSiblings (package : String) (aliases : List Source.Alias) : ImportEffect where
  bindings := aliases.filterMap fun a =>
    if a.name = "*" then none else some (boundName a, within package a.name)
  dependencies := aliases.filterMap fun a =>
    if a.name = "*" then (if package = "" then none else some package)
    else some (within package a.name)

/-- The effect of `from` with a module: the names are defined there. -/
def importMembers (source : String) (aliases : List Source.Alias) : ImportEffect where
  bindings := aliases.filterMap fun a =>
    if a.name = "*" then none else some (boundName a, source ++ "." ++ a.name)
  dependencies := [source]

def importFrom {ε : Type} (s : Scope) (source : Option String) (aliases : List Source.Alias)
    (level : Nat) : Logged ε ImportEffect := do
  let name ← s.importSource source level
  match source with
  | none => return importSiblings name aliases
  | some _ => return if name = "" then {} else importMembers name aliases

def bind (s : Scope) (pairs : List (String × String)) : Scope :=
  { s with bindings := s.bindings.putAll pairs }

end Scope

end ClassDiagram
