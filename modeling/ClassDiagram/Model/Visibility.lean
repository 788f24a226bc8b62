/-!
Visibilities and lifetimes of elements. By convention a name says how visible it is: two leading
underscores make it private and one makes it protected, unless two underscores end it.
-/

namespace ClassDiagram

inductive Visibility
  | priv
  | prot
  | pub
  deriving DecidableEq, Repr

inductive Lifetime
  | static
  | perInstance
  deriving DecidableEq, Repr

namespace Visibility

def all : List Visibility := [priv, prot, pub]

def text : Visibility → String
  | priv => "private"
  | prot => "protected"
  | pub => "public"

def ofText? (s : String) : Option Visibility := all.find? (·.text == s)

def ofChars (cs : List Char) : Visibility :=
  if ['_', '_'].isSuffixOf cs then pub
  else if ['_', '_'].isPrefixOf cs then priv
  else if ['_'].isPrefixOf cs then prot
  else pub

/-- The visibility that a name says. -/
def ofName (name : String) : Visibility := ofChars name.toList

end Visibility

namespace Lifetime

def all : List Lifetime := [static, perInstance]

def text : Lifetime → String
  | static => "static"
  | perInstance => "instance"

def ofText? (s : String) : Option Lifetime := all.find? (·.text == s)

end Lifetime

end ClassDiagram
