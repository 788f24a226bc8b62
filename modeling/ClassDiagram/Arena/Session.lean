import ClassDiagram.Arena.Field
import ClassDiagram.Arena.Tree
import ClassDiagram.Diagram.Builder
import ClassDiagram.Diagram.MemberLine
import ClassDiagram.Text.Alphabetical

/-!
Steps on an arena through handles. A step answers or fails, and a step that fails leaves the arena
as it was (`step`).
-/

namespace ClassDiagram.Arena

inductive Step
  | create (id : String) (parent : Option String) (outline : ElementOutline)
  | attach (holder child : String)
  | merge (id first second : String)
  | set (id field : String) (value : FieldValue)
  | pick (id holder collection : String) (index : Int)
  | drop (id : String)
  | display (id : String)
  | line (id : String)
  | shown (id : String)
  | shownName (parts : List String)
  | draw (ids : List String) (dependenciesOnly : Bool)

inductive Reply
  | element (e : Element)
  | handles (ids : List String)
  | text (s : String)
  | diagram (d : Diagram)

def lookUp (a : Arena) (id : String) : Except ElementError Ref :=
  match a.handles.get? id with
  | some r => .ok r
  | none => .error (.unknownHandle id)

def elementAt (a : Arena) (id : String) : Except ElementError Element := do
  match a.element? (← a.lookUp id) with
  | some e => return e
  | none => .error (.unknownHandle id)

def cellAt (a : Arena) (id : String) : Except ElementError (Ref × Cell) := do
  let r ← a.lookUp id
  match a.read? r with
  | some c => return (r, c)
  | none => .error (.unknownHandle id)

/-- The arena with a handle, and the element that it names. -/
def reply (a : Arena) (id : String) : Except ElementError (Arena × Reply) := do
  return (a, .element (← a.elementAt id))

/-- How an element is shown in messages. -/
def shownElement (c : Cell) : String :=
  c.kind.text ++ "(name=" ++ Text.Quoted.quoted c.header.name ++ ")"

/-- The arena behind a step, and what the step answers. -/
def perform (a : Arena) : Step → Except ElementError (Arena × Reply)
  | .create id parent outline => do
    let parent ← parent.mapM a.lookUp
    let (b, r) ← a.build parent outline
    (b.bind id r).reply id
  | .attach holder child => do
    let held ← a.lookUp child
    (← a.attach (← a.lookUp holder) held).reply holder
  | .merge id first second => do
    let (_, p) ← a.cellAt first
    let (_, q) ← a.cellAt second
    let (b, r) ← a.mergeCells p q
    (b.bind id r).reply id
  | .set id field value => do
    let r ← a.lookUp id
    (← a.set r field value).reply id
  | .pick id holder collection index => do
    let (_, c) ← a.cellAt holder
    (a.bind id (← Arena.pick c collection index)).reply id
  | .drop id => do
    let _ ← a.lookUp id
    let b := a.drop id
    return (b, .handles (Text.alphabetical b.handles.keys))
  | .display id => a.reply id
  | .line id => do return (a, .text (← (← a.elementAt id).kindLine))
  | .shown id => do return (a, .text (shownElement (← a.cellAt id).2))
  | .shownName parts => do return (a, .text (← QualifiedName.ofParts parts).shown)
  | .draw ids dependenciesOnly => do
    let elements ← ids.mapM a.elementAt
    let modules ← elements.mapM asModule
    let d := if dependenciesOnly then Diagram.ofDependencies modules
      else Diagram.ofModules modules
    return (a, .diagram d)

def step (a : Arena) (s : Step) : Arena × Except ElementError Reply :=
  match a.perform s with
  | .ok (b, r) => (b, .ok r)
  | .error e => (a, .error e)

/-- What the steps answer, one after the other. -/
def run (a : Arena) : List Step → List (Except ElementError Reply)
  | [] => []
  | s :: ss => let (b, r) := a.step s; r :: b.run ss

end ClassDiagram.Arena
