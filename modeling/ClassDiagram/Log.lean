/-!
Log entries, and computations that leave some. A `Logged` computation keeps the entries that it
made before it failed; `bind_ok` and `bind_error` say how the entries of two computations follow
each other.
-/

namespace ClassDiagram

inductive LogLevel
  | debug
  | info
  | warning
  | error
  | critical
  deriving DecidableEq, Repr

namespace LogLevel

def rank : LogLevel → Nat
  | debug => 10
  | info => 20
  | warning => 30
  | error => 40
  | critical => 50

def label : LogLevel → String
  | debug => "DEBUG"
  | info => "INFO"
  | warning => "WARNING"
  | error => "ERROR"
  | critical => "CRITICAL"

def all : List LogLevel := [debug, info, warning, error, critical]

def ofLabel? (text : String) : Option LogLevel := all.find? (·.label == text)

/-- A logger set to a level takes entries of that level and above. -/
def admits (threshold level : LogLevel) : Bool := threshold.rank ≤ level.rank

end LogLevel

structure LogEntry where
  level : LogLevel
  message : String
  deriving DecidableEq, Repr

namespace LogEntry

/-- The line that a handler writes for an entry. -/
def line (entry : LogEntry) : String := "[" ++ entry.level.label ++ "] " ++ entry.message

end LogEntry

abbrev Log := List LogEntry

namespace Log

/-- The lines of the entries that a logger set to a level takes. -/
def lines (threshold : LogLevel) (log : Log) : List String :=
  (log.filter fun entry => threshold.admits entry.level).map LogEntry.line

end Log

/-- A result or an error, and the log entries made on the way. -/
structure Logged (ε α : Type) where
  entries : Log
  result : Except ε α

namespace Logged

variable {ε ε' α β : Type}

def ok (a : α) : Logged ε α := ⟨[], .ok a⟩

def fail (e : ε) : Logged ε α := ⟨[], .error e⟩

def bind (x : Logged ε α) (f : α → Logged ε β) : Logged ε β :=
  match x.result with
  | .ok a => ⟨x.entries ++ (f a).entries, (f a).result⟩
  | .error e => ⟨x.entries, .error e⟩

instance : Monad (Logged ε) where
  pure := ok
  bind := bind

def ofExcept (result : Except ε α) : Logged ε α := ⟨[], result⟩

def log (level : LogLevel) (message : String) : Logged ε Unit := ⟨[⟨level, message⟩], .ok ()⟩

def logAll (entries : Log) : Logged ε Unit := ⟨entries, .ok ()⟩

/-- Renames the errors. -/
def mapError (f : ε → ε') (x : Logged ε α) : Logged ε' α := ⟨x.entries, x.result.mapError f⟩

@[simp] theorem entries_ok (a : α) : (ok a : Logged ε α).entries = [] := rfl

@[simp] theorem result_ok (a : α) : (ok a : Logged ε α).result = .ok a := rfl

theorem bind_ok {x : Logged ε α} {a : α} (h : x.result = .ok a) (f : α → Logged ε β) :
    x.bind f = ⟨x.entries ++ (f a).entries, (f a).result⟩ := by
  simp [bind, h]

theorem bind_error {x : Logged ε α} {e : ε} (h : x.result = .error e) (f : α → Logged ε β) :
    x.bind f = ⟨x.entries, .error e⟩ := by
  simp [bind, h]

theorem id_map (x : Logged ε α) : id <$> x = x := by
  rcases x with ⟨entries, _ | a⟩ <;> simp [Functor.map, bind, ok]

theorem pure_bind (a : α) (f : α → Logged ε β) : (ok a).bind f = f a := by
  simp [bind, ok]

theorem bind_assoc {γ : Type} (x : Logged ε α) (f : α → Logged ε β) (g : β → Logged ε γ) :
    (x.bind f).bind g = x.bind fun a => (f a).bind g := by
  rcases x with ⟨entries, _ | a⟩
  · rfl
  · rcases h : f a with ⟨more, _ | b⟩ <;> simp [bind, h]

instance : LawfulMonad (Logged ε) := LawfulMonad.mk' _ id_map pure_bind bind_assoc

end Logged

end ClassDiagram
