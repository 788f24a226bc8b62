import Mathlib
import ClassDiagram.CommandLine.Program
import ClassDiagram.Proofs.Log.Logger
import ClassDiagram.Proofs.Project.Outcome
import ClassDiagram.Proofs.Text.Json

/-!
Printing the summary of dependencies. The standard output holds the summary, as a JSON text, or
nothing; all that is logged goes to the other stream.

* `DependencySummary.ofText?_text`: summaries are read back from their text;
* `task_of_words`: the task that flags, a level and a target describe;
* `written_logger`: the log of such a task goes to the other stream;
* `summary_alone_on_standard_output`: what a run with such a task leaves behind.
-/

namespace ClassDiagram

open Text (Json)

theorem mapM_map_eq_some {α β : Type} {f : β → Option α} {g : α → β} (h : ∀ a, f (g a) = some a)
    (items : List α) : (items.map g).mapM f = some items := by
  induction items with
  | nil => rfl
  | cons item items ih => simp [h, ih]

namespace DependencySummary

def string? : Json → Option String
  | .string s => some s
  | _ => none

/-- The summary that a value describes. -/
def ofJson? : Json → Option DependencySummary
  | .object [("name", .string name), ("dependencies", .array items)] =>
    (items.mapM string?).map fun dependencies => { name, dependencies }
  | _ => none

/-- The summaries that a text describes. -/
def ofText? (text : String) : Option (List DependencySummary) :=
  match Json.ofText? text with
  | some (.array items) => items.mapM ofJson?
  | _ => none

theorem ofJson?_toJson (s : DependencySummary) : ofJson? s.toJson = some s := by
  have hitems : (s.dependencies.map Json.string).mapM string? = some s.dependencies :=
    mapM_map_eq_some (f := string?) (g := Json.string) (fun _ => rfl) _
  rw [toJson, ofJson?, hitems]
  rfl

/-- **Summaries are read back from their text.** -/
theorem ofText?_text (summaries : List DependencySummary) :
    ofText? (text summaries) = some summaries := by
  rw [ofText?, text, Json.ofText?_text]
  exact mapM_map_eq_some ofJson?_toJson summaries

end DependencySummary

/-! ## Options -/

namespace CommandLine

/-- The words that set a flag. -/
inductive Flag.Word (f : Flag) : String → Prop
  | long {word : String} (h : longFlag? word = some f) : Word f word
  | short {c : Char} (h : shortFlag? c = some f) : Word f (String.ofList ['-', c])

variable {w : Written} {f : Flag} {flags : List Flag} {word name target : String}
  {words rest : List String} {l : LogLevel}

theorem read_option {more : Written} (hword : word ≠ "--")
    (hoption : Written.isOption word.toList = true)
    (hlevel : (Written.splitValue word.toList).1 ≠ levelOption)
    (h : w.addOption word.toList = .ok more) : w.read (word :: rest) = more.read rest := by
  rw [Written.read.eq_def]
  simp only [if_neg hword, if_pos hoption, if_neg hlevel, h]

theorem read_word (h : f.Word word) : w.read (word :: rest) = (w.addFlag f).read rest := by
  cases h with
  | long h =>
    unfold longFlag? at h
    split at h <;> cases h <;> exact read_option (by decide) (by decide) (by decide) rfl
  | @short c h =>
    unfold shortFlag? at h
    split at h <;> cases h <;> exact read_option (by decide) (by decide) (by decide) rfl

theorem read_words (h : List.Forall₂ Flag.Word flags words) :
    w.read (words ++ rest) = { w with flags := w.flags ++ flags }.read rest := by
  induction h generalizing w with
  | nil => simp
  | cons hword _ ih =>
    rw [List.cons_append, read_word hword, ih]
    simp [Written.addFlag]

theorem read_level : w.read (levelOption :: name :: rest) =
    { w with level := some name }.read rest := by
  rw [Written.read.eq_def]
  rfl

theorem read_target (h : Written.isOption target.toList = false) :
    w.read [target] = .ok { w with arguments := w.arguments ++ [target] } := by
  have hdashes : target ≠ "--" := by
    rintro rfl
    exact absurd h (by decide)
  rw [Written.read.eq_def]
  simp only [if_neg hdashes, h, Bool.false_eq_true, if_false]
  rw [Written.read.eq_def]

/-- The task that flags, a level and a target describe. -/
theorem task_of_words {fs : FileSystem} (hwords : List.Forall₂ Flag.Word flags words)
    (hhelp : Flag.help ∉ flags) (hlevel : level name = .ok l)
    (htarget : fs.contains target = true) (hargument : Written.isOption target.toList = false)
    (houtput : fs.isFolder "diagram.png" = false) :
    ∃ w, Written.read {} (words ++ [levelOption, name, target]) = .ok w ∧ w.flags = flags ∧
      task? fs w = .ok (some {
        target, level := l
        dependenciesOnly := .dependencies ∈ flags
        recursive := .recursive ∈ flags
        format := if .svg ∈ flags then .svg else .png
        summary := .json ∈ flags }) := by
  refine ⟨{ flags, level := some name, arguments := [target] }, ?_, rfl, ?_⟩
  · rw [read_words hwords, read_level, read_target hargument]
    rfl
  · simp [task?, hhelp, hlevel, htarget, houtput, Bind.bind, Except.bind, Pure.pure, Except.pure]

theorem summary_of_task {fs : FileSystem} {t : Task} (h : task? fs w = .ok (some t)) :
    t.summary = decide (.json ∈ w.flags) := by
  -- the level that is asked for, or else the usual one
  rcases w with ⟨flags, _ | name, arguments⟩
  all_goals
    unfold task? at h
    split at h
    · cases h
    obtain ⟨l, -, h⟩ := except_bind_eq_ok.mp h
    cases arguments with
    | nil => cases h
    | cons target more =>
      dsimp only at h
      split at h
      · cases h
      split at h
      · cases h
      split at h
      · cases h
      · cases h
        rfl

/-! ## Runs -/

/-- With a task to print the summary no log goes to the standard output. -/
theorem written_logger {t : Task} (ht : t.summary = true) (entries : Log) :
    (t.logger.logAll entries).written outputStream = "" ∧
      (t.logger.logAll entries).written errorStream = Log.text t.level entries := by
  have hhandlers : t.logger.handlers = [errorStream] := by simp [Task.logger, Logger.setUp, ht]
  have hempty : ∀ stream, t.logger.written stream = "" := fun _ => rfl
  have hlevel : t.logger.level = t.level := rfl
  have hstreams : errorStream ≠ outputStream := by decide
  simp [Logger.written_logAll hhandlers, hempty, hlevel, hstreams]

/-- What a run leaves behind that prints the summary of an analysis. -/
structure Summarised (level : LogLevel) (analysis : Logged AnalysisError (List Module))
    (o : Outcome) : Prop where
  undrawn : o.requests = []
  printed : ∀ modules, analysis.result = .ok modules → o.exitCode = 0 ∧ o.uncaught = none ∧
    (∃ text, o.standardOutput = text ++ "\n" ∧
      DependencySummary.ofText? text = some (DependencySummary.ofModules modules)) ∧
    o.standardError = Log.text level analysis.entries
  failed : ∀ e, analysis.result = .error e → o.exitCode = 1 ∧ o.standardOutput = "" ∧
    ∃ told, o.standardError = Log.text level analysis.entries ++ told

/-- An error changes no more than the end of the standard error. -/
theorem Outcome.same_failWith (o : Outcome) (e : AnalysisError) :
    (o.failWith e).requests = o.requests ∧ (o.failWith e).exitCode = o.exitCode ∧
      (o.failWith e).standardOutput = o.standardOutput ∧
      ∃ told, (o.failWith e).standardError = o.standardError ++ told := by
  have htell : ∀ message, (o.tell message).standardError =
      o.standardError ++ ("Error: " ++ message ++ "\n") := by
    intro message
    simp [tell, String.append_assoc]
  cases e with
  | unreadable file | ungrammatical file => exact ⟨rfl, rfl, rfl, _, htell _⟩
  | faulty fault | nullInPath => exact ⟨rfl, rfl, rfl, "", String.append_empty.symm⟩

theorem entries_summary (p : Project) (fs : FileSystem) :
    (p.summary fs).entries = (p.analyse fs).entries := by
  show ((p.analyse fs).bind _).entries = _
  rcases h : p.analyse fs with ⟨entries, _ | modules⟩
  · rfl
  · exact List.append_nil entries

theorem summarised_ofSummary (p : Project) (fs : FileSystem) {t : Task} (ht : t.summary = true) :
    Summarised t.level (p.analyse fs)
      (.ofSummary (t.logger.logAll (p.summary fs).entries) (p.summary fs).result) := by
  obtain ⟨houtput, herror⟩ := written_logger ht (p.summary fs).entries
  rw [entries_summary] at houtput herror ⊢
  cases hanalysis : (p.analyse fs).result with
  | ok modules =>
    have hsummary : (p.summary fs).result = .ok (DependencySummary.ofModules modules) :=
      Logged.result_bind_eq_ok.mpr ⟨modules, hanalysis, rfl⟩
    rw [hsummary]
    refine ⟨rfl, ?_, by simp [hanalysis]⟩
    intro modules' hmodules'
    cases hanalysis.symm.trans hmodules'
    refine ⟨rfl, rfl, ⟨_, ?_, DependencySummary.ofText?_text _⟩, herror⟩
    simp [Outcome.ofSummary, Outcome.echo, Outcome.ofLogger, houtput]
  | error e =>
    rw [Project.summary_error_iff.mpr hanalysis]
    obtain ⟨hrequests, hcode, hstandard, told, htold⟩ :=
      Outcome.same_failWith (.ofLogger 1 (t.logger.logAll (p.analyse fs).entries)) e
    refine ⟨hrequests, by simp [hanalysis], ?_⟩
    intro e' _
    exact ⟨hcode, hstandard.trans houtput, told, htold.trans (congrArg (· ++ told) herror)⟩

theorem summarised_run {fs : FileSystem} {arguments : List String} {t : Task}
    (hw : Written.read {} arguments = .ok w) (ht : task? fs w = .ok (some t))
    (hjson : .json ∈ w.flags) (renderer : Renderer) (search : String) :
    Summarised t.level ((Project.atTarget fs t.target t.recursive).analyse fs)
      (run fs renderer search arguments) := by
  have htask : Written.read {} arguments >>= task? fs = .ok (some t) :=
    except_bind_eq_ok.mpr ⟨w, hw, ht⟩
  have hsummary : t.summary = true := by simpa [hjson] using summary_of_task ht
  rw [run, htask]
  show Summarised _ _ (perform fs renderer search t)
  rw [perform, if_pos hsummary]
  exact summarised_ofSummary _ fs hsummary

/-- **The summary stands alone on the standard output.** With flags in any combination with that for
the summary, at any level, and with any way to write a task to print it, the standard output holds
the text of the summary and a line end, or nothing if the analysis fails; and nothing is drawn. -/
theorem summary_alone_on_standard_output (fs : FileSystem) (renderer : Renderer) (search : String) :
    (∀ flags words name l target, List.Forall₂ Flag.Word flags words → .json ∈ flags →
      .help ∉ flags → level name = .ok l → fs.contains target = true →
      Written.isOption target.toList = false → fs.isFolder "diagram.png" = false →
      Summarised l ((Project.atTarget fs target (.recursive ∈ flags)).analyse fs)
        (run fs renderer search (words ++ [levelOption, name, target]))) ∧
    ∀ arguments w t, Written.read {} arguments = .ok w → task? fs w = .ok (some t) →
      .json ∈ w.flags →
      Summarised t.level ((Project.atTarget fs t.target t.recursive).analyse fs)
        (run fs renderer search arguments) := by
  refine ⟨?words, ?any⟩
  case words =>
    intro flags words name l target hwords hjson hhelp hlevel htarget hargument houtput
    obtain ⟨w, hw, hflags, ht⟩ :=
      task_of_words hwords hhelp hlevel htarget hargument houtput
    exact summarised_run hw ht (hflags ▸ hjson) renderer search
  case any =>
    intro arguments w t hw ht hjson
    exact summarised_run hw ht hjson renderer search

theorem ofFile_of_parsed {fs : FileSystem} {root path text moduleName : String}
    {stmts : List Source.Stmt} {m : Module} (hpath : '\x00' ∉ path.toList)
    (hread : fs.readText? path = some text)
    (hname : ModuleName.ofPath? fs root path = some moduleName)
    (htext : '\x00' ∉ text.toList) (hparsed : Source.Program.ofText? text.toList = some stmts)
    (hrun : (ModuleAnalysis.run moduleName (isPackageFile path) stmts).result = .ok m) :
    (Module.ofFile fs root path).result = .ok m := by
  rw [Module.ofFile, Logged.result_log_bind, if_neg hpath, hread, hname]
  simp [Module.ofText, htext, hparsed, Logged.mapError, hrun, Except.mapError]

/-- Two projects of one file: a module with an import, and bytes that are no text. -/
def garden : FileSystem where
  root := .folder [
    ("ripe", .folder [("seed.py", .file "import nut".toUTF8)]),
    ("rotten", .folder [("core.py", .file ⟨#[0xFF]⟩)])]

theorem analyse_ripe : ∃ m,
    ((Project.atTarget garden "ripe" true).analyse garden).result = .ok [m] ∧
      DependencySummary.ofModules [m] = [⟨"seed", ["nut"]⟩] := by
  have hparsed : Source.Program.ofText? "import nut".toList =
      some [.importModules [⟨"nut", none⟩]] := by cbv
  have hread : garden.readText? "/ripe/seed.py" = some "import nut" := by decide +kernel
  have hname : ModuleName.ofPath? garden "/ripe" "/ripe/seed.py" = some "seed" := by decide +kernel
  have hroot : (Project.atTarget garden "ripe" true).root = "/ripe" := by decide +kernel
  have hsource : (garden.sourceFiles "/ripe" true : Logged AnalysisError _).result =
      .ok ["/ripe/seed.py"] := by decide +kernel
  obtain ⟨files, hfiles, hanalysis⟩ := (Project.atTarget garden "ripe" true).result_analyse garden
  rw [hroot] at hfiles hanalysis
  cases hsource.symm.trans hfiles
  have hfile : ∃ m, (Module.ofFile garden "/ripe" "/ripe/seed.py").result = .ok m ∧
      DependencySummary.ofModules [m] = [⟨"seed", ["nut"]⟩] := by
    refine ⟨_, ofFile_of_parsed (by decide) hread hname (by decide) hparsed rfl, ?_⟩
    decide +kernel
  obtain ⟨m, hm, hsummary⟩ := hfile
  refine ⟨m, ?_, hsummary⟩
  rw [hanalysis]
  exact Logged.result_bind_eq_ok.mpr ⟨m, hm, rfl⟩

theorem summary_alone_on_standard_output_garden :
    (∃ text,
      (run garden .missing "" ["-d", "--recursive", "--json", "--log-level", "DEBUG",
        "ripe"]).standardOutput = text ++ "\n" ∧
      DependencySummary.ofText? text = some [⟨"seed", ["nut"]⟩]) ∧
    (run garden .missing "" ["rotten", "--svg", "--json"]).standardOutput = "" := by
  obtain ⟨hwords, hany⟩ := summary_alone_on_standard_output garden .missing ""
  constructor
  · have hflags : List.Forall₂ Flag.Word [.dependencies, .recursive, .json]
        ["-d", "--recursive", "--json"] :=
      .cons (.short (c := 'd') rfl) (.cons (.long rfl) (.cons (.long rfl) .nil))
    have hrun := hwords _ _ "DEBUG" .debug "ripe" hflags (by decide) (by decide) (by decide)
      (by decide +kernel) (by decide) (by decide +kernel)
    obtain ⟨m, hm, hsummary⟩ := analyse_ripe
    obtain ⟨-, -, ⟨text, htext, hread⟩, -⟩ := hrun.printed [m] hm
    exact ⟨text, htext, hread.trans (congrArg some hsummary)⟩
  · have hw : Written.read {} ["rotten", "--svg", "--json"] =
        .ok { flags := [.svg, .json], arguments := ["rotten"] } := by decide +kernel
    have hfailed : ((Project.atTarget garden "rotten" false).analyse garden).result =
        .error (.unreadable "/rotten/core.py") := by
      refine Project.summary_error_iff.mp ?_
      decide +kernel
    have hrun := hany _ _ { target := "rotten", format := .svg, summary := true } hw
      (by decide +kernel) (by decide)
    exact (hrun.failed _ hfailed).2.1

end CommandLine

end ClassDiagram
