import ClassDiagram.CommandLine.Program
import ClassDiagram.Proofs.Analysis.Quotation
import ClassDiagram.Proofs.Render.Shell

/-!
How the analysis of files ends. It gives the modules of all files, in order, or an error about one
of them, unless a file is faulty: its path or its text holds the code point zero, or a string in its
annotations cannot be read. Faults end an analysis with errors that are about no file, and so the
program (`faults_alone_escape`).
-/

namespace ClassDiagram

open CommandLine (Task Outcome Written)

/-- An error that tells that a file cannot be read or parsed. -/
def AnalysisError.IsAbout (path : String) (e : AnalysisError) : Prop :=
  e = .unreadable path ∨ e = .ungrammatical path

@[simp] theorem AnalysisError.not_isAbout_faulty (fault : TextFault) (path : String) :
    ¬ (faulty fault).IsAbout path := by simp [IsAbout]

@[simp] theorem AnalysisError.not_isAbout_nullInPath (path : String) :
    ¬ nullInPath.IsAbout path := by simp [IsAbout]

/-! ## Texts -/

/-- A text that cannot be analysed whatever the grammar: it holds the code point zero, or is that of
statements with a string in their annotations that is read and has a fault. -/
def FaultyText (moduleName : String) (isPackage : Bool) (text : String) : Prop :=
  '\x00' ∈ text.toList ∨ ∃ stmts, Source.Program.ofText? text.toList = some stmts ∧
    ∃ value, ParsedSource.Reads ⟨moduleName, isPackage, stmts⟩ value ∧
      Annotation.fault? value ≠ none

section Text

variable {moduleName text : String} {isPackage : Bool}

theorem ofText_of_faulty (file : String) (h : FaultyText moduleName isPackage text) :
    ∃ fault, (Module.ofText file moduleName isPackage text).result = .error (.faulty fault) := by
  rw [Module.ofText]
  by_cases hnull : '\x00' ∈ text.toList
  · rw [if_pos hnull]
    exact ⟨_, rfl⟩
  · rcases h with h | ⟨stmts, hstmts, value, hreads, hfault⟩
    · exact absurd h hnull
    · rw [if_neg hnull, hstmts]
      show ∃ fault, (ParsedSource.module ⟨moduleName, isPackage, stmts⟩).result.mapError _ = _
      cases hmodule : (ParsedSource.module ⟨moduleName, isPackage, stmts⟩).result with
      | ok m => exact absurd (ParsedSource.succeeds_module.mp ⟨m, hmodule⟩ value hreads) hfault
      | error fault => exact ⟨fault, rfl⟩

theorem ofText_of_not_faulty (file : String) (h : ¬ FaultyText moduleName isPackage text) :
    (∃ m, (Module.ofText file moduleName isPackage text).result = .ok m) ∨
      (Module.ofText file moduleName isPackage text).result = .error (.ungrammatical file) := by
  have hnull : '\x00' ∉ text.toList := fun hnull => h (.inl hnull)
  rw [Module.ofText, if_neg hnull]
  cases hstmts : Source.Program.ofText? text.toList with
  | none => exact .inr rfl
  | some stmts =>
    left
    have hsound : ∀ value, ParsedSource.Reads ⟨moduleName, isPackage, stmts⟩ value →
        Annotation.fault? value = none := by
      intro value hreads
      by_contra hfault
      exact h (.inr ⟨stmts, hstmts, value, hreads, hfault⟩)
    obtain ⟨m, hm⟩ := ParsedSource.succeeds_module.mpr hsound
    refine ⟨m, ?_⟩
    show (ParsedSource.module ⟨moduleName, isPackage, stmts⟩).result.mapError _ = _
    rw [hm]
    rfl

end Text

/-! ## Files -/

/-- A file whose path holds the code point zero, or whose text is faulty. -/
def FaultyFile (fs : FileSystem) (root path : String) : Prop :=
  '\x00' ∈ path.toList ∨ ∃ text moduleName, fs.readText? path = some text ∧
    ModuleName.ofPath? fs root path = some moduleName ∧
      FaultyText moduleName (isPackageFile path) text

section Files

variable {fs : FileSystem} {root path : String}

theorem ofFile_of_faulty (h : FaultyFile fs root path) :
    ∃ e, (Module.ofFile fs root path).result = .error e ∧ ∀ file, ¬ e.IsAbout file := by
  rw [Module.ofFile, Logged.result_log_bind]
  by_cases hnull : '\x00' ∈ path.toList
  · rw [if_pos hnull]
    exact ⟨_, rfl, AnalysisError.not_isAbout_nullInPath⟩
  · rcases h with h | ⟨text, moduleName, htext, hname, hfaulty⟩
    · exact absurd h hnull
    · rw [if_neg hnull, htext, hname]
      obtain ⟨fault, hfault⟩ := ofText_of_faulty path hfaulty
      exact ⟨_, hfault, AnalysisError.not_isAbout_faulty fault⟩

theorem ofFile_of_not_faulty (h : ¬ FaultyFile fs root path) :
    (∃ m, (Module.ofFile fs root path).result = .ok m) ∨
      ∃ e, (Module.ofFile fs root path).result = .error e ∧ e.IsAbout path := by
  have hnull : '\x00' ∉ path.toList := fun hnull => h (.inl hnull)
  rw [Module.ofFile, Logged.result_log_bind, if_neg hnull]
  cases htext : fs.readText? path with
  | none => exact .inr ⟨_, rfl, .inl rfl⟩
  | some text =>
    cases hname : ModuleName.ofPath? fs root path with
    | none => exact .inr ⟨_, rfl, .inl rfl⟩
    | some moduleName =>
      have hsound : ¬ FaultyText moduleName (isPackageFile path) text :=
        fun hfaulty => h (.inr ⟨text, moduleName, htext, hname, hfaulty⟩)
      rcases ofText_of_not_faulty path hsound with hok | herror
      · exact .inl hok
      · exact .inr ⟨_, herror, .inr rfl⟩

/-- The analysis of files goes through them in order, up to the first that fails. -/
theorem ofFiles_outcome (fs : FileSystem) (root : String) (paths : List String) :
    (∃ modules, (Module.ofFiles fs root paths).result = .ok modules ∧
      List.Forall₂ (fun path m => (Module.ofFile fs root path).result = .ok m) paths modules) ∨
    ∃ before path after e, paths = before ++ path :: after ∧
      (∀ q ∈ before, ∃ m, (Module.ofFile fs root q).result = .ok m) ∧
      (Module.ofFile fs root path).result = .error e ∧
      (Module.ofFiles fs root paths).result = .error e := by
  induction paths with
  | nil => exact .inl ⟨[], rfl, .nil⟩
  | cons path paths ih =>
    cases hpath : (Module.ofFile fs root path).result with
    | error e =>
      have hall : (Module.ofFiles fs root (path :: paths)).result = .error e :=
        Logged.result_bind_eq_error.mpr (.inl hpath)
      exact .inr ⟨[], path, paths, e, rfl, List.forall_mem_nil _, hpath, hall⟩
    | ok m =>
      rcases ih with ⟨modules, hmodules, heach⟩ | ⟨before, q, after, e, rfl, hbefore, hq, he⟩
      · have hall : (Module.ofFiles fs root (path :: paths)).result = .ok (m :: modules) :=
          Logged.result_bind_eq_ok.mpr
            ⟨m, hpath, Logged.result_bind_eq_ok.mpr ⟨modules, hmodules, rfl⟩⟩
        exact .inl ⟨m :: modules, hall, .cons hpath heach⟩
      · have hall : (Module.ofFiles fs root (path :: (before ++ q :: after))).result = .error e :=
          Logged.result_bind_eq_error.mpr
            (.inr ⟨m, hpath, Logged.result_bind_pure_eq_error.mpr he⟩)
        have hsound : ∀ p ∈ path :: before, ∃ m, (Module.ofFile fs root p).result = .ok m :=
          List.forall_mem_cons.mpr ⟨⟨m, hpath⟩, hbefore⟩
        exact .inr ⟨path :: before, q, after, e, rfl, hsound, hq, hall⟩

end Files

/-! ## The program -/

/-- Looking for source files never fails. -/
theorem FileSystem.result_sourceFiles (fs : FileSystem) (ε : Type) (target : String)
    (recursive : Bool) :
    ∃ files, (fs.sourceFiles target recursive : Logged ε (List String)).result = .ok files := by
  unfold sourceFiles
  split <;> exact ⟨_, rfl⟩

namespace Project

variable {p : Project} {fs : FileSystem} {e : AnalysisError}

/-- The analysis of a project is that of its source files. -/
theorem result_analyse (p : Project) (fs : FileSystem) :
    ∃ files, (fs.sourceFiles p.root p.recursive : Logged AnalysisError _).result = .ok files ∧
      (p.analyse fs).result = (Module.ofFiles fs p.root files).result := by
  obtain ⟨files, hfiles⟩ := fs.result_sourceFiles AnalysisError p.root p.recursive
  refine ⟨files, hfiles, ?_⟩
  rw [analyse, Logged.result_log_bind, Logged.result_bind_of_ok hfiles, Logged.result_log_bind]
  cases hmodules : (Module.ofFiles fs p.root files).result with
  | ok modules =>
    rw [Logged.result_bind_of_ok hmodules]
    rfl
  | error e => exact Logged.result_bind_eq_error.mpr (.inl hmodules)

theorem analyse_error_iff :
    (p.analyse fs).result = .error e ↔
      ∃ files, (fs.sourceFiles p.root p.recursive : Logged AnalysisError _).result = .ok files ∧
        (Module.ofFiles fs p.root files).result = .error e := by
  obtain ⟨files, hfiles, hresult⟩ := p.result_analyse fs
  rw [hresult]
  constructor
  · exact fun h => ⟨files, hfiles, h⟩
  · rintro ⟨files', hfiles', h⟩
    cases hfiles.symm.trans hfiles'
    exact h

theorem summary_error_iff :
    (p.summary fs).result = .error e ↔ (p.analyse fs).result = .error e :=
  Logged.result_bind_pure_eq_error

theorem draw_error_iff (dependenciesOnly : Bool) :
    (p.draw fs dependenciesOnly).result = .error e ↔ (p.analyse fs).result = .error e := by
  refine Logged.result_bind_eq_error.trans (or_iff_left ?_)
  rintro ⟨modules, -, h⟩
  cases dependenciesOnly <;> cases h

section Create

variable {renderer : Renderer} {output : String} {dependenciesOnly : Bool} {format : ImageFormat}
  {s : Surroundings RenderTrace}

theorem create_of_drawn {d : Diagram} (h : (p.draw fs dependenciesOnly).result = .ok d) :
    p.create fs renderer output dependenciesOnly format s =
      Shell.render fs renderer (.unrendered output) d output format
        { s with trace.log := s.trace.log ++ (p.draw fs dependenciesOnly).entries } := by
  have hresult : ((p.draw fs dependenciesOnly).mapError ProjectError.unanalysed).result =
      .ok d := by
    rw [Logged.mapError, h]
    rfl
  have hrun := Shell.run_ofLogged ((p.draw fs dependenciesOnly).mapError ProjectError.unanalysed) s
  rw [hresult] at hrun
  exact Shell.run_bind_ok hrun _

theorem create_of_undrawn (h : (p.draw fs dependenciesOnly).result = .error e) :
    (p.create fs renderer output dependenciesOnly format s).1 = .error (.unanalysed e) := by
  have hresult : ((p.draw fs dependenciesOnly).mapError ProjectError.unanalysed).result =
      .error (.unanalysed e) := by
    rw [Logged.mapError, h]
    rfl
  have hrun := Shell.run_ofLogged ((p.draw fs dependenciesOnly).mapError ProjectError.unanalysed) s
  rw [hresult] at hrun
  rw [create, Shell.run_bind_error hrun]

/-- A project gives no image because of an error in its analysis, or because of the drawing
program. -/
theorem create_unanalysed_iff :
    (p.create fs renderer output dependenciesOnly format s).1 = .error (.unanalysed e) ↔
      (p.analyse fs).result = .error e := by
  rw [← draw_error_iff dependenciesOnly]
  cases hdraw : (p.draw fs dependenciesOnly).result with
  | error e' => simp [create_of_undrawn hdraw]
  | ok d =>
    rw [create_of_drawn hdraw]
    refine iff_of_false ?_ (by simp)
    intro h
    cases Shell.error_render h

theorem output_of_unrendered {other : String}
    (h : (p.create fs renderer output dependenciesOnly format s).1 = .error (.unrendered other)) :
    other = output := by
  cases hdraw : (p.draw fs dependenciesOnly).result with
  | error e =>
    rw [create_of_undrawn hdraw] at h
    cases h
  | ok d =>
    rw [create_of_drawn hdraw] at h
    exact ProjectError.unrendered.inj (Shell.error_render h)

end Create

end Project

namespace CommandLine

variable {e : AnalysisError}

theorem Outcome.failWith_uncaught_iff {o : Outcome} {e' : AnalysisError}
    (ho : o.uncaught = none) :
    (o.failWith e').uncaught = some e ↔ e' = e ∧ ∀ file, ¬ e.IsAbout file := by
  cases e' with
  | unreadable file =>
    refine iff_of_false (by simp [failWith, tell, ho]) ?_
    rintro ⟨rfl, h⟩
    exact h file (.inl rfl)
  | ungrammatical file =>
    refine iff_of_false (by simp [failWith, tell, ho]) ?_
    rintro ⟨rfl, h⟩
    exact h file (.inr rfl)
  | faulty fault =>
    constructor
    · rintro ⟨⟩
      exact ⟨rfl, AnalysisError.not_isAbout_faulty fault⟩
    · exact fun h => congrArg some h.1
  | nullInPath =>
    constructor
    · rintro ⟨⟩
      exact ⟨rfl, AnalysisError.not_isAbout_nullInPath⟩
    · exact fun h => congrArg some h.1

theorem Outcome.ofSummary_uncaught_iff {l : Logger}
    {result : Except AnalysisError (List DependencySummary)} :
    (ofSummary l result).uncaught = some e ↔
      result = .error e ∧ ∀ file, ¬ e.IsAbout file := by
  unfold ofSummary
  cases result with
  | ok summaries => simp [ofLogger, echo]
  | error e' => simpa using failWith_uncaught_iff (o := ofLogger 1 l) rfl

theorem Outcome.ofDrawing_uncaught_iff {l : Logger} {result : Except ProjectError String}
    {requests : List RenderRequest} :
    (ofDrawing l result requests).uncaught = some e ↔
      result = .error (.unanalysed e) ∧ ∀ file, ¬ e.IsAbout file := by
  unfold ofDrawing
  rcases result with (e' | output) | file
  · simpa using failWith_uncaught_iff (o := ofLogger 1 l) rfl
  · simp [ofLogger, tell]
  · simp [ofLogger, echo]

theorem perform_uncaught_iff {fs : FileSystem} {renderer : Renderer} {search : String} {t : Task} :
    (perform fs renderer search t).uncaught = some e ↔
      ((Project.atTarget fs t.target t.recursive).analyse fs).result = .error e ∧
        ∀ file, ¬ e.IsAbout file := by
  unfold perform
  split
  · rw [Outcome.ofSummary_uncaught_iff, Project.summary_error_iff]
  · exact Outcome.ofDrawing_uncaught_iff.trans (and_congr_left' Project.create_unanalysed_iff)

theorem run_uncaught_iff {fs : FileSystem} {renderer : Renderer} {search : String}
    {arguments : List String} :
    (run fs renderer search arguments).uncaught = some e ↔
      ∃ t, (Written.read {} arguments >>= task? fs) = .ok (some t) ∧
        ((Project.atTarget fs t.target t.recursive).analyse fs).result = .error e ∧
          ∀ file, ¬ e.IsAbout file := by
  unfold run
  rcases Written.read {} arguments >>= task? fs with usage | _ | t
  · simp [Outcome.ofUsageError]
  · simp [Outcome.help]
  · simp [perform_uncaught_iff]

end CommandLine

/-! ## Faults -/

theorem not_faulty_of_ofFile_ok {fs : FileSystem} {root path : String} {m : Module}
    (h : (Module.ofFile fs root path).result = .ok m) : ¬ FaultyFile fs root path := by
  intro hfaulty
  obtain ⟨e, he, -⟩ := ofFile_of_faulty hfaulty
  rw [h] at he
  cases he

/-- Faults, and nothing else, end an analysis with an error that is about no file; and the program
ends with an error as it is just if the analysis of the files at its target ends so. -/
theorem faults_alone_escape (fs : FileSystem) :
    (∀ file moduleName isPackage text,
      (FaultyText moduleName isPackage text ∧
        ∃ fault, (Module.ofText file moduleName isPackage text).result = .error (.faulty fault)) ∨
      (¬ FaultyText moduleName isPackage text ∧
        ((∃ m, (Module.ofText file moduleName isPackage text).result = .ok m) ∨
          (Module.ofText file moduleName isPackage text).result = .error (.ungrammatical file)))) ∧
    (∀ root paths,
      (∃ modules, (Module.ofFiles fs root paths).result = .ok modules ∧
        List.Forall₂ (fun path m => ¬ FaultyFile fs root path ∧
          (Module.ofFile fs root path).result = .ok m) paths modules) ∨
      ∃ before path after e, paths = before ++ path :: after ∧
        (∀ q ∈ before, ¬ FaultyFile fs root q ∧
          ∃ m, (Module.ofFile fs root q).result = .ok m) ∧
        (Module.ofFiles fs root paths).result = .error e ∧
        ((¬ FaultyFile fs root path ∧ e.IsAbout path) ∨
          (FaultyFile fs root path ∧ ∀ file, ¬ e.IsAbout file))) ∧
    ∀ renderer search arguments e,
      (CommandLine.run fs renderer search arguments).uncaught = some e ↔
        ∃ t files, (Written.read {} arguments >>= CommandLine.task? fs) = .ok (some t) ∧
          (fs.sourceFiles (fs.absolute t.target).text t.recursive :
            Logged AnalysisError _).result = .ok files ∧
          (Module.ofFiles fs (fs.absolute t.target).text files).result = .error e ∧
          ∀ file, ¬ e.IsAbout file := by
  refine ⟨?texts, ?files, ?program⟩
  case texts =>
    intro file moduleName isPackage text
    by_cases hfaulty : FaultyText moduleName isPackage text
    · exact .inl ⟨hfaulty, ofText_of_faulty file hfaulty⟩
    · exact .inr ⟨hfaulty, ofText_of_not_faulty file hfaulty⟩
  case files =>
    intro root paths
    rcases ofFiles_outcome fs root paths with
      ⟨modules, hmodules, heach⟩ | ⟨before, path, after, e, hpaths, hbefore, he, hall⟩
    · exact .inl ⟨modules, hmodules, heach.imp fun _ _ hm => ⟨not_faulty_of_ofFile_ok hm, hm⟩⟩
    · refine .inr ⟨before, path, after, e, hpaths, ?_, hall, ?_⟩
      · intro q hq
        obtain ⟨m, hm⟩ := hbefore q hq
        exact ⟨not_faulty_of_ofFile_ok hm, m, hm⟩
      · by_cases hfaulty : FaultyFile fs root path
        · obtain ⟨e', he', habout⟩ := ofFile_of_faulty hfaulty
          obtain rfl : e = e' := Except.error.inj (he.symm.trans he')
          exact .inr ⟨hfaulty, habout⟩
        · rcases ofFile_of_not_faulty hfaulty with ⟨m, hm⟩ | ⟨e', he', habout⟩
          · cases he.symm.trans hm
          · obtain rfl : e = e' := Except.error.inj (he.symm.trans he')
            exact .inl ⟨hfaulty, habout⟩
  case program =>
    intro renderer search arguments e
    rw [CommandLine.run_uncaught_iff]
    constructor
    · rintro ⟨t, ht, he, habout⟩
      obtain ⟨files, hfiles, he⟩ := Project.analyse_error_iff.mp he
      exact ⟨t, files, ht, hfiles, he, habout⟩
    · rintro ⟨t, files, ht, hfiles, he, habout⟩
      exact ⟨t, ht, Project.analyse_error_iff.mpr ⟨files, hfiles, he⟩, habout⟩

/-- A text with the code point zero in it is not told to be ungrammatical. -/
theorem null_text_escapes :
    ¬ ∀ file moduleName isPackage text,
      (∃ m, (Module.ofText file moduleName isPackage text).result = .ok m) ∨
        (Module.ofText file moduleName isPackage text).result = .error (.ungrammatical file) := by
  intro h
  have hfault : (Module.ofText "m.py" "m" false "x = 1\n\x00").result =
      .error (.faulty .nullCharacter) := by
    rw [Module.ofText, if_pos (by decide)]
    rfl
  rcases h "m.py" "m" false "x = 1\n\x00" with ⟨m, hm⟩ | hungrammatical
  · cases hfault.symm.trans hm
  · cases hfault.symm.trans hungrammatical

end ClassDiagram
