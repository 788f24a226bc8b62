import ClassDiagram.Project.Session
import ClassDiagram.Proofs.Project.Outcome

/-!
Calls on a project do not depend on those before them. Each call of a session is a task of the
project alone, which then remembers the modules of its analysis (`Task.call_eq`); so a reply, the
search path and the modules added are the same whatever is remembered (`gathers_perform`), and a
run of calls gathers them in order (`Gathers.getElem?_trail`).
-/

namespace ClassDiagram

/-! ## Steps that gather -/

section Trail

variable {σ ι ρ μ : Type} {step : σ → ι → ρ × σ} {holding : List μ → σ} {answer : ι → ρ}
  {found : ι → List μ}

theorem length_trail (step : σ → ι → ρ × σ) (s : σ) (xs : List ι) :
    (trail step s xs).length = xs.length := by
  induction xs generalizing s with
  | nil => rfl
  | cons x xs ih => exact congrArg (· + 1) (ih _)

/-- Whatever has been gathered, a step answers the same and adds the same to it. -/
def Gathers (step : σ → ι → ρ × σ) (holding : List μ → σ) (answer : ι → ρ) (found : ι → List μ) :
    Prop :=
  ∀ gathered x, step (holding gathered) x = (answer x, holding (gathered ++ found x))

theorem Gathers.trail_append (h : Gathers step holding answer found) (gathered : List μ)
    (before after : List ι) :
    trail step (holding gathered) (before ++ after) = trail step (holding gathered) before ++
      trail step (holding (gathered ++ before.flatMap found)) after := by
  induction before generalizing gathered with
  | nil => rw [List.flatMap_nil, List.append_nil, trail, List.nil_append, List.nil_append]
  | cons x before ih =>
    simp only [List.cons_append, trail, h gathered x, ih, List.flatMap_cons, List.append_assoc]

/-- The answer to a step in a run of steps, and the state behind it. -/
theorem Gathers.getElem?_trail (h : Gathers step holding answer found) (gathered : List μ)
    (before : List ι) (x : ι) (after : List ι) :
    (trail step (holding gathered) (before ++ x :: after))[before.length]? =
      some (answer x, holding (gathered ++ before.flatMap found ++ found x)) := by
  rw [h.trail_append, List.getElem?_append_right (length_trail ..).le, length_trail, Nat.sub_self,
    trail, List.getElem?_cons_zero, h]

end Trail

/-! ## Analyses -/

namespace Project

/-- The project when it remembers these modules. -/
def holding (p : Project) (modules : List Module) : Project := { p with modules }

/-- The project as it is before any analysis. -/
def fresh (p : Project) : Project := p.holding []

/-- The modules that an analysis adds to those remembered. -/
def gained (analysis : Logged AnalysisError (List Module)) : List Module :=
  analysis.result.toOption.getD []

variable {analysis : Logged AnalysisError (List Module)}

theorem gained_of_ok {modules : List Module} (h : analysis.result = .ok modules) :
    gained analysis = modules := by
  rw [gained, h]
  rfl

theorem gained_of_error {e : AnalysisError} (h : analysis.result = .error e) :
    gained analysis = [] := by
  rw [gained, h]
  rfl

theorem remember_eq (p : Project) (analysis : Logged AnalysisError (List Module)) :
    p.remember analysis = p.holding (p.modules ++ gained analysis) := by
  unfold remember
  cases h : analysis.result with
  | ok modules => rw [gained_of_ok h, holding]
  | error e => rw [gained_of_error h, List.append_nil, holding]

/-- Files are all analysed, each giving one module, or one of them is not. -/
theorem addFiles_outcome (fs : FileSystem) (p : Project) (paths : List String) :
    (∃ modules, (p.addFiles fs paths).1.result = .ok modules ∧
      List.Forall₂ (fun path m => (Module.ofFile fs p.root path).result = .ok m) paths modules) ∨
    ∃ path ∈ paths, ∃ e, (Module.ofFile fs p.root path).result = .error e ∧
      (p.addFiles fs paths).1.result = .error e := by
  rcases ofFiles_outcome fs p.root paths with hok | ⟨before, path, after, e, rfl, -, hpath, he⟩
  · exact .inl hok
  · exact .inr ⟨path, List.mem_append_right _ List.mem_cons_self, e, hpath, he⟩

/-- The modules that calls add: those in the files of the calls that succeed. -/
def gainedBy (p : Project) (fs : FileSystem) (calls : List (List String)) : List Module :=
  calls.flatMap fun paths => gained (p.fresh.addFiles fs paths).1

theorem gathers_addFiles (fs : FileSystem) (p : Project) :
    Gathers (fun (p : Project) paths => p.addFiles fs paths) p.holding
      (fun paths => (p.fresh.addFiles fs paths).1)
      (fun paths => gained (p.fresh.addFiles fs paths).1) :=
  fun gathered _ => congrArg (Prod.mk _) (remember_eq (p.holding gathered) _)

end Project

/-! ## Calls -/

theorem Shell.ofLogged_unanalysed_iff {α : Type} {x : Logged AnalysisError α}
    {s : Surroundings RenderTrace} {e : AnalysisError} :
    (ofLogged (x.mapError ProjectError.unanalysed) s).1 = .error (.unanalysed e) ↔
      x.result = .error e := by
  rw [run_ofLogged, Logged.mapError]
  cases x.result <;> simp [Except.mapError]

theorem Shell.ofLogged_ne_unrendered {α : Type} {x : Logged AnalysisError α}
    {s : Surroundings RenderTrace} {output : String} :
    (ofLogged (x.mapError ProjectError.unanalysed) s).1 ≠ .error (.unrendered output) := by
  rw [run_ofLogged, Logged.mapError]
  cases x.result <;> simp [Except.mapError]

namespace Session

variable {α β : Type}

theorem apart_bind (x : Shell RenderTrace ProjectError α)
    (f : α → Shell RenderTrace ProjectError β) :
    apart (x >>= f) = apart x >>= fun a => apart (f a) := by
  funext s
  rcases hx : x ⟨s.path, s.trace.trace⟩ with ⟨e | a, t⟩
  · have hrun : apart x s = (.error e, ⟨t.path, { s.trace with trace := t.trace }⟩) := by
      rw [apart, hx]
    rw [Shell.run_bind_error hrun, apart, Shell.run_bind_error hx]
  · have hrun : apart x s = (.ok a, ⟨t.path, { s.trace with trace := t.trace }⟩) := by
      rw [apart, hx]
    rw [Shell.run_bind_ok hrun, apart, Shell.run_bind_ok hx]
    rfl

/-- A task of the project, which then remembers the modules of its analysis. -/
def remembering (fs : FileSystem) (x : Project → Shell RenderTrace ProjectError α) : Call α :=
  fun s => apart (x s.trace.project) { s with trace.project := s.trace.project.afterTask fs }

variable {fs : FileSystem}

theorem remembering_bind (x : Project → Shell RenderTrace ProjectError α)
    (f : α → Shell RenderTrace ProjectError β) :
    (remembering fs x >>= fun a => apart (f a)) = remembering fs fun p => x p >>= f := by
  funext s
  show _ = apart (x s.trace.project >>= f) _
  rw [apart_bind]
  rfl

theorem remembering_bind_pure (x : Project → Shell RenderTrace ProjectError α) (f : α → β) :
    (remembering fs x >>= fun a => pure (f a)) =
      remembering fs fun p => x p >>= fun a => pure (f a) :=
  remembering_bind x fun a => pure (f a)

theorem analyse_eq (fs : FileSystem) :
    analyse fs = remembering fs fun p => Shell.ofLogged ((p.analyse fs).mapError .unanalysed) :=
  rfl

theorem draw_eq (fs : FileSystem) (dependenciesOnly : Bool) :
    draw fs dependenciesOnly = remembering fs fun p =>
      Shell.ofLogged ((p.draw fs dependenciesOnly).mapError .unanalysed) := by
  rw [draw, analyse_eq]
  refine (remembering_bind _ fun modules => Shell.ofLogged ((Project.diagramOf modules
    dependenciesOnly).mapError .unanalysed)).trans ?_
  simp only [Project.draw, Logged.mapError_bind, Shell.ofLogged_bind]

theorem summary_eq (fs : FileSystem) :
    summary fs = remembering fs fun p =>
      Shell.ofLogged ((p.summary fs).mapError .unanalysed) := by
  rw [summary, analyse_eq]
  refine (remembering_bind_pure ..).trans ?_
  simp only [Project.summary, Logged.mapError_bind, Logged.mapError_pure, Shell.ofLogged_bind,
    Shell.ofLogged_pure]

theorem create_eq (fs : FileSystem) (renderer : Renderer) (output : String)
    (dependenciesOnly : Bool) (format : ImageFormat) :
    create fs renderer output dependenciesOnly format = remembering fs fun p =>
      p.create fs renderer output dependenciesOnly format := by
  rw [create, draw_eq]
  exact remembering_bind _ fun d => Shell.render fs renderer (.unrendered output) d output format

/-- The task of a call by itself. -/
def Task.alone (fs : FileSystem) (p : Project) : Task → Shell RenderTrace ProjectError Answer
  | analyse => return .modules (← Shell.ofLogged ((p.analyse fs).mapError .unanalysed))
  | draw dependenciesOnly =>
    return .diagram (← Shell.ofLogged ((p.draw fs dependenciesOnly).mapError .unanalysed))
  | summarise => return .summaries (← Shell.ofLogged ((p.summary fs).mapError .unanalysed))
  | create renderer output dependenciesOnly format =>
    return .image (← p.create fs renderer output dependenciesOnly format)

/-- A call is its task, and the project remembers the modules of its analysis. -/
theorem Task.call_eq (fs : FileSystem) (t : Task) :
    t.call fs = remembering fs fun p => t.alone fs p := by
  cases t with
  | analyse =>
    rw [call, analyse_eq]
    exact remembering_bind_pure ..
  | draw dependenciesOnly =>
    rw [call, draw_eq]
    exact remembering_bind_pure ..
  | summarise =>
    rw [call, summary_eq]
    exact remembering_bind_pure ..
  | create renderer output dependenciesOnly format =>
    rw [call, create_eq]
    exact remembering_bind_pure ..

namespace Task

variable {p : Project} {t : Task}

/-- A task by itself does not see what the project remembers. -/
theorem alone_holding (fs : FileSystem) (p : Project) (t : Task) (modules : List Module) :
    t.alone fs (p.holding modules) = t.alone fs p := by
  cases t <;> rfl

theorem keepsPath_alone (fs : FileSystem) (p : Project) (t : Task) :
    Shell.KeepsPath (t.alone fs p) := by
  cases t with
  | analyse | draw | summarise =>
    exact (Shell.keepsPath_ofLogged _).bind fun _ => Shell.keepsPath_pure _
  | create renderer output dependenciesOnly format =>
    have hcreate : Shell.KeepsPath (p.create fs renderer output dependenciesOnly format) :=
      (Shell.keepsPath_ofLogged _).bind fun d => Shell.keepsPath_render _ _ _ d _ _
    exact hcreate.bind fun _ => Shell.keepsPath_pure _

theorem alone_unanalysed_iff {s : Surroundings RenderTrace} {e : AnalysisError} :
    (t.alone fs p s).1 = .error (.unanalysed e) ↔ (p.analyse fs).result = .error e := by
  cases t with
  | analyse => exact Shell.error_bind_pure.trans Shell.ofLogged_unanalysed_iff
  | draw dependenciesOnly =>
    exact (Shell.error_bind_pure.trans Shell.ofLogged_unanalysed_iff).trans
      (Project.draw_error_iff dependenciesOnly)
  | summarise =>
    exact (Shell.error_bind_pure.trans Shell.ofLogged_unanalysed_iff).trans
      Project.summary_error_iff
  | create renderer output dependenciesOnly format =>
    exact Shell.error_bind_pure.trans Project.create_unanalysed_iff

/-- Only a task that renders can fail in rendering. -/
theorem create_of_unrendered {s : Surroundings RenderTrace} {output : String}
    (h : (t.alone fs p s).1 = .error (.unrendered output)) :
    ∃ renderer dependenciesOnly format, t = .create renderer output dependenciesOnly format := by
  cases t with
  | analyse | draw | summarise =>
    exact absurd (Shell.error_bind_pure.mp h) Shell.ofLogged_ne_unrendered
  | create renderer other dependenciesOnly format =>
    rw [Project.output_of_unrendered (Shell.error_bind_pure.mp h)]
    exact ⟨renderer, dependenciesOnly, format, rfl⟩

end Task

theorem perform_reply (fs : FileSystem) (s : Session) (t : Task) :
    (s.perform fs t).1 = (let run := t.alone fs s.project ⟨s.path, {}⟩
      ⟨run.1, run.2.trace⟩) := by
  rw [perform, Task.call_eq]
  rfl

theorem perform_behind (fs : FileSystem) (s : Session) (t : Task) :
    (s.perform fs t).2 = ⟨s.project.afterTask fs, s.path⟩ := by
  have hpath := Task.keepsPath_alone fs s.project t ⟨s.path, {}⟩
  rw [perform, Task.call_eq]
  exact congrArg (Session.mk _) hpath

/-- The session when its project remembers these modules. -/
def holding (s : Session) (modules : List Module) : Session :=
  { s with project := s.project.holding modules }

/-- The session as it is before any call. -/
def fresh (s : Session) : Session := s.holding []

theorem gathers_perform (fs : FileSystem) (s : Session) :
    Gathers (perform fs) s.holding (fun t => (s.fresh.perform fs t).1)
      (fun _ => Project.gained (s.project.analyse fs)) := by
  intro gathered t
  refine Prod.ext ?reply ?behind
  case reply =>
    rw [perform_reply, perform_reply, holding, fresh, holding, Task.alone_holding,
      Task.alone_holding]
  case behind =>
    rw [perform_behind]
    exact congrArg (Session.mk · s.path) (Project.remember_eq (s.project.holding gathered) _)

theorem perform_unanalysed_iff {fs : FileSystem} {s : Session} {t : Task} {e : AnalysisError} :
    (s.perform fs t).1.result = .error (.unanalysed e) ↔
      (s.project.analyse fs).result = .error e := by
  rw [perform_reply]
  exact Task.alone_unanalysed_iff

/-- Where the analysis succeeds, a call gives its answer, or is one to render that only fails in
rendering. -/
theorem perform_of_analysed {fs : FileSystem} {s : Session} {modules : List Module}
    (h : (s.project.analyse fs).result = .ok modules) (t : Task) :
    (∃ answer, (s.perform fs t).1.result = .ok answer) ∨
      ∃ renderer output dependenciesOnly format,
        t = .create renderer output dependenciesOnly format ∧
        (s.perform fs t).1.result = .error (.unrendered output) := by
  rcases hresult : (s.perform fs t).1.result with (e | output) | answer
  · cases h.symm.trans (perform_unanalysed_iff.mp hresult)
  · rw [perform_reply] at hresult
    obtain ⟨renderer, dependenciesOnly, format, rfl⟩ := Task.create_of_unrendered hresult
    exact .inr ⟨renderer, output, dependenciesOnly, format, rfl, rfl⟩
  · exact .inl ⟨answer, rfl⟩

/-- Where the drawing program refuses, the project still remembers the modules. -/
theorem perform_create_of_refused {fs : FileSystem} {s : Session} {modules : List Module}
    {renderer : Renderer} (h : (s.project.analyse fs).result = .ok modules)
    (hrefused : ∀ r, ∃ failure, renderer r = .error failure) (output : String)
    (dependenciesOnly : Bool) (format : ImageFormat) :
    (s.perform fs (.create renderer output dependenciesOnly format)).1.result =
        .error (.unrendered output) ∧
      (s.perform fs (.create renderer output dependenciesOnly format)).2 =
        s.holding (s.project.modules ++ modules) := by
  constructor
  · obtain ⟨d, hd⟩ : ∃ d, (s.project.draw fs dependenciesOnly).result = .ok d := by
      cases hd : (s.project.draw fs dependenciesOnly).result with
      | ok d => exact ⟨d, rfl⟩
      | error e => cases h.symm.trans ((Project.draw_error_iff dependenciesOnly).mp hd)
    obtain ⟨failure, hfailure⟩ := hrefused ⟨output, format,
      Shell.pathWithin [SearchPath.holder? fs s.path] s.path, Dot.text d⟩
    rw [perform_reply]
    refine Shell.error_bind_pure.mpr ?_
    rw [Project.create_of_drawn hd, Shell.run_render fs renderer
      (ProjectError.unrendered output) d output format _ rfl, hfailure]
    rfl
  · rw [perform_behind, Project.afterTask, Project.remember_eq, Project.gained_of_ok h, holding]

end Session

/-- **A call on a project depends on no call before it.** It gives what it gives on a project that
remembers nothing; where a file fails the project stays as it was, and otherwise it grows by one
module for each file. The same holds for calls that draw or render, whatever becomes of them behind
their analysis. -/
theorem calls_independent_of_history (fs : FileSystem) :
    (∀ (p : Project) (before : List (List String)) (paths : List String) after, ∃ analysis q,
      (p.addAll fs (before ++ paths :: after))[before.length]? = some (analysis, q) ∧
      analysis = (p.fresh.addFiles fs paths).1 ∧
      ((∃ modules, analysis.result = .ok modules ∧
          List.Forall₂ (fun path m => (Module.ofFile fs p.root path).result = .ok m)
            paths modules ∧
          q = p.holding (p.modules ++ p.gainedBy fs before ++ modules)) ∨
        ∃ path ∈ paths, ∃ e, (Module.ofFile fs p.root path).result = .error e ∧
          analysis.result = .error e ∧ q = p.holding (p.modules ++ p.gainedBy fs before))) ∧
    ∀ (s : Session) (before : List Session.Task) (t : Session.Task) after, ∃ reply q files,
      (s.run fs (before ++ t :: after))[before.length]? = some (reply, q) ∧
      reply = (s.fresh.perform fs t).1 ∧
      (fs.sourceFiles s.project.root s.project.recursive : Logged AnalysisError _).result =
        .ok files ∧
      ((∃ modules, (s.project.fresh.addFiles fs files).1.result = .ok modules ∧
          ((∃ answer, reply.result = .ok answer) ∨
            ∃ renderer output dependenciesOnly format,
              t = .create renderer output dependenciesOnly format ∧
              reply.result = .error (.unrendered output)) ∧
          q = s.holding (s.project.modules ++
            (List.replicate before.length modules).flatten ++ modules)) ∨
        ∃ e, (s.project.fresh.addFiles fs files).1.result = .error e ∧
          reply.result = .error (.unanalysed e) ∧ q = s) := by
  constructor
  case left =>
    intro p before paths after
    refine ⟨_, _, (Project.gathers_addFiles fs p).getElem?_trail p.modules before paths after,
      rfl, ?_⟩
    rcases p.fresh.addFiles_outcome fs paths with ⟨modules, hok, heach⟩ | ⟨path, hmem, e, hpath, he⟩
    · refine .inl ⟨modules, hok, heach, ?_⟩
      rw [Project.gained_of_ok hok, Project.gainedBy]
    · refine .inr ⟨path, hmem, e, hpath, he, ?_⟩
      rw [Project.gained_of_error he, List.append_nil, Project.gainedBy]
  case right =>
    intro s before t after
    obtain ⟨files, hfiles, hanalyse⟩ := s.project.result_analyse fs
    refine ⟨_, _, files, (Session.gathers_perform fs s).getElem?_trail s.project.modules before t
      after, rfl, hfiles, ?_⟩
    have hfresh : (s.project.fresh.addFiles fs files).1.result = (s.project.analyse fs).result :=
      hanalyse.symm
    -- every call analyses the same files, so each one before this has added the same modules
    rw [hfresh, List.flatMap_def, List.map_const']
    cases hresult : (s.project.analyse fs).result with
    | ok modules =>
      have hanalysed : (s.fresh.project.analyse fs).result = .ok modules := hresult
      refine .inl ⟨modules, rfl, Session.perform_of_analysed hanalysed t, ?_⟩
      rw [Project.gained_of_ok hresult]
    | error e =>
      refine .inr ⟨e, rfl, Session.perform_unanalysed_iff.mpr hresult, ?_⟩
      rw [Project.gained_of_error hresult, List.flatten_replicate_nil, List.append_nil,
        List.append_nil]
      rfl

end ClassDiagram
