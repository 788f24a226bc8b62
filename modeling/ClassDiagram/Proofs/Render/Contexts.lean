import ClassDiagram.Project.Project
import ClassDiagram.Proofs.Render.Shell

/-!
Directories put on the search path, and taken away again. Code that does so in contexts nested to
any depth (`Code`) runs as if the search path were told to each of its steps, and never changed
(`run_eq_runAt`): the directories of the contexts around a step, from the innermost outwards, stand
before the path at the start. It leaves the path as it was, however it ends. Rendering is one
context around one request, on the path that the search for the drawing program asks for
(`search_path_put_back`).
-/

namespace ClassDiagram

namespace Shell

variable {τ ε α β : Type}

/-- Code in contexts, each of which puts a directory on the search path. Steps follow each other,
and their failures may be caught. -/
inductive Code (τ ε : Type)
  | step (x : Shell τ ε Unit)
  | seq (first rest : Code τ ε)
  | recover (body : Code τ ε) (handler : ε → Code τ ε)
  | within (location : Option String) (body : Code τ ε)

/-- A computation that is told the search path. -/
def seeing (path : String) (x : Shell τ ε α) : Shell τ ε α := fun s =>
  ((x { s with path }).1, { (x { s with path }).2 with path := s.path })

namespace Code

def run : Code τ ε → Shell τ ε Unit
  | step x => x
  | seq first rest => do
    first.run
    rest.run
  | recover body handler => tryCatch body.run fun e => (handler e).run
  | within location body => withLocation location body.run

/-- Runs code in contexts, and tells each step its path. -/
def runAt (original : String) : List (Option String) → Code τ ε → Shell τ ε Unit
  | locations, step x => seeing (pathWithin locations original) x
  | locations, seq first rest => do
    first.runAt original locations
    rest.runAt original locations
  | locations, recover body handler =>
    tryCatch (body.runAt original locations) fun e => (handler e).runAt original locations
  | locations, within location body => body.runAt original (location :: locations)

/-- No step of the code changes the search path. -/
def LeavesPath : Code τ ε → Prop
  | step x => KeepsPath x
  | seq first rest => first.LeavesPath ∧ rest.LeavesPath
  | recover body handler => body.LeavesPath ∧ ∀ e, (handler e).LeavesPath
  | within _ body => body.LeavesPath

end Code

theorem run_tryCatch_ok {x : Shell τ ε α} {s t : Surroundings τ} {a : α} (h : x s = (.ok a, t))
    (handler : ε → Shell τ ε α) : tryCatch x handler s = (.ok a, t) := by
  show (ExceptT.tryCatch x handler).run s = _
  rw [ExceptT.tryCatch, ExceptT.run_mk]
  show StateT.bind _ _ s = _
  rw [StateT.bind, h]
  rfl

theorem run_tryCatch_error {x : Shell τ ε α} {s t : Surroundings τ} {e : ε}
    (h : x s = (.error e, t)) (handler : ε → Shell τ ε α) :
    tryCatch x handler s = handler e t := by
  show (ExceptT.tryCatch x handler).run s = _
  rw [ExceptT.tryCatch, ExceptT.run_mk]
  show StateT.bind _ _ s = _
  rw [StateT.bind, h]
  rfl

theorem KeepsPath.tryCatch {x : Shell τ ε α} {handler : ε → Shell τ ε α} (hx : KeepsPath x)
    (hhandler : ∀ e, KeepsPath (handler e)) : KeepsPath (tryCatch x handler) := by
  intro s
  rcases hrun : x s with ⟨e | a, t⟩
  · rw [run_tryCatch_error hrun, hhandler e t, ← hx s, hrun]
  · rw [run_tryCatch_ok hrun, ← hx s, hrun]

theorem seeing_of_keepsPath {x : Shell τ ε α} (hx : KeepsPath x) (s : Surroundings τ) :
    seeing s.path x s = x s := by
  show ((x s).1, { (x s).2 with path := s.path }) = x s
  rw [← hx s]
  rfl

/-- A computation that does not see the search path, and keeps it. -/
def PathBlind (x : Shell τ ε α) : Prop :=
  ∀ s path, x { s with path } = ((x s).1, { (x s).2 with path })

theorem pathBlind_seeing (path : String) (x : Shell τ ε α) : PathBlind (seeing path x) :=
  fun _ _ => rfl

theorem PathBlind.bind {x : Shell τ ε α} {f : α → Shell τ ε β} (hx : PathBlind x)
    (hf : ∀ a, PathBlind (f a)) : PathBlind (x >>= f) := by
  intro s path
  have hpath := hx s path
  rcases hrun : x s with ⟨e | a, t⟩ <;> rw [hrun] at hpath
  · rw [run_bind_error hrun, run_bind_error hpath]
  · rw [run_bind_ok hrun, run_bind_ok hpath, hf a t path]

theorem PathBlind.tryCatch {x : Shell τ ε α} {handler : ε → Shell τ ε α} (hx : PathBlind x)
    (hhandler : ∀ e, PathBlind (handler e)) : PathBlind (tryCatch x handler) := by
  intro s path
  have hpath := hx s path
  rcases hrun : x s with ⟨e | a, t⟩ <;> rw [hrun] at hpath
  · rw [run_tryCatch_error hrun, run_tryCatch_error hpath, hhandler e t path]
  · rw [run_tryCatch_ok hrun, run_tryCatch_ok hpath]

namespace Code

variable {c : Code τ ε}

theorem keepsPath_run (h : c.LeavesPath) : KeepsPath c.run := by
  induction c with
  | step x => exact h
  | seq first rest ihfirst ihrest => exact (ihfirst h.1).bind fun _ => ihrest h.2
  | recover body handler ihbody ihhandler =>
    exact (ihbody h.1).tryCatch fun e => ihhandler e (h.2 e)
  | within location body ih => exact (ih h).withLocation location

theorem pathBlind_runAt (original : String) (locations : List (Option String)) :
    PathBlind (c.runAt original locations) := by
  induction c generalizing locations with
  | step x => exact pathBlind_seeing _ x
  | seq first rest ihfirst ihrest => exact (ihfirst locations).bind fun _ => ihrest locations
  | recover body handler ihbody ihhandler =>
    exact (ihbody locations).tryCatch fun e => ihhandler e locations
  | within location body ih => exact ih (location :: locations)

/-- Code in contexts runs as if each step were told the search path. -/
theorem run_eq_runAt (h : c.LeavesPath) (original : String) {locations : List (Option String)}
    {s : Surroundings τ} (hs : s.path = pathWithin locations original) :
    c.run s = c.runAt original locations s := by
  induction c generalizing locations s with
  | step x =>
    rw [runAt, ← hs, seeing_of_keepsPath h, run]
  | seq first rest ihfirst ihrest =>
    have hfirst := ihfirst h.1 hs
    have hpath := keepsPath_run h.1 s
    rcases hrun : first.run s with ⟨e | a, t⟩ <;> rw [hrun] at hfirst hpath
    · rw [run, runAt, run_bind_error hrun, run_bind_error hfirst.symm]
    · rw [run, runAt, run_bind_ok hrun, run_bind_ok hfirst.symm, ihrest h.2 (hpath.trans hs)]
  | recover body handler ihbody ihhandler =>
    have hbody := ihbody h.1 hs
    have hpath := keepsPath_run h.1 s
    rcases hrun : body.run s with ⟨e | a, t⟩ <;> rw [hrun] at hbody hpath
    · rw [run, runAt, run_tryCatch_error hrun, run_tryCatch_error hbody.symm,
        ihhandler e (h.2 e) (hpath.trans hs)]
    · rw [run, runAt, run_tryCatch_ok hrun, run_tryCatch_ok hbody.symm]
  | within location body ih =>
    rw [run, runAt]
    by_cases hempty : ∀ l ∈ location, l = ""
    · rw [withLocation_empty hempty]
      exact ih h (hs.trans (pathWithin_cons_empty hempty locations original).symm)
    · obtain ⟨l, rfl, hl⟩ := eq_some_of_not_empty hempty
      have hinner : ({ s with path := l ++ ":" ++ s.path } : Surroundings τ).path =
          pathWithin (some l :: locations) original := by
        rw [pathWithin_cons hl, ← hs]
      have hblind := pathBlind_runAt (c := body) original (some l :: locations)
      have hbody := (ih h hinner).trans (hblind s (l ++ ":" ++ s.path))
      rw [withLocation, if_neg hl, hbody]
      exact (hblind s s.path).symm

end Code

end Shell

/-! ## Rendering -/

namespace SearchPath

/-- A directory on a search path holds the drawing program. -/
def Holds (fs : FileSystem) (d : String) : Prop :=
  d ≠ "" ∧ fs.isFile (Path.join d executable) = true

/-- A directory is the first one on a search path that holds the drawing program. -/
def IsFirst (fs : FileSystem) (path location : String) : Prop :=
  ∃ before after, directories path = before ++ location :: after ∧ Holds fs location ∧
    ∀ d ∈ before, ¬ Holds fs d

theorem holder?_eq_some_iff {fs : FileSystem} {path location : String} :
    holder? fs path = some location ↔ IsFirst fs path location := by
  rw [holder?, List.find?_eq_some_iff_append]
  constructor
  · rintro ⟨hlocation, before, after, hpath, hbefore⟩
    refine ⟨before, after, hpath, by simpa [Holds] using hlocation, fun d hd => ?_⟩
    simpa [Holds, Decidable.or_iff_not_imp_left] using hbefore d hd
  · rintro ⟨before, after, hpath, hlocation, hbefore⟩
    refine ⟨by simpa [Holds] using hlocation, before, after, hpath, fun d hd => ?_⟩
    simpa [Holds, Decidable.or_iff_not_imp_left] using hbefore d hd

theorem holder?_eq_none_iff {fs : FileSystem} {path : String} :
    holder? fs path = none ↔ ∀ d ∈ directories path, ¬ Holds fs d := by
  simp [holder?, Holds]

end SearchPath

namespace Shell

open SearchPath (holder? IsFirst Holds directories)

variable {τ ε : Type}

theorem warnings_renderLog (found : Option String) (output : String) (format : ImageFormat)
    (answer : Except RenderFailure String) :
    (renderLog found output format answer).filter (·.level = .warning) =
      if found = none then [SearchPath.notFound] else [] := by
  cases found <;> cases answer <;> rfl

/-- **The search path is always put back.** Code in contexts runs as if each step were told the path
of the contexts around it, and leaves the path as it was, however it ends. So rendering asks the
drawing program once, on the path with the first directory that holds it in front, or on the path as
it is, with a warning; whatever keeps the program from an image gives the same error. -/
theorem search_path_put_back :
    (∀ {τ ε : Type} (c : Code τ ε), c.LeavesPath → ∀ s,
      c.run s = c.runAt s.path [] s ∧ (c.run s).2.path = s.path) ∧
    (∀ fs platform path, platform ≠ "win32" →
      (SearchPath.locate fs platform path : Logged ProjectError _) =
        SearchPath.locate fs "linux" path) ∧
    ∀ fs renderer d output format s, ∃ (request : RenderRequest) (entries : Log),
      render fs renderer (ProjectError.unrendered output) d output format s =
        ((renderer request).mapError fun _ => .unrendered output,
          ⟨s.path, s.trace.log ++ entries, s.trace.requests ++ [request]⟩) ∧
      request = ⟨output, format, request.path, Dot.text d⟩ ∧
      ((∃ location, IsFirst fs s.path location ∧ request.path = location ++ ":" ++ s.path ∧
          entries.filter (·.level = .warning) = []) ∨
        (∀ d ∈ directories s.path, ¬ Holds fs d) ∧ request.path = s.path ∧
          entries.filter (·.level = .warning) = [SearchPath.notFound]) := by
  refine ⟨?code, ?platform, ?render⟩
  case code =>
    intro τ ε c hc s
    exact ⟨Code.run_eq_runAt hc s.path (pathWithin_nil s.path).symm, Code.keepsPath_run hc s⟩
  case platform =>
    intro fs platform path hplatform
    rw [locate_eq fs hplatform, locate_eq fs (by decide)]
  case render =>
    intro fs renderer d output format s
    refine ⟨_, _, run_render fs renderer _ d output format s rfl, rfl, ?_⟩
    rw [warnings_renderLog]
    cases hfound : holder? fs s.path with
    | none =>
      refine .inr ⟨SearchPath.holder?_eq_none_iff.mp hfound, ?_, rfl⟩
      exact (pathWithin_cons_empty (by simp) [] s.path).trans (pathWithin_nil s.path)
    | some location =>
      obtain ⟨before, after, hpath, hholds, hbefore⟩ := SearchPath.holder?_eq_some_iff.mp hfound
      refine .inl ⟨location, ⟨before, after, hpath, hholds, hbefore⟩, ?_, rfl⟩
      exact (pathWithin_cons hholds.1 [] s.path).trans (by rw [pathWithin_nil])

/-- Contexts one in the other, with the path told before each, innermost, and behind each that ends
well. -/
def Code.nested (body : Code (List String) ε) : List (Option String) → Code (List String) ε
  | [] => .seq (.step nested.observe) body
  | l :: ls => .seq (.step nested.observe)
      (.seq (.within l (Code.nested body ls)) (.step nested.observe))

theorem nested_eq_run (body : Code (List String) ε) (locations : List (Option String)) :
    nested body.run locations = (Code.nested body locations).run := by
  induction locations with
  | nil => rfl
  | cons l ls ih =>
    rw [nested, ih]
    rfl

theorem Code.leavesPath_nested {body : Code (List String) ε} (h : body.LeavesPath)
    (locations : List (Option String)) : (Code.nested body locations).LeavesPath := by
  have hobserve : KeepsPath (nested.observe : Shell (List String) ε Unit) := fun _ => rfl
  induction locations with
  | nil => exact ⟨hobserve, h⟩
  | cons l ls ih => exact ⟨hobserve, ih, hobserve⟩

/-- Four contexts, two of which put a directory on the path. -/
def errandLocations : List (Option String) := [some "/opt/a", none, some "", some "/opt/b"]

/-- Code that fails in these contexts. -/
def errand : Code (List String) String := Code.nested (.step (throw "lost")) errandLocations

theorem search_path_put_back_errand : errand.LeavesPath ∧
    nested (throw "lost") errandLocations ⟨"/usr/bin", []⟩ = (.error "lost",
      ⟨"/usr/bin", ["/usr/bin", "/opt/a:/usr/bin", "/opt/a:/usr/bin", "/opt/a:/usr/bin",
        "/opt/b:/opt/a:/usr/bin"]⟩) ∧
    (SearchPath.locate {} "darwin" "/opt/a:/opt/b" : Logged ProjectError _) =
      SearchPath.locate {} "linux" "/opt/a:/opt/b" := by
  have hfails : (Code.step (throw "lost") : Code (List String) String).LeavesPath := fun _ => rfl
  have herrand : errand.LeavesPath := Code.leavesPath_nested hfails errandLocations
  have hnested : nested (throw "lost") errandLocations = errand.run :=
    nested_eq_run (.step (throw "lost")) errandLocations
  obtain ⟨hcode, hplatform, -⟩ := search_path_put_back
  rw [hnested, (hcode errand herrand ⟨"/usr/bin", []⟩).1]
  exact ⟨herrand, rfl, hplatform {} "darwin" "/opt/a:/opt/b" (by decide)⟩

end Shell

end ClassDiagram
