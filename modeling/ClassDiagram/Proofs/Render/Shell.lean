import ClassDiagram.Render.Renderer

/-!
Runs of computations that see the search path. A sequence goes on where its first part ends well and
stops where it fails (`run_bind_ok`, `run_bind_error`); a context puts its directory before the
search path and takes it away again (`pathWithin`, `KeepsPath.withLocation`); rendering asks the
drawing program once in such a context, and fails with one error only (`run_render`).
-/

namespace ClassDiagram.Shell

variable {τ ε α β : Type}

theorem run_bind_ok {x : Shell τ ε α} {s t : Surroundings τ} {a : α} (h : x s = (.ok a, t))
    (f : α → Shell τ ε β) : (x >>= f) s = f a t := by
  show (match x s with | (r, t) => (ExceptT.bindCont f r) t) = _
  rw [h]
  rfl

theorem run_bind_error {x : Shell τ ε α} {s t : Surroundings τ} {e : ε} (h : x s = (.error e, t))
    (f : α → Shell τ ε β) : (x >>= f) s = (.error e, t) := by
  show (match x s with | (r, t) => (ExceptT.bindCont f r) t) = _
  rw [h]
  rfl

theorem error_bind_pure {x : Shell τ ε α} {f : α → β} {s : Surroundings τ} {e : ε} :
    ((x >>= fun a => pure (f a)) s).1 = .error e ↔ (x s).1 = .error e := by
  rcases hx : x s with ⟨e' | a, t⟩
  · rw [run_bind_error hx]
    simp
  · rw [run_bind_ok hx]
    exact iff_of_false (by rintro ⟨⟩) (by rintro ⟨⟩)

/-- The search path behind a computation is the one before it. -/
def KeepsPath (x : Shell τ ε α) : Prop := ∀ s, (x s).2.path = s.path

theorem keepsPath_pure (a : α) : KeepsPath (pure a : Shell τ ε α) := fun _ => rfl

theorem KeepsPath.bind {x : Shell τ ε α} {f : α → Shell τ ε β} (hx : KeepsPath x)
    (hf : ∀ a, KeepsPath (f a)) : KeepsPath (x >>= f) := by
  intro s
  rcases hrun : x s with ⟨e | a, t⟩
  · rw [run_bind_error hrun, ← hx s, hrun]
  · rw [run_bind_ok hrun, hf a t, ← hx s, hrun]

theorem run_searchPath (s : Surroundings τ) :
    (searchPath : Shell τ ε String) s = (.ok s.path, s) := rfl

theorem run_log (level : LogLevel) (message : String) (s : Surroundings RenderTrace) :
    (log level message : Shell RenderTrace ε Unit) s
      = (.ok (), { s with trace.log := s.trace.log ++ [⟨level, message⟩] }) := rfl

theorem run_ofLogged (x : Logged ε α) (s : Surroundings RenderTrace) :
    ofLogged x s = (x.result, { s with trace.log := s.trace.log ++ x.entries }) := by
  rcases x with ⟨entries, _ | a⟩ <;> rfl

theorem keepsPath_ofLogged (x : Logged ε α) : KeepsPath (ofLogged x) := by
  intro s
  rw [run_ofLogged]

theorem ofLogged_pure (a : α) : (ofLogged (pure a) : Shell RenderTrace ε α) = pure a := by
  funext s
  rw [run_ofLogged, show (pure a : Logged ε α).entries = [] from rfl, List.append_nil]
  rfl

theorem ofLogged_bind (x : Logged ε α) (f : α → Logged ε β) :
    (ofLogged (x >>= f) : Shell RenderTrace ε β) = ofLogged x >>= fun a => ofLogged (f a) := by
  funext s
  have hx := run_ofLogged x s
  cases hresult : x.result with
  | error e =>
    rw [hresult] at hx
    rw [run_bind_error hx, show x >>= f = _ from Logged.bind_error hresult f, run_ofLogged]
  | ok a =>
    rw [hresult] at hx
    rw [run_bind_ok hx, show x >>= f = _ from Logged.bind_ok hresult f, run_ofLogged, run_ofLogged,
      List.append_assoc]

/-! ## Contexts -/

/-- The search path in contexts, the innermost first, and a path around them. -/
def pathWithin (locations : List (Option String)) (original : String) : String :=
  String.join (((locations.filterMap id).filter (· ≠ "")).map (· ++ ":")) ++ original

theorem pathWithin_nil (original : String) : pathWithin [] original = original := by
  simp [pathWithin, String.join]

theorem pathWithin_cons_empty {location : Option String} (h : ∀ l ∈ location, l = "")
    (locations : List (Option String)) (original : String) :
    pathWithin (location :: locations) original = pathWithin locations original := by
  cases location with
  | none => simp [pathWithin]
  | some l =>
    have hl : l = "" := h l rfl
    simp [pathWithin, hl]

theorem pathWithin_cons {l : String} (h : l ≠ "") (locations : List (Option String))
    (original : String) : pathWithin (some l :: locations) original =
      l ++ ":" ++ pathWithin locations original := by
  simp [pathWithin, h, String.append_assoc]

theorem withLocation_empty {location : Option String} (h : ∀ l ∈ location, l = "")
    (x : Shell τ ε α) : withLocation location x = x := by
  cases location with
  | none => rfl
  | some l => exact if_pos (h l rfl)

/-- A location is nothing, or a directory. -/
theorem eq_some_of_not_empty {location : Option String} (h : ¬ ∀ l ∈ location, l = "") :
    ∃ l, location = some l ∧ l ≠ "" := by
  cases location <;> simp_all

/-- A context takes its directory away again, whatever its body leaves. -/
theorem KeepsPath.withLocation {x : Shell τ ε α} (hx : KeepsPath x) (location : Option String) :
    KeepsPath (withLocation location x) := by
  by_cases hempty : ∀ l ∈ location, l = ""
  · rwa [withLocation_empty hempty]
  · obtain ⟨l, rfl, hl⟩ := eq_some_of_not_empty hempty
    exact path_withLocation l hl x

/-! ## Rendering -/

/-- What is logged of the search for the drawing program. -/
def searchEntry : Option String → LogEntry
  | some d => ⟨.debug, "Using Graphviz from " ++ d⟩
  | none => SearchPath.notFound

/-- What is logged of an answer of the drawing program. -/
def answerEntry : Except RenderFailure String → LogEntry
  | .ok file => ⟨.info, "Diagram saved to " ++ file⟩
  | .error failure => ⟨.error, "Failed to render diagram: " ++ failure.message⟩

def renderLog (found : Option String) (output : String) (format : ImageFormat)
    (answer : Except RenderFailure String) : Log :=
  [searchEntry found, ⟨.info, "Rendering " ++ format.label ++ " to " ++ output⟩, answerEntry answer]

theorem locate_eq {ε : Type} (fs : FileSystem) {platform : String} (h : platform ≠ "win32")
    (path : String) : (SearchPath.locate fs platform path : Logged ε (Option String)) =
      ⟨[searchEntry (SearchPath.holder? fs path)], .ok (SearchPath.holder? fs path)⟩ := by
  rw [SearchPath.locate, if_neg h]
  cases SearchPath.holder? fs path <;> rfl

/-- The drawing program is asked once, on the path in the context around the request. -/
theorem run_withLocation_ask (location : Option String) (renderer : Renderer) (output : String)
    (format : ImageFormat) (source : String) (s : Surroundings RenderTrace) :
    (withLocation location (ask renderer output format source) : Shell RenderTrace ε _) s =
      (.ok (renderer ⟨output, format, pathWithin [location] s.path, source⟩),
        { s with trace.requests := s.trace.requests ++
          [⟨output, format, pathWithin [location] s.path, source⟩] }) := by
  by_cases hempty : ∀ l ∈ location, l = ""
  · rw [withLocation_empty hempty, pathWithin_cons_empty hempty, pathWithin_nil]
    rfl
  · obtain ⟨l, rfl, hl⟩ := eq_some_of_not_empty hempty
    rw [withLocation, if_neg hl, pathWithin_cons hl, pathWithin_nil]
    rfl

/-- Rendering ends as the drawing program answers; whatever keeps that from an image gives the same
error. The search path is as before in any case. -/
theorem run_render (fs : FileSystem) (renderer : Renderer) (unrendered : ε) (d : Diagram)
    (output : String) (format : ImageFormat) (s : Surroundings RenderTrace)
    {request : RenderRequest}
    (h : request = ⟨output, format, pathWithin [SearchPath.holder? fs s.path] s.path,
      Dot.text d⟩) :
    render fs renderer unrendered d output format s =
      ((renderer request).mapError fun _ => unrendered,
        ⟨s.path, s.trace.log ++
            renderLog (SearchPath.holder? fs s.path) output format (renderer request),
          s.trace.requests ++ [request]⟩) := by
  have hlocate : (SearchPath.locate fs "linux" s.path : Logged ε (Option String)) = _ :=
    locate_eq fs (by decide) s.path
  have hfound := run_ofLogged (SearchPath.locate fs "linux" s.path : Logged ε (Option String)) s
  rw [hlocate] at hfound
  have hlog : ∀ (log : Log) (a b c : LogEntry), log ++ [a, b, c] = log ++ [a] ++ [b] ++ [c] := by
    simp
  rw [render, run_bind_ok (run_searchPath s), hlocate, run_bind_ok hfound, run_bind_ok (run_log ..),
    run_bind_ok (run_withLocation_ask ..), renderLog, hlog, h]
  cases renderer ⟨output, format, pathWithin [SearchPath.holder? fs s.path] s.path, Dot.text d⟩ <;>
    rfl

theorem keepsPath_render (fs : FileSystem) (renderer : Renderer) (unrendered : ε) (d : Diagram)
    (output : String) (format : ImageFormat) :
    KeepsPath (render fs renderer unrendered d output format) := by
  intro s
  rw [run_render fs renderer unrendered d output format s rfl]

theorem error_render {fs : FileSystem} {renderer : Renderer} {unrendered e : ε} {d : Diagram}
    {output : String} {format : ImageFormat} {s : Surroundings RenderTrace}
    (h : (render fs renderer unrendered d output format s).1 = .error e) : e = unrendered := by
  rw [run_render fs renderer unrendered d output format s rfl] at h
  cases hanswer : renderer ⟨output, format, pathWithin [SearchPath.holder? fs s.path] s.path,
      Dot.text d⟩ with
  | ok file =>
    rw [hanswer] at h
    cases h
  | error failure =>
    rw [hanswer] at h
    exact (Except.error.inj h).symm

end ClassDiagram.Shell
