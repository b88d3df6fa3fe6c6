import Strata.Proofs.StorageCalls

/-! A run as its stages: what comes before the picture is a function of what was read, and what
comes after it depends on the rest only through the summary. The kind and the operation of a fault
tell the stage that it comes from. -/
namespace Strata

@[simp] theorem Storage.Failure.kind_fault (f : Failure) (operation key value : String) :
    (f.fault operation key value).kind = f.kind := by
  simp [fault, Fault.ofFileSystem]

@[simp] theorem Storage.Failure.operation_fault (f : Failure) (operation key value : String) :
    (f.fault operation key value).operation = operation := by
  simp [fault]

theorem Storage.Failure.kind_ne_emptyGraph (f : Failure) : f.kind ≠ .emptyGraph := by
  cases f <;> simp [kind]

theorem Raster.Defect.kind_fault (d : Raster.Defect) : d.fault.kind = .renderFailed := by
  cases d <;> simp [fault, Fault.renderFailed]

theorem Raster.Defect.operation_fault (d : Raster.Defect) :
    d.fault.operation = "raster::rasterize_png" := by
  cases d <;> simp [fault]

namespace Settings

theorem kind_of_validated {s : Settings Float} {e : Fault} (failed : s.validated = .error e) :
    e.kind = .configInvalid := by
  unfold validated at failed
  split at failed
  · cases failed
  · cases failed
    rfl

theorem Mismatch.kind_fault (e : Mismatch) : e.fault.kind = .configInvalid := by
  simp [fault]

theorem kind_of_parse {text : String} {e : Fault} (failed : Settings.parse text = .error e) :
    e.kind = .configInvalid := by
  unfold Settings.parse at failed
  cases read : Toml.parse text with
  | none =>
    rw [read] at failed
    cases failed
    exact Mismatch.kind_fault _
  | some entries =>
    rw [read] at failed
    rcases bind_eq_error_iff.mp failed with mismatch | ⟨s, _, invalid⟩
    · obtain ⟨d, _, rfl⟩ := mapError_eq_error_iff.mp mismatch
      exact d.kind_fault
    · exact kind_of_validated invalid

variable {σ : Type} [Storage (StateM σ)]

theorem kind_of_load {path : String} {s s' : σ} {e : Fault}
    (failed : Storage.runAt s (Settings.load path) = (.error e, s')) : e.kind ≠ .emptyGraph := by
  have loaded := Storage.runAt_readText s path "config::load"
  rcases read : Storage.decode path "config::load" (Storage.readAt s path).1 with e' | text
  · rw [read] at loaded
    obtain ⟨f, rfl⟩ := Storage.decode_eq_error read
    cases (Storage.runAt_bind_error loaded _).symm.trans failed
    simp [Storage.Failure.kind_ne_emptyGraph]
  · rw [read] at loaded
    have parsed := ((Storage.runAt_bind_ok loaded _).symm.trans failed)
    rw [Storage.runAt_liftM, Prod.mk.injEq] at parsed
    obtain ⟨d, invalid, rfl⟩ := mapError_eq_error_iff.mp parsed.1
    simp [kind_of_parse invalid]

/-- No fault of the settings is that of the empty graph. -/
theorem kind_of_resolve {path : Option String} {o : Overrides Float} {s s' : σ} {e : Fault}
    (failed : Storage.runAt s (Settings.resolve path o) = (.error e, s')) :
    e.kind ≠ .emptyGraph := by
  have valid_or {s₁ : σ} {settings : Settings Float}
      (checked : Storage.runAt s₁ (liftM settings.validated) = (.error e, s')) :
      e.kind ≠ .emptyGraph := by
    rw [Storage.runAt_liftM, Prod.mk.injEq] at checked
    simp [kind_of_validated checked.1]
  cases path with
  | none => exact valid_or failed
  | some path =>
    rcases loaded : Storage.runAt s (Settings.load path) with ⟨e' | settings, s₁⟩
    · cases (Storage.runAt_bind_error loaded _).symm.trans failed
      exact kind_of_load loaded
    · exact valid_or ((Storage.runAt_bind_ok loaded _).symm.trans failed)

end Settings

/-- The faults of a text that is no document. -/
def Fault.IsOfText (e : Fault) : Prop :=
  e.kind = .invalidFormat ∧ e.operation = "record::parse" ∨
    e.kind = .fieldCoercion ∧ e.operation = "record::node"

theorem Document.isOfText_syntaxFault (text : String) (e : Json.Error) :
    (syntaxFault text e).IsOfText :=
  .inl (by simp [syntaxFault, Fault.invalidFormat])

theorem Document.Defect.isOfText_fault (d : Document.Defect) : d.fault.IsOfText := by
  cases d with
  | notALayer index v => exact .inr (by simp [fault, Layer.fault, Fault.fieldCoercion])
  | _ => exact .inl (by simp [fault, Document.shapeFault, Fault.invalidFormat])

theorem Document.isOfText_of_parse {text : String} {e : Fault}
    (failed : Document.parse text = .error e) : e.IsOfText := by
  rw [Document.parse] at failed
  cases read : Json.parse text with
  | error reason =>
    rw [read] at failed
    cases failed
    exact isOfText_syntaxFault text reason
  | ok v =>
    rw [read] at failed
    obtain ⟨d, _, rfl⟩ := mapError_eq_error_iff.mp failed
    exact d.isOfText_fault

theorem Scene.fault_of_image [Raster.Renderer] {scene : Scene Float} {figure : Figure Float}
    {format : ImageFormat} {e : Fault} (failed : scene.image figure format = .error e) :
    e.kind = .renderFailed ∧ e.operation = "raster::rasterize_png" := by
  cases format with
  | svg => cases failed
  | png =>
    rw [image, png, Raster.rasterize] at failed
    obtain ⟨d, _, rfl⟩ := mapError_eq_error_iff.mp failed
    exact ⟨d.kind_fault, d.operation_fault⟩

namespace Scene

open Storage

variable {σ : Type} [Storage (StateM σ)] [Raster.Renderer]

/-- The directory that a path names, unless it is the current one. -/
def directory? (path : String) : Option String :=
  (Path.parent? path).filter fun parent => !parent.isEmpty

/-- The directories on the way to a path are there, or have been made. -/
def Prepared (path : String) (s s₁ : σ) : Prop :=
  match directory? path with
  | some parent => createDirectoriesAt s parent = (.ok (), s₁)
  | none => s₁ = s

/-- How saving a picture goes, by the call that ends it. -/
inductive Saves (scene : Scene Float) (figure : Figure Float) (path : String) (s : σ) :
    Except Fault ImageFormat → σ → Prop
  | unrendered {e : Fault} (failed : scene.image figure (.ofPath path) = .error e) :
      Saves scene figure path s (.error e) s
  | blocked {bytes : ByteArray} {parent : String} {f : Failure} {s₁ : σ}
      (rendered : scene.image figure (.ofPath path) = .ok bytes)
      (named : directory? path = some parent)
      (failed : createDirectoriesAt s parent = (.error f, s₁)) :
      Saves scene figure path s (.error (f.fault "draw::save_image" "dir" parent)) s₁
  | unwritten {bytes : ByteArray} {f : Failure} {s₁ s₂ : σ}
      (rendered : scene.image figure (.ofPath path) = .ok bytes) (prepared : Prepared path s s₁)
      (failed : writeAt s₁ path bytes = (.error f, s₂)) :
      Saves scene figure path s (.error (f.fault "draw::save_image" "path" path)) s₂
  | written {bytes : ByteArray} {s₁ s₂ : σ}
      (rendered : scene.image figure (.ofPath path) = .ok bytes) (prepared : Prepared path s s₁)
      (done : writeAt s₁ path bytes = (.ok (), s₂)) :
      Saves scene figure path s (.ok (.ofPath path)) s₂

/-- The last call, for bytes that are to be at a path, and the calls from the directories on. -/
def write (path : String) (bytes : ByteArray) : ExceptT Fault (StateM σ) ImageFormat := do
  attempt (Storage.write path bytes) fun f => f.fault "draw::save_image" "path" path
  return .ofPath path

def store (path : String) (bytes : ByteArray) : ExceptT Fault (StateM σ) ImageFormat :=
  match directory? path with
  | some parent => do
    attempt (createDirectories parent) fun f => f.fault "draw::save_image" "dir" parent
    write path bytes
  | none => write path bytes

theorem runAt_save (scene : Scene Float) (figure : Figure Float) (path : String) (s : σ) :
    runAt s (scene.save figure path) = match scene.image figure (.ofPath path) with
      | .error e => (.error e, s)
      | .ok bytes => runAt s (store path bytes) := by
  have lifted := runAt_liftM s (scene.image figure (.ofPath path))
  cases rendered : scene.image figure (.ofPath path) with
  | error e => exact runAt_bind_error (lifted.trans (by rw [rendered])) _
  | ok bytes => exact runAt_bind_ok (lifted.trans (by rw [rendered])) _

/-- An SVG picture never fails to be rendered. -/
theorem runAt_save_svg {path : String} (asked : ImageFormat.ofPath path = .svg)
    (scene : Scene Float) (figure : Figure Float) (s : σ) :
    runAt s (scene.save figure path) = runAt s (store path (scene.svg figure).toUTF8) := by
  rw [runAt_save, asked]
  rfl

theorem saves_write {scene : Scene Float} {figure : Figure Float} {path : String}
    {bytes : ByteArray} {s s₁ : σ} (rendered : scene.image figure (.ofPath path) = .ok bytes)
    (prepared : Prepared path s s₁) :
    Saves scene figure path s (runAt s₁ (write path bytes)).1 (runAt s₁ (write path bytes)).2 := by
  rw [write, runAt_map]
  rcases called : writeAt s₁ path bytes with ⟨f | _, s₂⟩
  · rw [runAt_attempt_error called]
    exact .unwritten rendered prepared called
  · rw [runAt_attempt_ok called]
    exact .written rendered prepared called

theorem saves_store {scene : Scene Float} {figure : Figure Float} {path : String}
    {bytes : ByteArray} {s : σ} (rendered : scene.image figure (.ofPath path) = .ok bytes) :
    Saves scene figure path s (runAt s (store path bytes)).1 (runAt s (store path bytes)).2 := by
  cases named : directory? path with
  | none =>
    have run : (store path bytes : ExceptT Fault (StateM σ) ImageFormat) = write path bytes := by
      rw [store, named]
    rw [run]
    exact saves_write rendered (by simp [Prepared, named])
  | some parent =>
    rw [store, named]
    rcases called : createDirectoriesAt s parent with ⟨f | _, s₁⟩
    · rw [runAt_bind_error (runAt_attempt_error called _)]
      exact .blocked rendered named called
    · rw [runAt_bind_ok (runAt_attempt_ok called _)]
      exact saves_write rendered (by simpa [Prepared, named] using called)

theorem Saves.kind_ne_emptyGraph {scene : Scene Float} {figure : Figure Float} {path : String}
    {s s' : σ} {e : Fault} (saves : Saves scene figure path s (.error e) s') :
    e.kind ≠ .emptyGraph := by
  cases saves with
  | unrendered failed => simp [(fault_of_image failed).1]
  | blocked => simp [Failure.kind_ne_emptyGraph]
  | unwritten => simp [Failure.kind_ne_emptyGraph]

theorem saves (scene : Scene Float) (figure : Figure Float) (path : String) (s : σ) :
    Saves scene figure path s (runAt s (scene.save figure path)).1
      (runAt s (scene.save figure path)).2 := by
  rw [runAt_save]
  cases rendered : scene.image figure (.ofPath path) with
  | error e => exact .unrendered rendered
  | ok bytes => exact saves_store rendered

end Scene

namespace Job

variable {σ : Type} [Storage (StateM σ)]

/-- What comes before the picture: the document of a text, and its graph. -/
def prepare (job : Job) (text : String) : Except Fault (Document × Graph) := do
  let d ← (Document.parse text).mapError fun e => e.note "path" job.input
  return (d, ← job.graph d)

theorem prepare_of_parse_error (job : Job) {text : String} {e : Fault}
    (failed : Document.parse text = .error e) :
    job.prepare text = .error (e.note "path" job.input) := by
  rw [prepare, failed]
  rfl

theorem prepare_of_parse (job : Job) {text : String} {d : Document}
    (parsed : Document.parse text = .ok d) :
    job.prepare text = (job.graph d).map fun g => (d, g) := by
  rw [prepare, parsed]
  change (job.graph d >>= fun g => pure (d, g)) = _
  cases job.graph d <;> rfl

/-- The scene of a graph under the settings of a job. -/
def scene (job : Job) (g : Graph) : Scene Float :=
  .ofGraph g job.settings.spacing job.settings.palette

def summary (job : Job) (d : Document) (g : Graph) (format : ImageFormat) : Summary where
  output := job.output
  format
  nodes := d.nodes.length
  edges := d.edges.length
  renderedNodes := g.nodeCount
  renderedEdges := g.edgeCount
  droppedEdges := g.droppedEdges

/-- A program that saves a picture. -/
abbrev Saver (m : Type → Type) : Type :=
  Scene Float → Figure Float → String → ExceptT Fault m ImageFormat

/-- The run of a job with some program in the place of the one that saves the picture. -/
def runWith {m : Type → Type} [Monad m] [Storage m]
    (save : Saver m) (job : Job) : ExceptT Fault m Summary := do
  let d ← Document.load job.input
  let g ← liftM (job.graph d)
  let format ← save (job.scene g) job.settings.figure job.output
  return job.summary d g format

theorem run_eq_runWith {m : Type → Type} [Monad m] [Storage m] [Raster.Renderer] (job : Job) :
    (job.run : ExceptT Fault m Summary) = job.runWith Scene.save := rfl

/-- What was read, as far as the picture. -/
def reading (job : Job) (s : σ) : Except Fault (Document × Graph) :=
  (Storage.decode job.input "input::load_document" (Storage.readAt s job.input).1).bind job.prepare

open Storage

theorem runAt_load (s : σ) (path : String) :
    runAt s (Document.load path) =
      ((decode path "input::load_document" (readAt s path).1).bind fun text =>
        (Document.parse text).mapError fun e => e.note "path" path, (readAt s path).2) := by
  have loaded := runAt_readText s path "input::load_document"
  cases given : decode path "input::load_document" (readAt s path).1 with
  | error e =>
    rw [given] at loaded
    exact runAt_bind_error loaded _
  | ok text =>
    rw [given] at loaded
    exact (runAt_bind_ok loaded _).trans (runAt_liftM _ _)

/-- The run up to the picture, and the rest of it, which only the saving program decides. -/
theorem runAt_runWith (job : Job) (s : σ) (save : Saver (StateM σ)) :
    runAt s (job.runWith save) = match job.reading s with
      | .error e => (.error e, (readAt s job.input).2)
      | .ok (d, g) =>
        let s₁ := (readAt s job.input).2
        let saved := runAt s₁ (save (job.scene g) job.settings.figure job.output)
        (saved.1.map (job.summary d g), saved.2) := by
  have loaded := runAt_load s job.input
  rw [reading]
  cases given : decode job.input "input::load_document" (readAt s job.input).1 with
  | error e =>
    rw [given] at loaded
    exact runAt_bind_error loaded _
  | ok text =>
    rw [given] at loaded
    change _ = ((Document.parse text).mapError _, _) at loaded
    cases parsed : Document.parse text with
    | error e =>
      rw [parsed] at loaded
      rw [Except.bind, job.prepare_of_parse_error parsed]
      exact runAt_bind_error loaded _
    | ok d =>
      rw [parsed] at loaded
      rw [Except.bind, job.prepare_of_parse parsed]
      refine (runAt_bind_ok loaded _).trans ?_
      have lifted := runAt_liftM (readAt s job.input).2 (job.graph d)
      cases built : job.graph d with
      | error e =>
        rw [built] at lifted
        exact runAt_bind_error lifted _
      | ok g =>
        rw [built] at lifted
        exact (runAt_bind_ok lifted _).trans (runAt_map _ _ (job.summary d g))

end Job

end Strata
