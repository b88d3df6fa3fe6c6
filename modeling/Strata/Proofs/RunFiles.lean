import Strata.Proofs.FileSystemGrowth
import Strata.Proofs.RunOutcome

/-! What a run leaves behind in the files: one picture or nothing. The picture is complete before
the first call that changes anything, so a fault of an earlier stage leaves no trace at all. -/
namespace Strata

open Storage

namespace FileSystem

/-- The regular files are the same. -/
def SameFiles (fs fs' : FileSystem) : Prop :=
  ∀ p bytes, fs'.item? p = some (.file bytes) ↔ fs.item? p = some (.file bytes)

/-- No directory is lost, and an outer directory of the path leads to each new one. -/
structure AddsOuter (path : String) (fs fs' : FileSystem) : Prop where
  keeps : fs.KeepsDirectories fs'
  added : ∀ {p}, fs.item? p ≠ some .directory → fs'.item? p = some .directory →
    ∃ outer, Path.Inside path outer ∧ fs'.LeadsTo outer p

variable {fs fs' fs'' : FileSystem} {path : String}

theorem SameFiles.trans (first : fs.SameFiles fs') (second : fs'.SameFiles fs'') :
    fs.SameFiles fs'' :=
  fun p bytes => (second p bytes).trans (first p bytes)

theorem Same.sameFiles (same : fs.Same fs') : fs.SameFiles fs' := by
  intro p bytes
  rw [same.item?]

theorem Same.addsOuter (same : fs.Same fs') (path : String) : AddsOuter path fs fs' where
  keeps := same.keepsDirectories
  added missing here := by
    rw [same.item?] at here
    exact absurd here missing

theorem GrowsToward.sameFiles (grows : GrowsToward path fs fs') : fs.SameFiles fs' := by
  intro p bytes
  refine ⟨fun here => ?_, fun here => grows.kept here⟩
  cases before : fs.item? p with
  | none =>
    obtain ⟨made, _⟩ := grows.added before here
    cases made
  | some item => rw [← here, grows.kept before]

theorem GrowsToward.addsOuter {parent : String} (named : Path.parent? path = some parent)
    (grows : GrowsToward parent fs fs') : AddsOuter path fs fs' where
  keeps := grows.keepsDirectories
  added {p} missing here := by
    cases before : fs.item? p with
    | none =>
      obtain ⟨_, outer, within, leads⟩ := grows.added before here
      exact ⟨outer, .head' named within, leads⟩
    | some item =>
      rw [grows.kept before, ← before] at here
      exact absurd here missing

theorem AddsOuter.of_same (same : fs.Same fs') (adds : AddsOuter path fs' fs'') :
    AddsOuter path fs fs'' where
  keeps := same.keepsDirectories.trans adds.keeps
  added missing here := adds.added (by rwa [same.item?]) here

theorem AddsOuter.followed (adds : AddsOuter path fs fs') (keeps : fs'.KeepsDirectories fs'')
    (before : ∀ p, fs''.item? p = some .directory → fs'.item? p = some .directory) :
    AddsOuter path fs fs'' where
  keeps := adds.keeps.trans keeps
  added missing here := by
    obtain ⟨outer, above, leads⟩ := adds.added missing (before _ here)
    exact ⟨outer, above, keeps.leadsTo leads⟩

end FileSystem

namespace Job

variable {σ : Type} [Storage (StateM σ)] {job : Job} {s : σ}

theorem operation_of_graph {d : Document} {e : Fault} (failed : job.graph d = .error e) :
    e.operation ≠ "draw::save_image" := by
  rw [graph] at failed
  rcases bind_eq_error_iff.mp failed with missing | ⟨g, _, empty⟩
  · obtain ⟨m, _, rfl⟩ := mapError_eq_error_iff.mp missing
    simp [Graph.MissingId.fault]
  · split at empty
    · cases empty
    · cases empty
      simp

theorem operation_of_prepare {text : String} {e : Fault} (failed : job.prepare text = .error e) :
    e.operation ≠ "draw::save_image" := by
  rcases bind_eq_error_iff.mp failed with unparsable | ⟨d, _, undrawable⟩
  · obtain ⟨e', reason, rfl⟩ := mapError_eq_error_iff.mp unparsable
    rcases Document.isOfText_of_parse reason with ⟨_, operation⟩ | ⟨_, operation⟩ <;>
      simp [operation]
  · rcases bind_eq_error_iff.mp undrawable with failed | ⟨g, _, done⟩
    · exact operation_of_graph failed
    · cases done

/-- No fault before the picture is one of saving. -/
theorem operation_of_reading {e : Fault} (failed : job.reading s = .error e) :
    e.operation ≠ "draw::save_image" := by
  rcases bind_eq_error_iff.mp failed with unread | ⟨text, _, failed⟩
  · obtain ⟨f, rfl⟩ := decode_eq_error unread
    simp
  · exact operation_of_prepare failed

theorem of_reading_ok {d : Document} {g : Graph} (read : job.reading s = .ok (d, g)) :
    ∃ text : String, (readAt s job.input).1 = .ok text.toUTF8 ∧ Document.parse text = .ok d ∧
      Graph.ofDocument d = .ok g := by
  obtain ⟨text, decoded, prepared⟩ := bind_eq_ok_iff.mp read
  obtain ⟨d', parsed, built⟩ := bind_eq_ok_iff.mp prepared
  obtain ⟨g', built, same⟩ := bind_eq_ok_iff.mp built
  cases same
  obtain ⟨g'', resolved, drawable⟩ := bind_eq_ok_iff.mp built
  split at drawable
  · cases drawable
    exact ⟨text, decode_eq_ok_iff.mp decoded, mapError_eq_ok_iff.mp parsed,
      mapError_eq_ok_iff.mp resolved⟩
  · cases drawable

/-- What a run leaves behind, by its result, between the files before and after it. -/
structure Leaves [Raster.Renderer] (job : Job) (r : Except Fault Summary) (fs fs' : FileSystem) :
    Prop where
  directories : FileSystem.AddsOuter job.output fs fs'
  failed : ∀ e, r = .error e → fs.SameFiles fs'
  untouched : ∀ e, r = .error e → e.operation ≠ "draw::save_image" → fs.Same fs'
  saving : ∀ e, r = .error e → e.operation = "draw::save_image" → ∃ f : Failure,
    (∃ dir, Path.parent? job.output = some dir ∧ e = f.fault "draw::save_image" "dir" dir) ∨
      e = f.fault "draw::save_image" "path" job.output
  written : ∀ summary, r = .ok summary → ∃ text d g bytes,
    fs.readFile job.input = .ok text.toUTF8 ∧ Document.parse text = .ok d ∧
      Graph.ofDocument d = .ok g ∧
      (job.scene g).image job.settings.figure (.ofPath job.output) = .ok bytes ∧
      summary.format = .ofPath job.output ∧ fs'.readFile job.output = .ok bytes ∧
      ∃ p, fs'.LeadsTo job.output p ∧ ∀ q, q ≠ p → ∀ b,
        fs'.item? q = some (.file b) ↔ fs.item? q = some (.file b)

theorem leaves_of_same [Raster.Renderer] {r : Except Fault Summary} {e : Fault}
    {fs fs' : FileSystem} (failed : r = .error e) (early : e.operation ≠ "draw::save_image")
    (same : fs.Same fs') :
    job.Leaves r fs fs' := by
  subst failed
  refine ⟨same.addsOuter _, fun _ _ => same.sameFiles, fun _ _ _ => same, ?_, ?_⟩
  · rintro _ ⟨⟩ saving
    exact absurd saving early
  · rintro _ ⟨⟩

variable {files : σ → FileSystem}

theorem addsOuter_of_prepared (faithful : Faithful files) {path : String} {s s₁ : σ}
    (prepared : Scene.Prepared path s s₁) :
    FileSystem.AddsOuter path (files s) (files s₁) ∧ (files s).SameFiles (files s₁) := by
  unfold Scene.Prepared at prepared
  cases named : Scene.directory? path with
  | none =>
    rw [named] at prepared
    subst prepared
    have same : (files s₁).Same (files s₁) := ⟨rfl, fun _ => rfl⟩
    exact ⟨same.addsOuter path, same.sameFiles⟩
  | some parent =>
    rw [named] at prepared
    have grows := faithful.makes prepared
    exact ⟨grows.addsOuter (Option.filter_eq_some_iff.mp named).1, grows.sameFiles⟩

theorem leaves_of_saves [Raster.Renderer] (faithful : Faithful files) {s s₁ s₂ : σ}
    {d : Document} {g : Graph} {text : String} (same : (files s).Same (files s₁))
    (read : (files s).readFile job.input = .ok text.toUTF8)
    (parsed : Document.parse text = .ok d) (built : Graph.ofDocument d = .ok g)
    {r : Except Fault ImageFormat}
    (saves : Scene.Saves (job.scene g) job.settings.figure job.output s₁ r s₂) :
    job.Leaves (r.map (job.summary d g)) (files s) (files s₂) := by
  cases saves with
  | unrendered failed =>
    refine leaves_of_same rfl ?_ same
    simp [(Scene.fault_of_image failed).2]
  | @blocked _ parent f _ _ named failed =>
    have outer := (Option.filter_eq_some_iff.mp named).1
    -- Some directories may have been made before the call failed.
    have grows := faithful.makes failed
    refine ⟨.of_same same (grows.addsOuter outer), ?_, ?_, ?_, ?_⟩
    · exact fun _ _ => same.sameFiles.trans grows.sameFiles
    · rintro _ ⟨⟩ other
      simp at other
    · rintro _ ⟨⟩ _
      exact ⟨f, .inl ⟨parent, outer, rfl⟩⟩
    · rintro _ ⟨⟩
  | @unwritten _ f s₃ _ _ prepared failed =>
    obtain ⟨adds, files_same⟩ := addsOuter_of_prepared faithful prepared
    have left := faithful.fails failed
    have adds' := adds.followed left.keepsDirectories fun p here => (left.item? p).symm.trans here
    refine ⟨.of_same same adds', ?_, ?_, ?_, ?_⟩
    · exact fun _ _ => (same.sameFiles.trans files_same).trans left.sameFiles
    · rintro _ ⟨⟩ other
      simp at other
    · rintro _ ⟨⟩ _
      exact ⟨f, .inr rfl⟩
    · rintro _ ⟨⟩
  | @written bytes s₃ _ rendered prepared done =>
    obtain ⟨adds, files_same⟩ := addsOuter_of_prepared faithful prepared
    -- The bytes may replace the very file that was read: what it held counts from before.
    obtain ⟨fs, wrote, after⟩ := faithful.writes done
    have puts := (FileSystem.puts_of_writeFile wrote).of_same after
    have adds' := adds.followed puts.keeps fun _ => puts.directory_before
    refine ⟨.of_same same adds', ?_, ?_, ?_, ?_⟩
    · rintro _ ⟨⟩
    · rintro _ ⟨⟩
    · rintro _ ⟨⟩
    · rintro _ ⟨⟩
      obtain ⟨p, leads, _, _, others⟩ := puts.place
      refine ⟨text, d, g, bytes, read, parsed, built, rendered, rfl, puts.read, p, leads, ?_⟩
      intro q other b
      rw [others q other]
      exact same.sameFiles.trans files_same q b

/-- One picture or nothing: a failed run changes no regular file, and no directory either unless it
failed in the calls that save the picture; a run that succeeds puts the picture of the document that
it read at its output path, whatever was there, and changes no other file. -/
theorem writes_one_or_none [Raster.Renderer] (faithful : Faithful files) (job : Job) (s : σ) :
    job.Leaves (runAt s job.run).1 (files s) (files (runAt s job.run).2) := by
  have run := job.runAt_runWith s Scene.save
  rw [← run_eq_runWith] at run
  obtain ⟨same, found⟩ := faithful.reads (rfl : readAt s job.input = (_, _))
  rw [run]
  cases given : job.reading s with
  | error e => exact leaves_of_same rfl (operation_of_reading given) same
  | ok prepared =>
    obtain ⟨d, g⟩ := prepared
    obtain ⟨text, read, parsed, built⟩ := of_reading_ok given
    exact leaves_of_saves faithful same (found _ read) parsed built (Scene.saves _ _ _ _)

/-- The input and the output are one file: it holds the picture of the document that it held. -/
theorem writes_one_or_none_in_place :
    let text := "\x7b\"nodes\":[\x7b\"id\":\"a\"\x7d]," ++
      "\"edges\":[\x7b\"source\":\"a\",\"target\":\"a\"\x7d]\x7d"
    let fs : FileSystem := ⟨[(["g.svg"], .file text.toUTF8), (["h"], .directory)], []⟩
    let job : Job := ⟨"g.svg", "g.svg", .default⟩
    ∃ g summary fs', Graph.build [⟨"a", none, none, none⟩] [⟨none, "a", "a", none⟩] = .ok g ∧
      runAt fs job.run = (.ok summary, fs') ∧ summary.format = .svg ∧
      fs'.readFile "g.svg" = .ok ((job.scene g).svg job.settings.figure).toUTF8 := by
  intro text fs job
  let d : Document := ⟨[⟨"a", none, none, none⟩], [⟨none, "a", "a", none⟩]⟩
  have asked : ImageFormat.ofPath job.output = .svg := by decide +kernel
  have parsed : Document.parse text = .ok d := toOption_eq_some_iff.mp (by decide +kernel)
  have complete : ∀ r ∈ d.nodes, ¬ r.LacksId := by simp [d, NodeRecord.LacksId]
  have read : readAt fs "g.svg" = (.ok text.toUTF8, fs) := by rfl
  obtain ⟨g, built, run, _⟩ := (job.staged read Scene.save).drawn d parsed complete (by decide)
  have stored (bytes : ByteArray) :
      ∃ fs', runAt fs (Scene.store "g.svg" bytes) = (.ok .svg, fs') := ⟨_, by rfl⟩
  obtain ⟨fs', saved⟩ := stored ((job.scene g).svg job.settings.figure).toUTF8
  rw [← Scene.runAt_save_svg asked] at saved
  have ran : runAt fs job.run = (.ok (job.summary d g .svg), fs') := run _ _ saved
  have leaves := writes_one_or_none faithful_fileSystem job fs
  rw [ran] at leaves
  obtain ⟨text', d', g', bytes, found, parsed', built', rendered, _, there, _⟩ :=
    leaves.written _ rfl
  have same_bytes : text.toUTF8 = text'.toUTF8 :=
    Except.ok.inj ((congrArg Prod.fst read).symm.trans found)
  have same_text : some text' = some text := by
    rw [← fromUTF8?_eq_some_iff.mpr same_bytes, fromUTF8?_eq_some_iff.mpr rfl]
  obtain rfl := Option.some.inj same_text
  obtain rfl := Except.ok.inj (parsed.symm.trans parsed')
  obtain rfl := Except.ok.inj (built.symm.trans built')
  rw [asked, Scene.image] at rendered
  rw [← Except.ok.inj rendered] at there
  exact ⟨g, _, fs', built, ran, rfl, there⟩

end Job

end Strata
