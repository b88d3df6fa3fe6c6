import Mathlib.Data.Finset.Card
import Strata.CommandLine.Outcome
import Strata.Proofs.DocumentShape
import Strata.Proofs.GraphBuild
import Strata.Proofs.RunStages
import Strata.Storage.FileSystem

/-! How a run ends. The order of its stages decides which of several faults in one document is
reported; a run that comes to the picture counts what was read and what was drawn; and the exit
status tells these ends apart. -/
namespace Strata

open Storage

def Document.ids (d : Document) : Finset String := (d.nodes.filterMap NodeRecord.id).toFinset

theorem Document.mem_ids {d : Document} {id : String} :
    id ∈ d.ids ↔ ∃ r ∈ d.nodes, r.id = some id := by
  simp [ids]

/-- Both ends of the record are among the ids. -/
def EdgeRecord.Stands (ids : Finset String) (r : EdgeRecord) : Prop :=
  (∃ source ∈ ids, r.source = some source) ∧ ∃ target ∈ ids, r.target = some target

instance (ids : Finset String) (r : EdgeRecord) : Decidable (r.Stands ids) :=
  inferInstanceAs (Decidable (_ ∧ _))

theorem EdgeRecord.isSome_edge?_iff {known : String → Bool} {ids : Finset String}
    (same : ∀ id, known id = true ↔ id ∈ ids) (r : EdgeRecord) :
    (r.edge? known).isSome = true ↔ r.Stands ids := by
  obtain ⟨_, source, target, _⟩ := r
  cases source with
  | none => simp [edge?, Stands]
  | some a =>
    cases target with
    | none => simp [edge?, Stands]
    | some b =>
      simp [edge?, Stands, ← same]

/-- The arrays of node and edge records that a JSON text gives. -/
def Document.HasArrays (text : String) (nodes edges : List Json.Value) : Prop :=
  ∃ v graph, Json.parse text = .ok v ∧ graphMembers v = .ok graph ∧
    elements graph .nodes = .ok nodes ∧ elements graph .edges = .ok edges

theorem Document.exists_arrays {text : String} {d : Document}
    (parsed : Document.parse text = .ok d) :
    ∃ nodes edges, HasArrays text nodes edges ∧ d.nodes.length = nodes.length ∧
      d.edges.length = edges.length := by
  rw [Document.parse] at parsed
  obtain ⟨v, read, parsed⟩ := bind_eq_ok_iff.mp parsed
  obtain ⟨graph, nodes, edges, shaped, rfl⟩ := ofJson_eq_ok_iff.mp (mapError_eq_ok_iff.mp parsed)
  exact ⟨nodes, edges, ⟨v, graph, mapError_eq_ok_iff.mp read,
    graphMembers_eq_ok_iff.mpr shaped.hasGraph, elements_eq_ok_iff.mpr shaped.hasNodes,
    elements_eq_ok_iff.mpr shaped.hasEdges⟩, List.length_map _, List.length_map _⟩

namespace Graph.Resolves

variable {d : Document} {g : Graph}

theorem contains_iff_mem_ids (resolves : g.Resolves d.nodes d.edges) (id : String) :
    g.contains id = true ↔ id ∈ d.ids := by
  rw [resolves.contains_iff, Document.mem_ids]

theorem edgeCount_eq (resolves : g.Resolves d.nodes d.edges) :
    g.edgeCount = d.edges.countP fun r => r.Stands d.ids := by
  rw [edgeCount, resolves.edges_eq, List.length_filterMap_eq_countP]
  refine List.countP_congr fun r _ => ?_
  rw [r.isSome_edge?_iff resolves.contains_iff_mem_ids, decide_eq_true_iff]

theorem nodeCount_eq_card (resolves : g.Resolves d.nodes d.edges) (valid : g.Valid) :
    g.nodeCount = d.ids.card := by
  have same : (g.nodeList.map Node.id).toFinset = d.ids := by
    ext id
    rw [← resolves.contains_iff_mem_ids, List.mem_toFinset, List.mem_map, Graph.contains_iff]
    constructor
    · rintro ⟨n, member, rfl⟩
      exact ⟨n, valid.mem_nodeList.mp member⟩
    · rintro ⟨n, found⟩
      refine ⟨n, valid.mem_nodeList.mpr ?_, valid.keyed found⟩
      rw [valid.keyed found, found]
  rw [← same, List.toFinset_card_of_nodup valid.nodup_ids, List.length_map, nodeCount_eq]

end Graph.Resolves

theorem Document.card_ids_le (d : Document) : d.ids.card ≤ d.nodes.length :=
  (List.toFinset_card_le _).trans (List.length_filterMap_le _ _)

/-- What the numbers of a summary count, for a text and the document in it. -/
structure Summary.Counts (text : String) (d : Document) (summary : Summary) : Prop where
  arrays : ∃ nodes edges, Document.HasArrays text nodes edges ∧
    summary.nodes = nodes.length ∧ summary.edges = edges.length
  ids : summary.renderedNodes = d.ids.card
  nodes_le : summary.renderedNodes ≤ summary.nodes
  standing : summary.renderedEdges = d.edges.countP fun r => r.Stands d.ids
  edges : summary.edges = summary.renderedEdges + summary.droppedEdges
  drawn : 1 ≤ summary.renderedEdges

namespace Job

/-- The fault of a document without an edge between its nodes. -/
def emptyFault (job : Job) (nodes edges : Nat) : Fault :=
  ((Fault.emptyGraph nodes edges).during "pipeline::process").note "path" job.input

theorem graph_of_lacking (job : Job) {d : Document} {i : Nat}
    (first : Graph.IsFirstLacking d.nodes i) :
    job.graph d = .error (Graph.MissingId.fault ⟨i⟩) := by
  have built : Graph.ofDocument d = .error ⟨i⟩ := Graph.build_eq_error_iff.mpr first
  rw [graph, built]
  rfl

theorem graph_of_complete (job : Job) {d : Document} (complete : ∀ r ∈ d.nodes, ¬ r.LacksId) :
    job.graph d =
      if ∃ r ∈ d.edges, r.Stands d.ids then .ok (Graph.ofRecords d.nodes d.edges)
      else .error (job.emptyFault d.ids.card 0) := by
  have built : Graph.ofDocument d = .ok (Graph.ofRecords d.nodes d.edges) :=
    Graph.build_eq_ok_iff.mpr ⟨complete, rfl⟩
  have resolves := Graph.resolves_ofRecords complete d.edges
  have valid := Graph.valid_ofRecords complete d.edges
  have counted := resolves.edgeCount_eq
  have renderable : (Graph.ofRecords d.nodes d.edges).isRenderable = true ↔
      ∃ r ∈ d.edges, r.Stands d.ids := by
    rw [resolves.renderable, counted, List.countP_pos_iff]
    simp only [decide_eq_true_iff]
  rw [graph, built]
  change (if _ then _ else _) = _
  simp only [renderable]
  split
  · rfl
  · next none =>
    have no_edges : (Graph.ofRecords d.nodes d.edges).edgeCount = 0 := by
      rw [counted, List.countP_eq_zero]
      intro r member stands
      exact none ⟨r, member, of_decide_eq_true stands⟩
    rw [no_edges, resolves.nodeCount_eq_card valid]
    rfl

theorem counts_summary (job : Job) {text : String} {d : Document}
    (parsed : Document.parse text = .ok d) (complete : ∀ r ∈ d.nodes, ¬ r.LacksId)
    (some_edge : ∃ r ∈ d.edges, r.Stands d.ids) (format : ImageFormat) :
    (job.summary d (Graph.ofRecords d.nodes d.edges) format).Counts text d := by
  have resolves := Graph.resolves_ofRecords complete d.edges
  have nodes := resolves.nodeCount_eq_card (Graph.valid_ofRecords complete d.edges)
  have edges := resolves.edgeCount_eq
  refine ⟨Document.exists_arrays parsed, nodes, nodes.trans_le d.card_ids_le, edges, ?_, ?_⟩
  · have shared := resolves.dropped
    simp only [summary]
    omega
  · obtain ⟨r, member, stands⟩ := some_edge
    refine Nat.lt_of_lt_of_eq ?_ edges.symm
    exact List.countP_pos_iff.mpr ⟨r, member, decide_eq_true stands⟩

variable {σ : Type} [Storage (StateM σ)]

/-- What a run comes to from a state where a text is read, with some program that saves the
picture. Where the text decides the end, that program has no part in it. -/
structure Staged (job : Job) (s : σ) (text : String) (s₁ : σ) (save : Saver (StateM σ)) : Prop where
  unparsable : ∀ e, Document.parse text = .error e →
    runAt s (job.runWith save) = (.error (e.note "path" job.input), s₁)
  lacking : ∀ d i, Document.parse text = .ok d → Graph.IsFirstLacking d.nodes i →
    runAt s (job.runWith save) =
      (.error ((Fault.missingField "id" "node" i).during "graph::build"), s₁)
  empty : ∀ d, Document.parse text = .ok d → (∀ r ∈ d.nodes, ¬ r.LacksId) →
    (∀ r ∈ d.edges, ¬ r.Stands d.ids) →
    runAt s (job.runWith save) = (.error (job.emptyFault d.ids.card 0), s₁)
  drawn : ∀ d, Document.parse text = .ok d → (∀ r ∈ d.nodes, ¬ r.LacksId) →
    (∃ r ∈ d.edges, r.Stands d.ids) → ∃ g, Graph.ofDocument d = .ok g ∧
      (∀ r s₂, runAt s₁ (save (job.scene g) job.settings.figure job.output) = (r, s₂) →
        runAt s (job.runWith save) = (r.map (job.summary d g), s₂)) ∧
      ∀ format, (job.summary d g format).Counts text d

theorem reading_of_readAt (job : Job) {s s₁ : σ} {text : String}
    (read : readAt s job.input = (.ok text.toUTF8, s₁)) : job.reading s = job.prepare text := by
  rw [reading, read, decode_eq_ok_iff.mpr rfl, Except.bind]

theorem staged (job : Job) {s s₁ : σ} {text : String}
    (read : readAt s job.input = (.ok text.toUTF8, s₁)) (save : Saver (StateM σ)) :
    job.Staged s text s₁ save := by
  have run := job.runAt_runWith s save
  rw [job.reading_of_readAt read, read] at run
  refine ⟨?_, ?_, ?_, ?_⟩
  · intro e failed
    rw [run, job.prepare_of_parse_error failed]
  · intro d i parsed first
    rw [run, job.prepare_of_parse parsed, job.graph_of_lacking first]
    rfl
  · intro d parsed complete none
    have no_edge : ¬ ∃ r ∈ d.edges, r.Stands d.ids := by
      rintro ⟨r, member, stands⟩
      exact none r member stands
    rw [run, job.prepare_of_parse parsed, job.graph_of_complete complete, if_neg no_edge]
    rfl
  · intro d parsed complete some_edge
    refine ⟨Graph.ofRecords d.nodes d.edges, Graph.build_eq_ok_iff.mpr ⟨complete, rfl⟩, ?_,
      job.counts_summary parsed complete some_edge⟩
    intro r s₂ saved
    rw [run, job.prepare_of_parse parsed, job.graph_of_complete complete, if_pos some_edge]
    simp only [Except.map, saved]

/-- The text is a document whose node records all have ids, but none of its edges stands. -/
def HoldsNothing (text : String) : Prop :=
  ∃ d, Document.parse text = .ok d ∧ (∀ r ∈ d.nodes, ¬ r.LacksId) ∧ ∀ r ∈ d.edges, ¬ r.Stands d.ids

def FindsNothing (job : Job) (s : σ) : Prop :=
  ∃ text : String, (readAt s job.input).1 = .ok text.toUTF8 ∧ HoldsNothing text

theorem prepare_empty_iff (job : Job) (text : String) :
    (∃ e, job.prepare text = .error e ∧ e.kind = .emptyGraph) ↔ HoldsNothing text := by
  constructor
  · rintro ⟨e, failed, kind⟩
    cases parsed : Document.parse text with
    | error e' =>
      rw [job.prepare_of_parse_error parsed] at failed
      cases failed
      rcases Document.isOfText_of_parse parsed with ⟨other, _⟩ | ⟨other, _⟩ <;> simp [other] at kind
    | ok d =>
      rw [job.prepare_of_parse parsed] at failed
      cases built : Graph.build d.nodes d.edges with
      | error missing =>
        rw [job.graph_of_lacking (Graph.build_eq_error_iff.mp built)] at failed
        cases failed
        simp [Graph.kind_fault] at kind
      | ok g =>
        have complete := (Graph.build_eq_ok_iff.mp built).1
        refine ⟨d, parsed, complete, fun r member stands => ?_⟩
        rw [job.graph_of_complete complete, if_pos ⟨r, member, stands⟩] at failed
        cases failed
  · rintro ⟨d, parsed, complete, none⟩
    have no_edge : ¬ ∃ r ∈ d.edges, r.Stands d.ids := by
      rintro ⟨r, member, stands⟩
      exact none r member stands
    rw [job.prepare_of_parse parsed, job.graph_of_complete complete, if_neg no_edge]
    exact ⟨_, rfl, by simp [emptyFault, Fault.emptyGraph]⟩

theorem reading_empty_iff (job : Job) (s : σ) :
    (∃ e, job.reading s = .error e ∧ e.kind = .emptyGraph) ↔ job.FindsNothing s := by
  rw [reading]
  cases read : decode job.input "input::load_document" (readAt s job.input).1 with
  | error e =>
    obtain ⟨f, rfl⟩ := decode_eq_error read
    constructor
    · rintro ⟨_, failed, kind⟩
      cases failed
      exact absurd (by simpa using kind) f.kind_ne_emptyGraph
    · rintro ⟨text, given, _⟩
      rw [decode_eq_ok_iff.mpr given] at read
      cases read
  | ok text =>
    refine (job.prepare_empty_iff text).trans ⟨?_, ?_⟩
    · exact fun holds => ⟨text, decode_eq_ok_iff.mp read, holds⟩
    rintro ⟨text', given, holds⟩
    rw [decode_eq_ok_iff.mpr given] at read
    cases read
    exact holds

/-- Only a document without anything to draw gives a run the fault of the empty graph. -/
theorem run_empty_iff [Raster.Renderer] (job : Job) (s : σ) :
    (∃ e s', runAt s job.run = (.error e, s') ∧ e.kind = .emptyGraph) ↔ job.FindsNothing s := by
  have run := job.runAt_runWith s Scene.save
  rw [← run_eq_runWith] at run
  rw [← reading_empty_iff, run]
  cases given : job.reading s with
  | error e => simp
  | ok prepared =>
    obtain ⟨d, g⟩ := prepared
    simp only [reduceCtorEq, false_and, exists_false, iff_false]
    rintro ⟨e, s', failed, kind⟩
    have saves := Scene.saves (job.scene g) job.settings.figure job.output (readAt s job.input).2
    generalize runAt (readAt s job.input).2 _ = saved at failed saves
    rcases saved with ⟨e' | format, s₂⟩
    · cases failed
      exact saves.kind_ne_emptyGraph kind
    · cases failed

end Job

namespace CommandLine

def Outcome.ofResult : Except Fault Summary → Outcome
  | .ok summary => .ofSummary summary
  | .error e => .ofFault e

theorem Outcome.exit_ofFault (e : Fault) :
    (Outcome.ofFault e).exit = if e.kind = .emptyGraph then 2 else 1 := by
  unfold ofFault
  cases kind : e.kind <;> simp [Fault.exitCode, Fault.Kind.exitCode, kind]

theorem Outcome.exit_ofResult (r : Except Fault Summary) :
    ((ofResult r).exit = 0 ↔ ∃ summary, r = .ok summary) ∧
      ((ofResult r).exit = 2 ↔ ∃ e, r = .error e ∧ e.kind = .emptyGraph) ∧
      ((ofResult r).exit = 0 ∨ (ofResult r).exit = 1 ∨ (ofResult r).exit = 2) := by
  cases r with
  | ok summary => simp [ofResult, ofSummary]
  | error e =>
    simp only [ofResult, exit_ofFault]
    by_cases empty : e.kind = .emptyGraph <;> simp [empty]

variable {σ : Type} [Storage (StateM σ)]

def Request.job (r : Request) (settings : Settings Float) : Job where
  input := r.input
  output := r.output.getD defaultOutput
  settings

theorem runAt_request [Raster.Renderer] (r : Request) (s₀ : σ) :
    runAt s₀ r.run = match runAt s₀ (Settings.resolve r.config r.overrides) with
      | (.error e, s) => (.error e, s)
      | (.ok settings, s) => runAt s (r.job settings).run := by
  rcases resolved : runAt s₀ (Settings.resolve r.config r.overrides) with ⟨e | settings, s⟩
  · exact runAt_bind_error resolved _
  · exact runAt_bind_ok resolved _

theorem execute_of_parse [Raster.Renderer] {arguments : List String} {r : Request}
    (parsed : parse arguments = .ok r) (s₀ : σ) :
    (execute arguments : StateM σ Outcome) s₀ =
      (.ofResult (runAt s₀ r.run).1, (runAt s₀ r.run).2) := by
  unfold execute
  rw [parsed]
  have shown (report : Except Fault Summary → StateM σ Outcome) :
      (r.run.run >>= report) s₀ = report (runAt s₀ r.run).1 (runAt s₀ r.run).2 := rfl
  refine (shown _).trans ?_
  cases (runAt s₀ r.run).1 <;> rfl

/-- The exit status of a request, by how its job ends under the settings that it asks for. -/
structure Request.Reported [Raster.Renderer] (r : Request) (s₀ : σ) (outcome : Outcome) : Prop where
  success : outcome.exit = 0 ↔ ∃ settings s summary s',
    runAt s₀ (Settings.resolve r.config r.overrides) = (.ok settings, s) ∧
      runAt s (r.job settings).run = (.ok summary, s')
  nothing : outcome.exit = 2 ↔ ∃ settings s,
    runAt s₀ (Settings.resolve r.config r.overrides) = (.ok settings, s) ∧
      (r.job settings).FindsNothing s
  failure : outcome.exit = 0 ∨ outcome.exit = 1 ∨ outcome.exit = 2

theorem Request.reported [Raster.Renderer] (r : Request) (s₀ : σ) :
    r.Reported s₀ (.ofResult (runAt s₀ r.run).1) := by
  obtain ⟨success, nothing, failure⟩ := Outcome.exit_ofResult (runAt s₀ r.run).1
  have run := runAt_request r s₀
  refine ⟨success.trans ?_, nothing.trans ?_, failure⟩
  · rcases resolved : runAt s₀ (Settings.resolve r.config r.overrides) with ⟨e | settings, s⟩
    · simp [run, resolved]
    · simp [run, resolved, Prod.ext_iff]
  · rcases resolved : runAt s₀ (Settings.resolve r.config r.overrides) with ⟨e | settings, s⟩
    · simp [run, resolved, Settings.kind_of_resolve resolved]
    · simp [run, resolved, ← Job.run_empty_iff, Prod.ext_iff]

end CommandLine

/-- How a run ends, and with which status. The first stage that fails decides, the program that
saves the picture has no part in it before, and each status belongs to one kind of end. -/
theorem Job.ends_by_stage (σ : Type) [Storage (StateM σ)] [Raster.Renderer] :
    (∀ (job : Job) (s s₁ : σ) (text : String), readAt s job.input = (.ok text.toUTF8, s₁) →
      (job.run : ExceptT Fault (StateM σ) Summary) = job.runWith Scene.save ∧
        ∀ save, job.Staged s text s₁ save) ∧
    ∀ (arguments : List String) (request : CommandLine.Request) (s₀ : σ),
      CommandLine.parse arguments = .ok request →
      request.Reported s₀
        ((CommandLine.execute arguments : StateM σ CommandLine.Outcome) s₀).1 := by
  refine ⟨fun job s s₁ text read => ⟨job.run_eq_runWith, job.staged read⟩, ?_⟩
  intro arguments request s₀ parsed
  rw [CommandLine.execute_of_parse parsed]
  exact request.reported s₀

/-- Two records for `a` and an edge to a node that is not there: they count among what was read,
not among what was drawn, and the status is that of success. -/
theorem Job.ends_by_stage_doubled :
    let text := "\x7b\"nodes\":[\x7b\"id\":\"a\"\x7d,\x7b\"id\":\"a\"\x7d,\x7b\"id\":\"b\"\x7d]," ++
      "\"edges\":[\x7b\"source\":\"a\",\"target\":\"b\"\x7d," ++
      "\x7b\"source\":\"a\",\"target\":\"c\"\x7d]\x7d"
    let fs : FileSystem := ⟨[(["g.json"], .file text.toUTF8)], []⟩
    let job : Job := ⟨"g.json", "g.svg", .default⟩
    (∃ fs', runAt fs job.run = (.ok ⟨"g.svg", .svg, 3, 2, 2, 1, 1⟩, fs')) ∧
      ((CommandLine.execute ["--in", "g.json", "--out", "g.svg"] :
        StateM FileSystem CommandLine.Outcome) fs).1.exit = 0 := by
  intro text fs job
  let d : Document := ⟨[⟨"a", none, none, none⟩, ⟨"a", none, none, none⟩, ⟨"b", none, none, none⟩],
    [⟨none, "a", "b", none⟩, ⟨none, "a", "c", none⟩]⟩
  have parsed : Document.parse text = .ok d := toOption_eq_some_iff.mp (by decide +kernel)
  obtain ⟨by_stage, by_status⟩ := Job.ends_by_stage FileSystem
  have read : readAt fs "g.json" = (.ok text.toUTF8, fs) := by rfl
  obtain ⟨same, staged⟩ := by_stage job fs fs text read
  have complete : ∀ r ∈ d.nodes, ¬ r.LacksId := by simp [d, NodeRecord.LacksId]
  have some_edge : ∃ r ∈ d.edges, r.Stands d.ids := by decide
  obtain ⟨g, built, run, counts⟩ := (staged Scene.save).drawn d parsed complete some_edge
  have stored (bytes : ByteArray) :
      ∃ fs', runAt fs (Scene.store "g.svg" bytes) = (.ok .svg, fs') := ⟨_, by rfl⟩
  obtain ⟨fs', saved⟩ := stored ((job.scene g).svg job.settings.figure).toUTF8
  rw [← Scene.runAt_save_svg (by decide +kernel)] at saved
  have ran : runAt fs job.run = (.ok ⟨"g.svg", .svg, 3, 2, 2, 1, 1⟩, fs') := by
    have nodes : g.nodeCount = 2 := (counts .svg).ids.trans (by decide)
    have edges : g.edgeCount = 1 := (counts .svg).standing.trans (by decide)
    have shared : 2 = g.edgeCount + g.droppedEdges := (counts .svg).edges
    have dropped : g.droppedEdges = 1 := by omega
    rw [same, run _ _ saved, Except.map, Job.summary, nodes, edges, dropped]
    rfl
  refine ⟨⟨fs', ran⟩, ?_⟩
  exact (by_status _ ⟨"g.json", some "g.svg", none, {}⟩ fs rfl).success.mpr
    ⟨.default, fs, _, fs', rfl, ran⟩

end Strata
