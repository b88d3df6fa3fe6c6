import Strata.Document
import Strata.Proofs.StorageCalls

/-! The shape of an input document. What a document must look like and what can be wrong with it are
said without the order in which it is read; reading then gives one record for each element of a
document of that shape, and otherwise the violation that comes first. -/
namespace Strata.Document

variable {v w : Json.Value} {graph : List (String × Json.Value)} {part : Part}

/-- The object that has the parts of a document: what stands under the wrapping key where that key
is present, else the document itself. -/
inductive HasGraph : Json.Value → List (String × Json.Value) → Prop
  | bare {root : List (String × Json.Value)} (absent : Json.member? root wrapperKey = none) :
      HasGraph (.object root) root
  | wrapped {root graph : List (String × Json.Value)}
      (found : Json.member? root wrapperKey = some (.object graph)) : HasGraph (.object root) graph

/-- The elements of a part; one that is absent or null has none. -/
inductive HasElements (graph : List (String × Json.Value)) (part : Part) : List Json.Value → Prop
  | absent (none : Json.member? graph part.key = none) : HasElements graph part []
  | null (found : Json.member? graph part.key = some .null) : HasElements graph part []
  | array {items : List Json.Value} (found : Json.member? graph part.key = some (.array items)) :
      HasElements graph part items

/-- The elements of which records can be read. -/
inductive IsRecord : Part → Json.Value → Prop
  | node {members : List (String × Json.Value)}
      (layer : ∀ w, field? isGiven members "layer" = some w → ∃ k, Layer.ofJson w = .ok k) :
      IsRecord .nodes (.object members)
  | edge {members : List (String × Json.Value)} : IsRecord .edges (.object members)

structure WellShaped (v : Json.Value) (graph : List (String × Json.Value))
    (nodes edges : List Json.Value) : Prop where
  hasGraph : HasGraph v graph
  hasNodes : HasElements graph .nodes nodes
  hasEdges : HasElements graph .edges edges
  nodeRecords : ∀ w ∈ nodes, IsRecord .nodes w
  edgeRecords : ∀ w ∈ edges, IsRecord .edges w

def nodeRecord : Json.Value → NodeRecord
  | .object members => {
      id := filledText? members "id", name := filledText? members "name",
      layer := (field? isGiven members "layer").bind Layer.ofJson?, kind := text? members "kind" }
  | _ => {}

def edgeRecord : Json.Value → EdgeRecord
  | .object members => edgeOfMembers members
  | _ => {}

/-- What is wrong with one element. -/
inductive Refused : Part → Nat → Json.Value → Defect → Prop
  | shape {part : Part} {i : Nat} {w : Json.Value} (other : ∀ members, w ≠ .object members) :
      Refused part i w (.notObject part i)
  | layer {i : Nat} {members : List (String × Json.Value)} {w : Json.Value} {f : Fault}
      (given : field? isGiven members "layer" = some w) (failed : Layer.ofJson w = .error f) :
      Refused .nodes i (.object members) (.notALayer i w)

/-- What is wrong with a part of a graph. -/
inductive Flaw (graph : List (String × Json.Value)) (part : Part) : Defect → Prop
  | array {w : Json.Value} (found : Json.member? graph part.key = some w) (notNull : w ≠ .null)
      (other : ∀ items, w ≠ .array items) : Flaw graph part (.notArray part)
  | element {items : List Json.Value} {i : Nat} {w : Json.Value} {e : Defect}
      (hasElements : HasElements graph part items) (found : items[i]? = some w)
      (refused : Refused part i w e) : Flaw graph part e

/-- What is wrong with a document. There may be any number of violations. -/
inductive Violates : Json.Value → Defect → Prop
  | root {v : Json.Value} (other : ∀ members, v ≠ .object members) : Violates v .rootNotObject
  | wrapper {root : List (String × Json.Value)} {w : Json.Value}
      (found : Json.member? root wrapperKey = some w) (other : ∀ members, w ≠ .object members) :
      Violates (.object root) .wrapperNotObject
  | inGraph {v : Json.Value} {graph : List (String × Json.Value)} {part : Part} {e : Defect}
      (hasGraph : HasGraph v graph) (flaw : Flaw graph part e) : Violates v e

def Part.stage : Part → Nat
  | nodes => 2
  | edges => 4

/-- The place of a violation: the document, the wrapped graph, the array of nodes, its elements, the
array of edges, its elements. -/
def Defect.stage : Defect → Nat
  | rootNotObject => 0
  | wrapperNotObject => 1
  | notArray part => part.stage
  | notObject part _ => part.stage + 1
  | notALayer _ _ => Part.nodes.stage + 1

/-- The place among the elements of a part. -/
def Defect.index : Defect → Nat
  | notObject _ i | notALayer i _ => i
  | _ => 0

def Defect.NotAfter (e e' : Defect) : Prop :=
  e.stage < e'.stage ∨ e.stage = e'.stage ∧ e.index ≤ e'.index

structure IsFirstViolation (v : Json.Value) (e : Defect) : Prop where
  violates : Violates v e
  least : ∀ e', Violates v e' → e.NotAfter e'

/-- What the fault of a violation says. -/
def Defect.NamedBy (f : Fault) : Defect → Prop
  | rootNotObject => f.kind = .invalidFormat ∧ f.noted? "field" = some "document"
  | wrapperNotObject => f.kind = .invalidFormat ∧ f.noted? "field" = some "graph_state"
  | notArray part => f.kind = .invalidFormat ∧ f.noted? "field" = some part.key
  | notObject part i => f.kind = .invalidFormat ∧ f.noted? "field" = some part.record ∧
      f.noted? "index" = some (toString i)
  | notALayer i _ => f.kind = .fieldCoercion ∧ f.noted? "node" = some (toString i)

theorem Defect.namedBy_fault (e : Defect) : e.NamedBy e.fault := by
  cases e <;> simp [NamedBy, fault, shapeFault, Layer.fault, Fault.invalidFormat,
    Fault.fieldCoercion, Fault.noted?, Fault.note, Fault.during, wrapperKey]

theorem graphMembers_eq_ok_iff : graphMembers v = .ok graph ↔ HasGraph v graph := by
  constructor
  · intro done
    unfold graphMembers at done
    split at done
    · split at done
      · next absent =>
        cases done
        exact .bare absent
      · next found =>
        cases done
        exact .wrapped found
      · cases done
    · cases done
  · rintro (⟨absent⟩ | ⟨found⟩)
    · simp only [graphMembers, absent]
    · simp only [graphMembers, found]

theorem HasGraph.unique {graph' : List (String × Json.Value)} (first : HasGraph v graph)
    (second : HasGraph v graph') : graph = graph' :=
  Except.ok.inj ((graphMembers_eq_ok_iff.mpr first).symm.trans (graphMembers_eq_ok_iff.mpr second))

theorem elements_eq_ok_iff {items : List Json.Value} :
    elements graph part = .ok items ↔ HasElements graph part items := by
  constructor
  · intro done
    unfold elements at done
    split at done
    · next none =>
      cases done
      exact .absent none
    · next found =>
      cases done
      exact .null found
    · next found =>
      cases done
      exact .array found
    · cases done
  · rintro (⟨none⟩ | ⟨found⟩ | ⟨found⟩)
    · simp only [elements, none]
    · simp only [elements, found]
    · simp only [elements, found]

theorem HasElements.unique {items items' : List Json.Value} (first : HasElements graph part items)
    (second : HasElements graph part items') : items = items' :=
  Except.ok.inj ((elements_eq_ok_iff.mpr first).symm.trans (elements_eq_ok_iff.mpr second))

theorem elements_eq_error_iff {e : Defect} : elements graph part = .error e ↔
    e = .notArray part ∧ ∃ w, Json.member? graph part.key = some w ∧ w ≠ .null ∧
      ∀ items, w ≠ .array items := by
  constructor
  · intro failed
    unfold elements at failed
    split at failed
    · cases failed
    · cases failed
    · cases failed
    · next w notNull notArray found =>
      cases failed
      exact ⟨rfl, w, found, notNull, notArray⟩
  · rintro ⟨rfl, w, found, notNull, notArray⟩
    unfold elements
    split
    · next none => cases none.symm.trans found
    · next null => exact absurd (Option.some.inj (found.symm.trans null)) notNull
    · next items array => exact absurd (Option.some.inj (found.symm.trans array)) (notArray items)
    · rfl

/-- Whether there is a record depends on the layer alone. -/
theorem nodeOfMembers_eq (i : Nat) (members : List (String × Json.Value)) :
    nodeOfMembers i members = match field? isGiven members "layer" with
      | none => .ok (nodeRecord (.object members))
      | some w => match Layer.ofJson w with
        | .ok _ => .ok (nodeRecord (.object members))
        | .error _ => .error (.notALayer i w) := by
  simp only [nodeOfMembers, nodeRecord, Layer.ofJson]
  cases field? isGiven members "layer" with
  | none => rfl
  | some w =>
    simp only [Option.bind_some]
    cases Layer.ofJson? w with
    | none => rfl
    | some k => rfl

theorem nodeOfJson_eq_ok_iff {i : Nat} {r : NodeRecord} :
    nodeOfJson i w = .ok r ↔ IsRecord .nodes w ∧ r = nodeRecord w := by
  constructor
  · intro done
    unfold nodeOfJson at done
    split at done
    · next members =>
      rw [nodeOfMembers_eq] at done
      split at done
      · next none =>
        cases done
        exact ⟨.node (by simp [none]), rfl⟩
      · next w given =>
        split at done
        · next k read =>
          cases done
          exact ⟨.node (by simp [given, read]), rfl⟩
        · cases done
    · cases done
  · rintro ⟨⟨layer⟩, rfl⟩
    next members =>
    rw [nodeOfJson, nodeOfMembers_eq]
    split
    · rfl
    · next w given =>
      obtain ⟨k, read⟩ := layer w given
      rw [read]

theorem nodeOfJson_eq_error_iff {i : Nat} {e : Defect} :
    nodeOfJson i w = .error e ↔ Refused .nodes i w e := by
  constructor
  · intro failed
    unfold nodeOfJson at failed
    split at failed
    · next members =>
      rw [nodeOfMembers_eq] at failed
      split at failed
      · cases failed
      · next w given =>
        split at failed
        · cases failed
        · next read =>
          cases failed
          exact .layer given read
    · next other =>
      cases failed
      exact .shape other
  · rintro (⟨other⟩ | ⟨given, read⟩)
    · unfold nodeOfJson
      split
      · next members => exact absurd rfl (other members)
      · rfl
    · rw [nodeOfJson, nodeOfMembers_eq, given]
      simp only [read]

theorem edgeOfJson_eq_ok_iff {i : Nat} {r : EdgeRecord} :
    edgeOfJson i w = .ok r ↔ IsRecord .edges w ∧ r = edgeRecord w := by
  constructor
  · intro done
    unfold edgeOfJson at done
    split at done
    · cases done
      exact ⟨.edge, rfl⟩
    · cases done
  · rintro ⟨⟨⟩, rfl⟩
    rfl

theorem edgeOfJson_eq_error_iff {i : Nat} {e : Defect} :
    edgeOfJson i w = .error e ↔ Refused .edges i w e := by
  constructor
  · intro failed
    unfold edgeOfJson at failed
    split at failed
    · cases failed
    · next other =>
      cases failed
      exact .shape other
  · rintro ⟨other⟩
    unfold edgeOfJson
    split
    · next members => exact absurd rfl (other members)
    · rfl

theorem Refused.stage_eq {i : Nat} {e : Defect} (refused : Refused part i w e) :
    e.stage = part.stage + 1 ∧ e.index = i := by
  cases refused <;> exact ⟨rfl, rfl⟩

theorem Flaw.stage_bounds {e : Defect} (flaw : Flaw graph part e) :
    part.stage ≤ e.stage ∧ e.stage ≤ part.stage + 1 := by
  cases flaw with
  | array => exact ⟨Nat.le_refl _, Nat.le_succ _⟩
  | element _ _ refused =>
    rw [refused.stage_eq.1]
    omega

section

variable {β : Type} {read : Nat → Json.Value → Except Defect β} {record : Json.Value → β}

theorem readFrom_eq_ok_iff {start : Nat} {items : List Json.Value} {records : List β}
    (done : ∀ {i w r}, read i w = .ok r ↔ IsRecord part w ∧ r = record w) :
    readFrom read start items = .ok records ↔
      (∀ w ∈ items, IsRecord part w) ∧ records = items.map record := by
  induction items generalizing start records with
  | nil => simp [readFrom, eq_comm]
  | cons w rest ih =>
    simp only [readFrom, bind_eq_ok_iff, done, ih, List.forall_mem_cons, List.map_cons]
    constructor
    · rintro ⟨_, ⟨first, rfl⟩, _, ⟨later, rfl⟩, made⟩
      cases made
      exact ⟨⟨first, later⟩, rfl⟩
    · rintro ⟨⟨first, later⟩, rfl⟩
      exact ⟨_, ⟨first, rfl⟩, _, ⟨later, rfl⟩, rfl⟩

theorem refused_of_readFrom {start : Nat} {items : List Json.Value} {e : Defect}
    (failed : ∀ {i w e}, read i w = .error e ↔ Refused part i w e)
    (stopped : readFrom read start items = .error e) :
    ∃ i w, items[i]? = some w ∧ Refused part (start + i) w e ∧
      ∀ j w' e', items[j]? = some w' → Refused part (start + j) w' e' → i ≤ j := by
  -- On the elements, for every number at which counting may start.
  induction items generalizing start with
  | nil => cases stopped
  | cons w rest ih =>
    rw [readFrom] at stopped
    rcases bind_eq_error_iff.mp stopped with first | ⟨r, first, stopped⟩
    · exact ⟨0, w, rfl, failed.mp first, fun _ _ _ _ _ => Nat.zero_le _⟩
    · rcases bind_eq_error_iff.mp stopped with later | ⟨_, _, made⟩
      · obtain ⟨i, w', found, refused, least⟩ := ih later
        have shift (k : Nat) : start + 1 + k = start + (k + 1) := by omega
        refine ⟨i + 1, w', found, shift i ▸ refused, ?_⟩
        intro j u e' found' refused'
        cases j with
        | zero =>
          cases found'
          have clash := first.symm.trans (failed.mpr refused')
          cases clash
        | succ j =>
          have before := least j u e' found' (shift j ▸ refused')
          omega
      · cases made

theorem part_eq_ok_iff {records : List β}
    (done : ∀ {i w r}, read i w = .ok r ↔ IsRecord part w ∧ r = record w) :
    (elements graph part >>= readFrom read 0) = .ok records ↔
      ∃ items, HasElements graph part items ∧ (∀ w ∈ items, IsRecord part w) ∧
        records = items.map record := by
  simp only [bind_eq_ok_iff, elements_eq_ok_iff, readFrom_eq_ok_iff done]

theorem part_eq_error {e : Defect}
    (failed : ∀ {i w e}, read i w = .error e ↔ Refused part i w e)
    (stopped : (elements graph part >>= readFrom read 0) = .error e) :
    Flaw graph part e ∧ ∀ e', Flaw graph part e' → e.NotAfter e' := by
  rcases bind_eq_error_iff.mp stopped with none | ⟨items, given, stopped⟩
  · obtain ⟨rfl, w, found, notNull, other⟩ := elements_eq_error_iff.mp none
    refine ⟨.array found notNull other, ?_⟩
    intro e' flaw
    exact Nat.lt_or_eq_of_le flaw.stage_bounds.1 |>.imp_right fun same => ⟨same, Nat.zero_le _⟩
  · replace given := elements_eq_ok_iff.mp given
    obtain ⟨i, w, found, refused, least⟩ := refused_of_readFrom failed stopped
    rw [Nat.zero_add] at refused
    refine ⟨.element given found refused, ?_⟩
    intro e' flaw
    cases flaw with
    | array found' notNull other =>
      have clash := (elements_eq_ok_iff.mpr given).symm.trans
        (elements_eq_error_iff.mpr ⟨rfl, _, found', notNull, other⟩)
      cases clash
    | @element _ j u _ given' found' refused' =>
      cases given.unique given'
      have before := least j u e' found' (by rwa [Nat.zero_add])
      have place := refused.stage_eq
      have place' := refused'.stage_eq
      unfold Defect.NotAfter
      omega

theorem Refused.not_isRecord {i : Nat} {e : Defect} (refused : Refused part i w e) :
    ¬ IsRecord part w := by
  rintro (⟨layer⟩ | _)
  · cases refused with
    | shape other => exact other _ rfl
    | layer given failed =>
      obtain ⟨k, read⟩ := layer _ given
      cases failed.symm.trans read
  · cases refused with
    | shape other => exact other _ rfl

theorem HasElements.sound {items : List Json.Value} {e : Defect}
    (given : HasElements graph part items) (all : ∀ w ∈ items, IsRecord part w) :
    ¬ Flaw graph part e := by
  rintro (⟨found, notNull, other⟩ | ⟨given', found, refused⟩)
  · have clash := (elements_eq_ok_iff.mpr given).symm.trans
      (elements_eq_error_iff.mpr ⟨rfl, _, found, notNull, other⟩)
    cases clash
  · cases given.unique given'
    exact refused.not_isRecord (all _ (List.mem_of_getElem? found))

end

theorem ofJson_eq (v : Json.Value) : ofJson v = (do
    let graph ← graphMembers v
    let nodes ← elements graph .nodes >>= readFrom nodeOfJson 0
    let edges ← elements graph .edges >>= readFrom edgeOfJson 0
    return ⟨nodes, edges⟩) := by
  simp only [ofJson, bind_assoc]

theorem ofJson_eq_ok_iff {d : Document} : ofJson v = .ok d ↔ ∃ graph nodes edges,
    WellShaped v graph nodes edges ∧ d = ⟨nodes.map nodeRecord, edges.map edgeRecord⟩ := by
  simp only [ofJson_eq, bind_eq_ok_iff, graphMembers_eq_ok_iff, part_eq_ok_iff nodeOfJson_eq_ok_iff,
    part_eq_ok_iff edgeOfJson_eq_ok_iff]
  constructor
  · rintro ⟨graph, hasGraph, _, ⟨nodes, hasNodes, nodeRecords, rfl⟩, _,
      ⟨edges, hasEdges, edgeRecords, rfl⟩, made⟩
    cases made
    exact ⟨graph, nodes, edges, ⟨hasGraph, hasNodes, hasEdges, nodeRecords, edgeRecords⟩, rfl⟩
  · rintro ⟨graph, nodes, edges, shaped, rfl⟩
    exact ⟨graph, shaped.hasGraph, _, ⟨nodes, shaped.hasNodes, shaped.nodeRecords, rfl⟩, _,
      ⟨edges, shaped.hasEdges, shaped.edgeRecords, rfl⟩, rfl⟩

theorem graphMembers_eq_error {e : Defect} (failed : graphMembers v = .error e) :
    IsFirstViolation v e := by
  unfold graphMembers at failed
  split at failed
  · next root =>
    split at failed
    · cases failed
    · cases failed
    · next w other found =>
      cases failed
      refine ⟨.wrapper found other, ?_⟩
      intro e' violates
      cases violates with
      | root notObject => exact absurd rfl (notObject root)
      | wrapper => exact .inr ⟨rfl, Nat.le_refl _⟩
      | @inGraph _ _ part _ _ flaw =>
        refine .inl (Nat.lt_of_lt_of_le ?_ flaw.stage_bounds.1)
        cases part <;> decide
  · next other =>
    cases failed
    refine ⟨.root other, ?_⟩
    intro e' violates
    exact (Nat.eq_zero_or_pos e'.stage).elim (fun same => .inr ⟨same.symm, Nat.zero_le _⟩) .inl

/-- Where there is a graph, what is wrong is wrong within it. -/
theorem Violates.inGraph_of_hasGraph {e : Defect} (violates : Violates v e)
    (hasGraph : HasGraph v graph) : ∃ part, Flaw graph part e := by
  cases violates with
  | root other => cases hasGraph <;> exact absurd rfl (other _)
  | wrapper found other =>
    cases hasGraph with
    | bare absent => cases absent.symm.trans found
    | wrapped found' => exact absurd (Option.some.inj (found.symm.trans found')) (other _)
  | inGraph hasGraph' flaw =>
    cases hasGraph.unique hasGraph'
    exact ⟨_, flaw⟩

theorem isFirstViolation_of_ofJson {e : Defect} (failed : ofJson v = .error e) :
    IsFirstViolation v e := by
  rw [ofJson_eq] at failed
  rcases bind_eq_error_iff.mp failed with noGraph | ⟨graph, hasGraph, failed⟩
  · exact graphMembers_eq_error noGraph
  replace hasGraph := graphMembers_eq_ok_iff.mp hasGraph
  rcases bind_eq_error_iff.mp failed with noNodes | ⟨nodeRecords, nodesRead, failed⟩
  · obtain ⟨flaw, least⟩ := part_eq_error nodeOfJson_eq_error_iff noNodes
    refine ⟨.inGraph hasGraph flaw, ?_⟩
    intro e' violates
    obtain ⟨part, flaw'⟩ := violates.inGraph_of_hasGraph hasGraph
    cases part with
    | nodes => exact least e' flaw'
    | edges =>
      refine .inl (Nat.lt_of_le_of_lt flaw.stage_bounds.2 ?_)
      exact Nat.lt_of_lt_of_le (by decide) flaw'.stage_bounds.1
  obtain ⟨nodes, hasNodes, sound, rfl⟩ := (part_eq_ok_iff nodeOfJson_eq_ok_iff).mp nodesRead
  rcases bind_eq_error_iff.mp failed with noEdges | ⟨_, _, made⟩
  · obtain ⟨flaw, least⟩ := part_eq_error edgeOfJson_eq_error_iff noEdges
    refine ⟨.inGraph hasGraph flaw, ?_⟩
    intro e' violates
    obtain ⟨part, flaw'⟩ := violates.inGraph_of_hasGraph hasGraph
    cases part with
    | nodes => exact absurd flaw' (hasNodes.sound sound)
    | edges => exact least e' flaw'
  · cases made

theorem WellShaped.sound {nodes edges : List Json.Value} {e : Defect}
    (shaped : WellShaped v graph nodes edges) : ¬ Violates v e := by
  intro violates
  obtain ⟨part, flaw⟩ := violates.inGraph_of_hasGraph shaped.hasGraph
  cases part with
  | nodes => exact shaped.hasNodes.sound shaped.nodeRecords flaw
  | edges => exact shaped.hasEdges.sound shaped.edgeRecords flaw

theorem Refused.unique {i : Nat} {e e' : Defect} (first : Refused part i w e)
    (second : Refused part i w e') : e = e' := by
  cases first with
  | shape other =>
    cases second with
    | shape => rfl
    | layer => exact absurd rfl (other _)
  | layer given =>
    cases second with
    | shape other => exact absurd rfl (other _)
    | layer given' =>
      cases given.symm.trans given'
      rfl

theorem Flaw.unique {e e' : Defect} (first : Flaw graph part e) (second : Flaw graph part e')
    (stage : e.stage = e'.stage) (index : e.index = e'.index) : e = e' := by
  cases first with
  | array =>
    cases second with
    | array => rfl
    | element _ _ refused =>
      exact absurd (stage.trans refused.stage_eq.1) (Nat.ne_of_lt (Nat.lt_succ_self _))
  | element hasElements found refused =>
    cases second with
    | array =>
      exact absurd (stage.symm.trans refused.stage_eq.1) (Nat.ne_of_lt (Nat.lt_succ_self _))
    | element hasElements' found' refused' =>
      cases hasElements.unique hasElements'
      rw [refused.stage_eq.2, refused'.stage_eq.2] at index
      subst index
      cases found.symm.trans found'
      exact refused.unique refused'

/-- No two violations have the same place. -/
theorem Violates.unique {e e' : Defect} (first : Violates v e) (second : Violates v e')
    (stage : e.stage = e'.stage) (index : e.index = e'.index) : e = e' := by
  have late {e : Defect} {graph : List (String × Json.Value)} {part : Part}
      (flaw : Flaw graph part e) : 2 ≤ e.stage := by
    refine Nat.le_trans ?_ flaw.stage_bounds.1
    cases part <;> decide
  cases first with
  | root =>
    cases second with
    | root => rfl
    | wrapper => cases stage
    | inGraph _ flaw => exact absurd (stage ▸ late flaw) (by decide)
  | wrapper =>
    cases second with
    | root => cases stage
    | wrapper => rfl
    | inGraph _ flaw => exact absurd (stage ▸ late flaw) (by decide)
  | @inGraph _ _ part _ hasGraph flaw =>
    cases second with
    | root => exact absurd (stage ▸ late flaw) (by decide)
    | wrapper => exact absurd (stage ▸ late flaw) (by decide)
    | @inGraph _ _ part' _ hasGraph' flaw' =>
      cases hasGraph.unique hasGraph'
      have bounds := flaw.stage_bounds
      have bounds' := flaw'.stage_bounds
      have same : part = part' := by
        cases part <;> cases part' <;> simp_all only [Part.stage] <;> omega
      subst same
      exact flaw.unique flaw' stage index

theorem ofJson_eq_error_iff {e : Defect} : ofJson v = .error e ↔ IsFirstViolation v e := by
  refine ⟨isFirstViolation_of_ofJson, ?_⟩
  intro first
  cases read : ofJson v with
  | ok d =>
    obtain ⟨_, _, _, shaped, _⟩ := ofJson_eq_ok_iff.mp read
    exact absurd first.violates shaped.sound
  | error e' =>
    -- The violation that is reported and the first one come before each other.
    have first' := isFirstViolation_of_ofJson read
    have before := first.least _ first'.violates
    have after := first'.least _ first.violates
    unfold Defect.NotAfter at before after
    rw [first.violates.unique first'.violates (by omega) (by omega)]

/-- A document of the right shape gives one record for each element, each by its element alone; any
other gives the fault of its first violation. -/
theorem ofJson_shape (v : Json.Value) :
    (∀ d, (ofJson v).mapError Defect.fault = .ok d ↔ ∃ graph nodes edges,
      WellShaped v graph nodes edges ∧ d = ⟨nodes.map nodeRecord, edges.map edgeRecord⟩) ∧
    ∀ f, (ofJson v).mapError Defect.fault = .error f ↔
      ∃ e, IsFirstViolation v e ∧ f = e.fault ∧ e.NamedBy f := by
  constructor
  · intro d
    rw [mapError_eq_ok_iff, ofJson_eq_ok_iff]
  · intro f
    simp only [mapError_eq_error_iff, ofJson_eq_error_iff]
    constructor
    · rintro ⟨e, first, rfl⟩
      exact ⟨e, first, rfl, e.namedBy_fault⟩
    · rintro ⟨e, first, rfl, _⟩
      exact ⟨e, first, rfl⟩

end Strata.Document
