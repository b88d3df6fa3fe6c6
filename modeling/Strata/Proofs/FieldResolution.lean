import Mathlib.Logic.Relation
import Strata.Proofs.ByteOrder
import Strata.Proofs.DocumentShape
import Strata.Proofs.JsonOrder

/-! Which key a field of a record is read from, as an order of precedence among the keys that spell
it, and what of a document is therefore of no account: each rewriting of a document that this
precedence cannot see is listed by itself. -/
namespace Strata

namespace Decimal

theorem Form.layoutPositional_ne_empty (f : Form) {digits : String} (some : digits ≠ "")
    (exponent : Int) : f.layoutPositional digits exponent ≠ "" := by
  unfold layoutPositional
  simp only
  split
  · simp [String.append_eq_empty_iff, some]
  · split <;> simp [String.append_eq_empty_iff]

theorem layoutScientific_ne_empty (digits : String) (exponent : Int) :
    layoutScientific digits exponent ≠ "" := by
  simp [layoutScientific, String.append_eq_empty_iff]

theorem Form.render_ne_empty (f : Form) (x : Float) : f.render x ≠ "" := by
  have layout (d : Digits) : f.layout d ≠ "" := by
    have some : toString d.digits ≠ "" := Nat.repr_ne_empty
    unfold Form.layout
    simp only
    split
    · exact f.layoutPositional_ne_empty some _
    · split
      · exact f.layoutPositional_ne_empty some _
      · exact layoutScientific_ne_empty _ _
  unfold render
  split
  · decide
  · simp only [ne_eq, String.append_eq_empty_iff, not_and]
    intro _
    split
    · exact layout _
    · decide

end Decimal

theorem Json.Number.text_ne_empty (n : Number) : n.text ≠ "" := by
  cases n with
  | whole n =>
    cases n with
    | ofNat n => exact Nat.repr_ne_empty
    | negSucc n =>
      have minus : toString (Int.negSucc n) = "-" ++ toString (n + 1) := rfl
      simp [text, minus, String.append_eq_empty_iff]
  | real x => exact Decimal.json.render_ne_empty x

namespace Document

def Given (v : Json.Value) : Prop := v ≠ .null

/-- Values that count where an empty text does not. -/
def Filled (v : Json.Value) : Prop := v ≠ .null ∧ v ≠ .string ""

theorem isGiven_iff {v : Json.Value} : isGiven v = true ↔ Given v := by
  cases v <;> simp [isGiven, Given, Json.Value.isNull]

theorem isFilled_iff {v : Json.Value} : isFilled v = true ↔ Filled v := by
  cases v <;> simp [isFilled, Filled]

/-- The key has a value that counts. -/
def Offers (usable : Json.Value → Prop) (members : List (String × Json.Value)) (key : String)
    (v : Json.Value) : Prop :=
  Json.member? members key = some v ∧ usable v

/-- The key is the name of the field but for the case of ASCII letters. -/
def Spells (key field : String) : Prop := Text.equalIgnoringCase key field = true

/-- The value used for a field: that of the field's own name, else that of the least of the keys
that spell it, in the order of their bytes. Only keys with a value that counts are considered. -/
inductive Resolves (usable : Json.Value → Prop) (members : List (String × Json.Value))
    (field : String) : Option Json.Value → Prop
  | exact {v : Json.Value} (offers : Offers usable members field v) :
      Resolves usable members field (some v)
  | variant {key : String} {v : Json.Value} (unused : ∀ v, ¬ Offers usable members field v)
      (spells : Spells key field) (offers : Offers usable members key v)
      (least : ∀ key' v', Spells key' field → Offers usable members key' v' →
        Text.utf8 key ≤ Text.utf8 key') : Resolves usable members field (some v)
  | none (unused : ∀ key v, Spells key field → ¬ Offers usable members key v) :
      Resolves usable members field none

variable {usable : Json.Value → Prop} {members members' : List (String × Json.Value)}
  {field : String} {o o' : Option Json.Value}

theorem spells_refl (field : String) : Spells field field := by
  simp [Spells, Text.equalIgnoringCase]

/-- One key spells one field at most, but for the case of letters. -/
theorem Spells.trans_symm {key field field' : String} (first : Spells key field)
    (second : Spells key field') : Spells field field' := by
  simp only [Spells, Text.equalIgnoringCase, beq_iff_eq] at *
  exact first.symm.trans second

theorem Resolves.unique (first : Resolves usable members field o)
    (second : Resolves usable members field o') : o = o' := by
  cases first with
  | exact offers =>
    cases second with
    | exact offers' => exact offers.1.symm.trans offers'.1
    | variant unused => exact absurd offers (unused _)
    | none unused => exact absurd offers (unused _ _ (spells_refl field))
  | @variant key v unused spells offers least =>
    cases second with
    | exact offers' => exact absurd offers' (unused _)
    | @variant key' v' _ spells' offers' least' =>
      have same : key = key' := by
        have before := least _ _ spells' offers'
        have after := least' _ _ spells offers
        rcases Std.lt_trichotomy key key' with less | same | greater
        · exact absurd ((Text.lt_iff_utf8_lt _ _).mp less) (List.not_lt.mpr after)
        · exact same
        · exact absurd ((Text.lt_iff_utf8_lt _ _).mp greater) (List.not_lt.mpr before)
      subst same
      exact offers.1.symm.trans offers'.1
    | none unused' => exact absurd offers (unused' _ _ spells)
  | none unused =>
    cases second with
    | exact offers => exact absurd offers (unused _ _ (spells_refl field))
    | variant _ spells offers => exact absurd offers (unused _ _ spells)
    | none => rfl

theorem resolves_field? {present : Json.Value → Bool} (counts : ∀ v, present v = true ↔ usable v)
    (sorted : Json.Sorted members) (field : String) :
    Resolves usable members field (field? present members field) := by
  have offers_iff {key : String} {v : Json.Value} :
      Offers usable members key v ↔ (key, v) ∈ members ∧ present v = true := by
    rw [Offers, sorted.member?_eq_some_iff, counts]
  unfold field?
  split
  · next v own =>
    obtain ⟨found, fits⟩ := Option.filter_eq_some_iff.mp own
    exact .exact ⟨found, (counts v).mp fits⟩
  · next unfit =>
    have unused (v : Json.Value) : ¬ Offers usable members field v := by
      rintro ⟨found, fits⟩
      simp [found, (counts v).mpr fits] at unfit
    cases search : members.find? fun m => Text.equalIgnoringCase m.1 field && present m.2 with
    | none =>
      refine .none ?_
      intro key v spells offers
      obtain ⟨member, fits⟩ := offers_iff.mp offers
      exact List.find?_eq_none.mp search _ member (Bool.and_eq_true_iff.mpr ⟨spells, fits⟩)
    | some m =>
      obtain ⟨key, v⟩ := m
      obtain ⟨fits, before, after, rfl, others⟩ := List.find?_eq_some_iff_append.mp search
      rw [Bool.and_eq_true] at fits
      -- Keys ascend, so the first member that fits has the least of the keys that do.
      refine .variant unused fits.1 (offers_iff.mpr ⟨by simp, fits.2⟩) ?_
      intro key' v' spells offers
      obtain ⟨member, fits'⟩ := offers_iff.mp offers
      have ascending := (List.pairwise_cons.mp (List.pairwise_append.mp sorted).2.1).1
      rcases List.mem_append.mp member with earlier | later
      · have passedOver := (Bool.not_eq_true' _).mp (others _ earlier)
        cases passedOver.symm.trans (Bool.and_eq_true_iff.mpr ⟨spells, fits'⟩)
      · rcases List.mem_cons.mp later with same | behind
        · cases same
          exact List.le_refl _
        · exact List.le_of_lt ((Text.lt_iff_utf8_lt _ _).mp (ascending _ behind))

/-- The fields that a record of a part may have. -/
def Part.fields : Part → List String
  | nodes => ["id", "name", "layer", "kind"]
  | edges => ["id", "source", "target", "type"]

def Part.textFields (part : Part) : List String := part.fields.filter (· ≠ "layer")

def IsNumberOrBool (v : Json.Value) : Prop := (∃ n, v = .number n) ∨ ∃ b, v = .bool b

/-- One change to a record that its fields do not show. -/
inductive Retouch (part : Part) (members : List (String × Json.Value)) :
    List (String × Json.Value) → Prop
  /-- The only key that spells a field becomes the name of the field. -/
  | rename {field key : String} {v : Json.Value} (known : field ∈ part.fields)
      (spells : Spells key field) (found : Json.member? members key = some v)
      (only : ∀ key' v', Json.member? members key' = some v' → Spells key' field → key' = key) :
      Retouch part members (Json.insertMember field v (Json.eraseMember key members))
  | dropNull {key : String} (found : Json.member? members key = some .null) :
      Retouch part members (Json.eraseMember key members)
  | addUnknown {key : String} {v : Json.Value}
      (unknown : ∀ field ∈ part.fields, ¬ Spells key field) :
      Retouch part members (Json.insertMember key v members)
  /-- A number or truth value in place of a text becomes its own text. -/
  | quote {field key : String} {v : Json.Value} (known : field ∈ part.textFields)
      (spells : Spells key field) (found : Json.member? members key = some v)
      (scalar : IsNumberOrBool v) :
      Retouch part members (Json.insertMember key (.string v.text) members)

theorem Retouch.sorted {part : Part} (retouch : Retouch part members members')
    (sorted : Json.Sorted members) : Json.Sorted members' := by
  cases retouch with
  | rename => exact (sorted.eraseMember _).insertMember _ _
  | dropNull => exact sorted.eraseMember _
  | addUnknown => exact sorted.insertMember _ _
  | quote => exact sorted.insertMember _ _

/-- Two values that a field gives the same for. -/
def SameFor (field : String) (v w : Json.Value) : Prop :=
  v = w ∨ field ≠ "layer" ∧ scalarText? v = scalarText? w

/-- A test of which values count that takes no null and any number, any truth value and their
texts. -/
structure Counts (present : Json.Value → Bool) (usable : Json.Value → Prop) : Prop where
  present_iff : ∀ v, present v = true ↔ usable v
  null : ¬ usable .null
  scalar : ∀ v, IsNumberOrBool v → usable v ∧ usable (.string v.text)

theorem IsNumberOrBool.text_ne_empty {v : Json.Value} (scalar : IsNumberOrBool v) :
    v.text ≠ "" := by
  rcases scalar with ⟨n, rfl⟩ | ⟨b, rfl⟩
  · exact n.text_ne_empty
  · cases b <;> decide

theorem IsNumberOrBool.scalarText?_eq {v : Json.Value} (scalar : IsNumberOrBool v) :
    scalarText? v = some v.text := by
  rcases scalar with ⟨n, rfl⟩ | ⟨b, rfl⟩ <;> rfl

theorem counts_given : Counts isGiven Given := by
  refine ⟨fun _ => isGiven_iff, fun given => given rfl, ?_⟩
  rintro v (⟨n, rfl⟩ | ⟨b, rfl⟩) <;> exact ⟨nofun, nofun⟩

theorem counts_filled : Counts isFilled Filled := by
  refine ⟨fun _ => isFilled_iff, fun filled => filled.1 rfl, ?_⟩
  intro v scalar
  refine ⟨?_, nofun, fun same => scalar.text_ne_empty (Json.Value.string.inj same)⟩
  rcases scalar with ⟨n, rfl⟩ | ⟨b, rfl⟩ <;> exact ⟨nofun, nofun⟩

/-- Both lists offer alike under all keys that spell the field. -/
structure Alike (usable : Json.Value → Prop) (field : String)
    (members members' : List (String × Json.Value)) : Prop where
  forth : ∀ {key v}, Spells key field → Offers usable members key v →
    ∃ w, SameFor field v w ∧ Offers usable members' key w
  back : ∀ {key w}, Spells key field → Offers usable members' key w →
    ∃ v, Offers usable members key v

/-- What is offered alike is resolved alike. -/
theorem Resolves.transfer (alike : Alike usable field members members')
    (resolves : Resolves usable members field o) :
    ∃ o', Resolves usable members' field o' ∧ Option.Rel (SameFor field) o o' := by
  cases resolves with
  | exact offers =>
    obtain ⟨w, same, offers'⟩ := alike.forth (spells_refl field) offers
    exact ⟨some w, .exact offers', .some same⟩
  | variant unused spells offers least =>
    obtain ⟨w, same, offers'⟩ := alike.forth spells offers
    refine ⟨some w, .variant ?_ spells offers' ?_, .some same⟩
    · intro v offered
      obtain ⟨u, offered⟩ := alike.back (spells_refl field) offered
      exact unused u offered
    · intro key' v' spells' offered
      obtain ⟨u, offered⟩ := alike.back spells' offered
      exact least key' u spells' offered
  | none unused =>
    refine ⟨_, .none ?_, .none⟩
    intro key v spells offered
    obtain ⟨u, offered⟩ := alike.back spells offered
    exact unused key u spells offered

theorem alike_of_member?_eq
    (same : ∀ key, Spells key field → Json.member? members' key = Json.member? members key) :
    Alike usable field members members' := by
  refine ⟨?_, ?_⟩
  · rintro key v spells ⟨found, fits⟩
    exact ⟨v, .inl rfl, (same key spells).trans found, fits⟩
  · rintro key w spells ⟨found, fits⟩
    exact ⟨w, (same key spells).symm.trans found, fits⟩

section

variable {present : Json.Value → Bool} (counts : Counts present usable)
  (sorted : Json.Sorted members)

include counts sorted

theorem field?_rel_of_alike (sorted' : Json.Sorted members')
    (alike : Alike usable field members members') :
    Option.Rel (SameFor field) (field? present members field) (field? present members' field) := by
  obtain ⟨o', resolves, same⟩ :=
    (resolves_field? counts.present_iff sorted field).transfer alike
  rwa [(resolves_field? counts.present_iff sorted' field).unique resolves]

/-- Where a single key spells a field, its value counts or none does. -/
theorem field?_of_only {key : String} {v : Json.Value} (spells : Spells key field)
    (found : Json.member? members key = some v)
    (only : ∀ key' v', Json.member? members key' = some v' → Spells key' field → key' = key) :
    field? present members field = (some v).filter present := by
  refine (resolves_field? counts.present_iff sorted field).unique ?_
  by_cases fits : usable v
  · rw [Option.filter_some_pos ((counts.present_iff v).mpr fits)]
    by_cases own : key = field
    · exact .exact ⟨own ▸ found, fits⟩
    · refine .variant ?_ spells ⟨found, fits⟩ ?_
      · rintro w ⟨found', _⟩
        exact own (only _ w found' (spells_refl field)).symm
      · rintro key' v' spells' ⟨found', _⟩
        rw [only key' v' found' spells']
        exact List.le_refl _
  · rw [Option.filter_some_neg (Bool.eq_false_iff.mpr (mt (counts.present_iff v).mp fits))]
    refine .none ?_
    rintro key' v' spells' ⟨found', fits'⟩
    cases only key' v' found' spells'
    cases found.symm.trans found'
    exact fits fits'

end

theorem only_renamed {key : String} {v : Json.Value}
    (only : ∀ key' v', Json.member? members key' = some v' → Spells key' field → key' = key)
    (key' : String) (w : Json.Value)
    (found : Json.member? (Json.insertMember field v (Json.eraseMember key members)) key' = some w)
    (spells : Spells key' field) : key' = field := by
  by_cases own : key' = field
  · exact own
  · rw [Json.member?_insertMember_other own] at found
    by_cases same : key' = key
    · rw [same, Json.member?_eraseMember_same] at found
      cases found
    · rw [Json.member?_eraseMember_other same] at found
      exact absurd (only key' w found spells) same

theorem Part.fields_apart {part : Part} {field field' : String} (first : field ∈ part.fields)
    (second : field' ∈ part.fields) (spells : Spells field field') : field = field' := by
  cases part <;> simp only [fields, List.mem_cons, List.not_mem_nil, or_false] at first second <;>
    rcases first with rfl | rfl | rfl | rfl <;> rcases second with rfl | rfl | rfl | rfl <;>
    first | rfl | exact absurd spells (by unfold Spells; decide)

theorem Retouch.field?_rel {part : Part} {present : Json.Value → Bool}
    (counts : Counts present usable) (sorted : Json.Sorted members)
    (retouch : Retouch part members members') (known : field ∈ part.fields) :
    Option.Rel (SameFor field) (field? present members field) (field? present members' field) := by
  have sorted' := retouch.sorted sorted
  cases retouch with
  | @rename field' key v known' spells found only =>
    -- The key that is renamed spells no other field of the part.
    by_cases own : field = field'
    · subst own
      rw [field?_of_only counts sorted spells found only,
        field?_of_only counts sorted' (spells_refl field) (Json.member?_insertMember_same _ _ _)
          (only_renamed only)]
      cases (some v).filter present with
      | none => exact .none
      | some w => exact .some (.inl rfl)
    · have apart {k : String} (spells' : Spells k field) : ¬ Spells k field' :=
        fun spells'' => own (Part.fields_apart known known' (spells'.trans_symm spells''))
      refine field?_rel_of_alike counts sorted sorted' (alike_of_member?_eq ?_)
      intro k spells'
      have notKey : k ≠ key := fun same => apart spells' (same ▸ spells)
      have notField : k ≠ field' := fun same => apart spells' (same ▸ spells_refl field')
      rw [Json.member?_insertMember_other notField, Json.member?_eraseMember_other notKey]
  | @dropNull key found =>
    refine field?_rel_of_alike counts sorted sorted' ⟨?_, ?_⟩
    · rintro k v spells ⟨found', fits⟩
      have other : k ≠ key := by
        rintro rfl
        cases found.symm.trans found'
        exact counts.null fits
      exact ⟨v, .inl rfl, (Json.member?_eraseMember_other other _).trans found', fits⟩
    · rintro k w spells ⟨found', fits⟩
      have other : k ≠ key := by
        rintro rfl
        cases (Json.member?_eraseMember_same k members).symm.trans found'
      exact ⟨w, (Json.member?_eraseMember_other other _).symm.trans found', fits⟩
  | @addUnknown key v unknown =>
    refine field?_rel_of_alike counts sorted sorted' (alike_of_member?_eq ?_)
    intro k spells
    refine Json.member?_insertMember_other ?_ _ _
    rintro rfl
    exact unknown field known spells
  | @quote field' key v known' spells found scalar =>
    -- The key is neither passed over where it was used nor used where it was passed over: its
    -- value counts before and after.
    have own (spells' : Spells key field) : field ≠ "layer" := by
      rintro rfl
      have text := List.mem_filter.mp known'
      have same := Part.fields_apart known text.1 (spells'.trans_symm spells)
      simp [← same] at text
    refine field?_rel_of_alike counts sorted sorted' ⟨?_, ?_⟩
    · rintro k w spells' ⟨found', fits⟩
      by_cases here : k = key
      · subst here
        cases found.symm.trans found'
        exact ⟨.string v.text, .inr ⟨own spells', scalar.scalarText?_eq⟩,
          Json.member?_insertMember_same _ _ _, (counts.scalar v scalar).2⟩
      · exact ⟨w, .inl rfl, (Json.member?_insertMember_other here _ _).trans found', fits⟩
    · rintro k w spells' ⟨found', fits⟩
      by_cases here : k = key
      · subst here
        exact ⟨v, found, (counts.scalar v scalar).1⟩
      · exact ⟨w, (Json.member?_insertMember_other here _ _).symm.trans found', fits⟩

theorem bind_scalarText?_eq (same : Option.Rel (SameFor field) o o') :
    o.bind scalarText? = o'.bind scalarText? := by
  cases same with
  | none => rfl
  | some same =>
    rcases same with rfl | ⟨_, same⟩
    · rfl
    · exact same

theorem eq_of_rel_layer (same : Option.Rel (SameFor "layer") o o') : o = o' := by
  cases same with
  | none => rfl
  | some same =>
    rcases same with rfl | ⟨other, _⟩
    · rfl
    · exact absurd rfl other

section

variable {part : Part} (sorted : Json.Sorted members) (retouch : Retouch part members members')

include sorted retouch

theorem Retouch.text?_eq (known : field ∈ part.fields) :
    text? members field = text? members' field :=
  bind_scalarText?_eq (retouch.field?_rel counts_given sorted known)

theorem Retouch.filledText?_eq (known : field ∈ part.fields) :
    filledText? members field = filledText? members' field :=
  bind_scalarText?_eq (retouch.field?_rel counts_filled sorted known)

end

theorem Retouch.nodeOfJson_eq (sorted : Json.Sorted members)
    (retouch : Retouch .nodes members members') (i : Nat) :
    nodeOfJson i (.object members) = nodeOfJson i (.object members') := by
  have known : "layer" ∈ Part.nodes.fields := by simp [Part.fields]
  have layer := eq_of_rel_layer (retouch.field?_rel counts_given sorted known)
  have id := retouch.filledText?_eq sorted (show "id" ∈ Part.nodes.fields by simp [Part.fields])
  have name := retouch.filledText?_eq sorted (show "name" ∈ Part.nodes.fields by simp [Part.fields])
  have kind := retouch.text?_eq sorted (show "kind" ∈ Part.nodes.fields by simp [Part.fields])
  simp only [nodeOfJson, nodeOfMembers_eq, nodeRecord, layer, id, name, kind]

theorem Retouch.edgeOfJson_eq (sorted : Json.Sorted members)
    (retouch : Retouch .edges members members') (i : Nat) :
    edgeOfJson i (.object members) = edgeOfJson i (.object members') := by
  have id := retouch.text?_eq sorted (show "id" ∈ Part.edges.fields by simp [Part.fields])
  have source := retouch.text?_eq sorted (show "source" ∈ Part.edges.fields by simp [Part.fields])
  have target := retouch.text?_eq sorted (show "target" ∈ Part.edges.fields by simp [Part.fields])
  have relation := retouch.text?_eq sorted (show "type" ∈ Part.edges.fields by simp [Part.fields])
  simp only [edgeOfJson, edgeOfMembers, id, source, target, relation]

/-- The second value is the first with another object in the place of its graph. -/
inductive Regraph (graph graph' : List (String × Json.Value)) : Json.Value → Json.Value → Prop
  | bare (absent : Json.member? graph wrapperKey = none) :
      Regraph graph graph' (.object graph) (.object graph')
  | wrapped {root : List (String × Json.Value)}
      (found : Json.member? root wrapperKey = some (.object graph)) :
      Regraph graph graph' (.object root)
        (.object (Json.insertMember wrapperKey (.object graph') root))

/-- One change to a document that its records do not show. -/
inductive Respelling : Json.Value → Json.Value → Prop
  | record {v v' : Json.Value} {graph members members' : List (String × Json.Value)} {part : Part}
      {before after : List Json.Value}
      (found : Json.member? graph part.key = some (.array (before ++ .object members :: after)))
      (sorted : Json.Sorted members) (retouch : Retouch part members members')
      (regraph : Regraph graph
        (Json.insertMember part.key (.array (before ++ .object members' :: after)) graph) v v') :
      Respelling v v'
  /-- A key comes in at the top that has no meaning there. -/
  | addKey {root : List (String × Json.Value)} {key : String} {w : Json.Value}
      (other : key ≠ "nodes" ∧ key ≠ "edges" ∧ key ≠ "graph_state") :
      Respelling (.object root) (.object (Json.insertMember key w root))
  /-- An object becomes the graph of another one, whatever else that one holds. -/
  | wrap {root graph : List (String × Json.Value)} (bare : Json.member? graph wrapperKey = none)
      (found : Json.member? root wrapperKey = some (.object graph)) :
      Respelling (.object graph) (.object root)

section

variable {β : Type} {read : Nat → Json.Value → Except Defect β}
  {graph : List (String × Json.Value)} {part : Part}

theorem readFrom_congr {w w' : Json.Value} (same : ∀ i, read i w = read i w') (start : Nat)
    (before after : List Json.Value) :
    readFrom read start (before ++ w :: after) = readFrom read start (before ++ w' :: after) := by
  induction before generalizing start with
  | nil => simp only [List.nil_append, readFrom, same]
  | cons u rest ih => simp only [List.cons_append, readFrom, ih]

theorem elements_insertMember_other {key : String} (other : part.key ≠ key) (w : Json.Value)
    (graph : List (String × Json.Value)) :
    elements (Json.insertMember key w graph) part = elements graph part := by
  rw [elements, elements, Json.member?_insertMember_other other]

theorem elements_of_array {items : List Json.Value}
    (found : Json.member? graph part.key = some (.array items)) : elements graph part = .ok items :=
  elements_eq_ok_iff.mpr (.array found)

/-- The graph with one element changed reads the same where the element does. -/
theorem part_congr {part' : Part} {w w' : Json.Value} {before after : List Json.Value}
    (found : Json.member? graph part.key = some (.array (before ++ w :: after)))
    (same : part' = part → ∀ i, read i w = read i w') :
    (elements graph part' >>= readFrom read 0) =
      (elements (Json.insertMember part.key (.array (before ++ w' :: after)) graph) part' >>=
        readFrom read 0) := by
  by_cases here : part' = part
  · subst here
    rw [elements_of_array found, elements_of_array (Json.member?_insertMember_same _ _ _)]
    exact readFrom_congr (same rfl) 0 before after
  · have other : part'.key ≠ part.key := by
      cases part <;> cases part' <;> simp_all [Part.key]
    rw [elements_insertMember_other other]

end

theorem ofJson_congr {v v' : Json.Value} {graph graph' : List (String × Json.Value)}
    (hasGraph : HasGraph v graph) (hasGraph' : HasGraph v' graph')
    (nodes : (elements graph .nodes >>= readFrom nodeOfJson 0) =
      (elements graph' .nodes >>= readFrom nodeOfJson 0))
    (edges : (elements graph .edges >>= readFrom edgeOfJson 0) =
      (elements graph' .edges >>= readFrom edgeOfJson 0)) : ofJson v = ofJson v' := by
  rw [ofJson_eq, ofJson_eq, graphMembers_eq_ok_iff.mpr hasGraph,
    graphMembers_eq_ok_iff.mpr hasGraph']
  simp only [bind, Except.bind] at nodes edges ⊢
  rw [nodes, edges]

theorem Part.key_ne_wrapperKey (part : Part) : wrapperKey ≠ part.key := by
  cases part <;> decide

theorem Regraph.hasGraph {graph graph' : List (String × Json.Value)} {v v' : Json.Value}
    (regraph : Regraph graph graph' v v') : HasGraph v graph := by
  cases regraph with
  | bare absent => exact .bare absent
  | wrapped found => exact .wrapped found

theorem Regraph.hasGraph' {graph graph' : List (String × Json.Value)} {v v' : Json.Value}
    (regraph : Regraph graph graph' v v')
    (same : Json.member? graph' wrapperKey = Json.member? graph wrapperKey) :
    HasGraph v' graph' := by
  cases regraph with
  | bare absent => exact .bare (same.trans absent)
  | wrapped => exact .wrapped (Json.member?_insertMember_same _ _ _)

theorem Respelling.ofJson_eq {v v' : Json.Value} (respelling : Respelling v v') :
    ofJson v = ofJson v' := by
  cases respelling with
  | @record _ _ graph members members' part before after found sorted retouch regraph =>
    refine ofJson_congr regraph.hasGraph
      (regraph.hasGraph' (Json.member?_insertMember_other part.key_ne_wrapperKey _ _)) ?_ ?_
    · refine part_congr found ?_
      rintro rfl
      exact retouch.nodeOfJson_eq sorted
    · refine part_congr found ?_
      rintro rfl
      exact retouch.edgeOfJson_eq sorted
  | @addKey root key w other =>
    obtain ⟨notNodes, notEdges, notWrapper⟩ := other
    have wrapper : Json.member? (Json.insertMember key w root) wrapperKey =
        Json.member? root wrapperKey := Json.member?_insertMember_other notWrapper.symm _ _
    cases found : Json.member? root wrapperKey with
    | none =>
      refine ofJson_congr (.bare found) (.bare (wrapper.trans found)) ?_ ?_
      · rw [elements_insertMember_other (show Part.nodes.key ≠ key from notNodes.symm)]
      · rw [elements_insertMember_other (show Part.edges.key ≠ key from notEdges.symm)]
    | some u =>
      cases u with
      | object graph => exact ofJson_congr (.wrapped found) (.wrapped (wrapper.trans found)) rfl rfl
      | null | bool | number | string | array =>
        simp only [ofJson, graphMembers, found, wrapper]
  | wrap bare found => exact ofJson_congr (.bare bare) (.wrapped found) rfl rfl

theorem Respelling.eqvGen_ofJson_eq {v v' : Json.Value}
    (respelt : Relation.EqvGen Respelling v v') : ofJson v = ofJson v' := by
  induction respelt with
  | rel _ _ step => exact step.ofJson_eq
  | refl => rfl
  | symm _ _ _ ih => exact ih.symm
  | trans _ _ _ _ _ first second => exact first.trans second

/-- What a node record is by the values used for its fields. -/
def nodeOfValues (i : Nat) (id name layer kind : Option Json.Value) : Except Defect NodeRecord :=
  let record (layer : Option Nat) : NodeRecord :=
    ⟨id.bind scalarText?, name.bind scalarText?, layer, kind.bind scalarText?⟩
  match layer with
  | none => .ok (record none)
  | some w => match Layer.ofJson w with
    | .ok k => .ok (record (some k))
    | .error _ => .error (.notALayer i w)

def edgeOfValues (id source target relation : Option Json.Value) : EdgeRecord :=
  ⟨id.bind scalarText?, source.bind scalarText?, target.bind scalarText?,
    relation.bind scalarText?⟩

theorem nodeOfJson_eq_nodeOfValues (i : Nat) (members : List (String × Json.Value)) :
    nodeOfJson i (.object members) =
      nodeOfValues i (field? isFilled members "id") (field? isFilled members "name")
        (field? isGiven members "layer") (field? isGiven members "kind") := by
  rw [nodeOfJson, nodeOfMembers_eq]
  simp only [nodeRecord, nodeOfValues, text?, filledText?, Layer.ofJson]
  cases field? isGiven members "layer" with
  | none => rfl
  | some w =>
    simp only [Option.bind_some]
    cases Layer.ofJson? w with
    | none => rfl
    | some k => rfl

theorem scalarText?_eq_none_iff {v : Json.Value} : scalarText? v = none ↔
    v = .null ∨ (∃ items, v = .array items) ∨ ∃ members, v = .object members := by
  cases v <;> simp [scalarText?]

/-- Each field is resolved by precedence in the objects that a text gives, a text or a layer is made
of its value alone, and no series of changes that precedence cannot see, made or taken back, changes
what comes of a document. -/
theorem ofJson_of_resolved :
    (∀ text v, Json.parse text = .ok v → v.Ordered) ∧
    (∀ members, Json.Sorted members → ∀ i, ∃ id name layer kind,
      Resolves Filled members "id" id ∧ Resolves Filled members "name" name ∧
      Resolves Given members "layer" layer ∧ Resolves Given members "kind" kind ∧
      nodeOfJson i (.object members) = nodeOfValues i id name layer kind) ∧
    (∀ members, Json.Sorted members → ∀ i, ∃ id source target relation,
      Resolves Given members "id" id ∧ Resolves Given members "source" source ∧
      Resolves Given members "target" target ∧ Resolves Given members "type" relation ∧
      edgeOfJson i (.object members) = .ok (edgeOfValues id source target relation)) ∧
    (∀ v, scalarText? v = none ↔ v = .null ∨ (∃ items, v = .array items) ∨
      ∃ members, v = .object members) ∧
    ∀ v v', Relation.EqvGen Respelling v v' → ofJson v = ofJson v' := by
  refine ⟨fun _ _ => Json.ordered_of_parse, ?_, ?_, fun _ => scalarText?_eq_none_iff,
    fun _ _ => Respelling.eqvGen_ofJson_eq⟩
  · intro members sorted i
    have given := resolves_field? counts_given.present_iff sorted
    have filled := resolves_field? counts_filled.present_iff sorted
    exact ⟨_, _, _, _, filled "id", filled "name", given "layer", given "kind",
      nodeOfJson_eq_nodeOfValues i members⟩
  · intro members sorted i
    have given := resolves_field? counts_given.present_iff sorted
    exact ⟨_, _, _, _, given "id", given "source", given "target", given "type", rfl⟩

/-- A null goes, the other spelling of the key becomes the plain one, and all of it moves under the
wrapping key. -/
theorem ofJson_of_resolved_respelt :
    let node : List (String × Json.Value) := [("ID", .string "b"), ("id", .null)]
    let v : Json.Value := .object [("nodes", .array [.object node])]
    let v' : Json.Value := .object [("graph_state", .object
      [("nodes", .array [.object [("id", .string "b")]])]), ("version", .bool true)]
    Json.Sorted node ∧ ofJson v = ofJson v' ∧ ∃ id name layer kind, Resolves Filled node "id" id ∧
      nodeOfValues 0 id name layer kind = .ok ⟨"b", none, none, none⟩ := by
  intro node v v'
  have sorted : Json.Sorted node := List.pairwise_pair.mpr (by decide)
  have dropped : Respelling v (.object [("nodes", .array [.object [("ID", .string "b")]])]) := by
    have step := @Respelling.record v _ _ node _ .nodes [] [] rfl sorted
      (@Retouch.dropNull _ _ "id" rfl) (.bare rfl)
    simpa [Json.insertMember, Json.eraseMember, node, Part.key] using step
  have renamed : Respelling (.object [("nodes", .array [.object [("ID", .string "b")]])])
      (.object [("nodes", .array [.object [("id", .string "b")]])]) := by
    have only (key : String) (w : Json.Value)
        (found : Json.member? [("ID", .string "b")] key = some w) : key = "ID" := by
      simpa using congrArg Prod.fst (List.mem_singleton.mp (Json.mem_of_member? found))
    have step := @Respelling.record (.object [("nodes", .array [.object [("ID", .string "b")]])])
      _ _ _ _ .nodes [] [] rfl (List.pairwise_singleton _ _)
      (@Retouch.rename _ _ "id" "ID" _ (by simp [Part.fields]) rfl rfl
        fun key w found _ => only key w found) (.bare rfl)
    simpa [Json.insertMember, Json.eraseMember, Part.key] using step
  have respelt : Relation.EqvGen Respelling v v' :=
    .trans _ _ _ (.rel _ _ dropped) (.trans _ _ _ (.rel _ _ renamed) (.rel _ _ (.wrap rfl rfl)))
  obtain ⟨id, name, layer, kind, resolved, _, _, _, read⟩ := ofJson_of_resolved.2.1 node sorted 0
  refine ⟨sorted, ofJson_of_resolved.2.2.2.2 v v' respelt, id, name, layer, kind, resolved, ?_⟩
  exact read.symm.trans rfl

end Document

end Strata
