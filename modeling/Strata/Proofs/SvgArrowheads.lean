import Mathlib.Data.List.Forall2
import Strata.Proofs.ByteOrder
import Strata.Proofs.SvgMarks

/-! The arrowheads of a picture. Every path of an edge refers to exactly one of them, which has the
colour of the edge; each is there for an edge, the first of which gives it its size; and what a
drawing goes on with leaves those that are defined as they are. -/
namespace Strata

namespace Color

theorem channelText_injective {m n : UInt8} (same : channelText m = channelText n) : m = n := by
  have digit : ∀ a < 16, ∀ b < 16, Text.hexChar a = Text.hexChar b → a = b := by decide
  have hm : m.toNat < 256 := m.toNat_lt
  have hn : n.toNat < 256 := n.toNat_lt
  simp only [channelText, List.cons.injEq, and_true] at same
  have high := digit _ (by omega) _ (by omega) same.1
  have low := digit _ (by omega) _ (by omega) same.2
  exact UInt8.toNat_inj.mp (by omega)

theorem digits_injective {c d : Color} (same : c.digits = d.digits) : c = d := by
  obtain ⟨same, blue⟩ := List.append_inj same rfl
  obtain ⟨red, green⟩ := List.append_inj same rfl
  cases c
  cases d
  simp only [mk.injEq]
  exact ⟨channelText_injective red, channelText_injective green, channelText_injective blue⟩

end Color

namespace Svg

open Markup Markup.Scan

/-- The colour of an arrowhead can be told from its name. -/
theorem color_of_markerId {c d : Color} {x y : Float} (same : markerId c x = markerId d y) :
    c = d := by
  have letters := congrArg String.toList same
  simp only [markerId, String.toList_append, String.toList_ofList, List.append_assoc] at letters
  exact Color.digits_injective (List.append_inj (List.append_cancel_left letters) rfl).1

/-- An arrowhead as a document defines it. -/
structure Arrowhead where
  id : String
  width : String
  height : String
  fill : String
deriving DecidableEq

namespace Arrowhead

/-- The arrowhead of the attributes of a marker and of the shape in it. -/
def ofAttributes? (marker shape : List Attribute) : Option Arrowhead := do
  return ⟨← value? "id" marker, ← value? "markerWidth" marker, ← value? "markerHeight" marker,
    ← value? "fill" shape⟩

def read? : List Token → Option (List Arrowhead)
  | [] => some []
  | .opening "marker" l :: .empty "path" m :: .closing "marker" :: rest => do
    return (← ofAttributes? l m) :: (← read? rest)
  | _ => none

end Arrowhead

def pathsOf (l : List Token) : List (List Attribute) :=
  l.filterMap fun
    | .empty "path" attributes => some attributes
    | _ => none

def reference (id : String) : String := "url(#" ++ id ++ ")"

def Refers (path : List Attribute) (id : String) : Prop :=
  value? "marker-end" path = some (reference id)

/-- A path with the course and the colour of an edge refers to one of the arrowheads, which has its
colour, and to no other. -/
structure Resolves (heads : List Arrowhead) (path : List Attribute)
    (e : EdgePath Float × EdgeStyle Float) : Prop where
  course : value? "d" path = some (pathData e.1)
  color : value? "stroke" path = some e.2.color.text
  arrow : ∃ a ∈ heads, Refers path a.id ∧ a.fill = e.2.color.text ∧
    ∀ b ∈ heads, Refers path b.id → b = a

/-- An arrowhead is there for an edge, and has the size that the first of its edges asks for. -/
def Arrowhead.IsUsed (a : Arrowhead) (paths : List (List Attribute))
    (edges : List (EdgePath Float × EdgeStyle Float)) : Prop :=
  ∃ (i : Nat) (path : List Attribute) (e : EdgePath Float × EdgeStyle Float),
    paths[i]? = some path ∧ edges[i]? = some e ∧ Refers path a.id ∧
      (∀ j < i, ∀ earlier, paths[j]? = some earlier → ¬ Refers earlier a.id) ∧
      a.width = Decimal.fixed 2 e.2.arrowSize ∧ a.height = Decimal.fixed 2 e.2.arrowSize

/-- The arrowheads that the parts of a document define in front of the background, for the paths
behind it. -/
structure Equips (d : Drawing Float) (p : Parts) (heads : List Arrowhead) : Prop where
  /-- The background is the first rectangle. -/
  first : ∀ l, .empty "rect" l ∉ p.before
  absent : d.edges = [] → p.before.filter Token.isTag = [] ∧ heads = []
  present : d.edges ≠ [] → ∃ inner, Arrowhead.read? inner = some heads ∧
    p.before.filter Token.isTag = .opening "defs" [] :: inner ++ [.closing "defs"]
  ascending : heads.Pairwise fun a b => Text.utf8 a.id < Text.utf8 b.id
  resolved : List.Forall₂ (Resolves heads) (pathsOf p.inside) d.edges
  used : ∀ a ∈ heads, a.IsUsed (pathsOf p.inside) d.edges

def Marker.head (id : String) (m : Marker) : Arrowhead :=
  ⟨id, length m.size, length m.size, m.color.text⟩

/-- The arrowheads of a drawing as they are written. -/
def headsOf (d : Drawing Float) : List Arrowhead := (markers d).toList.map fun m => m.2.head m.1

theorem mem_headsOf {d : Drawing Float} {a : Arrowhead} :
    a ∈ headsOf d ↔ ∃ id m, (markers d)[id]? = some m ∧ Marker.head id m = a := by
  simp [headsOf, Std.TreeMap.mem_toList_iff_getElem?_eq_some]

theorem eq_of_mem_headsOf {d : Drawing Float} {a b : Arrowhead} (ha : a ∈ headsOf d)
    (hb : b ∈ headsOf d) (same : b.id = a.id) : b = a := by
  obtain ⟨id, m, first, rfl⟩ := mem_headsOf.mp ha
  obtain ⟨id', m', second, rfl⟩ := mem_headsOf.mp hb
  obtain rfl : id' = id := same
  rw [Option.some.inj (second.symm.trans first)]

theorem headsOf_ascending (d : Drawing Float) :
    (headsOf d).Pairwise fun a b => Text.utf8 a.id < Text.utf8 b.id := by
  refine List.pairwise_map.mpr ((toList_ascending (markers d)).imp ?_)
  intro a b less
  exact (Text.compare_eq_lt_iff_utf8 _ _).mp less

/-- The colour of the edge counts, though another one may have defined the arrowhead. -/
theorem exists_head {d : Drawing Float} {e : EdgePath Float × EdgeStyle Float}
    (member : e ∈ d.edges) : ∃ a ∈ headsOf d, a.id = markerId e.2.color e.2.arrowSize ∧
      a.fill = e.2.color.text := by
  obtain ⟨f, found⟩ : ∃ f, (d.edges.find? fun f => markerId f.2.color f.2.arrowSize =
      markerId e.2.color e.2.arrowSize) = some f :=
    Option.isSome_iff_exists.mp (List.find?_isSome.mpr ⟨e, member, by simp⟩)
  have same : markerId f.2.color f.2.arrowSize = markerId e.2.color e.2.arrowSize := by
    simpa using List.find?_some found
  refine ⟨Marker.head (markerId e.2.color e.2.arrowSize) ⟨f.2.color, f.2.arrowSize⟩,
    mem_headsOf.mpr ⟨_, _, ?_, rfl⟩, rfl, ?_⟩
  · rw [getElem?_markers, found, Option.map_some]
  · rw [Marker.head, color_of_markerId same]

/-- What is defined stays when a drawing goes on. -/
theorem headsOf_append {d : Drawing Float} {a : Arrowhead} (member : a ∈ headsOf d)
    (later : Drawing Float) : a ∈ headsOf (d ++ later) := by
  obtain ⟨id, m, found, rfl⟩ := mem_headsOf.mp member
  refine mem_headsOf.mpr ⟨id, m, ?_, rfl⟩
  rw [getElem?_markers, Option.map_eq_some_iff] at found ⊢
  obtain ⟨e, first, rfl⟩ := found
  exact ⟨e, by rw [Drawing.edges_append, List.find?_append, first, Option.some_or], rfl⟩

theorem toList_markers_eq_nil_iff (d : Drawing Float) : (markers d).toList = [] ↔ d.edges = [] := by
  constructor
  · intro none
    refine List.eq_nil_iff_forall_not_mem.mpr ?_
    intro e member
    obtain ⟨a, listed, _⟩ := exists_head member
    simp [headsOf, none] at listed
  · intro none
    refine List.eq_nil_iff_forall_not_mem.mpr ?_
    rintro ⟨id, m⟩ member
    obtain ⟨e, listed, _⟩ := edge_of_marker member
    simp [none] at listed

theorem filter_isTag_line (l : Line) :
    (lineTokens l).filter Token.isTag = (l.pieces.flatMap tokens).filter Token.isTag := by
  simp [lineTokens, Token.isTag]

theorem read?_markers (l : List (String × Marker)) :
    Arrowhead.read? (l.flatMap fun m => (m.2.pieces m.1).flatMap tokens) =
      some (l.map fun m => m.2.head m.1) := by
  induction l with
  | nil => rfl
  | cons m rest ih =>
    have first : (m.2.pieces m.1).flatMap tokens =
        [.opening "marker" [⟨"id", m.1⟩, ⟨"viewBox", "0 0 10 10"⟩, ⟨"refX", "10"⟩, ⟨"refY", "5"⟩,
          ⟨"markerUnits", "userSpaceOnUse"⟩, ⟨"markerWidth", length m.2.size⟩,
          ⟨"markerHeight", length m.2.size⟩, ⟨"orient", "auto"⟩],
        .empty "path" [⟨"d", "M 0 0 L 10 5 L 0 10 z"⟩, ⟨"fill", m.2.color.text⟩],
        .closing "marker"] := rfl
    rw [List.flatMap_cons, first, List.map_cons]
    simp [Arrowhead.read?, Arrowhead.ofAttributes?, value?, ih, Marker.head]

theorem filter_isTag_before (d : Drawing Float) :
    (partsOf d).before.filter Token.isTag =
      ((definitions d).flatMap lineTokens).filter Token.isTag := by
  simp [partsOf, Token.isTag]

theorem filter_isTag_definitions {d : Drawing Float} (some_edge : d.edges ≠ []) :
    ((definitions d).flatMap lineTokens).filter Token.isTag = .opening "defs" [] ::
      ((markers d).toList.flatMap fun m => (m.2.pieces m.1).flatMap tokens) ++
        [.closing "defs"] := by
  have defined : (markers d).toList ≠ [] := mt (toList_markers_eq_nil_iff d).mp some_edge
  have tags (m : String × Marker) : ((m.2.pieces m.1).flatMap tokens).filter Token.isTag =
      (m.2.pieces m.1).flatMap tokens := rfl
  rw [definitions]
  split
  · next none => exact absurd none defined
  · rw [List.filter_flatMap]
    simp only [filter_isTag_line, List.flatMap_append, List.flatMap_cons, List.flatMap_map, tags]
    rfl

structure IsPathOf (path : List Attribute) (e : EdgePath Float × EdgeStyle Float) : Prop where
  course : value? "d" path = some (pathData e.1)
  color : value? "stroke" path = some e.2.color.text
  arrow : value? "marker-end" path = some (reference (markerId e.2.color e.2.arrowSize))

theorem IsPathOf.refers_iff {path : List Attribute} {e : EdgePath Float × EdgeStyle Float}
    (written : IsPathOf path e) (id : String) :
    Refers path id ↔ markerId e.2.color e.2.arrowSize = id := by
  rw [Refers, written.arrow, Option.some.injEq, reference, reference, String.append_left_inj,
    String.append_right_inj]

theorem pathsOf_append (s t : List Token) : pathsOf (s ++ t) = pathsOf s ++ pathsOf t :=
  List.filterMap_append

theorem pathsOf_letters (s : List Char) : pathsOf (s.map .letter) = [] := by
  simp [pathsOf]

theorem pathsOf_line (depth : Nat) (l : List Piece) :
    pathsOf (lineTokens ⟨depth, l⟩) = pathsOf (l.flatMap tokens) := by
  simp [lineTokens, pathsOf]

theorem pathsOf_single (depth : Nat) (l : List Piece) :
    pathsOf (([l].map (Line.mk depth)).flatMap lineTokens) = pathsOf (l.flatMap tokens) := by
  simp [pathsOf_line]

theorem pathsOf_textElement (l : List Attribute) (content : String) :
    pathsOf ((textElement "text" l content).flatMap tokens) = [] := by
  have split : (textElement "text" l content).flatMap tokens =
      [.opening "text" l] ++ content.toList.map .letter ++ [.closing "text"] := by
    simp [textElement, tokens]
  rw [split, pathsOf_append, pathsOf_append, pathsOf_letters]
  rfl

theorem isPathOf_path (course : EdgePath Float) (style : EdgeStyle Float) :
    List.Forall₂ IsPathOf (pathsOf ([path course style].flatMap tokens)) [(course, style)] := by
  refine .cons ⟨rfl, rfl, ?_⟩ .nil
  by_cases solid : style.dashes.isEmpty <;> simp [value?, dashAttribute, solid, reference]

theorem paths_elements (c : Command Float) (depth : Nat) :
    List.Forall₂ IsPathOf (pathsOf (((elements c).map (Line.mk depth)).flatMap lineTokens))
      (Drawing.edges [c]) := by
  have unedged {l : List Piece} (none : pathsOf (l.flatMap tokens) = []) :
      List.Forall₂ IsPathOf (pathsOf (([l].map (Line.mk depth)).flatMap lineTokens)) [] := by
    rw [pathsOf_single, none]
    exact .nil
  cases c with
  | canvas => exact .nil
  | openGroup => exact unedged rfl
  | closeGroup => exact unedged rfl
  | node => exact unedged rfl
  | edge course style =>
    simp only [elements, pathsOf_single]
    exact isPathOf_path course style
  | label anchor content fontSize =>
    simp only [elements]
    split
    · exact .nil
    · exact unedged (pathsOf_textElement _ content)
  | legendTitle anchor content fontSize => exact unedged (pathsOf_textElement _ content)
  | legendEntry r color anchor content fontSize =>
    simp only [elements, List.map_cons, List.map_nil, List.flatMap_cons, List.flatMap_nil,
      List.append_nil, pathsOf_append, pathsOf_line, text, pathsOf_textElement]
    exact .nil

/-- The paths of a picture are those of its edges in their order. -/
theorem paths_body (d : Drawing Float) (depth : Nat) :
    List.Forall₂ IsPathOf (pathsOf ((body depth d).flatMap lineTokens)) d.edges := by
  induction d generalizing depth with
  | nil => exact .nil
  | cons c rest ih =>
    rw [body, List.flatMap_append, pathsOf_append, ← List.singleton_append, Drawing.edges_append]
    exact List.rel_append (paths_elements c _) (ih _)

theorem IsPathOf.resolves {d : Drawing Float} {path : List Attribute}
    {e : EdgePath Float × EdgeStyle Float} (written : IsPathOf path e) (member : e ∈ d.edges) :
    Resolves (headsOf d) path e := by
  obtain ⟨a, listed, called, filled⟩ := exists_head member
  refine ⟨written.course, written.color, a, listed, ?_, filled, ?_⟩
  · exact (written.refers_iff a.id).mpr called.symm
  · intro b other refers
    have same := (written.refers_iff b.id).mp refers
    exact eq_of_mem_headsOf listed other (same.symm.trans called.symm)

theorem forall₂_resolves {d : Drawing Float} {paths : List (List Attribute)}
    {edges : List (EdgePath Float × EdgeStyle Float)}
    (written : List.Forall₂ IsPathOf paths edges) (among : ∀ e ∈ edges, e ∈ d.edges) :
    List.Forall₂ (Resolves (headsOf d)) paths edges := by
  induction written with
  | nil => exact .nil
  | cons first _ ih =>
    obtain ⟨member, others⟩ := List.forall_mem_cons.mp among
    exact .cons (first.resolves member) (ih others)

theorem isUsed_of_mem {d : Drawing Float} {paths : List (List Attribute)}
    (written : List.Forall₂ IsPathOf paths d.edges) {a : Arrowhead} (member : a ∈ headsOf d) :
    a.IsUsed paths d.edges := by
  obtain ⟨id, m, found, rfl⟩ := mem_headsOf.mp member
  rw [getElem?_markers, Option.map_eq_some_iff] at found
  obtain ⟨e, first, rfl⟩ := found
  obtain ⟨called, i, inside, rfl, earlier⟩ := List.find?_eq_some_iff_getElem.mp first
  have within : i < paths.length := written.length_eq ▸ inside
  refine ⟨i, paths[i], _, List.getElem?_eq_getElem within,
    List.getElem?_eq_getElem inside, ?_, ?_, rfl, rfl⟩
  · exact ((written.get within inside).refers_iff id).mpr (by simpa using called)
  · intro j before path found refers
    obtain ⟨hj, rfl⟩ := List.getElem?_eq_some_iff.mp found
    have same := ((written.get hj (Nat.lt_trans before inside)).refers_iff id).mp refers
    have other : markerId d.edges[j].2.color d.edges[j].2.arrowSize ≠ id := by
      simpa using earlier j before
    exact other same

theorem equips_partsOf (d : Drawing Float) : Equips d (partsOf d) (headsOf d) := by
  have written : List.Forall₂ IsPathOf (pathsOf (partsOf d).inside) d.edges := paths_body d 1
  refine ⟨(depicts_partsOf d).first, ?_, ?_, headsOf_ascending d, ?_, ?_⟩
  · intro none
    have undefined := (toList_markers_eq_nil_iff d).mpr none
    rw [filter_isTag_before, definitions, headsOf, undefined]
    exact ⟨rfl, rfl⟩
  · intro some_edge
    refine ⟨_, read?_markers (markers d).toList, ?_⟩
    rw [filter_isTag_before, filter_isTag_definitions some_edge]
  · exact forall₂_resolves written fun e member => member
  · exact fun a member => isUsed_of_mem written member

/-- The document of a drawing defines the arrowheads that its paths refer to, and goes on doing so
whatever is drawn later. -/
theorem document_equips (d : Drawing Float) :
    ∃ p heads, scan (document d) = some p.tokens ∧ Equips d p heads ∧
      ∀ later, ∃ q heads', scan (document (d ++ later)) = some q.tokens ∧
        Equips (d ++ later) q heads' ∧ ∀ a ∈ heads, a ∈ heads' := by
  have scanned (d : Drawing Float) : scan (document d) = some (partsOf d).tokens := by
    rw [tokens_partsOf, scan_document]
  refine ⟨partsOf d, headsOf d, scanned d, equips_partsOf d, ?_⟩
  intro later
  exact ⟨partsOf (d ++ later), headsOf (d ++ later), scanned _, equips_partsOf _,
    fun a member => headsOf_append member later⟩

end Svg

end Strata
