import Mathlib.Data.List.Nodup
import Strata.Toml.Reader

/-! Every table of a TOML document, at any depth, has one value for each key. Tables change by
definitions for keys that are free and by replacements in their places while a text is read, and
both keep the keys apart. -/
namespace Strata

theorem Keyed.mem_put {κ β : Type} [BEq κ] {key : κ} {b : β} {l : List (κ × β)} {e : κ × β}
    (member : e ∈ put key b l) : e = (key, b) ∨ e ∈ l := by
  induction l with
  | nil => exact .inl (List.mem_singleton.mp member)
  | cons first rest ih =>
    rw [put] at member
    split at member
    · rcases List.mem_cons.mp member with rfl | later
      · exact .inl rfl
      · exact .inr (List.mem_cons_of_mem _ later)
    · rcases List.mem_cons.mp member with rfl | later
      · exact .inr List.mem_cons_self
      · exact (ih later).imp_right (List.mem_cons_of_mem _)

theorem Keyed.nodup_put {κ β : Type} [BEq κ] [LawfulBEq κ] (key : κ) (b : β) {l : List (κ × β)}
    (nodup : (l.map Prod.fst).Nodup) : ((put key b l).map Prod.fst).Nodup := by
  induction l with
  | nil => simp [put]
  | cons first rest ih =>
    obtain ⟨fresh, nodup⟩ := List.nodup_cons.mp nodup
    rw [put]
    split
    · next same =>
      rw [eq_of_beq same] at fresh
      exact List.nodup_cons.mpr ⟨fresh, nodup⟩
    · next other =>
      refine List.nodup_cons.mpr ⟨?_, ih nodup⟩
      intro among
      obtain ⟨e, member, same⟩ := List.mem_map.mp among
      rcases mem_put member with rfl | later
      · exact other (beq_iff_eq.mpr same.symm)
      · exact fresh (List.mem_map.mpr ⟨e, later, same⟩)

namespace Toml

/-- Every table in the value has one value for each key. -/
inductive Value.IsKeyed : Value → Prop
  | string (s : String) : IsKeyed (.string s)
  | integer (n : Int) : IsKeyed (.integer n)
  | float (x : Float) : IsKeyed (.float x)
  | boolean (b : Bool) : IsKeyed (.boolean b)
  | datetime (text : String) : IsKeyed (.datetime text)
  | array {items : List Value} (all : ∀ v ∈ items, v.IsKeyed) : IsKeyed (.array items)
  | table {entries : List (String × Value)} (nodup : (entries.map Prod.fst).Nodup)
      (all : ∀ e ∈ entries, e.2.IsKeyed) : IsKeyed (.table entries)

/-- The same of what is there while a text is read. -/
inductive Draft.IsKeyed : Draft → Prop
  | value {v : Value} (keyed : v.IsKeyed) : IsKeyed (.value v)
  | table (origin : Origin) {entries : Entries} (nodup : (entries.map Prod.fst).Nodup)
      (all : ∀ e ∈ entries, e.2.IsKeyed) : IsKeyed (.table origin entries)
  | rows {tables : List Entries} (nodup : ∀ t ∈ tables, (t.map Prod.fst).Nodup)
      (all : ∀ t ∈ tables, ∀ e ∈ t, e.2.IsKeyed) : IsKeyed (.rows tables)

/-- The entries of a table have keys of their own, and so have the tables in them. -/
structure AreKeyed (entries : Entries) : Prop where
  nodup : (entries.map Prod.fst).Nodup
  all : ∀ e ∈ entries, e.2.IsKeyed

theorem isKeyed_rows {tables : List Entries} (keyed : ∀ t ∈ tables, AreKeyed t) :
    Draft.IsKeyed (.rows tables) :=
  .rows (fun t member => (keyed t member).nodup) fun t member => (keyed t member).all

theorem AreKeyed.nil : AreKeyed [] := ⟨List.nodup_nil, List.forall_mem_nil _⟩

theorem AreKeyed.put {entries : Entries} (keyed : AreKeyed entries) (key : String) {d : Draft}
    (new : d.IsKeyed) : AreKeyed (Keyed.put key d entries) := by
  refine ⟨Keyed.nodup_put key d keyed.nodup, ?_⟩
  intro e member
  rcases Keyed.mem_put member with rfl | known
  · exact new
  · exact keyed.all e known

theorem AreKeyed.add {entries : Entries} (keyed : AreKeyed entries) {key : String} {d : Draft}
    (fresh : key ∉ entries.map Prod.fst) (new : d.IsKeyed) : AreKeyed (entries ++ [(key, d)]) := by
  refine ⟨?_, List.forall_mem_append.mpr ⟨keyed.all, List.forall_mem_singleton.mpr new⟩⟩
  rw [List.map_append, List.map_singleton]
  exact List.nodup_append'.mpr ⟨keyed.nodup, List.nodup_singleton key, by simpa using fresh⟩

theorem AreKeyed.lookup {entries : Entries} (keyed : AreKeyed entries) {key : String} {d : Draft}
    (found : entries.lookup key = some d) : d.IsKeyed := by
  obtain ⟨before, after, rfl, _⟩ := List.lookup_eq_some_iff.mp found
  exact keyed.all (key, d) (by simp)

theorem not_mem_of_lookup {entries : Entries} {key : String} (none : entries.lookup key = none) :
    key ∉ entries.map Prod.fst := by
  intro among
  obtain ⟨e, member, rfl⟩ := List.mem_map.mp among
  simpa using List.lookup_eq_none_iff.mp none e member

/-- A change of a table leaves its keys apart. -/
def KeepsKeys (change : Origin → Entries → Option Entries) : Prop :=
  ∀ origin entries entries', AreKeyed entries → change origin entries = some entries' →
    AreKeyed entries'

theorem keepsKeys_descend {change : Origin → Entries → Option Entries} (keeps : KeepsKeys change)
    (made : Origin) (path : List String) :
    KeepsKeys fun origin entries => descend made change origin path entries := by
  induction path with
  | nil => exact keeps
  | cons key path ih =>
    intro origin entries entries' keyed changed
    simp only [descend] at changed
    split at changed
    · obtain ⟨inner, within, put⟩ := Option.bind_eq_some_iff.mp changed
      cases put
      have inside := ih _ _ _ .nil within
      exact keyed.put key (.table made inside.nodup inside.all)
    · next found =>
      split at changed
      · cases changed
      · obtain ⟨inner, within, put⟩ := Option.bind_eq_some_iff.mp changed
        cases put
        cases keyed.lookup found with
        | table _ nodup all =>
          have inside := ih _ _ _ ⟨nodup, all⟩ within
          exact keyed.put key (.table _ inside.nodup inside.all)
    · next tables found =>
      obtain ⟨last, final, changed⟩ := Option.bind_eq_some_iff.mp changed
      obtain ⟨inner, within, put⟩ := Option.bind_eq_some_iff.mp changed
      cases put
      cases keyed.lookup found with
      | rows nodup all =>
        have each : ∀ t ∈ tables, AreKeyed t := fun t member => ⟨nodup t member, all t member⟩
        have inside := ih _ _ _ (each last (List.mem_of_getLast? final)) within
        have earlier : ∀ t ∈ tables.dropLast, AreKeyed t := fun t before =>
          each t (List.dropLast_subset tables before)
        exact keyed.put key (isKeyed_rows
          (List.forall_mem_append.mpr ⟨earlier, List.forall_mem_singleton.mpr inside⟩))
    · cases changed

theorem keepsKeys_openTable (key : String) : KeepsKeys (openTable key) := by
  intro origin entries entries' keyed changed
  rw [openTable] at changed
  split at changed
  · next fresh =>
    cases changed
    exact keyed.add (not_mem_of_lookup fresh)
      (.table .header List.nodup_nil (List.forall_mem_nil _))
  · next inner found =>
    cases changed
    cases keyed.lookup found with
    | table _ nodup all =>
      have others : AreKeyed (entries.filter fun e => e.1 != key) :=
        ⟨(List.filter_sublist.map Prod.fst).nodup keyed.nodup,
          fun e member => keyed.all e (List.mem_of_mem_filter member)⟩
      exact others.add (by simp) (.table .header nodup all)
  · cases changed

theorem keepsKeys_openRow (key : String) : KeepsKeys (openRow key) := by
  have empty : ∀ t ∈ [([] : Entries)], AreKeyed t := List.forall_mem_singleton.mpr .nil
  intro origin entries entries' keyed changed
  rw [openRow] at changed
  split at changed
  · next fresh =>
    cases changed
    exact keyed.add (not_mem_of_lookup fresh) (isKeyed_rows empty)
  · next tables found =>
    cases changed
    cases keyed.lookup found with
    | rows nodup all =>
      have each : ∀ t ∈ tables, AreKeyed t := fun t member => ⟨nodup t member, all t member⟩
      exact keyed.put key (isKeyed_rows (List.forall_mem_append.mpr ⟨each, empty⟩))
  · cases changed

theorem AreKeyed.define {entries entries' : Entries} (keyed : AreKeyed entries) {key : String}
    {v : Value} (new : v.IsKeyed) (defined : Toml.define key v entries = some entries') :
    AreKeyed entries' := by
  rw [Toml.define] at defined
  split at defined
  · cases defined
  · next fresh =>
    cases defined
    exact keyed.add (by simpa using fresh) (.value new)

theorem AreKeyed.assign {entries entries' : Entries} (keyed : AreKeyed entries)
    {path : List String} {key : String} {v : Value} (new : v.IsKeyed)
    (assigned : Toml.assign path key v entries = some entries') : AreKeyed entries' := by
  refine keepsKeys_descend ?_ .dotted path .header entries entries' keyed assigned
  intro origin inner inner' inside changed
  simp only at changed
  split at changed
  · exact inside.define new changed
  · cases changed

/-- What a reader reads has its keys apart. -/
def ReadsKeyed (read : Reader Value) : Prop := ∀ s v r, read s = some (v, r) → v.IsKeyed

theorem isKeyed_of_items {item : Reader Value} (reads : ReadsKeyed item) {bound : Nat}
    {s r : List Char} {vs : List Value} (read : items item bound s = some (vs, r)) :
    ∀ v ∈ vs, v.IsKeyed := by
  induction bound generalizing s vs with
  | zero => cases read
  | succ bound ih =>
    simp only [items] at read
    split at read
    · cases read
      exact List.forall_mem_nil _
    · obtain ⟨⟨v, r'⟩, first, read⟩ := Option.bind_eq_some_iff.mp read
      have keyed := reads _ _ _ first
      simp only at read
      split at read
      · obtain ⟨⟨rest, r''⟩, later, read⟩ := Option.bind_eq_some_iff.mp read
        cases read
        exact List.forall_mem_cons.mpr ⟨keyed, ih later⟩
      · cases read
        exact List.forall_mem_singleton.mpr keyed
      · cases read

theorem isKeyed_of_pair {item : Reader Value} (reads : ReadsKeyed item) {s r : List Char}
    {path : List String} {name : String} {v : Value}
    (read : pair item s = some ((path, name, v), r)) : v.IsKeyed := by
  simp only [pair, Option.bind_eq_bind, Option.bind_eq_some_iff] at read
  obtain ⟨_, _, _, _, _, _, ⟨v', r'⟩, value, made⟩ := read
  cases made
  exact reads _ _ _ value

theorem areKeyed_of_pairs {item : Reader Value} (reads : ReadsKeyed item) {bound : Nat}
    {entries entries' : Entries} {s r : List Char} (keyed : AreKeyed entries)
    (read : pairs item bound entries s = some (entries', r)) : AreKeyed entries' := by
  induction bound generalizing entries s with
  | zero => cases read
  | succ bound ih =>
    simp only [pairs] at read
    obtain ⟨⟨⟨path, name, v⟩, r'⟩, first, read⟩ := Option.bind_eq_some_iff.mp read
    obtain ⟨assigned, put, read⟩ := Option.bind_eq_some_iff.mp read
    have kept := keyed.assign (isKeyed_of_pair reads first) put
    split at read
    · exact ih kept read
    · cases read
      exact kept
    · cases read

theorem isKeyed_of_integer? {n : Int} {v : Value} (made : integer? n = some v) : v.IsKeyed := by
  rw [integer?] at made
  split at made
  · cases made
    exact .integer n
  · cases made

theorem isKeyed_of_based {base : Nat} {s r : List Char} {v : Value}
    (read : based base s = some (v, r)) : v.IsKeyed := by
  simp only [based, Option.bind_eq_bind, Option.bind_eq_some_iff] at read
  obtain ⟨_, _, n, made, read⟩ := read
  cases read
  exact isKeyed_of_integer? made

theorem isKeyed_of_decimal {negative : Bool} {s r : List Char} {v : Value}
    (read : decimal negative s = some (v, r)) : v.IsKeyed := by
  simp only [decimal, Option.bind_eq_bind, Option.bind_eq_some_iff] at read
  obtain ⟨whole, _, fraction, _, exponent, _, read⟩ := read
  split at read
  · obtain ⟨n, made, read⟩ := Option.bind_eq_some_iff.mp read
    cases read
    exact isKeyed_of_integer? made
  · split at read
    · cases read
      exact .float _
    · split at read
      · cases read
      · cases read
        exact .float _

theorem isKeyed_of_unsigned {negative : Bool} {s r : List Char} {v : Value}
    (read : unsigned negative s = some (v, r)) : v.IsKeyed := by
  unfold unsigned at read
  split at read
  · cases read
    exact .float _
  · cases read
    exact .float _
  · exact isKeyed_of_decimal read

theorem isKeyed_of_number {s r : List Char} {v : Value} (read : number s = some (v, r)) :
    v.IsKeyed := by
  unfold number at read
  split at read
  iterate 3 exact isKeyed_of_based read
  iterate 3 exact isKeyed_of_unsigned read

theorem isKeyed_of_datetime {s r : List Char} {v : Value} (read : datetime s = some (v, r)) :
    v.IsKeyed := by
  simp only [datetime] at read
  split at read
  · cases read
    exact .datetime _
  · obtain ⟨_, _, made⟩ := Option.bind_eq_some_iff.mp read
    cases made
    exact .datetime _

theorem isKeyed_of_stringValue {s r : List Char} {v : Value}
    (read : stringValue s = some (v, r)) : v.IsKeyed := by
  obtain ⟨found, _, made⟩ := Option.map_eq_some_iff.mp read
  cases made
  exact .string _

theorem toEntries_eq (entries : Entries) :
    toEntries entries = entries.map fun e => (e.1, e.2.toValue) := by
  induction entries with
  | nil => rfl
  | cons e rest ih => rw [toEntries, ih, List.map_cons]

theorem toTables_eq (tables : List Entries) :
    toTables tables = tables.map fun t => .table (toEntries t) := by
  induction tables with
  | nil => rfl
  | cons t rest ih => rw [toTables, ih, List.map_cons]

theorem isKeyed_toEntries {entries : Entries} (nodup : (entries.map Prod.fst).Nodup)
    (all : ∀ e ∈ entries, e.2.toValue.IsKeyed) : (Value.table (toEntries entries)).IsKeyed := by
  rw [toEntries_eq]
  refine .table (by simpa [Function.comp_def] using nodup) ?_
  exact List.forall_mem_map.mpr all

theorem Draft.IsKeyed.toValue {d : Draft} (keyed : d.IsKeyed) : d.toValue.IsKeyed := by
  induction keyed with
  | value keyed => exact keyed
  | table origin nodup _ ih => exact isKeyed_toEntries nodup ih
  | rows nodup _ ih =>
    rw [Draft.toValue, toTables_eq]
    refine .array (List.forall_mem_map.mpr ?_)
    exact fun t member => isKeyed_toEntries (nodup t member) (ih t member)

theorem AreKeyed.toEntries {entries : Entries} (keyed : AreKeyed entries) :
    (Value.table (toEntries entries)).IsKeyed :=
  isKeyed_toEntries keyed.nodup fun e member => (keyed.all e member).toValue

theorem isKeyed_of_inlineTable {item : Reader Value} (reads : ReadsKeyed item) {s r : List Char}
    {v : Value} (read : inlineTable item s = some (v, r)) : v.IsKeyed := by
  unfold inlineTable at read
  split at read
  · cases read
    exact .table List.nodup_nil (List.forall_mem_nil _)
  · obtain ⟨found, within, made⟩ := Option.map_eq_some_iff.mp read
    cases made
    exact (areKeyed_of_pairs reads .nil within).toEntries

theorem readsKeyed_valueWith {item : Option (Reader Value)}
    (reads : ∀ r, item = some r → ReadsKeyed r) : ReadsKeyed (valueWith item) := by
  intro s v r read
  unfold valueWith at read
  split at read
  · exact isKeyed_of_stringValue read
  · exact isKeyed_of_stringValue read
  · simp only [Option.bind_eq_bind, Option.bind_eq_some_iff] at read
    obtain ⟨inner, given, vs, within, made⟩ := read
    cases made
    exact .array (isKeyed_of_items (reads inner given) within)
  · obtain ⟨inner, given, within⟩ := Option.bind_eq_some_iff.mp read
    exact isKeyed_of_inlineTable (reads inner given) within
  · cases read
    exact .boolean true
  · cases read
    exact .boolean false
  · rcases Option.or_eq_some_iff.mp read with dated | ⟨_, numeric⟩
    · exact isKeyed_of_datetime dated
    · exact isKeyed_of_number numeric

theorem readsKeyed_value (depth : Nat) : ReadsKeyed (value depth) := by
  induction depth with
  | zero => exact readsKeyed_valueWith nofun
  | succ depth ih =>
    refine readsKeyed_valueWith ?_
    rintro r ⟨⟩
    exact ih

theorem areKeyed_of_header {finish : List Char → Option (List Char)}
    {opening : String → Origin → Entries → Option Entries}
    (keeps : ∀ name, KeepsKeys (opening name)) {entries : Entries} {s r : List Char}
    {sheet : Sheet} (keyed : AreKeyed entries)
    (read : header finish opening entries s = some (sheet, r)) : AreKeyed sheet.entries := by
  simp only [header, Option.bind_eq_bind, Option.bind_eq_some_iff] at read
  obtain ⟨⟨path, r'⟩, _, name, _, entries', opened, _, _, made⟩ := read
  cases made
  exact keepsKeys_descend (keeps name) .implicit _ .header _ _ keyed opened

theorem areKeyed_of_statement {sheet sheet' : Sheet} {s r : List Char}
    (keyed : AreKeyed sheet.entries) (read : statement sheet s = some (sheet', r)) :
    AreKeyed sheet'.entries := by
  simp only [statement, Option.bind_eq_bind, Option.bind_eq_some_iff] at read
  obtain ⟨⟨⟨path, name, v⟩, r'⟩, first, entries, changed, made⟩ := read
  cases made
  have new : v.IsKeyed := isKeyed_of_pair (readsKeyed_value _) first
  refine keepsKeys_descend ?_ .implicit sheet.header .header _ _ keyed changed
  exact fun _ _ _ inside assigned => inside.assign new assigned

theorem areKeyed_of_line {sheet sheet' : Sheet} {s r : List Char}
    (keyed : AreKeyed sheet.entries) (read : line sheet s = some (sheet', r)) :
    AreKeyed sheet'.entries := by
  unfold line at read
  split at read
  · exact areKeyed_of_header keepsKeys_openRow keyed read
  · exact areKeyed_of_header keepsKeys_openTable keyed read
  · split at read
    · cases read
      exact keyed
    · split at read
      · cases read
        exact keyed
      · exact areKeyed_of_statement keyed read

theorem areKeyed_of_lines {bound : Nat} {sheet sheet' : Sheet} {s : List Char}
    (keyed : AreKeyed sheet.entries) (read : lines bound sheet s = some sheet') :
    AreKeyed sheet'.entries := by
  induction bound generalizing sheet s with
  | zero => cases read
  | succ bound ih =>
    simp only [lines, Option.bind_eq_bind, Option.bind_eq_some_iff] at read
    obtain ⟨⟨next, r⟩, first, rest, _, read⟩ := read
    have kept := areKeyed_of_line keyed first
    split at read
    · cases read
      exact kept
    · exact ih kept read

/-- A document that is read has one value for each key, in its tables as well. -/
theorem isKeyed_of_parse {text : String} {entries : List (String × Value)}
    (read : parse text = some entries) : (Value.table entries).IsKeyed := by
  simp only [parse, Option.bind_eq_bind, Option.bind_eq_some_iff] at read
  obtain ⟨sheet, within, made⟩ := read
  cases made
  exact (areKeyed_of_lines .nil within).toEntries

end Toml

end Strata
