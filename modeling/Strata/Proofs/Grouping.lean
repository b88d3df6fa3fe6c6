import Mathlib.Data.List.Induction
import Mathlib.Data.List.Nodup
import Strata.Basic

/-! Groups in canonical form: the keys that occur, strictly ascending, each with the sublist of what
has that key. What ascends strictly is determined by its members, so groups of lists that agree up
to order agree as soon as each group does. -/
namespace Strata

variable {κ β γ : Type} [Ord κ]

def AscendingBy (key : β → κ) (l : List β) : Prop :=
  l.Pairwise fun a b => compare (key a) (key b) = .lt

theorem AscendingBy.map {key : γ → κ} {f : β → γ} {l : List β}
    (ascending : AscendingBy (fun b => key (f b)) l) : AscendingBy key (l.map f) :=
  List.pairwise_map.mpr ascending

variable [Std.TransOrd κ]

theorem AscendingBy.nodup {key : β → κ} {l : List β} (ascending : AscendingBy key l) : l.Nodup := by
  refine ascending.imp ?_
  intro a b less same
  have equal : compare (key b) (key b) = .eq := Std.ReflCmp.compare_self
  rw [same, equal] at less
  cases less

/-- Lists that ascend strictly are equal when they have the same members. -/
theorem AscendingBy.ext (key : β → κ) {l m : List β} (hl : AscendingBy key l)
    (hm : AscendingBy key m) (same : ∀ b, b ∈ l ↔ b ∈ m) : l = m := by
  have perm : l.Perm m := (List.perm_ext_iff_of_nodup hl.nodup hm.nodup).mpr same
  refine List.Perm.eq_of_pairwise ?_ hl hm perm
  intro a b _ _ less greater
  rw [@Std.OrientedCmp.eq_swap κ compare, less] at greater
  cases greater

omit [Std.TransOrd κ] in
theorem values_eq_map_toList (m : Std.TreeMap κ β) : m.values = m.toList.map Prod.snd := by
  change m.foldr (fun _ b rest => b :: rest) [] = _
  rw [Std.TreeMap.foldr_eq_foldr_toList]
  induction m.toList with
  | nil => rfl
  | cons e rest ih => rw [List.foldr_cons, ih, List.map_cons]

theorem toList_ascending (m : Std.TreeMap κ β) : AscendingBy Prod.fst m.toList :=
  Std.TreeMap.ordered_keys_toList

variable [Std.LawfulEqOrd κ]

theorem toList_map_congr {δ : Type} {m : Std.TreeMap κ β} {n : Std.TreeMap κ γ} {f : β → δ}
    {g : γ → δ} (same : ∀ k : κ, m[k]?.map f = n[k]?.map g) :
    m.toList.map (fun e => (e.1, f e.2)) = n.toList.map (fun e => (e.1, g e.2)) := by
  have entries {ε : Type} (t : Std.TreeMap κ ε) (view : ε → δ) (k : κ) (d : δ) :
      (k, d) ∈ t.toList.map (fun e => (e.1, view e.2)) ↔ t[k]?.map view = some d := by
    simp only [List.mem_map, Prod.mk.injEq, Prod.exists, Option.map_eq_some_iff]
    constructor
    · rintro ⟨_, e, member, rfl, rfl⟩
      exact ⟨e, Std.TreeMap.mem_toList_iff_getElem?_eq_some.mp member, rfl⟩
    · rintro ⟨e, found, rfl⟩
      exact ⟨k, e, Std.TreeMap.mem_toList_iff_getElem?_eq_some.mpr found, rfl, rfl⟩
  refine AscendingBy.ext Prod.fst (.map (toList_ascending m)) (.map (toList_ascending n)) ?_
  rintro ⟨k, d⟩
  rw [entries, entries, same]

omit [Std.LawfulEqOrd κ] in
theorem distinct_ascending (l : List κ) : AscendingBy id (distinct l) := by
  simp only [AscendingBy, distinct, id_eq]
  exact Std.TreeMap.ordered_keys

theorem mem_foldl_insert (key : γ → κ) (value : γ → β) (l : List γ) (m : Std.TreeMap κ β) (k : κ) :
    k ∈ l.foldl (fun m c => m.insert (key c) (value c)) m ↔ k ∈ m ∨ k ∈ l.map key := by
  induction l generalizing m with
  | nil => simp
  | cons c rest ih =>
    rw [List.foldl_cons, ih, Std.TreeMap.mem_insert, Std.compare_eq_iff_eq, List.map_cons,
      List.mem_cons, eq_comm (a := key c)]
    constructor
    · rintro ((rfl | before) | later)
      · exact .inr (.inl rfl)
      · exact .inl before
      · exact .inr (.inr later)
    · rintro (before | rfl | later)
      · exact .inl (.inr before)
      · exact .inl (.inl rfl)
      · exact .inr later

@[simp] theorem mem_distinct (l : List κ) (k : κ) : k ∈ distinct l ↔ k ∈ l := by
  have inserted := mem_foldl_insert id (fun _ => ()) l (∅ : Std.TreeMap κ Unit) k
  simp only [id_eq, Std.TreeMap.not_mem_emptyc, false_or, List.map_id] at inserted
  rw [distinct, Std.TreeMap.mem_keys, inserted]

theorem distinct_congr {l m : List κ} (same : ∀ k, k ∈ l ↔ k ∈ m) : distinct l = distinct m :=
  AscendingBy.ext id (distinct_ascending l) (distinct_ascending m) (by simpa using same)

variable [DecidableEq κ]

/-- Inserting one by one, the last value for a key is found. -/
theorem getElem?_foldl_insert (key : γ → κ) (value : γ → β) (l : List γ)
    (m : Std.TreeMap κ β) (k : κ) :
    (l.foldl (fun m c => m.insert (key c) (value c)) m)[k]? =
      ((l.reverse.find? fun c => key c = k).map value).or m[k]? := by
  induction l generalizing m with
  | nil => simp
  | cons c rest ih =>
    rw [List.foldl_cons, ih, List.reverse_cons, List.find?_append, Std.TreeMap.getElem?_insert,
      Option.map_or, Option.or_assoc]
    by_cases here : key c = k <;> simp [here]

theorem getElem?_foldl_insert_of_mem (key : γ → κ) (value : γ → β) {l : List γ}
    (nodup : (l.map key).Nodup) {c : γ} (member : c ∈ l) (m : Std.TreeMap κ β) :
    (l.foldl (fun m c => m.insert (key c) (value c)) m)[key c]? = some (value c) := by
  obtain ⟨d, found⟩ : ∃ d, (l.reverse.find? fun d => key d = key c) = some d :=
    Option.isSome_iff_exists.mp (List.find?_isSome.mpr ⟨c, by simpa using member, by simp⟩)
  have same : key d = key c := by simpa using List.find?_some found
  have inside : d ∈ l := by simpa using List.mem_of_find?_eq_some found
  rw [getElem?_foldl_insert, found, List.inj_on_of_nodup_map nodup inside member same]
  rfl

theorem getElem?_foldl_insertIfNew (key : γ → κ) (value : γ → β) (l : List γ)
    (m : Std.TreeMap κ β) (k : κ) :
    (l.foldl (fun m c => m.insertIfNew (key c) (value c)) m)[k]? =
      m[k]?.or ((l.find? fun c => key c = k).map value) := by
  induction l generalizing m with
  | nil => simp
  | cons c rest ih =>
    rw [List.foldl_cons, ih, Std.TreeMap.getElem?_insertIfNew, List.find?_cons]
    by_cases here : key c = k
    · subst here
      by_cases known : key c ∈ m
      · simp [known]
      · simp [known]
    · simp [here]

/-- What a map holds once a list is gathered in it: under each key that occurs, and under no other
one, what has that key, in the order of the list. -/
def Gathers (key : β → κ) (l : List β) (groups : Std.TreeMap κ (List β)) : Prop :=
  ∀ k group, groups[k]? = some group ↔ k ∈ l.map key ∧ group = l.filter fun b => key b = k

omit [Std.LawfulEqOrd κ] in
theorem gathers_nil (key : β → κ) : Gathers key [] ∅ := by
  intro k group
  simp

omit [Std.TransOrd κ] [Std.LawfulEqOrd κ] in
theorem Gathers.getD_getElem? {key : β → κ} {l : List β} {groups : Std.TreeMap κ (List β)}
    (gathers : Gathers key l groups) (k : κ) :
    groups[k]?.getD [] = l.filter fun b => key b = k := by
  cases found : groups[k]? with
  | some group => exact ((gathers k group).mp found).2
  | none =>
    refine (List.filter_eq_nil_iff.mpr ?_).symm
    intro b member same
    have occurs : k ∈ l.map key := List.mem_map.mpr ⟨b, member, of_decide_eq_true same⟩
    rw [(gathers k _).mpr ⟨occurs, rfl⟩] at found
    cases found

/-- One more element goes to the end of the group of its key, and the other groups stay. -/
theorem Gathers.push {key : β → κ} {l : List β} {groups : Std.TreeMap κ (List β)}
    (gathers : Gathers key l groups) (b : β) :
    Gathers key (l ++ [b]) (groups.alter (key b) fun group => some (group.getD [] ++ [b])) := by
  intro k group
  rw [Std.TreeMap.getElem?_alter, List.map_append, List.mem_append, List.filter_append]
  by_cases here : key b = k
  · subst here
    simp [gathers.getD_getElem?, eq_comm]
  · simp [here, Ne.symm here, gathers k group]

theorem gathers_groupBy (key : β → κ) (l : List β) : Gathers key l (groupBy key l) := by
  -- from the end of the list, as the last element is the last to be put into the map
  induction l using List.reverseRecOn with
  | nil => exact gathers_nil key
  | append_singleton l b ih =>
    rw [groupBy, List.foldl_concat]
    exact ih.push b

/-- Grouping in canonical form. -/
theorem toList_groupBy (key : β → κ) (l : List β) :
    (groupBy key l).toList =
      (distinct (l.map key)).map fun k => (k, l.filter fun b => key b = k) := by
  have ascending : AscendingBy Prod.fst
      ((distinct (l.map key)).map fun k => (k, l.filter fun b => key b = k)) :=
    .map (distinct_ascending _)
  refine AscendingBy.ext Prod.fst (toList_ascending _) ascending ?_
  rintro ⟨k, group⟩
  rw [Std.TreeMap.mem_toList_iff_getElem?_eq_some, gathers_groupBy key l k group]
  constructor
  · rintro ⟨occurs, rfl⟩
    exact List.mem_map.mpr ⟨k, (mem_distinct _ _).mpr occurs, rfl⟩
  · intro member
    obtain ⟨_, occurs, same⟩ := List.mem_map.mp member
    obtain ⟨rfl, rfl⟩ := Prod.mk.inj same
    exact ⟨(mem_distinct _ _).mp occurs, rfl⟩

omit [Ord κ] [Std.TransOrd κ] [Std.LawfulEqOrd κ] in
/-- Nothing is lost or doubled by going through the groups of keys that cover a list. -/
theorem flatMap_filter_perm (key : β → κ) {keys : List κ} (nodup : keys.Nodup) (l : List β)
    (covered : ∀ b ∈ l, key b ∈ keys) :
    (keys.flatMap fun k => l.filter fun b => key b = k).Perm l := by
  induction keys generalizing l with
  | nil =>
    have : l = [] := List.eq_nil_iff_forall_not_mem.mpr fun b member => by
      simpa using covered b member
    simp [this]
  | cons k keys ih =>
    obtain ⟨fresh, nodup⟩ := List.nodup_cons.mp nodup
    let others := l.filter fun b => !decide (key b = k)
    have rest : (keys.flatMap fun k' => l.filter fun b => key b = k') =
        keys.flatMap fun k' => others.filter fun b => key b = k' := by
      refine List.flatMap_congr ?_
      intro k' member
      have apart : k' ≠ k := fun same => fresh (same ▸ member)
      simp only [others, List.filter_filter]
      refine List.filter_congr ?_
      intro b _
      by_cases same : key b = k' <;> simp [same, apart]
    have covers : ∀ b ∈ others, key b ∈ keys := by
      intro b member
      obtain ⟨member, apart⟩ := List.mem_filter.mp member
      rcases List.mem_cons.mp (covered b member) with same | later
      · simp [same] at apart
      · exact later
    rw [List.flatMap_cons, rest]
    exact ((ih nodup others covers).append_left _).trans (List.filter_append_perm _ l)

omit [Ord κ] [Std.TransOrd κ] [Std.LawfulEqOrd κ] in
/-- The groups of some keys share out what has one of these keys. -/
theorem flatMap_filter_perm_filter (key : β → κ) {keys : List κ} (nodup : keys.Nodup)
    (l : List β) :
    (keys.flatMap fun k => l.filter fun b => key b = k).Perm (l.filter fun b => key b ∈ keys) := by
  have groups : (keys.flatMap fun k => l.filter fun b => key b = k) =
      keys.flatMap fun k => (l.filter fun b => key b ∈ keys).filter fun b => key b = k := by
    refine List.flatMap_congr ?_
    intro k member
    rw [List.filter_filter]
    refine List.filter_congr ?_
    intro b _
    by_cases same : key b = k <;> simp [same, member]
  rw [groups]
  refine flatMap_filter_perm key nodup _ ?_
  intro b member
  simpa using (List.mem_filter.mp member).2

omit [Ord κ] [Std.TransOrd κ] [Std.LawfulEqOrd κ] in
theorem lookup_map_pair (f : κ → β) (keys : List κ) (k : κ) :
    (keys.map fun k => (k, f k)).lookup k = if k ∈ keys then some (f k) else none := by
  induction keys with
  | nil => rfl
  | cons first rest ih =>
    rw [List.map_cons, List.lookup_cons]
    by_cases here : k = first
    · simp [here]
    · simp only [beq_eq_false_iff_ne.mpr here, ih, List.mem_cons, here, false_or]

omit [Ord κ] [Std.TransOrd κ] [Std.LawfulEqOrd κ] in
theorem lookup_of_mem {l : List (κ × β)} (nodup : (l.map Prod.fst).Nodup) {k : κ} {b : β}
    (member : (k, b) ∈ l) : l.lookup k = some b := by
  induction l with
  | nil => cases member
  | cons e rest ih =>
    obtain ⟨fresh, nodup⟩ := List.nodup_cons.mp nodup
    rcases List.mem_cons.mp member with rfl | later
    · simp
    · have apart : k ≠ e.1 := fun same => fresh (List.mem_map.mpr ⟨(k, b), later, same⟩)
      rw [List.lookup_cons, beq_eq_false_iff_ne.mpr apart]
      exact ih nodup later

theorem distinct_flatMap_filter_perm (key : β → κ) (l : List β) :
    ((distinct (l.map key)).flatMap fun k => l.filter fun b => key b = k).Perm l :=
  flatMap_filter_perm key (distinct_ascending _).nodup l fun b member =>
    (mem_distinct _ _).mpr (List.mem_map.mpr ⟨b, member, rfl⟩)

end Strata
