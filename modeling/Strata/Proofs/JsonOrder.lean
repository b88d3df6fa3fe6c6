import Strata.Json.Reader
import Strata.Proofs.StorageCalls

/-! The members of a JSON object as a finite map. A list of members with ascending keys is
determined by what it holds under each key, and all objects that come out of a text are such
lists. -/
namespace Strata.Json

/-- Every key occurs once, and the keys ascend. -/
def Sorted (members : List (String × Value)) : Prop := members.Pairwise fun a b => a.1 < b.1

/-- Objects of all depths have ascending keys. -/
inductive Value.Ordered : Value → Prop
  | null : Ordered .null
  | bool (b : Bool) : Ordered (.bool b)
  | number (n : Number) : Ordered (.number n)
  | string (s : String) : Ordered (.string s)
  | array {items : List Value} (all : ∀ v ∈ items, v.Ordered) : Ordered (.array items)
  | object {members : List (String × Value)} (sorted : Sorted members)
      (all : ∀ m ∈ members, m.2.Ordered) : Ordered (.object members)

/-- Takes the member of a key out of an object. -/
def eraseMember (key : String) (members : List (String × Value)) : List (String × Value) :=
  members.filter fun m => m.1 ≠ key

variable {key k : String} {v : Value} {members : List (String × Value)}

theorem mem_of_member? (found : member? members k = some v) : (k, v) ∈ members := by
  obtain ⟨⟨k', v'⟩, first, rfl⟩ := Option.map_eq_some_iff.mp found
  obtain rfl : k' = k := by simpa using List.find?_some first
  exact List.mem_of_find?_eq_some first

theorem Sorted.member?_eq_some_iff (sorted : Sorted members) :
    member? members k = some v ↔ (k, v) ∈ members := by
  refine ⟨mem_of_member?, ?_⟩
  intro member
  induction members with
  | nil => cases member
  | cons m rest ih =>
    obtain ⟨below, later⟩ := List.pairwise_cons.mp sorted
    rcases List.mem_cons.mp member with rfl | behind
    · simp [member?]
    · have other : m.1 ≠ k := String.ne_of_lt (below _ behind)
      simpa [member?, other] using ih later behind

theorem mem_insertMember {m : String × Value} (member : m ∈ insertMember key v members) :
    m = (key, v) ∨ m ∈ members := by
  induction members with
  | nil => exact .inl (List.mem_singleton.mp member)
  | cons a rest ih =>
    unfold insertMember at member
    split at member
    · simpa using member
    · split at member
      · rcases List.mem_cons.mp member with same | behind
        · exact .inl same
        · exact .inr (List.mem_cons_of_mem _ behind)
      · rcases List.mem_cons.mp member with same | behind
        · exact .inr (same ▸ List.mem_cons_self)
        · exact (ih behind).imp_right (List.mem_cons_of_mem _)

theorem Sorted.insertMember (sorted : Sorted members) (key : String) (v : Value) :
    Sorted (insertMember key v members) := by
  induction members with
  | nil => exact List.pairwise_singleton _ _
  | cons a rest ih =>
    obtain ⟨below, later⟩ := List.pairwise_cons.mp sorted
    unfold Json.insertMember
    split
    · next less =>
      refine List.pairwise_cons.mpr ⟨?_, sorted⟩
      intro m member
      rcases List.mem_cons.mp member with rfl | behind
      · exact less
      · exact String.lt_trans less (below m behind)
    · split
      · next same => exact List.pairwise_cons.mpr ⟨fun m member => same ▸ below m member, later⟩
      · next notLess notSame =>
        refine List.pairwise_cons.mpr ⟨?_, ih later⟩
        intro m member
        rcases mem_insertMember member with rfl | behind
        · exact (Std.lt_trichotomy key a.1).resolve_left notLess |>.resolve_left notSame
        · exact below m behind

theorem Sorted.eraseMember (sorted : Sorted members) (key : String) :
    Sorted (eraseMember key members) :=
  List.Pairwise.filter _ sorted

theorem member?_eraseMember_same (key : String) (members : List (String × Value)) :
    member? (eraseMember key members) key = none := by
  simp [member?, eraseMember]

theorem member?_eraseMember_other (other : k ≠ key) (members : List (String × Value)) :
    member? (eraseMember key members) k = member? members k := by
  rw [member?, eraseMember, List.find?_filter, member?]
  congr 2
  funext m
  by_cases same : m.1 = k <;> simp [same, other]

theorem ordered_ofMembers (all : ∀ m ∈ members, m.2.Ordered) :
    (Value.ofMembers members).Ordered := by
  have grow (taken : List (String × Value)) (sorted : Sorted taken)
      (before : ∀ m ∈ taken, m.2.Ordered) :
      (Value.object (members.foldl (fun l m => insertMember m.1 m.2 l) taken)).Ordered := by
    induction members generalizing taken with
    | nil => exact .object sorted before
    | cons m rest ih =>
      obtain ⟨first, later⟩ := List.forall_mem_cons.mp all
      refine ih later _ (sorted.insertMember _ _) ?_
      intro a member
      rcases mem_insertMember member with rfl | behind
      · exact first
      · exact before a behind
  exact grow [] .nil (by simp)

section

variable {length : Nat} {item : Reader Value}

/-- A reader that gives nothing but ordered values. -/
def ReadsOrdered (item : Reader Value) : Prop := ∀ c v c', item c = .ok (v, c') → v.Ordered

theorem ordered_of_items (ordered : ReadsOrdered item) {bound : Nat} {before vs : List Value}
    {c c' : Cursor} (all : ∀ v ∈ before, v.Ordered)
    (read : items item bound before c = .ok (vs, c')) : ∀ v ∈ vs, v.Ordered := by
  induction bound generalizing before c with
  | zero => cases read
  | succ bound ih =>
    unfold items at read
    simp only at read
    split at read
    · cases read
    · cases read
      simpa using all
    · split at read
      · obtain ⟨⟨v, c⟩, first, read⟩ := bind_eq_ok_iff.mp read
        exact ih (by simpa using ordered _ _ _ first) read
      · split at read
        · split at read
          · cases read
          · cases read
          · obtain ⟨⟨v, c⟩, next, read⟩ := bind_eq_ok_iff.mp read
            exact ih (List.forall_mem_cons.mpr ⟨ordered _ _ _ next, all⟩) read
        · cases read

theorem ordered_of_member (ordered : ReadsOrdered item) {m : String × Value} {c c' : Cursor}
    (read : member length item c = .ok (m, c')) : m.2.Ordered := by
  unfold member at read
  obtain ⟨⟨key, c⟩, _, read⟩ := bind_eq_ok_iff.mp read
  simp only at read
  split at read
  · cases read
  · obtain ⟨⟨v, c⟩, value, read⟩ := bind_eq_ok_iff.mp read
    cases read
    exact ordered _ _ _ value
  · cases read

theorem ordered_of_members (ordered : ReadsOrdered item) {bound : Nat}
    {before ms : List (String × Value)} {c c' : Cursor} (all : ∀ m ∈ before, m.2.Ordered)
    (read : Json.members length item bound before c = .ok (ms, c')) : ∀ m ∈ ms, m.2.Ordered := by
  induction bound generalizing before c with
  | zero => cases read
  | succ bound ih =>
    unfold Json.members at read
    simp only at read
    split at read
    · cases read
    · cases read
      simpa using all
    · split at read
      · split at read
        · obtain ⟨⟨m, c⟩, first, read⟩ := bind_eq_ok_iff.mp read
          exact ih (by simpa using ordered_of_member ordered first) read
        · cases read
      · split at read
        · split at read
          · cases read
          · obtain ⟨⟨m, c⟩, next, read⟩ := bind_eq_ok_iff.mp read
            exact ih (List.forall_mem_cons.mpr ⟨ordered_of_member ordered next, all⟩) read
          · cases read
          · cases read
        · cases read

theorem readsOrdered_valueWith {item : Option (Reader Value)}
    (ordered : ∀ r, item = some r → ReadsOrdered r) : ReadsOrdered (valueWith length item) := by
  intro c v c' read
  unfold valueWith at read
  simp only at read
  split at read
  · cases read
  · obtain ⟨_, _, made⟩ := bind_eq_ok_iff.mp read
    cases made
    exact .null
  · obtain ⟨_, _, made⟩ := bind_eq_ok_iff.mp read
    cases made
    exact .bool true
  · obtain ⟨_, _, made⟩ := bind_eq_ok_iff.mp read
    cases made
    exact .bool false
  · obtain ⟨_, _, made⟩ := bind_eq_ok_iff.mp read
    cases made
    exact .number _
  · obtain ⟨_, _, made⟩ := bind_eq_ok_iff.mp read
    cases made
    exact .string _
  · split at read
    · next item =>
      obtain ⟨⟨vs, c⟩, within, made⟩ := bind_eq_ok_iff.mp read
      cases made
      exact .array (ordered_of_items (ordered item rfl) (by simp) within)
    · cases read
  · split at read
    · next item =>
      obtain ⟨⟨ms, c⟩, within, made⟩ := bind_eq_ok_iff.mp read
      cases made
      exact ordered_ofMembers (ordered_of_members (ordered item rfl) (by simp) within)
    · cases read
  · split at read
    · obtain ⟨_, _, made⟩ := bind_eq_ok_iff.mp read
      cases made
      exact .number _
    · cases read

end

theorem readsOrdered_value (length depth : Nat) : ReadsOrdered (value length depth) := by
  induction depth with
  | zero => exact readsOrdered_valueWith nofun
  | succ depth ih =>
    refine readsOrdered_valueWith ?_
    rintro r ⟨⟩
    exact ih

theorem ordered_of_parse {text : String} (read : parse text = .ok v) : v.Ordered := by
  unfold parse at read
  obtain ⟨⟨v, c⟩, value, read⟩ := bind_eq_ok_iff.mp read
  simp only at read
  split at read
  · cases read
    exact readsOrdered_value _ _ _ _ _ value
  · cases read

end Strata.Json
