import Mathlib.Logic.Relation
import Mathlib.Tactic.SplitIfs
import Strata.Proofs.StorageCalls
import Strata.Storage.FileSystem

/-! How calls change a file system. Making directories only adds directories on the way to a path,
writing changes the one place that its path names, and neither moves what a path leads to. -/
namespace Strata

/-- A path is inside another one: that one is met on the way out, from parent to parent. -/
def Path.Inside (path outer : String) : Prop :=
  Relation.TransGen (fun inner outer => Path.parent? inner = some outer) path outer

/-- A path is inside another one, or the same. -/
def Path.Within (path outer : String) : Prop :=
  Relation.ReflTransGen (fun inner outer => Path.parent? inner = some outer) path outer

namespace FileSystem

open Storage

/-- The place of what a path names. -/
def Target.place : Target → Place
  | .inside directory => directory
  | .named directory name _ => directory ++ [name]

/-- A path leads to a place, whatever is there. -/
def LeadsTo (fs : FileSystem) (path : String) (p : Place) : Prop :=
  ∃ t, fs.target path = .ok t ∧ t.place = p

/-- The same items, and the same directory to start from. -/
structure Same (fs fs' : FileSystem) : Prop where
  current : fs'.current = fs.current
  item? : ∀ p, fs'.item? p = fs.item? p

/-- No directory is lost. -/
structure KeepsDirectories (fs fs' : FileSystem) : Prop where
  current : fs'.current = fs.current
  kept : ∀ {p}, fs.item? p = some .directory → fs'.item? p = some .directory

/-- Nothing is lost, and all that is new are directories on the way to a path. -/
structure GrowsToward (path : String) (fs fs' : FileSystem) : Prop where
  current : fs'.current = fs.current
  kept : ∀ {p item}, fs.item? p = some item → fs'.item? p = some item
  added : ∀ {p item}, fs.item? p = none → fs'.item? p = some item →
    item = .directory ∧ ∃ outer, Path.Within path outer ∧ fs'.LeadsTo outer p

variable {fs fs' fs'' : FileSystem} {path : String}

theorem KeepsDirectories.enter_eq (keeps : fs.KeepsDirectories fs') {outer p : Place}
    {name : String} (entered : fs.enter outer name = .ok p) : fs'.enter outer name = .ok p := by
  unfold enter at entered ⊢
  split_ifs at entered ⊢
  · exact entered
  · exact entered
  · cases found : fs.item? (outer ++ [name]) with
    | none => simp [found] at entered
    | some item =>
      cases item with
      | file bytes => simp [found] at entered
      | directory => simpa [found, keeps.kept found] using entered

theorem KeepsDirectories.foldlM_enter (keeps : fs.KeepsDirectories fs') {parts : List String}
    {outer p : Place} (entered : parts.foldlM fs.enter outer = .ok p) :
    parts.foldlM fs'.enter outer = .ok p := by
  induction parts generalizing outer with
  | nil => exact entered
  | cons name rest ih =>
    rw [List.foldlM_cons] at entered ⊢
    obtain ⟨inner, first, later⟩ := bind_eq_ok_iff.mp entered
    exact bind_eq_ok_iff.mpr ⟨inner, keeps.enter_eq first, ih later⟩

/-- A path that leads somewhere leads there still when no directory is lost. -/
theorem KeepsDirectories.target_eq (keeps : fs.KeepsDirectories fs') {t : Target}
    (found : fs.target path = .ok t) : fs'.target path = .ok t := by
  unfold target at found ⊢
  have start_eq : fs'.start path = fs.start path := by simp [start, keeps.current]
  rw [start_eq]
  split_ifs at found ⊢
  obtain ⟨directory, entered, last⟩ := bind_eq_ok_iff.mp found
  refine bind_eq_ok_iff.mpr ⟨directory, keeps.foldlM_enter entered, ?_⟩
  cases named : (names path).getLast? with
  | none =>
    rw [named] at last
    exact last
  | some name =>
    rw [named] at last
    by_cases points : name = "." ∨ name = ".."
    · simp only [if_pos points] at last ⊢
      obtain ⟨inner, entered, last⟩ := bind_eq_ok_iff.mp last
      exact bind_eq_ok_iff.mpr ⟨inner, keeps.enter_eq entered, last⟩
    · simpa only [if_neg points] using last

theorem KeepsDirectories.leadsTo (keeps : fs.KeepsDirectories fs') {p : Place}
    (leads : fs.LeadsTo path p) : fs'.LeadsTo path p := by
  obtain ⟨t, found, place⟩ := leads
  exact ⟨t, keeps.target_eq found, place⟩

theorem KeepsDirectories.trans (first : fs.KeepsDirectories fs')
    (second : fs'.KeepsDirectories fs'') : fs.KeepsDirectories fs'' where
  current := second.current.trans first.current
  kept here := second.kept (first.kept here)

theorem Same.keepsDirectories (same : fs.Same fs') : fs.KeepsDirectories fs' where
  current := same.current
  kept here := (same.item? _).trans here

theorem GrowsToward.keepsDirectories (grows : GrowsToward path fs fs') :
    fs.KeepsDirectories fs' where
  current := grows.current
  kept here := grows.kept here

theorem GrowsToward.refl (path : String) (fs : FileSystem) : GrowsToward path fs fs where
  current := rfl
  kept here := here
  added absent here := by
    rw [absent] at here
    cases here

theorem GrowsToward.trans (first : GrowsToward path fs fs') (second : GrowsToward path fs' fs'') :
    GrowsToward path fs fs'' where
  current := second.current.trans first.current
  kept here := second.kept (first.kept here)
  added {p item} absent here := by
    cases between : fs'.item? p with
    | none => exact second.added between here
    | some item' =>
      -- An item of the first step: the second keeps it, and with it the way that leads there.
      obtain ⟨rfl, outer, within, leads⟩ := first.added absent between
      rw [second.kept between] at here
      cases here
      exact ⟨rfl, outer, within, second.keepsDirectories.leadsTo leads⟩

/-- What is on the way to the parent is on the way to the path. -/
theorem GrowsToward.of_parent {parent : String} (named : Path.parent? path = some parent)
    (grows : GrowsToward parent fs fs') : GrowsToward path fs fs' where
  current := grows.current
  kept here := grows.kept here
  added absent here := by
    obtain ⟨made, outer, within, leads⟩ := grows.added absent here
    exact ⟨made, outer, .head named within, leads⟩

theorem placeIn_eq_ok_iff {directory p : Place} {name : String} :
    placeIn directory name = .ok p ↔ ¬ nameLimit < name.utf8ByteSize ∧ p = directory ++ [name] := by
  unfold placeIn
  split_ifs with long
  · simp [long]
  · simp [long, eq_comm]

theorem ne_nil_of_item? {p : Place} (no_directory : fs.item? p ≠ some .directory) : p ≠ [] := by
  rintro rfl
  exact no_directory rfl

/-- Only the item of a directory may not be replaced. -/
theorem keepsDirectories_set {p : Place} (no_directory : fs.item? p ≠ some .directory)
    (item : Item) : fs.KeepsDirectories (fs.set p item) where
  current := rfl
  kept {q} here := by
    have other : q ≠ p := by
      rintro rfl
      exact no_directory here
    rw [item?_set_other fs other, here]

theorem growsToward_set {p : Place} (absent : fs.item? p = none) (leads : fs.LeadsTo path p) :
    GrowsToward path fs (fs.set p .directory) := by
  have no_directory : fs.item? p ≠ some .directory := by simp [absent]
  refine ⟨rfl, ?_, ?_⟩
  · intro q item here
    have other : q ≠ p := by
      rintro rfl
      simp [absent] at here
    rw [item?_set_other fs other, here]
  · intro q item missing here
    by_cases same : q = p
    · subst same
      rw [item?_set_same fs (ne_nil_of_item? no_directory)] at here
      cases here
      exact ⟨rfl, path, .refl, (keepsDirectories_set no_directory _).leadsTo leads⟩
    · rw [item?_set_other fs same, missing] at here
      cases here

theorem growsToward_of_createDirectory (made : fs.createDirectory path = .ok fs') :
    GrowsToward path fs fs' := by
  unfold createDirectory at made
  obtain ⟨t, found, made⟩ := bind_eq_ok_iff.mp made
  cases t with
  | inside directory => cases made
  | named directory name slash =>
    obtain ⟨p, placed, made⟩ := bind_eq_ok_iff.mp made
    obtain ⟨_, rfl⟩ := placeIn_eq_ok_iff.mp placed
    cases absent : fs.item? (directory ++ [name]) with
    | some item =>
      rw [absent] at made
      cases made
    | none =>
      rw [absent] at made
      cases made
      exact growsToward_set absent ⟨_, found, rfl⟩

/-- Whether the call fails or not: each step keeps what the steps before it left, and the steps for
the parent only add what is on the way to the path as well. -/
theorem growsToward_createDirectoriesWithin (bound : Nat) (fs : FileSystem) (path : String) :
    GrowsToward path fs (fs.createDirectoriesWithin bound path).2 := by
  fun_induction createDirectoriesWithin bound fs path with
  | case1 _ fs path => exact .refl path fs
  | case2 _ fs path _ fs' made => exact growsToward_of_createDirectory made
  | case3 fs path _ _ bound parent named f fs' failed ih =>
    rw [failed] at ih
    exact ih.of_parent named
  | case4 fs path _ _ bound parent named fs₁ done fs₂ made ih =>
    rw [done] at ih
    exact (ih.of_parent named).trans (growsToward_of_createDirectory made)
  | case5 fs path _ _ bound parent named fs₁ done f _ ih =>
    -- The parent was made, and the last step failed or was not needed.
    rw [done] at ih
    exact ih.of_parent named
  | case6 _ fs path => exact .refl path fs
  | case7 _ fs path => exact .refl path fs

theorem growsToward_createDirectories (fs : FileSystem) (path : String) :
    GrowsToward path fs (fs.createDirectories path).2 :=
  growsToward_createDirectoriesWithin _ fs path

theorem isDirectory_iff {p : Place} : fs.isDirectory p = true ↔ fs.item? p = some .directory := by
  unfold isDirectory
  split <;> simp_all

theorem writeFile_eq_ok {bytes : ByteArray} (written : fs.writeFile path bytes = .ok fs') :
    ∃ directory name, fs.target path = .ok (.named directory name false) ∧
      placeIn directory name = .ok (directory ++ [name]) ∧
      fs.item? (directory ++ [name]) ≠ some .directory ∧
      fs' = fs.set (directory ++ [name]) (.file bytes) := by
  unfold writeFile at written
  obtain ⟨t, found, written⟩ := bind_eq_ok_iff.mp written
  cases t with
  | inside directory => cases written
  | named directory name slash =>
    cases slash with
    | true => cases written
    | false =>
      obtain ⟨p, placed, written⟩ := bind_eq_ok_iff.mp written
      obtain ⟨_, rfl⟩ := placeIn_eq_ok_iff.mp placed
      refine ⟨directory, name, found, placed, ?_⟩
      cases there : fs.isDirectory (directory ++ [name]) with
      | true =>
        rw [there] at written
        cases written
      | false =>
        rw [there] at written
        cases written
        exact ⟨by simp [← isDirectory_iff, there], rfl⟩

/-- The bytes are at the path, and nothing else has changed: the place that the path leads to is the
only one with another item, and it was no directory. -/
structure Puts (path : String) (bytes : ByteArray) (fs fs' : FileSystem) : Prop where
  keeps : fs.KeepsDirectories fs'
  read : fs'.readFile path = .ok bytes
  place : ∃ p, fs'.LeadsTo path p ∧ fs.item? p ≠ some .directory ∧
    fs'.item? p = some (.file bytes) ∧ ∀ q, q ≠ p → fs'.item? q = fs.item? q

theorem Puts.directory_before {bytes : ByteArray} (puts : Puts path bytes fs fs') {q : Place}
    (here : fs'.item? q = some .directory) : fs.item? q = some .directory := by
  obtain ⟨p, _, _, file, others⟩ := puts.place
  have other : q ≠ p := by
    rintro rfl
    rw [file] at here
    cases here
  rw [← others q other, here]

theorem puts_of_writeFile {bytes : ByteArray} (written : fs.writeFile path bytes = .ok fs') :
    Puts path bytes fs fs' := by
  obtain ⟨directory, name, found, placed, no_directory, rfl⟩ := writeFile_eq_ok written
  have keeps := keepsDirectories_set no_directory (.file bytes)
  have found' := keeps.target_eq found
  have here := item?_set_same fs (ne_nil_of_item? no_directory) (.file bytes)
  refine ⟨keeps, ?_, directory ++ [name], ⟨_, found', rfl⟩, no_directory, here, ?_⟩
  · refine bind_eq_ok_iff.mpr ⟨_, found', bind_eq_ok_iff.mpr ⟨_, placed, ?_⟩⟩
    rw [here]
    rfl
  · intro q other
    exact item?_set_other fs other _

theorem Same.readFile_eq (same : fs.Same fs') {bytes : ByteArray}
    (read : fs.readFile path = .ok bytes) : fs'.readFile path = .ok bytes := by
  obtain ⟨t, found, read⟩ := bind_eq_ok_iff.mp read
  refine bind_eq_ok_iff.mpr ⟨t, same.keepsDirectories.target_eq found, ?_⟩
  cases t with
  | inside directory => exact read
  | named directory name slash => simpa only [same.item?] using read

theorem Puts.of_same {bytes : ByteArray} (puts : Puts path bytes fs fs') (same : fs'.Same fs'') :
    Puts path bytes fs fs'' := by
  obtain ⟨p, leads, no_directory, here, others⟩ := puts.place
  have keeps := same.keepsDirectories
  refine ⟨puts.keeps.trans keeps, same.readFile_eq puts.read, p, keeps.leadsTo leads,
    no_directory, (same.item? p).trans here, ?_⟩
  intro q other
  exact (same.item? q).trans (others q other)

end FileSystem

namespace Storage

/-- A storage whose files, seen from a state, are those of a file system. Each call may fail, and
then changes no file. Reading finds the bytes that are there, writing puts bytes where its path
leads, and making directories adds no more than directories on the way, also when it fails. -/
structure Faithful {σ : Type} [Storage (StateM σ)] (files : σ → FileSystem) : Prop where
  reads : ∀ {s s' : σ} {path : String} {r : Except Failure ByteArray},
    readAt s path = (r, s') → (files s).Same (files s') ∧
      ∀ bytes, r = .ok bytes → (files s).readFile path = .ok bytes
  makes : ∀ {s s' : σ} {path : String} {r : Except Failure Unit},
    createDirectoriesAt s path = (r, s') → FileSystem.GrowsToward path (files s) (files s')
  fails : ∀ {s s' : σ} {path : String} {bytes : ByteArray} {f : Failure},
    writeAt s path bytes = (.error f, s') → (files s).Same (files s')
  writes : ∀ {s s' : σ} {path : String} {bytes : ByteArray},
    writeAt s path bytes = (.ok (), s') →
      ∃ fs, (files s).writeFile path bytes = .ok fs ∧ fs.Same (files s')

theorem writeAt_fileSystem (fs : FileSystem) (path : String) (bytes : ByteArray) :
    writeAt fs path bytes = match fs.writeFile path bytes with
      | .ok fs' => (.ok (), fs')
      | .error f => (.error f, fs) := rfl

theorem faithful_fileSystem : Faithful fun fs : FileSystem => fs where
  reads called := by
    cases called
    exact ⟨⟨rfl, fun _ => rfl⟩, fun _ read => read⟩
  makes {s _ path _} called := by
    have grows := FileSystem.growsToward_createDirectories s path
    change s.createDirectories path = _ at called
    rwa [called] at grows
  fails {s _ path bytes _} called := by
    rw [writeAt_fileSystem] at called
    cases written : s.writeFile path bytes with
    | error f =>
      rw [written] at called
      cases called
      exact ⟨rfl, fun _ => rfl⟩
    | ok fs =>
      rw [written] at called
      cases called
  writes {s _ path bytes} called := by
    rw [writeAt_fileSystem] at called
    cases written : s.writeFile path bytes with
    | error f =>
      rw [written] at called
      cases called
    | ok fs =>
      rw [written] at called
      cases called
      exact ⟨_, rfl, rfl, fun _ => rfl⟩

end Storage

end Strata
