import Strata.Basic
import Strata.Storage.Basic

/-! A file system as a map from places to files and directories. A place is the list of names on the
way from the outermost directory. Names are looked up from the left, so the first part of a path
that is missing or is no directory decides how a call fails. -/
namespace Strata

inductive FileSystem.Item where
  | file (bytes : ByteArray)
  | directory

structure FileSystem where
  /-- Every item but the outermost directory, one for each place. -/
  items : List (List String × FileSystem.Item)
  /-- The directory from which paths start that do not begin with a slash. -/
  current : List String

namespace FileSystem

open Storage

abbrev Place := List String

def item? (fs : FileSystem) (p : Place) : Option Item :=
  if p.isEmpty then some .directory else fs.items.lookup p

def set (fs : FileSystem) (p : Place) (item : Item) : FileSystem :=
  { fs with items := Keyed.put p item fs.items }

theorem item?_set_same (fs : FileSystem) {p : Place} (h : p ≠ []) (item : Item) :
    (fs.set p item).item? p = some item := by
  simp [item?, set, h, Keyed.lookup_put_same]

theorem item?_set_other (fs : FileSystem) {p q : Place} (h : q ≠ p) (item : Item) :
    (fs.set p item).item? q = fs.item? q := by
  simp [item?, set, Keyed.lookup_put_other h]

def isDirectory (fs : FileSystem) (p : Place) : Bool :=
  match fs.item? p with
  | some .directory => true
  | _ => false

def nameLimit : Nat := 255
def pathLimit : Nat := 4095

def enter (fs : FileSystem) (outer : Place) (name : String) : Except Failure Place :=
  if name = "." then .ok outer
  else if name = ".." then .ok outer.dropLast
  else if nameLimit < name.utf8ByteSize then .error .nameTooLong
  else match fs.item? (outer ++ [name]) with
    | none => .error .notFound
    | some (.file _) => .error .notDirectory
    | some .directory => .ok (outer ++ [name])

inductive Target where
  /-- A directory that the path leads to without a name of its own. -/
  | inside (directory : Place)
  /-- A name, and whether a slash follows it. -/
  | named (directory : Place) (name : String) (slash : Bool)

/-- The parts of a path that count for looking it up. -/
def names (path : String) : List String :=
  ((Path.split path.toList).filter fun part => !part.isEmpty).map String.ofList

def start (fs : FileSystem) (path : String) : Place :=
  if path.toList.head? = some '/' then [] else fs.current

def target (fs : FileSystem) (path : String) : Except Failure Target := do
  if path.toList.contains '\x00' then .error .nulInName
  else if path.isEmpty then .error .notFound
  else if pathLimit < path.utf8ByteSize then .error .nameTooLong
  else
    let parts := names path
    let directory ← parts.dropLast.foldlM fs.enter (fs.start path)
    match parts.getLast? with
    | none => return .inside (fs.start path)
    | some name =>
      if name = "." ∨ name = ".." then return .inside (← fs.enter directory name)
      else return .named directory name (path.toList.getLast? = some '/')

/-- The place of a name in a directory; the name may be too long for one. -/
def placeIn (directory : Place) (name : String) : Except Failure Place :=
  if nameLimit < name.utf8ByteSize then .error .nameTooLong else .ok (directory ++ [name])

def readFile (fs : FileSystem) (path : String) : Except Failure ByteArray := do
  match ← fs.target path with
  | .inside _ => .error .isDirectory
  | .named directory name slash =>
    match fs.item? (← placeIn directory name) with
    | none => .error .notFound
    | some .directory => .error .isDirectory
    | some (.file bytes) => if slash then .error .notDirectory else .ok bytes

def writeFile (fs : FileSystem) (path : String) (bytes : ByteArray) :
    Except Failure FileSystem := do
  match ← fs.target path with
  | .inside _ => .error .isDirectory
  | .named directory name slash =>
    if slash then .error .isDirectory
    else
      let p ← placeIn directory name
      if fs.isDirectory p then .error .isDirectory else return fs.set p (.file bytes)

def createDirectory (fs : FileSystem) (path : String) : Except Failure FileSystem := do
  match ← fs.target path with
  | .inside _ => .error .alreadyExists
  | .named directory name _ =>
    let p ← placeIn directory name
    match fs.item? p with
    | some _ => .error .alreadyExists
    | none => return fs.set p .directory

def leadsToDirectory (fs : FileSystem) (path : String) : Bool :=
  match fs.target path with
  | .ok (.inside _) => true
  | .ok (.named directory name _) => fs.isDirectory (directory ++ [name])
  | .error _ => false

/-- Makes a directory, and first those that are missing on the way. Some may have been made even
when the call fails. The bound is on the number of parts. -/
def createDirectoriesWithin : Nat → FileSystem → String → Except Failure Unit × FileSystem
  | bound, fs, path =>
    if path.isEmpty then (.ok (), fs)
    else match fs.createDirectory path with
      | .ok fs => (.ok (), fs)
      | .error .notFound =>
        match bound, Path.parent? path with
        | bound + 1, some parent =>
          match createDirectoriesWithin bound fs parent with
          | (.error f, fs) => (.error f, fs)
          | (.ok (), fs) => match fs.createDirectory path with
            | .ok fs => (.ok (), fs)
            | .error f => (if fs.leadsToDirectory path then .ok () else .error f, fs)
        | _, _ => (.error (.other "failed to create whole tree"), fs)
      | .error f => (if fs.leadsToDirectory path then .ok () else .error f, fs)

def createDirectories (fs : FileSystem) (path : String) : Except Failure Unit × FileSystem :=
  fs.createDirectoriesWithin path.length path

instance : Storage (StateM FileSystem) where
  read path := fun fs => (fs.readFile path, fs)
  createDirectories path := fun fs => fs.createDirectories path
  write path bytes := fun fs => match fs.writeFile path bytes with
    | .ok fs => (.ok (), fs)
    | .error f => (.error f, fs)

end FileSystem

end Strata
