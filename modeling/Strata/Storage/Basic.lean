import Strata.Basic
import Strata.Fault

/-! The calls to a file system that a run makes, how they fail, and the parts of paths. A path is a
text with slashes between its parts; empty parts and single points count for nothing, but a point in
front is kept. -/
namespace Strata

inductive Storage.Failure where
  | notFound
  | permissionDenied
  | alreadyExists
  | notDirectory
  | isDirectory
  | nameTooLong
  | nulInName
  | notText
  | other (message : String)
deriving DecidableEq, Repr

namespace Storage.Failure

def message : Failure → String
  | notFound => "No such file or directory (os error 2)"
  | permissionDenied => "Permission denied (os error 13)"
  | alreadyExists => "File exists (os error 17)"
  | notDirectory => "Not a directory (os error 20)"
  | isDirectory => "Is a directory (os error 21)"
  | nameTooLong => "File name too long (os error 36)"
  | nulInName => "file name contained an unexpected NUL byte"
  | notText => "stream did not contain valid UTF-8"
  | other message => message

def kind : Failure → Fault.Kind
  | notFound => .fileNotFound
  | permissionDenied => .permissionDenied
  | _ => .ioFailed

def fault (f : Failure) (operation key value : String) : Fault :=
  ((Fault.ofFileSystem f.kind f.message).during operation).note key value

end Storage.Failure

/-- A file system. A call that fails leaves the files as they are. -/
class Storage (m : Type → Type) where
  read : String → m (Except Storage.Failure ByteArray)
  createDirectories : String → m (Except Storage.Failure Unit)
  /-- Makes these the bytes of a file, which need not exist. -/
  write : String → ByteArray → m (Except Storage.Failure Unit)

namespace Storage

variable {m : Type → Type} [Monad m] [Storage m]

def attempt {β : Type} (call : m (Except Failure β)) (fault : Failure → Fault) :
    ExceptT Fault m β := do
  match ← (liftM call : ExceptT Fault m (Except Failure β)) with
  | .ok b => return b
  | .error f => throw (fault f)

def readText (path operation : String) : ExceptT Fault m String := do
  let fault (f : Failure) := f.fault operation "path" path
  let bytes ← attempt (read path) fault
  match String.fromUTF8? bytes with
  | some text => return text
  | none => throw (fault .notText)

end Storage

end Strata

namespace Strata.Path

def split : List Char → List (List Char)
  | [] => [[]]
  | c :: r =>
    if c = '/' then [] :: split r
    else match split r with
      | [] => [[c]]
      | part :: parts => (c :: part) :: parts

def lead : List Char → List Char
  | '/' :: _ => ['/']
  | ['.'] | '.' :: '/' :: _ => ['.']
  | _ => []

/-- Removes, from a text read backwards, the parts in front that count for nothing. -/
def strip : List Char → List Char
  | '/' :: r => strip r
  | '.' :: '/' :: r => strip r
  | ['.'] => []
  | s => s

def backwards (path : List Char) : List Char := strip (path.drop (lead path).length).reverse

/-- The path without its last part; empty for a single part, and none where there is no part. -/
def parent? (path : String) : Option String :=
  let s := path.toList
  match backwards s with
  | [] => if lead s = ['.'] then some "" else none
  | last => some (String.ofList (lead s ++ (strip ((last.dropWhile (· != '/')).drop 1)).reverse))

/-- The last part, unless it leads upwards. -/
def fileName? (path : String) : Option String :=
  let name := ((backwards path.toList).takeWhile (· != '/')).reverse
  if name.isEmpty ∨ name = ['.', '.'] then none else some (String.ofList name)

/-- What follows the last point of the file name, unless the name begins with that point. -/
def extension? (path : String) : Option String := do
  let name := (← fileName? path).toList.reverse
  match name.dropWhile (· != '.') with
  | [] | [_] => none
  | _ => return String.ofList (name.takeWhile (· != '.')).reverse

example : parent? "x" = some "" ∧ parent? "/" = none ∧ parent? "" = none := by decide +kernel
example : extension? "a.b/c.tar.gz/" = some "gz" ∧ extension? ".svg" = none := by decide +kernel

end Strata.Path
