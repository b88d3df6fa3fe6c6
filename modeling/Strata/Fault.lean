/-! What a failed run reports: the kind of failure, a message, the operation that failed, and the
facts gathered on the way out. Nothing recorded is ever lost: naming a further operation moves the
earlier one into the context. -/
namespace Strata

inductive Fault.Kind where
  | configInvalid
  | invalidFormat
  | missingField
  | fieldCoercion
  | emptyGraph
  | fileNotFound
  | permissionDenied
  | ioFailed
  | renderFailed
deriving DecidableEq, Repr

namespace Fault.Kind

def name : Kind → String
  | configInvalid => "ConfigInvalid"
  | invalidFormat => "InvalidFormat"
  | missingField => "MissingField"
  | fieldCoercion => "FieldCoercion"
  | emptyGraph => "EmptyGraph"
  | fileNotFound => "FileNotFound"
  | permissionDenied => "PermissionDenied"
  | ioFailed => "IoFailed"
  | renderFailed => "RenderFailed"

/-- An empty graph is an expected outcome and has a status of its own. -/
def exitCode : Kind → UInt8
  | emptyGraph => 2
  | _ => 1

end Fault.Kind

structure Fault where
  kind : Fault.Kind
  message : String
  /-- The operation that failed; empty while none is named. -/
  operation : String := ""
  /-- Facts in the order in which they were noted; a key may occur more than once. -/
  context : List (String × String) := []
  /-- The text of the error that this one rests on. -/
  cause : Option String := none
deriving DecidableEq, Repr

namespace Fault

def exitCode (f : Fault) : UInt8 := f.kind.exitCode

def noted? (f : Fault) (key : String) : Option String :=
  (f.context.find? fun entry => entry.1 == key).map Prod.snd

def note (f : Fault) (key value : String) : Fault :=
  { f with context := f.context ++ [(key, value)] }

/-- Names the operation; one named before is noted as `called`. -/
def during (f : Fault) (operation : String) : Fault :=
  if f.operation = "" then { f with operation }
  else { f.note "called" f.operation with operation }

def causedBy (f : Fault) (text : String) : Fault := { f with cause := some text }

@[simp] theorem kind_note (f : Fault) (key value : String) : (f.note key value).kind = f.kind := rfl

@[simp] theorem message_note (f : Fault) (key value : String) :
    (f.note key value).message = f.message := rfl

@[simp] theorem operation_note (f : Fault) (key value : String) :
    (f.note key value).operation = f.operation := rfl

@[simp] theorem kind_during (f : Fault) (operation : String) :
    (f.during operation).kind = f.kind := by
  unfold during; split <;> rfl

@[simp] theorem message_during (f : Fault) (operation : String) :
    (f.during operation).message = f.message := by
  unfold during; split <;> rfl

@[simp] theorem operation_during (f : Fault) (operation : String) :
    (f.during operation).operation = operation := by
  unfold during; split <;> rfl

@[simp] theorem kind_causedBy (f : Fault) (text : String) : (f.causedBy text).kind = f.kind := rfl

@[simp] theorem operation_causedBy (f : Fault) (text : String) :
    (f.causedBy text).operation = f.operation := rfl

/-- A key that has a value keeps it. -/
theorem noted?_note_of_some {f : Fault} {k v : String} (h : f.noted? k = some v)
    (key value : String) : (f.note key value).noted? k = some v := by
  simp only [noted?, note, Option.map_eq_some_iff] at h ⊢
  obtain ⟨e, found, rfl⟩ := h
  exact ⟨e, by simp [found], rfl⟩

def configInvalid (setting message : String) : Fault :=
  note ⟨.configInvalid, message, "", [], none⟩ "setting" setting

def invalidFormat (message : String) : Fault := ⟨.invalidFormat, message, "", [], none⟩

def missingField (field record : String) (index : Nat) : Fault :=
  let message := record ++ " #" ++ toString index ++ " has no '" ++ field ++ "'"
  (note ⟨.missingField, message, "", [], none⟩ "field" field).note "index" (toString index)

def fieldCoercion (field value expected : String) : Fault :=
  let message := "'" ++ field ++ "' value " ++ value ++ " is not " ++ expected
  (note ⟨.fieldCoercion, message, "", [], none⟩ "field" field).note "value" value

def emptyGraph (nodes edges : Nat) : Fault :=
  (note ⟨.emptyGraph, "No nodes or edges found in input JSON.", "", [], none⟩
    "nodes" (toString nodes)).note "edges" (toString edges)

def renderFailed (message : String) : Fault := ⟨.renderFailed, message, "", [], none⟩

/-- A failed call to the file system, with the system's own message as the cause. -/
def ofFileSystem (kind : Kind) (message : String) : Fault :=
  (during ⟨kind, message, "", [], none⟩ "io").causedBy message

/-- One line: kind, operation, context and message, those that are empty left out. -/
def render (f : Fault) : String :=
  let operation := if f.operation = "" then "" else " at " ++ f.operation
  let entries := f.context.map fun entry => entry.1 ++ ": " ++ entry.2
  let context := if f.context.isEmpty then ""
    else ", context \x7b " ++ ", ".intercalate entries ++ " \x7d"
  let message := if f.message = "" then "" else " => " ++ f.message
  f.kind.name ++ operation ++ context ++ message

def report (f : Fault) : String :=
  let head := f.kind.name ++ " at " ++ f.operation ++ "\n"
  let message := if f.message = "" then "" else "\n    Message: " ++ f.message ++ "\n"
  let entries := f.context.map fun entry => "        " ++ entry.1 ++ ": " ++ entry.2 ++ "\n"
  let context := if f.context.isEmpty then "" else "\n    Context:\n" ++ String.join entries
  let cause := match f.cause with
    | some text => "\n    Source: " ++ text ++ "\n"
    | none => ""
  head ++ message ++ context ++ cause

example : (((emptyGraph 1 0).during "a").during "b").render =
    "EmptyGraph at b, context \x7b nodes: 1, edges: 0, called: a \x7d => " ++
      "No nodes or edges found in input JSON." := by decide +kernel

end Fault

end Strata
