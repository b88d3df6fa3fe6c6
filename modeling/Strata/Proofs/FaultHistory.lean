import Strata.Fault

/-! A fault never loses what it was told. Whatever happens to it on its way out, the operations that
were named can be read off in their order, and every other fact stands where it was noted. -/
namespace Strata.Fault

inductive Origin where
  | plain (kind : Kind) (message : String)
  | configInvalid (setting message : String)
  | invalidFormat (message : String)
  | missingField (field record : String) (index : Nat)
  | fieldCoercion (field value expected : String)
  | emptyGraph (nodes edges : Nat)
  | renderFailed (message : String)
  | fileSystem (kind : Kind) (message : String)

def Origin.fault : Origin → Fault
  | plain kind message => ⟨kind, message, "", [], none⟩
  | configInvalid setting message => .configInvalid setting message
  | invalidFormat message => .invalidFormat message
  | missingField field record index => .missingField field record index
  | fieldCoercion field value expected => .fieldCoercion field value expected
  | emptyGraph nodes edges => .emptyGraph nodes edges
  | renderFailed message => .renderFailed message
  | fileSystem kind message => .ofFileSystem kind message

inductive Step where
  | during (operation : String)
  | note (key value : String)
  | causedBy (text : String)

/-- The key of an operation that was named before another one. -/
def calledKey : String := "called"

/-- An operation as a list; an empty name names none. -/
def named (operation : String) : List String := if operation = "" then [] else [operation]

namespace Step

def apply (f : Fault) : Step → Fault
  | during operation => f.during operation
  | note key value => f.note key value
  | causedBy text => f.causedBy text

/-- The step does not note a fact under the key of the operations. -/
def IsPlain : Step → Prop
  | note key _ => key ≠ calledKey
  | _ => True

def operations : Step → List String
  | during operation => named operation
  | _ => []

def facts : Step → List (String × String)
  | note key value => [(key, value)]
  | _ => []

def causes : Step → List String
  | causedBy text => [text]
  | _ => []

end Step

def after (f : Fault) (steps : List Step) : Fault := steps.foldl Step.apply f

/-- The operations that a fault tells of, in the order in which they were named. -/
def trail (f : Fault) : List String :=
  (f.context.filter fun entry => entry.1 = calledKey).map Prod.snd ++ named f.operation

def facts (f : Fault) : List (String × String) :=
  f.context.filter fun entry => entry.1 ≠ calledKey

/-- A later fault tells all that an earlier one does, and what was added on the way. -/
structure Extends (f : Fault) (steps : List Step) (g : Fault) : Prop where
  kind : g.kind = f.kind
  message : g.message = f.message
  trail : g.trail = f.trail ++ steps.flatMap Step.operations
  facts : g.facts = f.facts ++ steps.flatMap Step.facts
  cause : g.cause = (steps.flatMap Step.causes).getLast?.or f.cause
  noted : ∀ key value, f.noted? key = some value → g.noted? key = some value

theorem Extends.refl (f : Fault) : f.Extends [] f := by
  constructor <;> simp

theorem Extends.trans {f g h : Fault} {steps later : List Step} (first : f.Extends steps g)
    (second : g.Extends later h) : f.Extends (steps ++ later) h where
  kind := second.kind.trans first.kind
  message := second.message.trans first.message
  trail := by rw [second.trail, first.trail, List.flatMap_append, List.append_assoc]
  facts := by rw [second.facts, first.facts, List.flatMap_append, List.append_assoc]
  cause := by rw [second.cause, first.cause, List.flatMap_append, List.getLast?_append,
    Option.or_assoc]
  noted := fun key value known => second.noted key value (first.noted key value known)

theorem extends_note (f : Fault) {key : String} (other : key ≠ calledKey) (value : String) :
    f.Extends [.note key value] (f.note key value) where
  kind := rfl
  message := rfl
  trail := by simp [trail, note, other, Step.operations]
  facts := by simp [facts, note, other, Step.facts]
  cause := rfl
  noted := fun _ _ known => noted?_note_of_some known key value

theorem extends_causedBy (f : Fault) (text : String) :
    f.Extends [.causedBy text] (f.causedBy text) := by
  constructor <;> simp [causedBy, trail, facts, noted?, Step.operations, Step.facts, Step.causes]

/-- Naming an operation moves the one before it into the context, behind all that were there. -/
theorem extends_during (f : Fault) (operation : String) :
    f.Extends [.during operation] (f.during operation) := by
  by_cases unnamed : f.operation = ""
  · have same : f.during operation = { f with operation } := if_pos unnamed
    rw [same]
    constructor <;> simp [trail, facts, noted?, named, unnamed, Step.operations, Step.facts,
      Step.causes]
  · have moved : f.during operation = { f.note calledKey f.operation with operation } :=
      if_neg unnamed
    rw [moved]
    refine ⟨rfl, rfl, ?_, ?_, rfl, ?_⟩
    · simp [trail, note, named, unnamed, Step.operations]
    · simp [facts, note, Step.facts]
    · exact fun _ _ known => noted?_note_of_some known calledKey f.operation

theorem extends_apply (f : Fault) {step : Step} (plain : step.IsPlain) :
    f.Extends [step] (step.apply f) := by
  cases step with
  | during operation => exact extends_during f operation
  | note key value => exact extends_note f plain value
  | causedBy text => exact extends_causedBy f text

theorem extends_after (f : Fault) {steps : List Step} (plain : ∀ step ∈ steps, step.IsPlain) :
    f.Extends steps (f.after steps) := by
  induction steps generalizing f with
  | nil => exact .refl f
  | cons step rest ih =>
    obtain ⟨first, others⟩ := List.forall_mem_cons.mp plain
    exact (extends_apply f first).trans (ih (step.apply f) others)

theorem after_append (f : Fault) (steps later : List Step) :
    f.after (steps ++ later) = (f.after steps).after later := List.foldl_append

namespace Origin

theorem trail_fault (origin : Origin) : origin.fault.trail = named origin.fault.operation := by
  cases origin <;> rfl

theorem facts_fault (origin : Origin) : origin.fault.facts = origin.fault.context := by
  cases origin <;> rfl

/-- What the fault of an origin tells after some steps. -/
structure Tells (origin : Origin) (steps : List Step) (f : Fault) : Prop where
  kind : f.kind = origin.fault.kind
  message : f.message = origin.fault.message
  exitCode : f.exitCode = origin.fault.exitCode
  trail : f.trail = named origin.fault.operation ++ steps.flatMap Step.operations
  facts : f.facts = origin.fault.context ++ steps.flatMap Step.facts
  cause : f.cause.toList = origin.fault.cause.toList ++ steps.flatMap Step.causes

end Origin

/-- A fault keeps its kind and message, all operations and facts in their order, its one cause, and
every answer that it once gave. -/
theorem history_kept (origin : Origin) (steps : List Step)
    (plain : ∀ step ∈ steps, step.IsPlain)
    (single : (origin.fault.cause.toList ++ steps.flatMap Step.causes).length ≤ 1) :
    origin.Tells steps (origin.fault.after steps) ∧
      ∀ before later, steps = before ++ later → ∀ key value,
        (origin.fault.after before).noted? key = some value →
          (origin.fault.after steps).noted? key = some value := by
  have whole := origin.fault.extends_after plain
  refine ⟨⟨whole.kind, whole.message, ?_, ?_, ?_, ?_⟩, ?_⟩
  · rw [exitCode, whole.kind, exitCode]
  · rw [whole.trail, origin.trail_fault]
  · rw [whole.facts, origin.facts_fault]
  · rw [whole.cause]
    revert single
    generalize origin.fault.cause = own
    generalize steps.flatMap Step.causes = given
    intro single
    cases own <;> rcases given with _ | ⟨text, _ | _⟩ <;> simp at single ⊢
  · rintro before later rfl key value known
    obtain ⟨_, others⟩ := List.forall_mem_append.mp plain
    rw [after_append]
    exact ((origin.fault.after before).extends_after others).noted key value known

theorem history_kept_unnamed :
    let origin := Origin.fileSystem .fileNotFound "gone"
    let steps : List Step := [.note "path" "a", .during "", .note "path" "b", .during "load"]
    (∀ step ∈ steps, step.IsPlain) ∧
      (origin.fault.cause.toList ++ steps.flatMap Step.causes).length ≤ 1 ∧
      origin.Tells steps (origin.fault.after steps) := by
  intro origin steps
  have plain : ∀ step ∈ steps, step.IsPlain := by simp [steps, Step.IsPlain, calledKey]
  have single : (origin.fault.cause.toList ++ steps.flatMap Step.causes).length ≤ 1 := by decide
  exact ⟨plain, single, (history_kept origin steps plain single).1⟩

end Strata.Fault
