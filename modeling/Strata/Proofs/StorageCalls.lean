import Strata.Run

/-! What a program that calls a storage comes to from a state of it. The equations for a program
stand on those for its parts, so no other module opens the monads. -/
namespace Strata

theorem fromUTF8?_eq_some_iff {bytes : ByteArray} {text : String} :
    String.fromUTF8? bytes = some text ↔ bytes = text.toUTF8 := by
  rw [String.fromUTF8?]
  constructor
  · intro decoded
    split at decoded
    · cases decoded
      rfl
    · cases decoded
  · rintro rfl
    rw [String.toUTF8_eq_toByteArray, dif_pos text.isValidUTF8]
    rfl

theorem toOption_eq_some_iff {ε β : Type} {r : Except ε β} {b : β} :
    r.toOption = some b ↔ r = .ok b := by
  cases r <;> simp [Except.toOption]

theorem bind_eq_ok_iff {ε β γ : Type} {r : Except ε β} {f : β → Except ε γ} {c : γ} :
    r >>= f = .ok c ↔ ∃ b, r = .ok b ∧ f b = .ok c := by
  cases r with
  | error e => simp [bind, Except.bind]
  | ok b => simp [bind, Except.bind]

theorem bind_eq_error_iff {ε β γ : Type} {r : Except ε β} {f : β → Except ε γ} {e : ε} :
    r >>= f = .error e ↔ r = .error e ∨ ∃ b, r = .ok b ∧ f b = .error e := by
  cases r with
  | error e => simp [bind, Except.bind]
  | ok b => simp [bind, Except.bind]

theorem map_eq_ok_iff {ε β γ : Type} {r : Except ε β} {f : β → γ} {c : γ} :
    r.map f = .ok c ↔ ∃ b, r = .ok b ∧ f b = c := by
  cases r <;> simp [Except.map]

theorem mapError_eq_ok_iff {ε ε' β : Type} {r : Except ε β} {f : ε → ε'} {b : β} :
    r.mapError f = .ok b ↔ r = .ok b := by
  cases r with
  | error d => exact ⟨nofun, nofun⟩
  | ok c =>
    constructor
    · rintro ⟨⟩
      rfl
    · rintro ⟨⟩
      rfl

theorem mapError_eq_error_iff {ε ε' β : Type} {r : Except ε β} {f : ε → ε'} {e : ε'} :
    r.mapError f = .error e ↔ ∃ d, r = .error d ∧ f d = e := by
  cases r with
  | error d =>
    constructor
    · rintro ⟨⟩
      exact ⟨d, rfl, rfl⟩
    · rintro ⟨_, ⟨⟩, rfl⟩
      rfl
  | ok c => exact ⟨nofun, nofun⟩

namespace Storage

variable {σ β γ : Type}

/-- What a program gives from a state, and the state in which it ends. -/
def runAt (s : σ) (x : ExceptT Fault (StateM σ) β) : Except Fault β × σ := x.run s

theorem runAt_liftM (s : σ) (r : Except Fault β) : runAt s (liftM r) = (r, s) := by
  cases r <;> rfl

theorem runAt_bind_ok {s s₁ : σ} {x : ExceptT Fault (StateM σ) β} {b : β}
    (went : runAt s x = (.ok b, s₁)) (f : β → ExceptT Fault (StateM σ) γ) :
    runAt s (x >>= f) = runAt s₁ (f b) := by
  change ExceptT.bindCont f (runAt s x).1 (runAt s x).2 = _
  rw [went]
  rfl

/-- A program ends with the first part that fails. -/
theorem runAt_bind_error {s s₁ : σ} {x : ExceptT Fault (StateM σ) β} {e : Fault}
    (failed : runAt s x = (.error e, s₁)) (f : β → ExceptT Fault (StateM σ) γ) :
    runAt s (x >>= f) = (.error e, s₁) := by
  change ExceptT.bindCont f (runAt s x).1 (runAt s x).2 = _
  rw [failed]
  rfl

theorem runAt_map (s : σ) (x : ExceptT Fault (StateM σ) β) (f : β → γ) :
    (runAt s do let b ← x; return f b) = ((runAt s x).1.map f, (runAt s x).2) := by
  rcases went : runAt s x with ⟨e | b, s₁⟩
  · exact runAt_bind_error went _
  · exact runAt_bind_ok went _

theorem runAt_bind_liftM (s : σ) (x : ExceptT Fault (StateM σ) β) (f : β → Except Fault γ) :
    (runAt s do let b ← x; liftM (f b)) = ((runAt s x).1 >>= f, (runAt s x).2) := by
  rcases went : runAt s x with ⟨e | b, s₁⟩
  · exact runAt_bind_error went _
  · exact (runAt_bind_ok went _).trans (runAt_liftM s₁ (f b))

theorem runAt_attempt (s : σ) (call : StateM σ (Except Failure β)) (fault : Failure → Fault) :
    runAt s (attempt call fault) = ((call s).1.mapError fault, (call s).2) := by
  have called : runAt s (liftM call) = (.ok (call s).1, (call s).2) := rfl
  refine (runAt_bind_ok called _).trans ?_
  cases (call s).1 <;> rfl

theorem runAt_attempt_ok {s s₁ : σ} {call : StateM σ (Except Failure β)} {b : β}
    (called : call s = (.ok b, s₁)) (fault : Failure → Fault) :
    runAt s (attempt call fault) = (.ok b, s₁) := by
  rw [runAt_attempt, called]
  rfl

theorem runAt_attempt_error {s s₁ : σ} {call : StateM σ (Except Failure β)} {f : Failure}
    (called : call s = (.error f, s₁)) (fault : Failure → Fault) :
    runAt s (attempt call fault) = (.error (fault f), s₁) := by
  rw [runAt_attempt, called]
  rfl

variable [Storage (StateM σ)]

/-- The calls, from a state. -/
def readAt (s : σ) (path : String) : Except Failure ByteArray × σ := (read path : StateM σ _) s

def createDirectoriesAt (s : σ) (path : String) : Except Failure Unit × σ :=
  (createDirectories path : StateM σ _) s

def writeAt (s : σ) (path : String) (bytes : ByteArray) : Except Failure Unit × σ :=
  (write path bytes : StateM σ _) s

/-- The text of a file, or the fault of an operation that reads it. -/
def decode (path operation : String) : Except Failure ByteArray → Except Fault String
  | .error f => .error (f.fault operation "path" path)
  | .ok bytes => match String.fromUTF8? bytes with
    | some text => .ok text
    | none => .error (Failure.notText.fault operation "path" path)

theorem runAt_readText (s : σ) (path operation : String) :
    runAt s (readText path operation) =
      (decode path operation (readAt s path).1, (readAt s path).2) := by
  rcases called : readAt s path with ⟨f | bytes, s₁⟩
  · exact runAt_bind_error (runAt_attempt_error called _) _
  · refine (runAt_bind_ok (runAt_attempt_ok called _) _).trans ?_
    simp only [decode]
    cases String.fromUTF8? bytes <;> rfl

theorem decode_eq_ok_iff {path operation text : String} {r : Except Failure ByteArray} :
    decode path operation r = .ok text ↔ r = .ok text.toUTF8 := by
  cases r with
  | error f => simp [decode]
  | ok bytes =>
    rw [Except.ok.injEq, ← fromUTF8?_eq_some_iff, decode]
    cases String.fromUTF8? bytes <;> simp

theorem decode_eq_error {path operation : String} {r : Except Failure ByteArray} {e : Fault}
    (failed : decode path operation r = .error e) :
    ∃ f : Failure, e = f.fault operation "path" path := by
  cases r with
  | error f => exact ⟨f, by simpa [decode] using failed.symm⟩
  | ok bytes =>
    rw [decode] at failed
    cases decoded : String.fromUTF8? bytes with
    | some text => simp [decoded] at failed
    | none => exact ⟨.notText, by simpa [decoded] using failed.symm⟩

end Storage

end Strata
