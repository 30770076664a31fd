import DeskPlan.Script.Interpreter

/-!
# `DeskPlan.Proofs.Script.Failure`: how scripts of a run fail

A run reads a script at the moment it is needed, in whatever session earlier scripts have left.
Reading does not look at the session, so an init script or a formula is refused as one that does
not compile exactly when it does not compile on its own (`isCompile_of_runInit`,
`failure_of_evalCoordinate`). Everything else that can go wrong is another kind of failure.
Whatever goes wrong in a formula is told under its name.
-/

set_option autoImplicit false

namespace DeskPlan.Script

/-- The script can be read. -/
def Engine.Reads (E : Engine) (source : String) : Prop := ∃ p, E.compile source = .ok p

/-- The script can be read by the interpreter. -/
def Compiles (source : String) : Prop := ∃ p, compile source = .ok p

/-- Whether a script can be read is found out by reading it. -/
instance (source : String) : Decidable (Compiles source) :=
  decidable_of_iff ((compile source).toOption.isSome = true) (by
    unfold Compiles
    cases compile source <;> simp [Except.toOption])

theorem interpreter_reads_iff {source : String} : interpreter.Reads source ↔ Compiles source := by
  show (∃ p, (compile source).mapError CompileError.message = .ok p) ↔ ∃ p, compile source = .ok p
  cases compile source with
  | error e => exact iff_of_false (fun ⟨_, h⟩ => nomatch h) fun ⟨_, h⟩ => nomatch h
  | ok p => exact iff_of_true ⟨p, rfl⟩ ⟨p, rfl⟩

namespace Session

variable {E : Engine}

/-- Reading a script that can be read gives its program, whatever the script is for. -/
theorem read_of_reads {source : String} (h : E.Reads source) (what : String) :
    ∃ p, read E what source = .ok p := by
  obtain ⟨p, hp⟩ := h
  exact ⟨p, by rw [read, hp]; rfl⟩

/-- Reading a script that cannot be read is a failure to compile, under the name it goes by. -/
theorem read_of_not_reads {source : String} (h : ¬ E.Reads source) (what : String) :
    ∃ message, read E what source = .error ⟨what, .compile message⟩ := by
  cases hsource : E.compile source with
  | ok p => exact absurd ⟨p, hsource⟩ h
  | error message => exact ⟨message, by rw [read, hsource]; rfl⟩

/-- A value that is no coordinate is not thereby a script that does not compile. -/
theorem coordinateOf_ne_compile (v : E.Value) (message : String) :
    coordinateOf v ≠ .error (.compile message) := by
  unfold coordinateOf
  split
  · split <;> simp
  · split
    · dsimp only
      split
      · split <;> simp
      · simp
    · simp

/-- An init script fails to compile in a run exactly when it does not compile. -/
theorem isCompile_of_runInit {c c' : Session E} {index : Nat} {source : String}
    {e : ScriptFailure} (h : c.runInit index source = (.error e, c')) :
    e.isCompile = true ↔ ¬ E.Reads source := by
  rw [runInit] at h
  by_cases hsource : E.Reads source
  · obtain ⟨p, hp⟩ := read_of_reads hsource (initName index)
    rw [hp] at h
    rcases hrun : c.rewind.execute p with ⟨result, after⟩
    simp only [hrun] at h
    cases result <;> cases h
    simp [ScriptFailure.isCompile, hsource]
  · obtain ⟨message, hread⟩ := read_of_not_reads hsource (initName index)
    rw [hread] at h
    cases h
    simp [ScriptFailure.isCompile, hsource]

/-- A formula that fails is named in the failure, and it fails to compile in a run exactly when it
does not compile. -/
theorem failure_of_evalCoordinate {c c' : Session E} {what source : String} {e : ScriptFailure}
    (h : c.evalCoordinate what source = (.error e, c')) :
    e.what = what ∧ (e.isCompile = true ↔ ¬ E.Reads source) := by
  rw [evalCoordinate] at h
  by_cases hsource : E.Reads source
  · obtain ⟨p, hp⟩ := read_of_reads hsource what
    rw [hp] at h
    rcases hrun : c.execute p with ⟨result, after⟩
    simp only [hrun] at h
    cases result with
    | ok v =>
      dsimp only at h
      -- The program was carried out, so only its value can be at fault.
      cases hv : coordinateOf v with
      | ok n =>
        rw [hv] at h
        cases h
      | error fault =>
        rw [hv] at h
        cases h
        refine ⟨rfl, ?_⟩
        cases fault with
        | compile message => exact absurd hv (coordinateOf_ne_compile v message)
        | _ => simp [ScriptFailure.isCompile, hsource]
    | error message =>
      cases h
      exact ⟨rfl, by simp [ScriptFailure.isCompile, hsource]⟩
  · obtain ⟨message, hread⟩ := read_of_not_reads hsource what
    rw [hread] at h
    cases h
    exact ⟨rfl, by simp [ScriptFailure.isCompile, hsource]⟩

end Session

end DeskPlan.Script
