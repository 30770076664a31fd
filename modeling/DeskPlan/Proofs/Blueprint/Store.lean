import DeskPlan.Blueprint.Store
import DeskPlan.Proofs.NameMap

/-!
# `DeskPlan.Proofs.Blueprint.Store`: when a blueprint file can be used

Loading a file and looking for its problems both read the file and decode its text. They differ
in what they ask for: loading refuses a blueprint that names no monitor, while the diagnosis
reports it, beside whatever else it finds.

* `load_eq_ok_iff` and `fileProblems_eq_ok_iff` say when the two succeed and with what;
* `load_of_fileProblems`: a file without problems can be loaded, and the blueprint that is
  loaded has no problems.
-/

set_option autoImplicit false

namespace DeskPlan

variable {ε δ α β : Type}

/-- Two steps succeed exactly when the first does and the second does with its value. -/
theorem bind_eq_ok_iff {x : Except ε α} {f : α → Except ε β} {b : β} :
    (x >>= f) = .ok b ↔ ∃ a, x = .ok a ∧ f a = .ok b := by
  cases x <;> simp [bind, Except.bind]

/-- Telling of an error in other words does not change when there is none. -/
theorem mapError_eq_ok_iff {x : Except ε α} {f : ε → δ} {a : α} :
    x.mapError f = .ok a ↔ x = .ok a := by
  cases x with
  | error e =>
    show (.error (f e) : Except δ α) = .ok a ↔ (.error e : Except ε α) = .ok a
    simp
  | ok b =>
    show (.ok b : Except δ α) = .ok a ↔ (.ok b : Except ε α) = .ok a
    simp

namespace Blueprint

/-- A text is a usable blueprint exactly when it is a document of one that names a monitor. -/
theorem parse_eq_ok_iff {text : String} {b : Blueprint} :
    parse text = .ok b ↔ Json.decodeText decode text = .ok b ∧ b.monitorMatch.names ≠ [] := by
  unfold parse
  cases Json.decodeText decode text with
  | error e => simp
  | ok b' =>
    rw [Ne, ← NameMap.isEmpty_iff]
    dsimp only
    split
    · rename_i hempty
      simp only [reduceCtorEq, Except.ok.injEq, false_iff, not_and]
      rintro rfl hfull
      exact hfull hempty
    · rename_i hfull
      simp only [Except.ok.injEq, iff_self_and]
      rintro rfl
      exact hfull

/-- A file is loaded exactly when it can be read and its text is a usable blueprint. The
blueprint then has the name of the file if it has none of its own. -/
theorem load_eq_ok_iff {path : String} {files : FileTree} {b : Blueprint} :
    load path files = .ok b ↔ ∃ content b', files.read path = .ok content ∧
      parse content = .ok b' ∧ b'.withNameOf path = b := by
  simp only [load, bind_eq_ok_iff, mapError_eq_ok_iff]
  simp [pure, Except.pure]

/-- A file is diagnosed exactly when it is there, can be read, and its text is a document of a
blueprint. The diagnosis is that of the blueprint. -/
theorem fileProblems_eq_ok_iff {path : String} {desktop : Option Desktop} {threshold : Nat}
    {files : FileTree} {problems : Checked (List Problem)} :
    fileProblems path desktop threshold files = .ok problems ↔
      files.holds path = true ∧ ∃ content b, files.read path = .ok content ∧
        Json.decodeText decode content = .ok b ∧ b.problems? desktop threshold = problems := by
  unfold fileProblems
  split
  · rename_i hholds
    simp only [bind_eq_ok_iff, mapError_eq_ok_iff]
    simp [pure, Except.pure, hholds]
  · rename_i hmissing
    simp [hmissing]

/-- The problems are those of the blueprint alone and then those with the monitors, which must be
measured for it. -/
theorem problems?_eq_some_iff {b : Blueprint} {desktop : Option Desktop} {threshold : Nat}
    {problems : List Problem} :
    b.problems? desktop threshold = some problems ↔
      ∃ ofMonitors, b.monitorProblems? desktop = some ofMonitors ∧
        (if b.monitorMatch.isEmpty then [.noMonitors] else []) ++ b.initProblems ++
          b.ruleProblems desktop threshold ++ ofMonitors = problems :=
  Option.map_eq_some_iff

/-- A blueprint that names no monitor has a problem. -/
theorem names_ne_nil_of_problems {b : Blueprint} {desktop : Option Desktop} {threshold : Nat}
    (h : b.problems? desktop threshold = some []) : b.monitorMatch.names ≠ [] := by
  intro hnames
  obtain ⟨ofMonitors, -, hproblems⟩ := problems?_eq_some_iff.1 h
  rw [if_pos (b.monitorMatch.isEmpty_iff.2 hnames)] at hproblems
  cases hproblems

/-- What a blueprint is called does not matter for its problems. -/
theorem problems?_withNameOf (b : Blueprint) (path : String) (desktop : Option Desktop)
    (threshold : Nat) : (b.withNameOf path).problems? desktop threshold =
      b.problems? desktop threshold := by
  unfold withNameOf
  split <;> rfl

/-- A file in which no problem is found can be loaded, and what is loaded has no problems. -/
theorem load_of_fileProblems {path : String} {desktop : Option Desktop} {threshold : Nat}
    {files : FileTree} (h : fileProblems path desktop threshold files = .ok (some [])) :
    ∃ b, load path files = .ok b ∧ b.problems? desktop threshold = some [] := by
  obtain ⟨-, content, b, hread, hdecode, hproblems⟩ := fileProblems_eq_ok_iff.1 h
  have hparse := parse_eq_ok_iff.2 ⟨hdecode, names_ne_nil_of_problems hproblems⟩
  refine ⟨b.withNameOf path, load_eq_ok_iff.2 ⟨content, b, hread, hparse, rfl⟩, ?_⟩
  rw [problems?_withNameOf]
  exact hproblems

end Blueprint

end DeskPlan
