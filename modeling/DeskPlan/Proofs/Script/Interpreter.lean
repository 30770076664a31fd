import DeskPlan.Script.Interpreter
import Mathlib.Data.List.Forall2

/-!
# `DeskPlan.Proofs.Script.Interpreter`: the interpreter keeps the promises of its language

Every evaluation of the interpreter is an `Action`, and an action extends the scope it starts in,
whatever it does and however it ends (`Action.keeps`). So a run does too (`extends_run`), and the
rest is about lists: a scope lists its newest entry first, and `Engine.vars` the oldest one.

* `Machine.declarations_of_extends` and `Machine.constant_of_extends`: an extension has the old
  variables in their places, and the constants among them as they were;
* `findFunction?_mergeFunctions`: after functions are merged a call is answered by a newer one, and
  by an older one only if no newer one answers it;
* `interpreter_lawful` puts these together.
-/

set_option autoImplicit false

namespace DeskPlan.Script

/-! ### Scopes -/

/-- What is kept of a constant is the constant. -/
theorem Entry.Kept.eq_of_constant {x y : Entry} (h : x.Kept y) (hx : x.constant = true) :
    y = x := by
  obtain ⟨hname, hfixed⟩ := h
  obtain ⟨name, slot⟩ := x
  obtain ⟨name', slot'⟩ := y
  cases slot with
  | fixed v =>
    cases slot' with
    | fixed w =>
      cases hname
      cases hfixed
      rfl
    | own w => cases hfixed
    | shared cell => cases hfixed
  -- A variable of its own, or one that a closure shares, is no constant.
  | own v => cases hx
  | shared cell => cases hx

namespace Scope

/-- Scopes agree when their entries do, one by one. -/
theorem forall₂_of_kept : ∀ {a b : Scope}, Scope.Kept a b → List.Forall₂ Entry.Kept a b
  | [], [], _ => .nil
  | _ :: _, _ :: _, ⟨hxy, h⟩ => .cons hxy (forall₂_of_kept h)

/-- Taking the oldest entries a second time changes nothing. -/
theorem oldest_oldest (s : Scope) (count : Nat) :
    (s.oldest count).oldest count = s.oldest count := by
  simp only [oldest, List.length_drop, List.drop_drop]
  congr 1
  omega

/-- An extension has the old entries at its bottom, with their names, and the constants among them
as they were. -/
theorem Extends.exists_prefix {a b : Scope} (h : a.Extends b) :
    ∃ kept newer, b.reverse = kept ++ newer ∧ List.Forall₂ Entry.Kept a.reverse kept := by
  obtain ⟨newer, kept, rfl, hkept⟩ := h
  exact ⟨kept.reverse, newer.reverse, List.reverse_append,
    List.forall₂_reverse_iff.2 (forall₂_of_kept hkept)⟩

end Scope

/-- A program extends the scope it is run on. -/
theorem extends_run (functions : List FunctionDef) (turns : Nat) (body : List Expr)
    (m : Machine) : m.scope.Extends (run functions turns body m).2.scope := by
  have hkeeps := ((Host.of functions turns).evalBody body).keeps m
  unfold run
  split <;> rename_i hrun <;> rw [hrun] at hkeeps <;> exact hkeeps

/-! ### Machines -/

namespace Machine

theorem length_vars (m : Machine) : m.vars.length = m.scope.length := by
  rw [vars, List.length_map, List.length_reverse]

theorem vars_pushConstant (m : Machine) (name : String) (v : Value) :
    vars { m with scope := ⟨name, .fixed v⟩ :: m.scope } = m.vars ++ [⟨name, true, v⟩] := by
  rw [vars, List.reverse_cons, List.map_append]
  rfl

theorem vars_oldest (m : Machine) (count : Nat) :
    vars { m with scope := m.scope.oldest count } = m.vars.take count := by
  have hcount : m.scope.length - (m.scope.length - count) = min count m.scope.length := by omega
  rw [vars, Scope.oldest, List.reverse_drop, hcount, ← List.take_take,
    List.take_of_length_le (Nat.le_of_eq (List.length_reverse ..)), List.map_take]
  rfl

section
variable {m m' : Machine} (h : m.scope.Extends m'.scope)
include h

/-- The declarations of an extension begin with those of the scope. -/
theorem declarations_of_extends :
    m.vars.map Variable.declaration <+: m'.vars.map Variable.declaration := by
  obtain ⟨kept, newer, hafter, hkept⟩ := h.exists_prefix
  have hdeclared : ∀ k : Machine, k.vars.map Variable.declaration =
      k.scope.reverse.map fun e => (e.name, e.constant) := fun k => List.map_map ..
  -- What is kept of an entry has its name and its constness, so the declarations are the old ones.
  have hsame : m.scope.reverse.map (fun e => (e.name, e.constant)) =
      kept.map fun e => (e.name, e.constant) := by
    rw [← List.forall₂_eq_eq_eq, List.forall₂_map_left_iff, List.forall₂_map_right_iff]
    exact hkept.imp fun x y hxy => by rw [Entry.constant, Entry.constant, hxy.1, hxy.2]
  rw [hdeclared, hdeclared, hafter, List.map_append, hsame]
  exact List.prefix_append _ _

/-- The constants of a scope are in their places in an extension. -/
theorem constant_of_extends {i : Nat} {v : Variable Value} (hv : m.vars[i]? = some v)
    (hconstant : v.constant = true) : m'.vars[i]? = some v := by
  obtain ⟨kept, newer, hafter, hkept⟩ := h.exists_prefix
  rw [vars, List.getElem?_map, Option.map_eq_some_iff] at hv
  obtain ⟨e, he, rfl⟩ := hv
  obtain ⟨hi, rfl⟩ := List.getElem?_eq_some_iff.1 he
  have hi' : i < kept.length := hkept.length_eq ▸ hi
  have hentry := (hkept.get hi hi').eq_of_constant hconstant
  rw [vars, hafter, List.getElem?_map, List.getElem?_append_left hi', List.getElem?_eq_getElem hi',
    Option.map_some]
  show some _ = _
  rw [show kept[i] = m.scope.reverse[i] from hentry]
  -- The value of a constant does not depend on the cells.
  revert hconstant
  obtain ⟨name, slot⟩ := m.scope.reverse[i]
  cases slot with
  | fixed v => exact fun _ => rfl
  | own v => exact nofun
  | shared cell => exact nofun

end

end Machine

/-! ### Functions -/

/-- After functions are merged a call is answered by a newer one, and by an older one only if no
newer one answers it. -/
theorem findFunction?_mergeFunctions (older newer : List FunctionDef) (name : String)
    (arity : Nat) : findFunction? (mergeFunctions older newer) name arity =
      (findFunction? newer name arity).or (findFunction? older name arity) := by
  unfold findFunction? mergeFunctions
  generalize hanswers : (fun f : FunctionDef => decide (f.name = name) &&
    decide (f.params.length = arity)) = answers
  -- Among functions that answer the call, to have the signature of one is to answer it.
  have hsame : ∀ f g : FunctionDef, answers f = true →
      (f.sameSignature g = true ↔ answers g = true) := by
    intro f g hf
    subst hanswers
    simp only [Bool.and_eq_true, decide_eq_true_eq, FunctionDef.sameSignature] at hf ⊢
    rw [hf.1, hf.2, eq_comm, @eq_comm _ arity]
  rw [List.find?_append, List.find?_filter]
  cases hnewer : newer.find? answers with
  | some g =>
    -- An older function that answers the call has the signature of `g` and was left out.
    have hnone : (older.find? fun f => decide ((!newer.any f.sameSignature) = true ∧
        answers f = true)) = none := by
      rw [List.find?_eq_none]
      intro f _ hf
      simp only [Bool.not_eq_true', List.any_eq_false, decide_eq_true_eq] at hf
      exact hf.1 g (List.mem_of_find?_eq_some hnewer)
        ((hsame f g hf.2).2 (List.find?_some hnewer))
    rw [hnone, Option.none_or, Option.some_or]
  | none =>
    -- No newer function has the signature of one that answers the call.
    have hkept : (fun f => decide ((!newer.any f.sameSignature) = true ∧ answers f = true)) =
        answers := by
      funext f
      rw [List.find?_eq_none] at hnewer
      cases hf : answers f with
      | false => simp
      | true =>
        simp only [Bool.not_eq_true', List.any_eq_false, and_true, decide_eq_true_eq]
        intro g hg hsig
        exact hnewer g hg ((hsame f g hf).1 hsig)
    rw [hkept, Option.or_none, Option.none_or]

/-! ### The laws -/

/-- The interpreter is an engine as the host expects it. -/
theorem interpreter_lawful : interpreter.Lawful where
  vars_emptyScope := rfl
  length_eq m := m.length_vars.symm
  vars_pushConstant := Machine.vars_pushConstant
  vars_rewind := Machine.vars_oldest
  run_declares p m :=
    Machine.declarations_of_extends
      (extends_run p.functions loopTurns p.body { m with output := [] })
  run_spares_constants p m _ _ := Machine.constant_of_extends
    (extends_run p.functions loopTurns p.body { m with output := [] })
  function?_emptyProgram _ _ := rfl
  function?_merge p q := findFunction?_mergeFunctions p.functions q.functions
  function?_functionsOnly _ _ _ := rfl

/-- Rewinding a second time changes nothing. -/
theorem Context.rewind_rewind (c : Context) : c.rewind.rewind = c.rewind := by
  have hscope : ∀ (m : Machine) (count : Nat),
      interpreter.rewind (interpreter.rewind m count) count = interpreter.rewind m count :=
    fun m count => congrArg (fun s => { m with scope := s }) (m.scope.oldest_oldest count)
  exact congrArg (fun s => { c with scope := s }) (hscope c.scope c.baseLength)

end DeskPlan.Script
