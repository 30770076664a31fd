import DeskPlan.Script.Engine
import DeskPlan.Script.Value

/-!
# `DeskPlan.Script.Machine`: what a script may do to its surroundings

A `Scope` lists the variables in reach, newest first. An `Action` is a computation on scopes
that carries the proof of its own good behaviour: whatever it does, the variables that were
there before it stay where they are, under their names, and the constants among them keep their
values (`Scope.Extends`). Every evaluation is put together from the actions of this module, so
every evaluation respects the host's constants.

* `Scope.Extends` is reflexive and transitive (`Extends.refl`, `Extends.trans`);
* `Action.inBlock` forgets the variables declared inside, `Action.inFrame` runs on a scope of its
  own, `Action.attempt` looks at a signal, `Action.repeatTurns` is the loop.
-/

set_option autoImplicit false

namespace DeskPlan.Script

/-! ### Scopes -/

/-- What a variable holds: a constant, a value of its own, or a cell shared with closures. -/
inductive Slot where
  | fixed (value : Value)
  | own (value : Value)
  | shared (cell : Nat)

/-- A variable. -/
structure Entry where
  name : String
  slot : Slot

/-- The variables in reach, newest first. -/
abbrev Scope := List Entry

/-- The value of a constant. -/
def Slot.fixed? : Slot → Option Value
  | .fixed v => some v
  | _ => none

/-- The value of a variable that is shared with nobody. -/
def Slot.own? : Slot → Option Value
  | .own v => some v
  | _ => none

/-- The slot with another value, unless it is a constant. The value of a shared slot lies in its
cell. -/
def Slot.store (v : Value) : Slot → Slot
  | .own _ => .own v
  | s => s

/-- The slot with its value moved to a cell, unless it is a constant or shared already. -/
def Slot.share (cell : Nat) : Slot → Slot
  | .own _ => .shared cell
  | s => s

theorem Slot.fixed?_store (v : Value) (s : Slot) : (s.store v).fixed? = s.fixed? := by
  cases s <;> rfl

theorem Slot.fixed?_share (cell : Nat) (s : Slot) : (s.share cell).fixed? = s.fixed? := by
  cases s <;> rfl

/-- Whether the variable is a constant. -/
def Entry.constant (e : Entry) : Bool := e.slot.fixed?.isSome

/-- An entry may change its value, but not its name, and a constant changes nothing. -/
def Entry.Kept (before after : Entry) : Prop :=
  after.name = before.name ∧ after.slot.fixed? = before.slot.fixed?

/-- Two scopes agree entry by entry, up to the values of variables. -/
def Scope.Kept : Scope → Scope → Prop
  | [], [] => True
  | a :: as, b :: bs => a.Kept b ∧ Scope.Kept as bs
  | _, _ => False

/-- The scope has new entries in front of the old ones, which are kept. -/
def Scope.Extends (before after : Scope) : Prop :=
  ∃ newer kept, after = newer ++ kept ∧ Scope.Kept before kept

namespace Scope

theorem Kept.refl : ∀ s : Scope, Scope.Kept s s
  | [] => trivial
  | _ :: s => ⟨⟨rfl, rfl⟩, Kept.refl s⟩

theorem Kept.trans : ∀ {a b c : Scope}, Scope.Kept a b → Scope.Kept b c → Scope.Kept a c
  | [], [], [], _, _ => trivial
  | _ :: _, _ :: _, _ :: _, ⟨⟨n, f⟩, h⟩, ⟨⟨n', f'⟩, h'⟩ =>
    ⟨⟨n'.trans n, f'.trans f⟩, Kept.trans h h'⟩

/-- Scopes that agree have the same number of entries. -/
theorem Kept.length_eq : ∀ {a b : Scope}, Scope.Kept a b → a.length = b.length
  | [], [], _ => rfl
  | _ :: _, _ :: _, ⟨_, h⟩ => congrArg (· + 1) (Kept.length_eq h)

/-- A scope that agrees with two parts splits into parts that agree with them. -/
theorem Kept.split : ∀ {a b c : Scope}, Scope.Kept (a ++ b) c →
    ∃ c₁ c₂, c = c₁ ++ c₂ ∧ Scope.Kept b c₂
  | [], _, c, h => ⟨[], c, rfl, h⟩
  | _ :: a, _, x :: _, ⟨_, h⟩ => by
    obtain ⟨c₁, c₂, rfl, k⟩ := Kept.split (a := a) h
    exact ⟨x :: c₁, c₂, rfl, k⟩

theorem Extends.refl (s : Scope) : s.Extends s := ⟨[], s, rfl, Kept.refl s⟩

theorem Extends.trans {a b c : Scope} (h : a.Extends b) (h' : b.Extends c) : a.Extends c := by
  obtain ⟨n, k, rfl, hk⟩ := h
  obtain ⟨n', k', rfl, hk'⟩ := h'
  obtain ⟨c₁, c₂, rfl, h₂⟩ := hk'.split
  exact ⟨n' ++ c₁, c₂, by simp, hk.trans h₂⟩

/-- Entries that agree extend each other. -/
theorem Kept.extends {a b : Scope} (h : Scope.Kept a b) : a.Extends b := ⟨[], b, rfl, h⟩

/-- The oldest entries of a scope. -/
def oldest (s : Scope) (count : Nat) : Scope := s.drop (s.length - count)

/-- As many oldest entries of an extension as there were before agree with those. -/
theorem Extends.kept_oldest {a b : Scope} (h : a.Extends b) : Scope.Kept a (b.oldest a.length) := by
  obtain ⟨n, k, rfl, hk⟩ := h
  have hl := hk.length_eq
  have : (n ++ k).oldest a.length = k := by
    unfold oldest
    rw [List.length_append, show n.length + k.length - a.length = n.length by omega,
      List.drop_left]
  -- What lies behind the new entries is as long as the scope was before.
  rw [this]
  exact hk

/-- The newest entry with the name. -/
def find? (s : Scope) (name : String) : Option Entry := List.find? (fun e => e.name = name) s

/-- The scope with the slot of the newest entry of the name changed. -/
def change (name : String) (f : Slot → Slot) : Scope → Scope
  | [] => []
  | e :: rest => if e.name = name then ⟨e.name, f e.slot⟩ :: rest else e :: change name f rest

/-- A change that keeps constants keeps the scope. -/
theorem kept_change (name : String) {f : Slot → Slot} (hf : ∀ s, (f s).fixed? = s.fixed?) :
    ∀ s : Scope, Scope.Kept s (change name f s)
  | [] => trivial
  | e :: rest => by
    unfold change
    split
    · exact ⟨⟨rfl, hf e.slot⟩, Kept.refl rest⟩
    · exact ⟨⟨rfl, rfl⟩, kept_change name hf rest⟩

end Scope

/-! ### Machines and actions -/

/-- The state a script runs in. -/
structure Machine where
  scope : Scope := []
  cells : Array Value := #[]
  /-- What the script has said so far, latest first. -/
  output : List Output := []

/-- Why an evaluation ends before its end. -/
inductive Signal where
  | fault (e : EvalError)
  | breakLoop (value : Value)
  | continueLoop
  | returned (value : Value)
  /-- A loop has not ended within the turns granted to it. -/
  | exhausted

/-- A computation that keeps the scope it starts in. -/
structure Action (α : Type) where
  run : Machine → Except Signal α × Machine
  keeps : ∀ m : Machine, Scope.Extends m.scope (run m).2.scope

namespace Action

variable {α β : Type}

/-- A computation that leaves the scope alone. -/
def still (f : Machine → Except Signal α × Machine) (h : ∀ m, (f m).2.scope = m.scope) :
    Action α :=
  ⟨f, fun m => by rw [h m]; exact Scope.Extends.refl _⟩

/-- The result of a computation that needs no machine. -/
def give (a : α) : Action α := still (fun m => (.ok a, m)) fun _ => rfl

/-- One computation after another; a signal ends both. -/
def andThen (x : Action α) (f : α → Action β) : Action β :=
  ⟨fun m => match x.run m with
    | (.ok a, m') => (f a).run m'
    | (.error s, m') => (.error s, m'),
  fun m => by
    have h := x.keeps m
    cases hx : x.run m with
    | mk r m' =>
      rw [hx] at h
      cases r with
      | ok a => exact h.trans ((f a).keeps m')
      | error s => exact h⟩

instance : Monad Action where
  pure := give
  bind := andThen

/-- Ends the evaluation. -/
def signal (s : Signal) : Action α := still (fun m => (.error s, m)) fun _ => rfl

/-- Ends the evaluation with a fault. -/
def fail (e : EvalError) : Action α := signal (.fault e)

/-- The result of a computation that may fail but needs no machine. -/
def ofExcept (r : Except EvalError α) : Action α :=
  match r with
  | .ok a => pure a
  | .error e => fail e

/-- Says something to the host. -/
def say (o : Output) : Action Unit :=
  still (fun m => (.ok (), { m with output := o :: m.output })) fun _ => rfl

/-! ### Variables -/

/-- The newest variable with the name. -/
def find? (name : String) : Action (Option Entry) :=
  still (fun m => (.ok (m.scope.find? name), m)) fun _ => rfl

/-- The value of a slot. -/
def read (s : Slot) : Action Value :=
  still (fun m => (.ok (match s with
    | .fixed v | .own v => v
    | .shared cell => m.cells[cell]?.getD .unit), m)) fun _ => rfl

/-- Adds a variable. -/
def declare (name : String) (slot : Slot) : Action Unit :=
  ⟨fun m => (.ok (), { m with scope := ⟨name, slot⟩ :: m.scope }),
    fun m => ⟨[⟨name, slot⟩], m.scope, rfl, Scope.Kept.refl _⟩⟩

/-- Gives the newest variable with the name another value. -/
def assign (name : String) (v : Value) : Action Unit := do
  match ← find? name with
  | none => fail (.variableNotFound name)
  | some ⟨_, .fixed _⟩ => fail (.constantModified name)
  | some ⟨_, .shared cell⟩ =>
    still (fun m => (.ok (), { m with cells := m.cells.setIfInBounds cell v })) fun _ => rfl
  | some ⟨_, .own _⟩ =>
    ⟨fun m => (.ok (), { m with scope := m.scope.change name (Slot.store v) }),
      fun m => (Scope.kept_change name (Slot.fixed?_store v) m.scope).extends⟩

/-- What a closure takes along of the newest variable with the name: the value of a constant, or
the cell of a variable, which the variable shares from now on. -/
def capture (name : String) : Action (Value ⊕ Nat) := do
  match ← find? name with
  | none => fail (.variableNotFound name)
  | some ⟨_, .fixed v⟩ => return .inl v
  | some ⟨_, .shared cell⟩ => return .inr cell
  -- From now on the variable and the closure share a cell.
  | some ⟨_, .own v⟩ =>
    ⟨fun m => (.ok (.inr m.cells.size), { m with
        scope := m.scope.change name (Slot.share m.cells.size)
        cells := m.cells.push v }),
      fun m => (Scope.kept_change name (Slot.fixed?_share m.cells.size) m.scope).extends⟩

/-! ### Blocks, frames and handlers -/

/-- Forgets the variables declared inside. -/
def inBlock (x : Action α) : Action α :=
  ⟨fun m => match x.run m with
    | (r, m') => (r, { m' with scope := m'.scope.oldest m.scope.length }),
  fun m => (x.keeps m).kept_oldest.extends⟩

/-- Runs in a scope of its own. However that ends, the scope is given as it was left. -/
def inFrame (scope : Scope) (x : Action α) : Action (Except Signal α × Scope) :=
  still (fun m => match x.run { m with scope := scope } with
    | (r, m') => (.ok (r, m'.scope), { m' with scope := m.scope })) fun _ => rfl

/-- How a computation ends, be it by a signal. -/
def attempt (x : Action α) : Action (Except Signal α) :=
  ⟨fun m => match x.run m with
    | (r, m') => (.ok r, m'),
  fun m => x.keeps m⟩

/-- Ends as a computation has ended. -/
def resume (r : Except Signal α) : Action α :=
  match r with
  | .ok a => pure a
  | .error s => signal s

/-- Continues with the handler when a signal ends the computation. -/
def handle (x : Action α) (handler : Signal → Action α) : Action α :=
  ⟨fun m => match x.run m with
    | (.ok a, m') => (.ok a, m')
    | (.error s, m') => (handler s).run m',
  fun m => by
    have h := x.keeps m
    cases hx : x.run m with
    | mk r m' =>
      rw [hx] at h
      cases r with
      | ok a => exact h
      -- The handler goes on with the scope that the failed computation left.
      | error s => exact h.trans ((handler s).keeps m')⟩

/-! ### Loops -/

/-- What follows a turn of a loop: another one, or the end with a value. -/
inductive Turn where
  | again
  | done (value : Value)

/-- The body of a loop as a turn: `continue` ends the turn, `break` the loop. -/
def asTurn (x : Action Value) : Action Turn :=
  handle (do
    let _ ← x
    return .again) fun s =>
    match s with
    | .continueLoop => pure .again
    | .breakLoop v => pure (.done v)
    | s => signal s

/-- Turns from number `i` on, at most `limit` of them, with the given result after the last. -/
def runTurns (turn : Nat → Action Turn) (atEnd : Except Signal Value) :
    Nat → Nat → Machine → Except Signal Value × Machine
  | 0, _, m => (atEnd, m)
  | limit + 1, i, m =>
    match (turn i).run m with
    | (.ok .again, m') => runTurns turn atEnd limit (i + 1) m'
    | (.ok (.done v), m') => (.ok v, m')
    | (.error s, m') => (.error s, m')

theorem extends_runTurns (turn : Nat → Action Turn) (atEnd : Except Signal Value) :
    ∀ (limit i : Nat) (m : Machine),
      Scope.Extends m.scope (runTurns turn atEnd limit i m).2.scope
  | 0, _, m => Scope.Extends.refl _
  | limit + 1, i, m => by
    have h := (turn i).keeps m
    unfold runTurns
    cases hx : (turn i).run m with
    | mk r m' =>
      rw [hx] at h
      cases r with
      | error s => exact h
      | ok t =>
        cases t with
        | done v => exact h
        -- Only another turn goes on; every other end leaves the scope as the turn left it.
        | again => exact h.trans (extends_runTurns turn atEnd limit (i + 1) m')

/-- The loop: turn after turn, at most `limit` of them. -/
def repeatTurns (limit : Nat) (atEnd : Except Signal Value) (turn : Nat → Action Turn) :
    Action Value :=
  ⟨runTurns turn atEnd limit 0, extends_runTurns turn atEnd limit 0⟩

end Action

end DeskPlan.Script
