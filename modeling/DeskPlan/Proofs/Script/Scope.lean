import DeskPlan.Proofs.Script.Failure
import DeskPlan.Proofs.Script.Interpreter

/-!
# `DeskPlan.Proofs.Script.Scope`: which names the scripts of a run can see

The scope of a run has an older part, which stays from window to window, and a newer part, which
the next binding of a monitor takes away. A `Call` is whatever can be done with the scripts, and
`Session.afterAll` is what a history of calls makes of a session. Scripts may fail, and each may do
whatever the language lets it do. Nothing is used of the language but that it is lawful
(`Engine.Lawful`).

* `Session.legacy` says what a call leaves for good. It runs an init script on the older part
  alone, so nothing that lies behind can be part of it.
* `grown_after` is the step: a call keeps the older part variable by variable (`Variable.Kept`), and
  adds its legacy to it and to the functions (`Session.Grown`).
* `Orderly.afterAll`, `Orderly.declarations_afterAll` and `Orderly.function?_afterAll` are what a
  history leaves: the bounds of the older part with the constant at its beginning, its names, and
  the functions.
* `scope_discipline` puts these together with what a binding makes of the scope. A name that no
  successful init script has declared is gone with the next binding.
-/

set_option autoImplicit false

namespace DeskPlan.Script

/-! ### Variables -/

section
variable {α : Type}

/-- A variable may change its value, but not its name or whether it is a constant, and a constant
changes nothing. -/
def Variable.Kept (before after : Variable α) : Prop :=
  after.declaration = before.declaration ∧ (before.constant = true → after = before)

theorem Variable.Kept.refl (v : Variable α) : v.Kept v := ⟨rfl, fun _ => rfl⟩

theorem Variable.Kept.trans {u v w : Variable α} (h : u.Kept v) (h' : v.Kept w) : u.Kept w := by
  refine ⟨h'.1.trans h.1, fun hu => ?_⟩
  have hv := h.2 hu
  rw [hv] at h'
  exact h'.2 hu

/-- Two lists of variables agree one by one, up to the values of variables. -/
abbrev AllKept : List (Variable α) → List (Variable α) → Prop := List.Forall₂ Variable.Kept

/-- The second list has the variables of the first one, which are kept, and newer ones behind. -/
def Extended (before after : List (Variable α)) : Prop :=
  ∃ kept newer, after = kept ++ newer ∧ AllKept before kept

theorem AllKept.refl (vs : List (Variable α)) : AllKept vs vs :=
  List.forall₂_same.2 fun v _ => .refl v

/-- Variables that agree are declared in the same way. -/
theorem AllKept.declarations_eq {vs ws : List (Variable α)} (h : AllKept vs ws) :
    ws.map Variable.declaration = vs.map Variable.declaration := by
  rw [eq_comm, ← List.forall₂_eq_eq_eq, List.forall₂_map_left_iff, List.forall₂_map_right_iff]
  exact h.imp fun v w hvw => hvw.1.symm

/-- Constants have nothing else to agree with. -/
theorem AllKept.eq_of_constants {vs ws : List (Variable α)} (h : AllKept vs ws)
    (hconstant : ∀ v ∈ vs, v.constant = true) : ws = vs := by
  induction h with
  | nil => rfl
  | @cons v w vs ws hvw _ ih =>
    rw [hvw.2 (hconstant v List.mem_cons_self),
      ih fun u hu => hconstant u (List.mem_cons_of_mem v hu)]

/-- A constant at the beginning is at the beginning of every list that agrees. -/
theorem AllKept.head?_constant {vs ws : List (Variable α)} {v : Variable α} (h : AllKept vs ws)
    (hv : vs.head? = some v) (hconstant : v.constant = true) : ws.head? = some v := by
  cases h with
  | nil => cases hv
  | cons hvw _ =>
    obtain rfl := Option.some.inj hv
    exact congrArg some (hvw.2 hconstant)

namespace Extended

variable {a b c : List (Variable α)}

theorem refl (a : List (Variable α)) : Extended a a := ⟨a, [], (List.append_nil a).symm, .refl a⟩

theorem trans (h : Extended a b) (h' : Extended b c) : Extended a c := by
  obtain ⟨k, n, rfl, hk⟩ := h
  obtain ⟨k', n', rfl, hk'⟩ := h'
  -- What has been kept of both parts splits into what has been kept of each.
  have hfirst : AllKept k (k'.take k.length) := by
    have htake := List.forall₂_take k.length hk'
    rwa [List.take_left] at htake
  refine ⟨k'.take k.length, k'.drop k.length ++ n', ?_, ?_⟩
  · rw [← List.append_assoc, List.take_append_drop]
  · refine List.forall₂_iff_get.2 ⟨hk.length_eq.trans hfirst.length_eq, fun i h₁ h₂ => ?_⟩
    exact (hk.get h₁ (hk.length_eq ▸ h₁)).trans (hfirst.get (hk.length_eq ▸ h₁) h₂)

/-- More at the end is an extension. -/
theorem append (a b : List (Variable α)) : Extended a (a ++ b) := ⟨a, b, rfl, .refl a⟩

theorem length_le (h : Extended a b) : a.length ≤ b.length := by
  obtain ⟨kept, newer, rfl, hkept⟩ := h
  rw [List.length_append, ← hkept.length_eq]
  exact Nat.le_add_right _ _

/-- As many of the first variables of an extension as there were before agree with those. -/
theorem take (h : Extended a b) : AllKept a (b.take a.length) := by
  obtain ⟨kept, newer, rfl, hkept⟩ := h
  rw [hkept.length_eq, List.take_left]
  exact hkept

end Extended

end

namespace Engine

variable {E : Engine}

/-- The newest variable with the name, which is the one that scripts see. -/
def newest? (E : Engine) (s : E.Scope) (name : String) : Option (Variable E.Value) :=
  (E.vars s).reverse.find? fun v => v.name = name

/-- A name under which nothing is declared is not found. -/
theorem newest?_eq_none {s : E.Scope} {name : String}
    (h : name ∉ (E.declarations s).map Prod.fst) : E.newest? s name = none := by
  rw [newest?, List.find?_eq_none]
  intro v hv hname
  refine h (List.mem_map.2 ⟨v.declaration, List.mem_map_of_mem (List.mem_reverse.1 hv), ?_⟩)
  exact of_decide_eq_true hname

/-- A run extends the variables of its scope. -/
theorem Lawful.extended_run (hE : E.Lawful) (p : E.Program) (s : E.Scope) :
    Extended (E.vars s) (E.vars (E.run p s).scope) := by
  obtain ⟨rest, hdeclared⟩ := hE.run_declares p s
  have hlength : (E.vars s).length ≤ (E.vars (E.run p s).scope).length := by
    have h := congrArg List.length hdeclared
    simp only [declarations, List.length_append, List.length_map] at h
    omega
  refine ⟨(E.vars (E.run p s).scope).take (E.vars s).length,
    (E.vars (E.run p s).scope).drop (E.vars s).length, (List.take_append_drop _ _).symm, ?_⟩
  refine List.forall₂_iff_get.2 ⟨by rw [List.length_take]; omega, fun i h₁ h₂ => ?_⟩
  have hi : i < (E.vars (E.run p s).scope).length := Nat.lt_of_lt_of_le h₁ hlength
  have hbefore : (E.vars s)[i]? = some (E.vars s)[i] := List.getElem?_eq_getElem h₁
  rw [List.get_eq_getElem, List.get_eq_getElem, List.getElem_take]
  constructor
  · -- The declarations of the scope are the first ones afterwards.
    have hat := congrArg (fun ds => ds[i]?) hdeclared
    simp only [declarations] at hat
    rw [List.getElem?_append_left (by rw [List.length_map]; exact h₁), List.getElem?_map, hbefore,
      List.getElem?_map, List.getElem?_eq_getElem hi] at hat
    exact (Option.some.inj hat).symm
  · intro hconstant
    have hat := hE.run_spares_constants p s i _ hbefore hconstant
    rw [List.getElem?_eq_getElem hi] at hat
    exact Option.some.inj hat

end Engine

/-- The constants of a monitor. -/
def MonitorConstants.constants (E : Engine) (v : MonitorConstants) : List (Variable E.Value) :=
  v.bindings.map fun b => ⟨b.1, true, E.integer b.2⟩

namespace Session

variable {E : Engine}

/-! ### Calls -/

/-- What can be done with the scripts of a run. -/
inductive Call where
  | runInit (index : Nat) (source : String)
  | bind (v : MonitorConstants)
  | evaluate (what source : String)

/-- The session after a call, whether it succeeds or not. -/
def after (c : Session E) : Call → Session E
  | .runInit index source => (c.runInit index source).2
  | .bind v => c.bind v
  | .evaluate what source => (c.evalCoordinate what source).2

/-- The session after calls, one after the other. -/
def afterAll (c : Session E) (calls : List Call) : Session E := calls.foldl after c

/-- The variables of the scope that stay from window to window. -/
def persistent (c : Session E) : List (Variable E.Value) := (E.vars c.scope).take c.baseLength

/-- What an init script leaves for good: variables and functions. -/
structure Legacy (E : Engine) where
  vars : List (Variable E.Value)
  functions : E.Program

/-- What a call leaves for good: the variables that an init script declares behind those that
stay, and the functions it defines, if its run on those that stay succeeds. No other call leaves
anything. -/
def legacy (c : Session E) : Call → Option (Legacy E)
  | .runInit _ source =>
    match E.compile source with
    | .error _ => none
    | .ok p =>
      match c.rewind.execute p with
      | (.ok _, c') => some ⟨(E.vars c'.scope).drop c.baseLength, E.functionsOnly p⟩
      | (.error _, _) => none
  | .bind _ | .evaluate _ _ => none

/-- What calls leave for good, one after the other. -/
def legacies (c : Session E) : List Call → List (Legacy E)
  | [] => []
  | call :: rest => (c.legacy call).toList ++ (c.after call).legacies rest

/-- What legacies declare, the first one first. -/
def declared (legacies : List (Legacy E)) : List (String × Bool) :=
  legacies.flatMap fun l => l.vars.map Variable.declaration

/-! ### One call -/

/-- From the first session to the second one the variables that stay have been kept in their
order, and the legacy has come to them: its variables behind, its functions merged in. -/
structure Grown (c : Session E) (legacy : Option (Legacy E)) (c' : Session E) : Prop where
  baseLength : c'.baseLength = c.baseLength + (legacy.elim [] Legacy.vars).length
  le_length : c'.baseLength ≤ E.length c'.scope
  persistent : ∃ kept, c'.persistent = kept ++ legacy.elim [] Legacy.vars ∧
    AllKept c.persistent kept
  functions : c'.functions = legacy.elim c.functions fun l => E.merge c.functions l.functions

/-- A script that cannot be read changes nothing. -/
theorem unchanged_of_not_reads {source : String} (h : ¬ E.Reads source) (c : Session E) :
    (∀ index, (c.runInit index source).2 = c) ∧
      ∀ what, (c.evalCoordinate what source).2 = c := by
  constructor
  · intro index
    obtain ⟨message, he⟩ := read_of_not_reads h (initName index)
    rw [runInit, he]
  · intro what
    obtain ⟨message, he⟩ := read_of_not_reads h what
    rw [evalCoordinate, he]

section
variable (hE : E.Lawful)
include hE

theorem vars_pushBindings (s : E.Scope) (v : MonitorConstants) :
    E.vars (pushBindings s v) = E.vars s ++ v.constants E := by
  unfold pushBindings MonitorConstants.constants
  induction v.bindings generalizing s with
  | nil => exact (List.append_nil _).symm
  | cons b rest ih =>
    rw [List.foldl_cons, ih, hE.vars_pushConstant, List.append_assoc]
    rfl

theorem vars_rewind (c : Session E) : E.vars c.rewind.scope = c.persistent :=
  hE.vars_rewind c.scope c.baseLength

/-- A binding leaves the variables that stay with the constants of the monitor behind. -/
theorem vars_bind (c : Session E) (v : MonitorConstants) :
    E.vars (c.bind v).scope = c.persistent ++ v.constants E := by
  rw [← vars_rewind hE]
  exact vars_pushBindings hE _ v

/-- A program extends the scope of the session it is run in, and changes nothing else that
counts. -/
theorem extended_execute (c : Session E) (p : E.Program) :
    Extended (E.vars c.scope) (E.vars (c.execute p).2.scope) ∧
      (c.execute p).2.functions = c.functions ∧ (c.execute p).2.baseLength = c.baseLength :=
  ⟨hE.extended_run _ _, rfl, rfl⟩

/-- A formula extends the scope it is evaluated in, and changes nothing else that counts. -/
theorem extended_evalCoordinate (c : Session E) (what source : String) :
    let c' := (c.evalCoordinate what source).2
    Extended (E.vars c.scope) (E.vars c'.scope) ∧ c'.functions = c.functions ∧
      c'.baseLength = c.baseLength := by
  unfold evalCoordinate
  split
  · exact ⟨.refl _, rfl, rfl⟩
  · rename_i p hread
    have hexecute := extended_execute hE c p
    split <;> rename_i hrun <;> rw [hrun] at hexecute <;> exact hexecute

/-- An init script fails, leaves nothing and extends what stays by what the next binding takes
away, or it succeeds and all that it has extended stays. -/
theorem runInit_cases (c : Session E) (index : Nat) (source : String) :
    (∃ e c', c.runInit index source = (.error e, c') ∧ c.legacy (.runInit index source) = none ∧
      Extended c.persistent (E.vars c'.scope) ∧ c'.functions = c.functions ∧
      c'.baseLength = c.baseLength) ∨
    ∃ c' p, c.runInit index source = (.ok (), c') ∧
      c.legacy (.runInit index source) = some ⟨(E.vars c'.scope).drop c.baseLength, p⟩ ∧
      Extended c.persistent (E.vars c'.scope) ∧ c'.functions = E.merge c.functions p ∧
      c'.baseLength = E.length c'.scope := by
  cases hsource : E.compile source with
  | error message =>
    have hread : read E (initName index) source = .error ⟨initName index, .compile message⟩ := by
      rw [read, hsource]
      rfl
    have hextended : Extended c.persistent (E.vars c.scope) := by
      have happend := Extended.append c.persistent ((E.vars c.scope).drop c.baseLength)
      rwa [persistent, List.take_append_drop] at happend
    exact .inl ⟨⟨initName index, .compile message⟩, c, by simp only [runInit, hread],
      by simp only [legacy, hsource], hextended, rfl, rfl⟩
  | ok p =>
    have hread : read E (initName index) source = .ok p := by
      rw [read, hsource]
      rfl
    obtain ⟨hextended, hfunctions, hbase⟩ := extended_execute hE c.rewind p
    rw [vars_rewind hE] at hextended
    rcases hrun : c.rewind.execute p with ⟨result, c'⟩
    rw [hrun] at hextended hfunctions hbase
    cases result with
    | ok v =>
      refine .inr ⟨{ c' with
        functions := E.merge c'.functions (E.functionsOnly p)
        baseLength := E.length c'.scope }, E.functionsOnly p, by simp only [runInit, hread, hrun],
        by simp only [legacy, hsource, hrun], hextended, ?_, rfl⟩
      exact congrArg (E.merge · (E.functionsOnly p)) hfunctions
    | error message =>
      exact .inl ⟨⟨initName index, .runtime message⟩, c', by simp only [runInit, hread, hrun],
        by simp only [legacy, hsource, hrun], hextended, hfunctions, hbase⟩

/-- An init script leaves something exactly when it succeeds. -/
theorem isSome_legacy_runInit (c : Session E) (index : Nat) (source : String) :
    (c.legacy (.runInit index source)).isSome ↔ (c.runInit index source).1 = .ok () := by
  rcases runInit_cases hE c index source with
      ⟨e, c', hinit, hlegacy, -⟩ | ⟨c', p, hinit, hlegacy, -⟩
  · rw [hinit, hlegacy]
    exact iff_of_false Bool.false_ne_true (nofun)
  · rw [hinit, hlegacy]
    exact iff_of_true rfl rfl

section
variable {c : Session E} (hlength : c.baseLength ≤ E.length c.scope)
include hlength

/-- The variables that stay are as many as their number says. -/
theorem length_persistent : c.persistent.length = c.baseLength := by
  rw [hE.length_eq] at hlength
  rw [persistent, List.length_take]
  omega

/-- Where the variables that stay have been extended and nothing else is different, nothing has
come to them. -/
theorem grown_of_extended {c' : Session E} (h : Extended c.persistent (E.vars c'.scope))
    (hfunctions : c'.functions = c.functions) (hbase : c'.baseLength = c.baseLength) :
    c.Grown none c' where
  baseLength := hbase
  le_length := by
    rw [hbase, ← length_persistent hE hlength, hE.length_eq]
    exact h.length_le
  persistent := by
    refine ⟨c'.persistent, (List.append_nil _).symm, ?_⟩
    show AllKept c.persistent ((E.vars c'.scope).take c'.baseLength)
    rw [hbase, ← length_persistent hE hlength]
    exact h.take
  functions := hfunctions

/-- An init script adds its legacy to what stays. -/
theorem grown_runInit (index : Nat) (source : String) :
    c.Grown (c.legacy (.runInit index source)) (c.runInit index source).2 := by
  rcases runInit_cases hE c index source with
    ⟨e, c', hinit, hlegacy, hextended, hfunctions, hbase⟩ |
    ⟨c', p, hinit, hlegacy, hextended, hfunctions, hbase⟩
  · rw [hinit, hlegacy]
    exact grown_of_extended hE hlength hextended hfunctions hbase
  · have hle := hextended.length_le
    rw [length_persistent hE hlength] at hle
    rw [hinit, hlegacy]
    -- The whole scope stays, which is what was there and what has come.
    refine ⟨?_, Nat.le_of_eq hbase, ⟨(E.vars c'.scope).take c.baseLength, ?_, ?_⟩, hfunctions⟩
    · show c'.baseLength = c.baseLength + ((E.vars c'.scope).drop c.baseLength).length
      rw [hbase, hE.length_eq, List.length_drop]
      omega
    · show c'.persistent = _ ++ (E.vars c'.scope).drop c.baseLength
      rw [List.take_append_drop, persistent, hbase, hE.length_eq, List.take_length]
    · rw [← length_persistent hE hlength]
      exact hextended.take

/-- A call keeps what stays and adds its legacy. -/
theorem grown_after (call : Call) : c.Grown (c.legacy call) (c.after call) := by
  cases call with
  | runInit index source => exact grown_runInit hE hlength index source
  | bind v =>
    refine grown_of_extended hE hlength ?_ rfl rfl
    show Extended c.persistent (E.vars (c.bind v).scope)
    rw [vars_bind hE]
    exact Extended.append _ _
  | evaluate what source =>
    obtain ⟨hextended, hfunctions, hbase⟩ := extended_evalCoordinate hE c what source
    refine grown_of_extended hE hlength (Extended.trans ?_ hextended) hfunctions hbase
    have happend := Extended.append c.persistent ((E.vars c.scope).drop c.baseLength)
    rwa [persistent, List.take_append_drop] at happend

end

end

/-! ### Histories -/

/-- What holds of a session at any time: the part that stays is never empty and lies within the
scope, and the constant with the windows is the oldest variable. -/
structure Orderly (value : E.Value) (c : Session E) : Prop where
  one_le : 1 ≤ c.baseLength
  le_length : c.baseLength ≤ E.length c.scope
  oldest : (E.vars c.scope).head? = some ⟨windowsName, true, value⟩

/-- A session that can be made has run no script: it has the constant with the windows, and no
functions. -/
theorem new_eq_ok_iff {windows : List Window} {c : Session E} :
    Session.new windows = .ok c ↔ ∃ value, E.windows windows = .ok value ∧
      c = { scope := E.pushConstant E.emptyScope windowsName value
            functions := E.emptyProgram
            baseLength := E.length (E.pushConstant E.emptyScope windowsName value) } := by
  unfold Session.new
  cases E.windows windows with
  | error message => simp
  | ok value => simp [eq_comm]

/-- What has been added to an orderly session leaves it orderly. -/
theorem Orderly.of_grown {value : E.Value} {c : Session E} (h : Orderly value c)
    {legacy : Option (Legacy E)} {c' : Session E} (hgrown : c.Grown legacy c') :
    Orderly value c' := by
  obtain ⟨hone, hlength, holdest⟩ := h
  have hone' : 1 ≤ c'.baseLength := by
    rw [hgrown.baseLength]
    omega
  refine ⟨hone', hgrown.le_length, ?_⟩
  obtain ⟨kept, hkept, hagree⟩ := hgrown.persistent
  have hhead : ∀ {k : Session E}, 1 ≤ k.baseLength →
      k.persistent.head? = (E.vars k.scope).head? := by
    intro k hk
    rw [persistent, List.head?_take, if_neg (by omega)]
  have hbefore : c.persistent.head? = some ⟨windowsName, true, value⟩ := (hhead hone).trans holdest
  have hafter := hagree.head?_constant hbefore rfl
  rw [← hhead hone', hkept, List.head?_append, hafter]
  rfl

section
variable (hE : E.Lawful) {value : E.Value} {c : Session E}
include hE

/-- A session is orderly when it is made. -/
theorem orderly_new {windows : List Window} (h : Session.new windows = .ok c) :
    ∃ value, E.windows windows = .ok value ∧ Orderly value c ∧
      c.persistent = [⟨windowsName, true, value⟩] ∧ c.functions = E.emptyProgram := by
  obtain ⟨value, hvalue, rfl⟩ := new_eq_ok_iff.1 h
  have hvars : E.vars (E.pushConstant E.emptyScope windowsName value) =
      [⟨windowsName, true, value⟩] := by
    rw [hE.vars_pushConstant, hE.vars_emptyScope]
    rfl
  have hlength : E.length (E.pushConstant E.emptyScope windowsName value) = 1 := by
    rw [hE.length_eq, hvars]
    rfl
  refine ⟨value, hvalue, ⟨?_, Nat.le_refl _, congrArg List.head? hvars⟩, ?_, rfl⟩
  · exact Nat.le_of_eq hlength.symm
  · rw [persistent, hvars, hlength]
    rfl

/-- Calls leave an orderly session orderly. -/
theorem Orderly.afterAll (h : Orderly value c) (calls : List Call) :
    Orderly value (c.afterAll calls) := by
  induction calls generalizing c with
  | nil => exact h
  | cons call rest ih => exact ih (h.of_grown (grown_after hE h.le_length call))

/-- After calls the names that stay are those that were there and those of the legacies. -/
theorem Orderly.declarations_afterAll (h : Orderly value c) (calls : List Call) :
    (c.afterAll calls).persistent.map Variable.declaration =
      c.persistent.map Variable.declaration ++ declared (c.legacies calls) := by
  induction calls generalizing c with
  | nil => exact (List.append_nil _).symm
  | cons call rest ih =>
    have hgrown := grown_after hE h.le_length call
    obtain ⟨kept, hkept, hagree⟩ := hgrown.persistent
    have hstep : (c.after call).persistent.map Variable.declaration =
        c.persistent.map Variable.declaration ++ declared (c.legacy call).toList := by
      rw [hkept, List.map_append, hagree.declarations_eq]
      cases c.legacy call with
      | none => rfl
      | some l => exact congrArg (_ ++ ·) (List.append_nil _).symm
    show ((c.after call).afterAll rest).persistent.map _ = _
    rw [ih (h.of_grown hgrown), hstep, List.append_assoc]
    simp only [declared, legacies, List.flatMap_append]

/-- After calls a call by name is answered by the last legacy that has a function for it, else by
what was there. -/
theorem Orderly.function?_afterAll (h : Orderly value c) (calls : List Call) (name : String)
    (arity : Nat) : E.function? (c.afterAll calls).functions name arity =
      ((c.legacies calls).reverse.findSome? fun l => E.function? l.functions name arity).or
        (E.function? c.functions name arity) := by
  induction calls generalizing c with
  | nil => rfl
  | cons call rest ih =>
    have hgrown := grown_after hE h.le_length call
    have hstep : E.function? (c.after call).functions name arity =
        ((c.legacy call).toList.reverse.findSome? fun l => E.function? l.functions name arity).or
          (E.function? c.functions name arity) := by
      rw [hgrown.functions]
      cases c.legacy call with
      | none => rfl
      | some l =>
        show E.function? (E.merge c.functions l.functions) name arity = _
        rw [hE.function?_merge, Option.toList_some, List.reverse_singleton,
          List.findSome?_singleton]
    show E.function? ((c.after call).afterAll rest).functions name arity = _
    rw [ih (h.of_grown hgrown), hstep, legacies, List.reverse_append, List.findSome?_append,
      Option.or_assoc]

end

/-! ### The main statement -/

/-- Take a session with the windows, in a language that is lawful. After any history of init
scripts, bindings and formulas, successful or not:

* the part of the scope that stays is not empty and lies within the scope, and the constant with
  the windows is its oldest variable;
* the next call keeps the variables that stay, with their names, their order and what is a constant
  among them, and adds to them and to the functions what a successful init script declares and
  defines. Any other call adds nothing, and a script that does not compile changes nothing at all;
* a call by name is answered by the last successful init script that defines the function;
* a binding leaves the variables that stay with the constants of the monitor behind. The names
  are then the windows, those that successful init scripts have declared, and those of the
  monitor. No other name is found, whoever has declared it. -/
theorem scope_discipline (hE : E.Lawful) {windows : List Window} {start : Session E}
    (hstart : Session.new windows = .ok start) (calls : List Call) :
    let c := start.afterAll calls
    let legacies := start.legacies calls
    (∃ value, E.windows windows = .ok value ∧ Orderly value c) ∧
    (∀ call, c.Grown (c.legacy call) (c.after call)) ∧
    (∀ index source, (c.legacy (.runInit index source)).isSome ↔
      (c.runInit index source).1 = .ok ()) ∧
    (∀ source, ¬ E.Reads source →
      (∀ index, (c.runInit index source).2 = c) ∧
        ∀ what, (c.evalCoordinate what source).2 = c) ∧
    (∀ name arity, E.function? c.functions name arity =
      legacies.reverse.findSome? fun l => E.function? l.functions name arity) ∧
    ∀ v : MonitorConstants,
      E.vars (c.bind v).scope = c.persistent ++ v.constants E ∧
      E.declarations (c.bind v).scope =
        (windowsName, true) :: declared legacies ++ v.bindings.map (fun b => (b.1, true)) ∧
      ∀ name, name ∉ v.bindings.map Prod.fst → name ∉ (declared legacies).map Prod.fst →
        name ≠ windowsName → E.newest? (c.bind v).scope name = none := by
  intro c legacies
  obtain ⟨value, hvalue, hnew, hpersistent, hfunctions⟩ := orderly_new hE hstart
  have horderly : Orderly value c := hnew.afterAll hE calls
  refine ⟨⟨value, hvalue, horderly⟩, fun call => grown_after hE horderly.le_length call,
    isSome_legacy_runInit hE c, fun source h => unchanged_of_not_reads h c, ?_, ?_⟩
  · intro name arity
    have hfind := hnew.function?_afterAll hE calls name arity
    rwa [hfunctions, hE.function?_emptyProgram, Option.or_none] at hfind
  · intro v
    have hvars := vars_bind hE c v
    have hdeclarations : E.declarations (c.bind v).scope =
        (windowsName, true) :: declared legacies ++ v.bindings.map (fun b => (b.1, true)) := by
      have hstay := hnew.declarations_afterAll hE calls
      rw [hpersistent] at hstay
      rw [Engine.declarations, hvars, List.map_append, hstay, MonitorConstants.constants,
        List.map_map]
      rfl
    refine ⟨hvars, hdeclarations, ?_⟩
    intro name hmonitor hdeclared hwindows
    apply Engine.newest?_eq_none
    rw [hdeclarations]
    simp only [List.map_append, List.map_map, List.mem_append, List.map_cons, List.mem_cons, not_or]
    exact ⟨⟨hwindows, hdeclared⟩, hmonitor⟩

/-- The numbers of a common screen. -/
def commonScreen : MonitorConstants := ⟨96, 96, 1920, 1080, 1920, 1040⟩

/-- An init script, a formula that declares a variable, and an init script that fails after it has
declared one. -/
def gapCalls : List Call :=
  [.runInit 0 "let gap = 8; fn third(total) \x7b total / 3 \x7d", .bind commonScreen,
    .evaluate "posX" "let half = monitorWidth / 2; half - gap",
    .runInit 1 "let margin = gap; throw margin;"]

/-- Of the calls only the first one leaves something. The variables of the formula and of the
failed script are gone with the next binding, and a script that does not compile changes
nothing. -/
theorem scope_after_gapCalls :
    ¬ interpreter.Reads "let x = ;" ∧
    (((Context.new []).afterAll gapCalls).runInit 2 "let x = ;").2 =
      (Context.new []).afterAll gapCalls ∧
    declared ((Context.new []).legacies gapCalls) = [("gap", false)] ∧
    interpreter.newest? (((Context.new []).afterAll gapCalls).bind commonScreen).scope "half" =
      none ∧
    interpreter.newest? (((Context.new []).afterAll gapCalls).bind commonScreen).scope "margin" =
      none := by
  have hbad : ¬ interpreter.Reads "let x = ;" := by
    rw [interpreter_reads_iff]
    decide +kernel
  have hdeclared : declared ((Context.new []).legacies gapCalls) = [("gap", false)] := by
    decide +kernel
  obtain ⟨-, -, -, hunchanged, -, hbind⟩ :=
    scope_discipline interpreter_lawful (Context.session_new []) gapCalls
  obtain ⟨-, -, hgone⟩ := hbind commonScreen
  rw [hdeclared] at hgone
  refine ⟨hbad, (hunchanged _ hbad).1 2, hdeclared, ?_, ?_⟩
  · exact hgone "half" (by decide +kernel) (by decide +kernel) (by decide +kernel)
  · exact hgone "margin" (by decide +kernel) (by decide +kernel) (by decide +kernel)

end Session

end DeskPlan.Script
