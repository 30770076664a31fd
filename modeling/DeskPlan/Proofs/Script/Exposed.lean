import DeskPlan.Proofs.Script.Scope

/-!
# `DeskPlan.Proofs.Script.Exposed`: what scripts see of the host stays as it is

The host exposes the windows once, when a session is made, and the numbers of a monitor whenever
it binds one. All of these are constants of the scope that scripts run in. What scripts declare
comes behind them and may hide them, but the constants themselves stay.

* `extended_after` is the step and `extended_afterAll` the run: calls that spare the scope
  (`Call.Spares`) leave it with newer variables behind, and leave what stays as long as it is.
* `host_constants_kept` puts these together. An init script that compiles does not spare the
  scope: it runs as if no monitor had been bound (`not_forall_mem_of_bind_ne`).
-/

set_option autoImplicit false

namespace DeskPlan.Script

namespace MonitorConstants

variable {E : Engine} {v : MonitorConstants}

/-- The variables of a monitor are constants. -/
theorem constant_of_mem_constants {w : Variable E.Value} (h : w ∈ v.constants E) :
    w.constant = true := by
  obtain ⟨b, -, rfl⟩ := List.mem_map.1 h
  rfl

/-- Each name of a monitor has its own number. -/
theorem find?_reverse_constants {name : String} {n : Int} (h : (name, n) ∈ v.bindings) :
    (v.constants E).reverse.find? (fun w => w.name = name) = some ⟨name, true, E.integer n⟩ := by
  simp only [bindings, List.mem_cons, Prod.mk.injEq, List.not_mem_nil, or_false] at h
  rcases h with ⟨rfl, rfl⟩ | ⟨rfl, rfl⟩ | ⟨rfl, rfl⟩ | ⟨rfl, rfl⟩ | ⟨rfl, rfl⟩ | ⟨rfl, rfl⟩ <;> rfl

end MonitorConstants

/-- A name that nothing newer has is looked up among the older variables. -/
theorem Engine.newest?_of_append {E : Engine} {s : E.Scope} {older newer : List (Variable E.Value)}
    {name : String} (hs : E.vars s = older ++ newer) (h : ∀ v ∈ newer, v.name ≠ name) :
    E.newest? s name = older.reverse.find? fun v => v.name = name := by
  have hnewer : newer.reverse.find? (fun v => decide (v.name = name)) = none := by
    rw [List.find?_eq_none]
    intro v hv hname
    exact h v (List.mem_reverse.1 hv) (of_decide_eq_true hname)
  rw [newest?, hs, List.reverse_append, List.find?_append, hnewer, Option.none_or]

namespace Session

variable {E : Engine}

/-! ### Calls that spare the scope -/

/-- The call takes nothing from the scope: it is a formula, or an init script that does not
compile. -/
def Call.Spares (E : Engine) : Call → Prop
  | .runInit _ source => ¬ E.Reads source
  | .bind _ => False
  | .evaluate _ _ => True

section
variable (hE : E.Lawful)
include hE

/-- A call that spares the scope extends it, and as many variables stay as before. -/
theorem extended_after {call : Call} (h : call.Spares E) (c : Session E) :
    Extended (E.vars c.scope) (E.vars (c.after call).scope) ∧
      (c.after call).baseLength = c.baseLength := by
  cases call with
  | runInit index source =>
    have hsame : c.after (.runInit index source) = c := (unchanged_of_not_reads h c).1 index
    rw [hsame]
    exact ⟨.refl _, rfl⟩
  | bind v => exact h.elim
  | evaluate what source =>
    obtain ⟨hextended, -, hbase⟩ := extended_evalCoordinate hE c what source
    exact ⟨hextended, hbase⟩

/-- Calls that spare the scope extend it, and as many variables stay as before. -/
theorem extended_afterAll {calls : List Call} (h : ∀ call ∈ calls, call.Spares E) (c : Session E) :
    Extended (E.vars c.scope) (E.vars (c.afterAll calls).scope) ∧
      (c.afterAll calls).baseLength = c.baseLength := by
  induction calls generalizing c with
  | nil => exact ⟨.refl _, rfl⟩
  | cons call rest ih =>
    obtain ⟨hstep, hbase⟩ := extended_after hE (h call List.mem_cons_self) c
    obtain ⟨hrest, hbase'⟩ :=
      ih (fun call' hcall => h call' (List.mem_cons_of_mem call hcall)) (c.after call)
    exact ⟨hstep.trans hrest, hbase'.trans hbase⟩

end

/-- An init script that compiles runs as on the rewound session. -/
theorem runInit_of_rewind_eq {source : String} (h : E.Reads source) {c d : Session E}
    (hrewind : c.rewind = d.rewind) (index : Nat) :
    c.runInit index source = d.runInit index source := by
  obtain ⟨p, hp⟩ := read_of_reads h (initName index)
  simp only [runInit, hp, hrewind]

/-! ### The main statement -/

/-- Unless a newer variable has the name of the windows, the name finds the constant. -/
theorem Orderly.newest?_windows {value : E.Value} {c : Session E} (h : Orderly value c)
    (hnewer : ∀ w ∈ (E.vars c.scope).tail, w.name ≠ windowsName) :
    E.newest? c.scope windowsName = some ⟨windowsName, true, value⟩ := by
  have hvars : E.vars c.scope = [⟨windowsName, true, value⟩] ++ (E.vars c.scope).tail :=
    List.eq_cons_of_mem_head? h.oldest
  rw [Engine.newest?_of_append hvars hnewer]
  rfl

section
variable (hE : E.Lawful) {value : E.Value} {c : Session E}
include hE

/-- After a binding, calls that spare the scope leave the constants of the monitor where they are,
between the variables that stay and what has been declared since. -/
theorem Orderly.vars_after_bind (h : Orderly value c) (v : MonitorConstants)
    {later : List Call} (hlater : ∀ call ∈ later, call.Spares E) :
    ∃ kept newer, E.vars ((c.bind v).afterAll later).scope = kept ++ v.constants E ++ newer ∧
      AllKept c.persistent kept ∧ ((c.bind v).afterAll later).persistent = kept := by
  obtain ⟨⟨all, newer, hvars, hall⟩, hbase⟩ := extended_afterAll hE hlater (c.bind v)
  rw [vars_bind hE] at hall
  -- What has been kept splits into what stays and the constants of the monitor.
  obtain ⟨kept, hkept, rfl⟩ : ∃ kept, AllKept c.persistent kept ∧ all = kept ++ v.constants E := by
    have htake := List.forall₂_take c.persistent.length hall
    have hdrop := List.forall₂_drop c.persistent.length hall
    rw [List.take_left] at htake
    rw [List.drop_left] at hdrop
    have hconstants := AllKept.eq_of_constants hdrop
      fun _ => MonitorConstants.constant_of_mem_constants
    exact ⟨_, htake, by rw [← hconstants, List.take_append_drop]⟩
  have hlength : kept.length = (c.bind v).baseLength :=
    hkept.length_eq.symm.trans (length_persistent hE h.le_length)
  refine ⟨kept, newer, hvars, hkept, ?_⟩
  rw [persistent, hbase, hvars, List.append_assoc, ← hlength, List.take_left]

end

/-- Take a session with the windows, in a language that is lawful. After any history of init
scripts, bindings and formulas, successful or not:

* the constant with the snapshot of the windows is the oldest variable of the scope, with the value
  that it was made with, and its name finds it unless a newer variable hides it;
* when a monitor is bound and then come formulas and init scripts that do not compile, in any
  order, the six constants of the monitor lie in the scope as they were bound. What has come behind
  them may hide a name, else its name finds the constant. In front of them lie the variables that
  stay, which may have got other values;
* an init script that compiles, or the next binding, starts from the variables that stay, without
  the six constants and whatever was behind them. -/
theorem host_constants_kept (hE : E.Lawful) {windows : List Window} {start : Session E}
    (hstart : Session.new windows = .ok start) (calls : List Call) :
    let c := start.afterAll calls
    (∃ value, E.windows windows = .ok value ∧
      (E.vars c.scope).head? = some ⟨windowsName, true, value⟩ ∧
      ((∀ w ∈ (E.vars c.scope).tail, w.name ≠ windowsName) →
        E.newest? c.scope windowsName = some ⟨windowsName, true, value⟩)) ∧
    ∀ (v : MonitorConstants) (later : List Call), (∀ call ∈ later, call.Spares E) →
      let c' := (c.bind v).afterAll later
      ∃ kept newer, E.vars c'.scope = kept ++ v.constants E ++ newer ∧ AllKept c.persistent kept ∧
        (∀ name n, (name, n) ∈ v.bindings → (∀ w ∈ newer, w.name ≠ name) →
          E.newest? c'.scope name = some ⟨name, true, E.integer n⟩) ∧
        E.vars c'.rewind.scope = kept ∧
        (∀ index source, E.Reads source → ∀ d : Session E, d.rewind = c'.rewind →
          c'.runInit index source = d.runInit index source) ∧
        ∀ next : MonitorConstants, E.vars (c'.bind next).scope = kept ++ next.constants E := by
  intro c
  obtain ⟨value, hvalue, hnew, -⟩ := orderly_new hE hstart
  have horderly : Orderly value c := hnew.afterAll hE calls
  refine ⟨⟨value, hvalue, horderly.oldest, horderly.newest?_windows⟩, ?_⟩
  -- The calls after the binding only extend the scope, so the constants stay between old and new.
  intro v later hlater c'
  obtain ⟨kept, newer, hvars, hkept, hpersistent⟩ := horderly.vars_after_bind hE v hlater
  refine ⟨kept, newer, hvars, hkept, ?_, ?_, ?_, ?_⟩
  · intro name n hname hnewer
    rw [Engine.newest?_of_append hvars hnewer, List.reverse_append, List.find?_append,
      MonitorConstants.find?_reverse_constants hname]
    rfl
  · rw [vars_rewind hE, hpersistent]
  · intro index source hsource d hd
    exact runInit_of_rewind_eq hsource hd.symm index
  · intro next
    rw [vars_bind hE, hpersistent]

/-- An editor with its notes. -/
def notesWindow : Window where
  handle := .of 21
  rect := ⟨.zero, .zero, .of 800, .of 600⟩
  title := "Notes"
  className := "Editor"
  programPath := none
  taskbarAppId := none
  taskbarIndex := none
  taskbarSubIndex := none
  isToolWindow := false

/-- An init script that changes a copy of the windows, one whose method changes the variable it is
called on, and one that fails because it would change the windows themselves. -/
def copyingCalls : List Call :=
  [.runInit 0 "let seen = programWindows; seen[0].windowTitle = \"mine\"; let count = 0;",
    .runInit 1 "fn raise() \x7b this += 1; \x7d count.raise();",
    .runInit 2 "programWindows.push(0);"]

/-- A formula that hides a constant of the monitor, one whose closure takes a constant along, one
whose method would change a constant, an init script that does not compile, and a formula that fails
because it would change a constant. -/
def coveringCalls : List Call :=
  [.evaluate "posX" "let monitorWidth = 5; monitorWidth += count; monitorWidth",
    .evaluate "posY" "let f = || count += monitorHeight; f.call(); count",
    .evaluate "height" "monitorHeight.raise(); 1", .runInit 3 "let x = ;",
    .evaluate "width" "count += 1; monitorHeight = 5; 1"]

/-- A session whose init scripts have changed a copy of the windows. -/
def copied : Context := (Context.new [notesWindow]).afterAll copyingCalls

/-- The session after a common screen has been bound and constants of it have been covered. -/
def covered : Context := (copied.bind commonScreen).afterAll coveringCalls

/-- The windows are the oldest variable after the first calls. After the others the variable that
scripts share has taken all that was added to it, and the width of the monitor is covered. The
height is found as it was bound, and a further init script would see neither. -/
theorem constants_behind_coveringCalls :
    (∀ call ∈ coveringCalls, call.Spares interpreter) ∧ interpreter.Reads "0" ∧
    (interpreter.vars copied.scope).head? =
      some ⟨windowsName, true, windowsValue [notesWindow]⟩ ∧
    (interpreter.newest? covered.scope "count").bind (interpreter.integer? ·.value) = some 1082 ∧
    ("monitorHeight", 1080) ∈ commonScreen.bindings ∧
    ∃ kept newer, interpreter.vars covered.scope =
        kept ++ commonScreen.constants interpreter ++ newer ∧
      newer.map Variable.name = ["monitorWidth", "f"] ∧
      interpreter.newest? covered.scope "monitorHeight" =
        some ⟨"monitorHeight", true, interpreter.integer 1080⟩ ∧
      interpreter.vars covered.rewind.scope = kept ∧
      covered.runInit 4 "0" = covered.rewind.runInit 4 "0" := by
  have hbad : ¬ interpreter.Reads "let x = ;" := by
    rw [interpreter_reads_iff]
    decide +kernel
  have hgood : interpreter.Reads "0" := by
    rw [interpreter_reads_iff]
    decide +kernel
  have hspares : ∀ call ∈ coveringCalls, call.Spares interpreter := by
    intro call hcall
    simp only [coveringCalls, List.mem_cons, List.not_mem_nil, or_false] at hcall
    rcases hcall with rfl | rfl | rfl | rfl | rfl
    · exact trivial
    · exact trivial
    · exact trivial
    · exact hbad
    · exact trivial
  have hbound : ("monitorHeight", 1080) ∈ commonScreen.bindings := by decide
  -- The two sessions are put by name, so that nothing has to be run to recognise them.
  have hmain := host_constants_kept interpreter_lawful (Context.session_new [notesWindow])
    copyingCalls
  simp only [show (Context.new [notesWindow]).afterAll copyingCalls = copied from rfl] at hmain
  obtain ⟨⟨value, hvalue, holdest, -⟩, hbind⟩ := hmain
  have hafter := hbind commonScreen coveringCalls hspares
  simp only [show (copied.bind commonScreen).afterAll coveringCalls = covered from rfl] at hafter
  obtain ⟨kept, newer, hvars, -, hfound, hrewind, hinit, -⟩ := hafter
  obtain ⟨hall, hbase, hcount⟩ : (interpreter.vars covered.scope).map Variable.name =
        [windowsName, "seen", "count"] ++ commonScreen.bindings.map Prod.fst ++
          ["monitorWidth", "f"] ∧ covered.baseLength = 3 ∧
      (interpreter.newest? covered.scope "count").bind (interpreter.integer? ·.value) =
        some 1082 := by decide +kernel
  have hlength : kept.length = 3 := by
    have hvarsLength := congrArg List.length hall
    rw [List.length_map] at hvarsLength
    rw [← hrewind, vars_rewind interpreter_lawful, persistent, List.length_take, hvarsLength, hbase]
    rfl
  have hnames : newer.map Variable.name = ["monitorWidth", "f"] := by
    rw [hvars, List.map_append, List.map_append] at hall
    refine (List.append_inj hall ?_).2
    rw [List.length_append, List.length_map, hlength]
    rfl
  refine ⟨hspares, hgood, ?_, hcount, hbound, kept, newer, hvars, hnames, hfound _ _ hbound ?_,
    hrewind, hinit 4 "0" hgood covered.rewind (Context.rewind_rewind covered)⟩
  · cases hvalue
    exact holdest
  · intro w hw hname
    have hmem := hnames ▸ List.mem_map_of_mem hw
    rw [hname] at hmem
    exact absurd hmem (by decide)

/-- It is not enough that no monitor is bound: an init script that compiles takes the constants of
the monitor away. -/
theorem not_forall_mem_of_bind_ne :
    ¬ ∀ (windows : List Window) (calls later : List Call) (v : MonitorConstants),
      (∀ call ∈ later, ∀ next, call ≠ .bind next) →
        ∀ w ∈ v.constants interpreter, w ∈ interpreter.vars
          ((((Context.new windows).afterAll calls).bind v).afterAll later).scope := by
  intro hkept
  have hnone : ∀ call ∈ [Call.runInit 0 "0"], ∀ next, call ≠ .bind next := by
    intro call hcall next
    cases List.mem_singleton.1 hcall
    exact nofun
  have hbound : (⟨"monitorWidth", true, interpreter.integer 1920⟩ : Variable interpreter.Value) ∈
      commonScreen.constants interpreter := by
    simp [MonitorConstants.constants, MonitorConstants.bindings, commonScreen]
  have hgone : "monitorWidth" ∉ (interpreter.vars
      (((Context.new []).bind commonScreen).afterAll [.runInit 0 "0"]).scope).map
        Variable.name := by
    decide +kernel
  exact hgone (List.mem_map_of_mem (hkept [] [] [.runInit 0 "0"] commonScreen hnone _ hbound))

end Session

end DeskPlan.Script
