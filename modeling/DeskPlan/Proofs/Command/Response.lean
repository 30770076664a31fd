import DeskPlan.Proofs.Apply.Reach
import DeskPlan.Proofs.Command.Agreement
import DeskPlan.Proofs.Document
import DeskPlan.Proofs.Json.Line

/-!
# `DeskPlan.Proofs.Command.Response`: answers for machines

A command that is asked for JSON writes one line, and the line is read as a JSON-RPC response
(`ResponseFor`). The response and the exit status tell the same: an error has the number of the
exit status, which is not that of success, and with a result the exit status is that of success,
unless the result itself says that something is not in order (`ResultCode`).

A command has many ways to end, and most are failures of one of its parts. `Work.Ends` says of work
that all it notes is heard, that it does not fail with success, and what holds of its result; and
under which condition it may be stopped instead. It passes from the parts of a command to the
command (`Ends.bind`), so that a command is followed through its parts, each with one lemma.

`response_of_json` puts the commands together. A command that is stopped writes nothing, and it is
stopped only on a desktop on which something that is measured is out of range
(`Workspace.OutOfReach`).
-/

set_option autoImplicit false

namespace DeskPlan

/-! ### What a response is -/

/-- The value of a field of an object. -/
def Json.field? (key : String) : Json → Option Json
  | .obj fields => fields.lookup key
  | _ => none

namespace Command

/-- Whether a result says that an item of it is valid. -/
def saysValid (item : Json) : Bool :=
  match item.field? "valid" with
  | some (.bool valid) => valid
  | _ => false

/-- The result goes with the number of the exit status. A file with problems and monitors that fit
no blueprint are results, too, but no success. -/
def ResultCode (result : Json) (code : Nat) : Action → Prop
  | .verify _ => ∃ errors, result.field? "errors" = some (.list errors) ∧
      code = if errors.isEmpty then 0 else 5
  | .check explicit => ∃ items, result.field? "items" = some (.list items) ∧
      code = if items.any saysValid then 0 else if explicit.isSome then 7 else 8
  | _ => code = 0

/-- The field for the lists that come with an error. Without a list there is no field. -/
def dataField (lists : List (String × List String)) : List (String × Json) :=
  if lists.isEmpty then [] else [("data", .obj (lists.map fun l => (l.1, .strings l.2)))]

/-- The value is a response that goes with the number of the exit status: beside the version and
the absent request it has either a result or an error. -/
inductive ResponseFor (action : Action) (code : Nat) : Json → Prop where
  | result {result : Json} (hcode : ResultCode result code action) :
      ResponseFor action code
        (.obj [("jsonrpc", .str "2.0"), ("result", result), ("id", .null)])
  | error {message : String} {lists : List (String × List String)} (hcode : code ≠ 0)
      (hnames : (lists.map Prod.fst).Sublist ["suggestions", "details"])
      (hlists : ∀ l ∈ lists, l.2 ≠ []) :
      ResponseFor action code
        (.obj [("jsonrpc", .str "2.0"),
          ("error", .obj ([("code", .int (-32000 - code)), ("message", .str message)] ++
            dataField lists)),
          ("id", .null)])

/-- A command that works on blueprints and desktops, with what it has been told about the form of
its answer. -/
structure Task where
  names : Bool := false
  format : Option String := none
  work : Workspace → Work (Exit × String)

/-- The task of an action, if it works on blueprints and desktops. -/
def Action.task? : Action → Option Task
  | .apply blueprint dryRun pick => some { work := fun x => x.applyCommand blueprint dryRun pick }
  | .check blueprint => some { work := fun x => x.checkCommand blueprint }
  | .verify blueprint => some { work := fun x => x.verifyCommand blueprint }
  | .list (some resource) names format => some ⟨names, format, fun x => x.listCommand resource⟩
  | _ => none

/-- The form of the answer to a request that works on blueprints and desktops. -/
def Request.form? (r : Request) (terminal : Bool) : Option OutputForm :=
  r.action.task?.map fun t =>
    OutputForm.choose r.quiet t.names t.format r.json r.noJson terminal

/-! ### Errors -/

namespace Failure

/-- The lists of a failure that are not empty, by name. -/
def lists (f : Failure) : List (String × List String) :=
  [("suggestions", f.suggestions), ("details", f.details)].filter fun l => !l.2.isEmpty

theorem toJson_eq (f : Failure) :
    f.toJson = .obj ([("code", .int (-32000 - f.exit.code)), ("message", .str f.message)] ++
      dataField f.lists) := by
  rcases f with ⟨exit, message, suggestions, details⟩
  cases suggestions <;> cases details <;> rfl

theorem plain (f : Failure) : Json.Plain f.toJson := by
  rw [toJson_eq, dataField]
  split <;> simp [-Prod.forall, -Prod.exists]

/-- The error for a failure goes with an exit status other than success. -/
theorem responds {f : Failure} (h : f.exit ≠ .success) (action : Action) :
    ResponseFor action f.exit.code (envelope "error" f.toJson) := by
  -- No other number is that of success.
  have hcode : f.exit.code ≠ 0 := fun hzero => h ((Exit.code_eq_iff f.exit .success).1 hzero)
  have hlists : ∀ l ∈ f.lists, l.2 ≠ [] := by
    intro l hl
    simpa using (List.mem_filter.1 hl).2
  have hnames : (f.lists.map Prod.fst).Sublist ["suggestions", "details"] :=
    List.filter_sublist.map Prod.fst
  rw [toJson_eq]
  exact .error hcode hnames hlists

end Failure

/-! ### Work that ends well -/

namespace Work

variable {α β : Type} {filter : LogFilter} {stops : Prop} {P : α → Prop} {Q : β → Prop}

/-- Unless the work may be stopped, all that it notes is heard and it comes to an end. It does not
fail with success, and what it results in has the property. -/
def Ends (w : Work α) (filter : LogFilter) (stops : Prop) (P : α → Prop) : Prop :=
  (w.Shown filter ∨ stops) ∧
    match w.result with
    | .ok a => P a
    | .error (.failure f) => f.exit ≠ .success
    | .error .stop => stops

theorem ends_done {a : α} (h : P a) : (done a).Ends filter stops P :=
  ⟨.inl (shown_of_notes_eq_nil rfl), h⟩

theorem ends_fail {f : Failure} (h : f.exit ≠ .success) :
    (fail f : Work α).Ends filter stops P :=
  ⟨.inl (shown_of_notes_eq_nil rfl), h⟩

theorem ends_tell {events : List Event} (h : ∀ e ∈ events, e.line?.isSome) :
    (tell events).Ends filter stops fun _ => True :=
  ⟨.inl (shown_tell h), trivial⟩

/-- A step that may fail, if none of its failures is a success. -/
theorem ends_ofExcept {ε : Type} {failure : ε → Failure} (h : ∀ e, (failure e).exit ≠ .success)
    (step : Except ε α) : (ofExcept failure step).Ends filter stops fun a => step = .ok a := by
  cases step with
  | ok a => exact ends_done rfl
  | error e => exact ends_fail (h e)

/-- Arithmetic, if the work may be stopped where it leaves its range. -/
theorem ends_ofChecked {step : Checked α} (h : step = none → stops) :
    (ofChecked step).Ends filter stops fun a => step = some a := by
  cases step with
  | some a => exact ends_done rfl
  | none => exact ⟨.inl (shown_ofChecked none), h rfl⟩

theorem Ends.imp {R : α → Prop} {w : Work α} (h : w.Ends filter stops P) (hPR : ∀ a, P a → R a) :
    w.Ends filter stops R := by
  obtain ⟨hshown, hresult⟩ := h
  refine ⟨hshown, ?_⟩
  split at hresult
  · exact hPR _ hresult
  · exact hresult
  · exact hresult

/-- Work that finds something out ends well, if it may be stopped where there is no answer. -/
theorem Finds.ends {w : Work α} {test : α → Bool} {answer : Checked Bool} (h : w.Finds test answer)
    (hshown : w.Shown filter) (hstops : answer = none → stops) :
    w.Ends filter stops fun _ => True := by
  refine ⟨.inl hshown, ?_⟩
  cases answer with
  | none =>
    rw [h]
    exact hstops rfl
  | some answer =>
    obtain ⟨a, ha, -⟩ := h
    rw [ha]
    trivial

/-- Work goes on with a result that has the property of its first part. -/
theorem Ends.bind {w : Work α} {f : α → Work β} (h : w.Ends filter stops P)
    (hf : ∀ a, P a → (f a).Ends filter stops Q) : (w >>= f).Ends filter stops Q := by
  obtain ⟨hshown, hresult⟩ := h
  split at hresult
  · -- The first part succeeds: the whole is heard when both parts are.
    rename_i a ha
    obtain ⟨hlater, hend⟩ := hf a hresult
    refine ⟨?_, by rw [result_bind_ok ha]; exact hend⟩
    rcases hshown with hshown | hstops
    · refine hlater.imp_left fun hlater => hshown.bind fun b hb => ?_
      cases ha.symm.trans hb
      exact hlater
    · exact .inr hstops
  · -- It fails: nothing follows that could be silenced.
    rename_i f' ha
    have hwhole : w.Shown filter → (w >>= f).Shown filter := fun hshown =>
      hshown.bind fun b hb => nomatch ha.symm.trans hb
    refine ⟨hshown.imp_left hwhole, ?_⟩
    rw [result_bind_error ha]
    exact hresult
  · rename_i ha
    refine ⟨.inr hresult, ?_⟩
    rw [result_bind_error ha]
    exact hresult

end Work

open Work (Ends ends_done ends_fail ends_tell ends_ofExcept ends_ofChecked)

/-- The end of a command is a result for machines that goes with its exit status. -/
def Answers (action : Action) (ending : Exit × String) : Prop :=
  ∃ result, Json.Plain result ∧ ending.2 = resultLine result ∧
    ResultCode result ending.1.code action

/-- Work that ends well is answered by a response, or it is stopped. -/
theorem Work.Ends.responds {action : Action} {filter : LogFilter} {stops : Prop}
    {w : Work (Exit × String)} (h : w.Ends filter stops (Answers action)) :
    (∃ response, Json.LineOf (w.reply .json).output response ∧
      ResponseFor action (w.reply .json).exit.code response) ∨
      stops ∧ (w.reply .json).exit = .stopped ∧ (w.reply .json).output = "" := by
  obtain ⟨-, hresult⟩ := h
  split at hresult <;> rename_i ha <;> unfold reply <;> rw [ha]
  · obtain ⟨result, hplain, hline, hcode⟩ := hresult
    have hresponse : Json.Plain (envelope "result" result) := by simp [envelope, hplain]
    refine .inl ⟨_, ?_, .result hcode⟩
    dsimp only
    rw [hline]
    exact hresponse.lineOf
  · rename_i f
    have hresponse : Json.Plain (envelope "error" f.toJson) := by simp [envelope, f.plain]
    exact .inl ⟨_, hresponse.lineOf, f.responds hresult action⟩
  · exact .inr ⟨hresult, rfl, rfl⟩

/-! ### The documents of the results -/

section
open Json

theorem Applied.plain (a : Applied) : Plain a.toJson := by
  have hplacement : ∀ p : Placement, Plain p.toJson := by
    intro p
    simp [Placement.toJson, p.rect.recovers.plain, p.state.recovers.plain]
  have hverdict : ∀ v : Verdict, ∀ f ∈ v.fields, Plain f.2 := by
    intro v
    cases v with
    | placed rule monitor target =>
      simp [Verdict.fields, target.rect.recovers.plain, target.state.recovers.plain]
    | noMatchingRule => simp [Verdict.fields]
    | patternFailure e => simp [Verdict.fields]
    | skipped rule reason => simp [Verdict.fields, Obstacle.toJson]
  have hwindow : ∀ w : WindowEntry, Plain w.toJson := by
    intro w
    simp only [WindowEntry.toJson, Plain.obj_iff, List.forall_mem_append]
    exact ⟨by simp, hverdict w.outcome⟩
  simp [Applied.toJson, Report.fields, hwindow, hplacement]

theorem MonitorIssue.plain (i : MonitorIssue) : Plain i.toJson := by
  cases i <;> simp [MonitorIssue.toJson]

theorem CheckedFile.plain (c : CheckedFile) : Plain c.toJson := by
  unfold CheckedFile.toJson
  split
  · simp [MonitorIssue.plain, -Prod.forall, -Prod.exists]
  · simp

theorem VerifiedFile.plain (v : VerifiedFile) : Plain v.toJson := by simp [VerifiedFile.toJson]

/-- The item says of the monitors of a file whether they fit. -/
theorem CheckedFile.saysValid_toJson (c : CheckedFile) : saysValid c.toJson = c.fits := by
  rcases c with ⟨path, outcome⟩
  cases outcome <;> rfl

/-- The items of a list are documents. -/
def Listing.Documented (l : Listing) : Prop := ∀ item ∈ l.items, Plain (.obj item)

namespace Listing

theorem documented_ofMonitors? {monitors : List Monitor} {l : Listing}
    (h : ofMonitors? monitors = some l) : l.Documented := by
  have hmonitor : ∀ (m : Monitor) (box : Box), Plain (.obj (monitorFields m box)) := by
    intro m box
    simp [monitorFields, m.workAreaRect.recovers.plain]
  obtain ⟨items, -, h⟩ := Option.bind_eq_some_iff.1 h
  obtain ⟨lines, -, h⟩ := Option.bind_eq_some_iff.1 h
  rw [← Option.some.inj h]
  exact List.forall_mem_map.2 fun i _ => hmonitor i.1 i.2

/-- Monitors are listed exactly when all of them can be measured. -/
theorem ofMonitors?_isSome_iff {monitors : List Monitor} :
    (ofMonitors? monitors).isSome ↔ ∀ m ∈ monitors, m.monitorRect.Measurable := by
  have hbox : ∀ m : Monitor, m.monitorRect.box?.isSome ↔ m.monitorRect.Measurable := fun m => by
    rw [Rect.measurable_iff, Option.isSome_iff_exists]
  have hlines : ∀ m : Monitor, m.monitorRect.Measurable → (monitorLines? m).isSome := by
    intro m hm
    obtain ⟨description, hdescription⟩ :=
      Option.isSome_iff_exists.1 (Monitor.describe?_isSome_iff.2 hm)
    obtain ⟨fingerprint, hfingerprint⟩ := Monitor.exists_fingerprint? hm
    unfold monitorLines?
    rw [hdescription, hfingerprint]
    rfl
  constructor
  · intro h
    obtain ⟨l, hl⟩ := Option.isSome_iff_exists.1 h
    obtain ⟨items, hitems, -⟩ := Option.bind_eq_some_iff.1 hl
    exact fun m hm => (hbox m).1 (Checked.tagged_isSome_iff.1 (Option.isSome_of_mem hitems) m hm)
  · intro h
    obtain ⟨items, hitems⟩ := Option.isSome_iff_exists.1
      (Checked.tagged_isSome_iff.2 fun m hm => (hbox m).2 (h m hm))
    obtain ⟨lines, hlines⟩ := Option.isSome_iff_exists.1
      (Checked.tagged_isSome_iff.2 fun m hm => hlines m (h m hm))
    unfold ofMonitors?
    rw [hitems, hlines]
    rfl

theorem documented_ofWindows (windows : List Window) : (ofWindows windows).Documented := by
  have hwindow : ∀ w : Window, Plain (.obj (windowFields w)) := by
    intro w
    exact Plain.obj_iff.2
      (List.forall_mem_cons.2 ⟨.str w.fileName, Plain.obj_iff.1 w.recovers.plain⟩)
  exact List.forall_mem_map.2 fun w _ => hwindow w

theorem documented_ofFiles (files : List FoundFile) : (ofFiles files).Documented := by
  have hfile : ∀ f : FoundFile, Plain (.obj f.fields) := by
    intro f
    unfold FoundFile.fields
    split <;> simp
  exact List.forall_mem_map.2 fun f _ => hfile f

end Listing

end

/-! ### The commands -/

namespace Workspace

variable (x : Workspace) {filter : LogFilter} {stops : Prop}

/-- Something that is measured on the desktop of the workspace is out of range. -/
def OutOfReach : Prop :=
  ∃ d, Desktop.openAt x.desktopPath x.files = .ok d ∧ ¬ d.InReach

theorem ends_readDesktop :
    x.readDesktop.Ends filter stops fun d => Desktop.openAt x.desktopPath x.files = .ok d := by
  refine ⟨.inl x.shown_readDesktop, ?_⟩
  rw [x.result_readDesktop]
  cases Desktop.openAt x.desktopPath x.files with
  | ok d => rfl
  | error e => exact nofun

theorem ends_load (path : String) : (x.load path).Ends filter stops fun _ => True := by
  refine ⟨.inl (x.shown_load path), ?_⟩
  rw [x.result_load]
  cases Blueprint.load path x.files with
  | ok b => trivial
  | error e => exact nofun

section
variable {d : Desktop} (hopen : Desktop.openAt x.desktopPath x.files = .ok d)
include hopen

/-- Monitors that cannot be measured put the desktop out of reach. -/
theorem outOfReach_of_not_measurable (h : ¬ ∀ m ∈ d.monitors, m.monitorRect.Measurable) :
    x.OutOfReach :=
  ⟨d, hopen, fun hreach => h fun m hm => (hreach.monitors m hm).1⟩

/-- A comparison that comes to no end is one of monitors that cannot be measured. -/
theorem outOfReach_of_fitsFile? {path : String} (h : fitsFile? x.files d.monitors path = none) :
    x.OutOfReach := by
  refine x.outOfReach_of_not_measurable hopen fun hmeasurable => ?_
  unfold fitsFile? at h
  split at h
  · rw [MonitorCheck.of?_of_measurable _ hmeasurable] at h
    cases h
  · cases h

theorem outOfReach_of_anyFits? {paths : List String}
    (h : anyFits? x.files d.monitors paths = none) :
    x.OutOfReach := by
  induction paths with
  | nil => cases h
  | cons path rest ih =>
    cases hfits : fitsFile? x.files d.monitors path with
    | none => exact x.outOfReach_of_fitsFile? hopen hfits
    | some fits =>
      rw [anyFits?, hfits] at h
      exact ih (Option.map_eq_none_iff.1 h)

theorem ends_chooseBlueprint (explicit pick : Option String) :
    (x.chooseBlueprint explicit pick d.monitors).Ends filter x.OutOfReach fun _ => True := by
  refine ⟨.inl (x.shown_chooseBlueprint explicit pick d.monitors), ?_⟩
  have hend := x.chooseBlueprint_end explicit pick d.monitors
  generalize (x.chooseBlueprint explicit pick d.monitors).result = result at hend ⊢
  cases hend with
  | unloadable hload hexit => simp [hexit]
  | uncompared hload hfits => exact x.outOfReach_of_fitsFile? hopen hfits
  | refused hload hfits hexit => simp [hexit]
  | accepted hload hfits hcandidate hc => trivial
  | unsearched hany => exact x.outOfReach_of_anyFits? hopen hany
  | nothing hany hexit => simp [hexit]
  | undecided hany hexit => simp [hexit]
  | found hany hmem hload hcandidate hc => trivial

theorem ends_applyCandidate (c : Candidate) (options : RunOptions) :
    (applyCandidate c d options).Ends filter x.OutOfReach fun _ => True := by
  have hfailure : ∀ e, (runFailure e).exit ≠ .success := by
    intro e
    cases e <;> exact nofun
  have hstops : (apply .recorder c.blueprint d.monitors d.liveWindows options []).1 = none →
      x.OutOfReach := by
    intro hnone
    refine ⟨d, hopen, fun hreach => ?_⟩
    have hsome := hreach.isSome_apply c.blueprint options []
    rw [hnone] at hsome
    cases hsome
  exact (ends_tell (line?_apply _ _ _ _ _ _)).bind fun _ _ => (ends_ofChecked hstops).bind
    fun _ _ => (ends_ofExcept hfailure _).bind fun _ _ => ends_done trivial

theorem ends_monitors :
    (Work.tell (d.monitors.map monitorEvent)).Ends filter x.OutOfReach fun _ => True := by
  refine ⟨?_, trivial⟩
  by_cases hmeasurable : ∀ m ∈ d.monitors, m.monitorRect.Measurable
  · exact .inl (shown_monitors_iff.2 fun m hm _ => hmeasurable m hm)
  · exact .inr (x.outOfReach_of_not_measurable hopen hmeasurable)

theorem ends_checkBlueprints (explicit : Option String) :
    (x.checkBlueprints explicit d.monitors).Ends filter x.OutOfReach fun _ => True := by
  cases explicit with
  | none =>
    exact (x.finds_checkFound d.monitors).ends (x.shown_checkFound d.monitors)
      (x.outOfReach_of_anyFits? hopen)
  | some path =>
    have hstops : ∀ b, CheckedFile.of? path d.monitors b = none → x.OutOfReach := by
      intro b hnone
      refine x.outOfReach_of_not_measurable hopen fun hmeasurable => ?_
      rw [CheckedFile.of?, MonitorCheck.of?_of_measurable _ hmeasurable] at hnone
      cases hnone
    exact (x.ends_load path).bind fun b _ => (ends_ofChecked (hstops b)).bind fun c _ =>
      ends_done trivial

end

theorem ends_applyCommand (hjson : x.form = .json) (explicit : Option String) (dryRun : Bool)
    (pick : Option String) :
    (x.applyCommand explicit dryRun pick).Ends filter x.OutOfReach
      (Answers (.apply explicit dryRun pick)) := by
  have happly : (x.applyBlueprint explicit dryRun pick).Ends filter x.OutOfReach fun _ => True :=
    x.ends_readDesktop.bind fun d hopen => (x.ends_monitors hopen).bind fun _ _ =>
      (x.ends_chooseBlueprint hopen explicit pick).bind fun c _ =>
        (ends_tell (by simp [Event.line?_isSome_iff])).bind fun _ _ =>
          x.ends_applyCandidate hopen c _
  refine happly.bind fun a _ => ?_
  rw [hjson]
  exact ends_done ⟨a.toJson, a.plain, rfl, rfl⟩

/-- Files that were checked are told of as they are. -/
theorem answers_checked (hjson : x.form = .json) (explicit : Option String)
    (cs : List CheckedFile) :
    Answers (.check explicit) (checkExit cs explicit, CheckedFile.output cs x.form) := by
  have hplain : Json.Plain (.obj [("items", .list (cs.map CheckedFile.toJson))]) := by
    simp [CheckedFile.plain]
  have hvalid : (cs.map CheckedFile.toJson).any saysValid = cs.any CheckedFile.fits := by
    rw [List.any_map]
    exact congrArg (List.any cs) (funext CheckedFile.saysValid_toJson)
  have hcode : (checkExit cs explicit).code =
      if cs.any CheckedFile.fits then 0 else if explicit.isSome then 7 else 8 := by
    unfold checkExit
    split
    · rfl
    · split <;> rfl
  refine ⟨_, hplain, ?_, cs.map CheckedFile.toJson, rfl, ?_⟩
  · rw [hjson]
    rfl
  · rw [hvalid]
    exact hcode

theorem ends_checkCommand (hjson : x.form = .json) (explicit : Option String) :
    (x.checkCommand explicit).Ends filter x.OutOfReach (Answers (.check explicit)) :=
  x.ends_readDesktop.bind fun _ hopen => (x.ends_checkBlueprints hopen explicit).bind fun cs _ =>
    ends_done (x.answers_checked hjson explicit cs)

theorem line?_desktopEvents : ∀ e ∈ x.desktopEvents, e.line?.isSome := by
  unfold desktopEvents
  split
  · cases x.desktopPath <;> simp [Desktop.openedEvent, Event.line?_isSome_iff, -Prod.forall]
  · simp [Event.line?_isSome_iff]

/-- Only the monitors of a desktop are measured when a blueprint is verified. -/
theorem outOfReach_of_problems? {b : Blueprint} {threshold : Nat}
    (h : b.problems? (Desktop.openAt x.desktopPath x.files).toOption threshold = none) :
    x.OutOfReach := by
  have hmonitors := Option.map_eq_none_iff.1 h
  cases hopen : Desktop.openAt x.desktopPath x.files with
  | error e =>
    rw [hopen] at hmonitors
    cases hmonitors
  | ok d =>
    refine x.outOfReach_of_not_measurable hopen fun hmeasurable => ?_
    rw [hopen] at hmonitors
    have hof := MonitorCheck.of?_of_measurable b.monitorMatch hmeasurable
    rw [Option.map_eq_none_iff.1 hmonitors] at hof
    cases hof

theorem ends_verifyFile (path : String) :
    (x.verifyFile path).Ends filter x.OutOfReach fun _ => True := by
  have hstops : ∀ problems, Blueprint.fileProblems path
      (Desktop.openAt x.desktopPath x.files).toOption x.settings.fuzzyThreshold.val.toNat x.files =
        .ok problems → problems = none → x.OutOfReach := by
    rintro _ hproblems rfl
    obtain ⟨-, content, b, -, -, hnone⟩ := Blueprint.fileProblems_eq_ok_iff.1 hproblems
    exact x.outOfReach_of_problems? hnone
  exact (ends_tell x.line?_desktopEvents).bind fun _ _ =>
    (ends_ofExcept (fun _ => by exact nofun) _).bind fun problems hproblems =>
      (ends_ofChecked (hstops problems hproblems)).bind fun _ _ => ends_done trivial

theorem ends_verifyCommand (hjson : x.form = .json) (path : String) :
    (x.verifyCommand path).Ends filter x.OutOfReach (Answers (.verify path)) := by
  refine (x.ends_verifyFile path).bind fun v _ =>
    ends_done ⟨v.toJson, v.plain, ?_, v.problems.map .str, rfl, ?_⟩
  · rw [hjson]
    rfl
  · rw [List.isEmpty_map]
    unfold VerifiedFile.isClean
    split <;> rfl

theorem line?_loadEvents (path : String) : ∀ e ∈ x.loadEvents path, e.line?.isSome := by
  unfold loadEvents
  split
  · simpa using line?_loadedEvent _ _
  · exact List.forall_mem_nil _

theorem ends_listCommand (hjson : x.form = .json) (resource : Resource) (names : Bool)
    (format : Option String) :
    (x.listCommand resource).Ends filter x.OutOfReach
      (Answers (.list (some resource) names format)) := by
  have hlisting : (x.listing resource).Ends filter x.OutOfReach Listing.Documented := by
    cases resource with
    | monitors =>
      refine x.ends_readDesktop.bind fun d hopen => ?_
      have hstops : Listing.ofMonitors? d.monitors = none → x.OutOfReach := by
        intro hnone
        refine x.outOfReach_of_not_measurable hopen fun hmeasurable => ?_
        have hsome := Listing.ofMonitors?_isSome_iff.2 hmeasurable
        rw [hnone] at hsome
        cases hsome
      exact (ends_ofChecked hstops).imp fun l hl => Listing.documented_ofMonitors? hl
    | windows =>
      exact x.ends_readDesktop.bind fun d _ =>
        ends_done (Listing.documented_ofWindows d.liveWindows)
    | blueprints =>
      have hevents : ∀ e ∈ x.blueprintPaths.flatMap x.loadEvents, e.line?.isSome := fun e he => by
        obtain ⟨path, -, he⟩ := List.mem_flatMap.1 he
        exact x.line?_loadEvents path e he
      have hfind : x.findBlueprints.Ends filter x.OutOfReach
          fun paths => paths = x.blueprintPaths :=
        ⟨.inl x.shown_findBlueprints, rfl⟩
      exact hfind.bind fun paths hpaths => (ends_tell (hpaths ▸ hevents)).bind fun _ _ =>
        ends_done (Listing.documented_ofFiles _)
  refine hlisting.bind fun l hl =>
    ends_done ⟨.obj [("items", .list (l.items.map .obj))], ?_, ?_, rfl⟩
  · simpa [Listing.Documented, -Prod.forall, -Prod.exists] using hl
  · rw [hjson]
    rfl

end Workspace

namespace Workspace

/-- A list of monitors is stopped exactly when one of them cannot be measured. -/
theorem exitUnder_listMonitors (x : Workspace) {d : Desktop}
    (hopen : Desktop.openAt x.desktopPath x.files = .ok d) (filter : LogFilter) :
    (x.listCommand .monitors).exitUnder filter = .stopped ↔
      ∃ m ∈ d.monitors, ¬ m.monitorRect.Measurable := by
  have hread := x.result_readDesktop
  rw [hopen] at hread
  have hshown : (x.listing .monitors).Shown filter :=
    x.shown_readDesktop.bind fun d _ => Work.shown_ofChecked _
  have hlisting : (x.listing .monitors).result =
      (Work.ofChecked (Listing.ofMonitors? d.monitors)).result := Work.result_bind_ok hread _
  have hmeasurable : (Listing.ofMonitors? d.monitors).isSome ↔
      ∀ m ∈ d.monitors, m.monitorRect.Measurable := Listing.ofMonitors?_isSome_iff
  unfold listCommand
  cases hlist : Listing.ofMonitors? d.monitors with
  | none =>
    rw [hlist] at hlisting hmeasurable
    rw [Work.exitUnder_bind_of_error hshown hlisting]
    refine iff_of_true rfl ?_
    simpa using hmeasurable
  | some l =>
    rw [hlist] at hlisting hmeasurable
    rw [Work.exitUnder_bind_of_ok hshown hlisting,
      Work.exitUnder_of_shown (Work.shown_of_notes_eq_nil rfl)]
    refine iff_of_false nofun ?_
    rintro ⟨m, hm, hnot⟩
    exact hnot (hmeasurable.1 rfl m hm)

end Workspace

/-- A task ends with a result for machines when it is asked for one. -/
theorem Task.ends {action : Action} {t : Task} (h : action.task? = some t) {x : Workspace}
    (hjson : x.form = .json) (filter : LogFilter) :
    (t.work x).Ends filter x.OutOfReach (Answers action) := by
  cases action with
  | apply explicit dryRun pick =>
    cases h
    exact x.ends_applyCommand hjson explicit dryRun pick
  | check explicit =>
    cases h
    exact x.ends_checkCommand hjson explicit
  | verify path =>
    cases h
    exact x.ends_verifyCommand hjson path
  | list resource names format =>
    cases resource with
    | none => cases h
    | some resource =>
      cases h
      exact x.ends_listCommand hjson resource names format
  | settings action => cases h
  | completions shell => cases h

/-! ### A run -/

/-- A task is answered out of a workspace. -/
theorem answer_of_task {r : Request} {t : Task} (h : r.action.task? = some t) (s : Surroundings)
    (files : FileTree) (loaded : Except Settings.FileFault Settings) :
    (answer r s files loaded).1 = withWorkspace r s files loaded t.names t.format t.work := by
  unfold answer
  split <;> rename_i haction <;> rw [haction] at h <;> cases h <;> rfl

/-- What a run does that is asked for JSON: the work of its task, or a failure without settings. -/
theorem exists_work_of_json {s : Surroundings} {r : Request}
    (hjson : r.form? s.outputIsTerminal = some .json) :
    ∃ w : Work (Exit × String), answered r s = w.reply .json ∧
      w.Ends (run s).filter (∃ d, desktop? r s = some d ∧ ¬ d.InReach) (Answers r.action) := by
  obtain ⟨t, htask, hform⟩ := Option.map_eq_some_iff.1 hjson
  have hanswered : answered r s = _ :=
    answer_of_task htask s (loadSettings r s).2 (loadSettings r s).1
  unfold withWorkspace at hanswered
  rw [hform] at hanswered
  cases hloaded : (loadSettings r s).1 with
  | error e =>
    -- Without settings the task is not begun.
    rw [hloaded] at hanswered
    exact ⟨_, hanswered, ends_fail (by exact nofun)⟩
  | ok settings =>
    rw [hloaded] at hanswered
    refine ⟨_, hanswered, ?_⟩
    simp only [desktop?_of_loaded hloaded]
    exact Task.ends htask rfl _

/-- A run that applies, checks, verifies or lists and is asked for JSON, whatever the arguments, the
files, the settings and the desktop are. It writes one line, which is read as a response that goes
with the exit status, or it is stopped and writes nothing; it is only stopped where something that
is measured on the desktop is out of range. A run that lists monitors measures each of them, and is
stopped exactly when one of them cannot be measured. -/
theorem response_of_json {s : Surroundings} {r : Request}
    (hread : Request.read s.arguments = .ok r) (hjson : r.form? s.outputIsTerminal = some .json) :
    ((∃ response, Json.LineOf (run s).reply.output response ∧
        ResponseFor r.action (run s).reply.exit.code response) ∨
      (run s).reply.exit.code = 101 ∧ (run s).reply.output = "" ∧
        ∃ d, desktop? r s = some d ∧ ¬ d.InReach) ∧
    ∀ names format d, r.action = .list (some .monitors) names format → desktop? r s = some d →
      ((run s).reply.exit.code = 101 ↔ ∃ m ∈ d.monitors, ¬ m.monitorRect.Measurable) := by
  obtain ⟨w, hanswered, hends⟩ := exists_work_of_json hjson
  have hshown_iff : AllShown (run s).filter (answered r s).notes ↔ w.Shown (run s).filter := by
    rw [hanswered]
    exact w.allShown_reply_iff .json
  constructor
  · -- The filter of the run decides whether the work is heard to its end.
    by_cases hshown : w.Shown (run s).filter
    · obtain ⟨hexit, houtput⟩ := heard_of_shown hread (hshown_iff.2 hshown)
      rw [hexit, houtput, hanswered]
      refine hends.responds.imp_right ?_
      rintro ⟨hreach, hstopped, hnothing⟩
      exact ⟨congrArg Exit.code hstopped, hnothing, hreach⟩
    · obtain ⟨hexit, houtput⟩ := heard_of_hidden hread fun h => hshown (hshown_iff.1 h)
      exact .inr ⟨congrArg Exit.code hexit, houtput, hends.1.resolve_left hshown⟩
  · intro names format d haction hd
    cases hloaded : (loadSettings r s).1 with
    | error e =>
      rw [desktop?, workspace?, hloaded] at hd
      cases hd
    | ok settings =>
      have htask : r.action.task? = some ⟨names, format, fun x => x.listCommand .monitors⟩ := by
        rw [haction]
        rfl
      have hlist : answered r s = _ :=
        answer_of_task htask s (loadSettings r s).2 (loadSettings r s).1
      unfold withWorkspace at hlist
      rw [hloaded] at hlist
      rw [exit_of_answered hread hlist]
      exact (Exit.code_eq_iff _ .stopped).trans
        (Workspace.exitUnder_listMonitors _ ((desktop?_of_loaded hloaded).1 hd) _)

/-- Nothing is applied where no directory holds a blueprint file, and the response is an error. -/
theorem response_on_sharedFiles :
    ∃ response, Json.LineOf (run (sharedRun ["apply", "--json"])).reply.output response ∧
      ResponseFor (.apply none false none) 8 response := by
  have hexit : (run (sharedRun ["apply", "--json"])).reply.exit.code = 8 := by decide +kernel
  obtain ⟨hresponse | ⟨hstopped, -⟩, -⟩ := response_of_json (s := sharedRun ["apply", "--json"])
    (r := ⟨.apply none false none, none, none, true, false, false, {}⟩) rfl rfl
  · rw [hexit] at hresponse
    exact hresponse
  · rw [hexit] at hstopped
    cases hstopped

/-- A list of monitors with a screen as wide as the whole range of coordinates is stopped, and
nothing is written: there is no response. -/
theorem silence_on_wideScreen :
    Request.read (wideRun ["--json", "list", "monitors"]).arguments =
      .ok ⟨.list (some .monitors) false none, none, none, true, false, false, {}⟩ ∧
    (run (wideRun ["--json", "list", "monitors"])).reply.exit.code = 101 ∧
    (run (wideRun ["--json", "list", "monitors"])).reply.output = "" ∧
    ∀ response, ¬ Json.LineOf (run (wideRun ["--json", "list", "monitors"])).reply.output
      response := by
  have houtput : (run (wideRun ["--json", "list", "monitors"])).reply.output = "" := by
    decide +kernel
  refine ⟨rfl, by decide +kernel, houtput, ?_⟩
  rintro response ⟨line, hline, -⟩
  rw [houtput] at hline
  have hlength := congrArg String.length hline
  have hbreak : "\n".length = 1 := rfl
  rw [String.length_append, hbreak] at hlength
  exact Nat.succ_ne_zero _ hlength.symm

end Command

end DeskPlan
