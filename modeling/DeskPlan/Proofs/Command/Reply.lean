import DeskPlan.Command.Run

/-!
# `DeskPlan.Proofs.Command.Reply`: from the work of a command to what is heard

A command notes things on its way and ends with a result. A note that tells an extent cannot be
shown where the extent is out of range, and then the command is stopped. Whether the note is shown
at all is decided by the filter of the run, so what is heard of a command depends on the filter.

* `Work.Shown`: everything that the work has noted is heard under a filter. It passes from the parts
  of a command to the command (`Shown.bind`), and a part that is not heard silences what follows
  (`Shown.of_bind`);
* `Work.exitUnder`: the exit status that is heard, with an equation for work that is not heard
  (`exitUnder_of_hidden`) and for each way in which a first part that is heard can end
  (`exitUnder_bind_of_ok`, `exitUnder_bind_of_error`);
* `heard_of_shown`, `heard_of_hidden`: what is heard of a whole run, and `exit_of_answered`: its
  exit status.
-/

set_option autoImplicit false

namespace DeskPlan.Command

/-! ### Notes -/

/-- All of the notes are heard under the filter. -/
def AllShown (filter : LogFilter) (notes : List Note) : Prop :=
  ∀ n ∈ notes, (n.shown? filter).isSome

section
variable {filter : LogFilter} {notes more : List Note}

theorem allShown_append :
    AllShown filter (notes ++ more) ↔ AllShown filter notes ∧ AllShown filter more :=
  List.forall_mem_append

theorem allShown_texts {α : Type} (text : α → String) (xs : List α) :
    AllShown filter (xs.map fun x => .text (text x)) :=
  List.forall_mem_map.2 fun _ _ => rfl

theorem Note.shown?_event_isSome_iff {e : Event} :
    ((Note.event e).shown? filter).isSome ↔ (filter.shows e → e.line?.isSome) := by
  unfold shown?
  cases h : filter.shows e <;> simp [h]

/-- Events whose texts are all there can be shown under every filter. -/
theorem allShown_events {events : List Event} (h : ∀ e ∈ events, e.line?.isSome) :
    AllShown filter (events.map .event) :=
  List.forall_mem_map.2 fun e he => Note.shown?_event_isSome_iff.2 fun _ => h e he

theorem Reply.heard_eq {r : Reply} (h : AllShown filter r.notes) : r.heard filter = r :=
  if_pos (List.all_eq_true.2 h)

/-- A reply with a note that cannot be shown is stopped, and nothing has been written. -/
theorem Reply.heard_of_not {r : Reply} (h : ¬ AllShown filter r.notes) :
    (r.heard filter).exit = .stopped ∧ (r.heard filter).output = "" := by
  unfold heard
  rw [if_neg fun hall => h (List.all_eq_true.1 hall)]
  exact ⟨rfl, rfl⟩

end

/-! ### Work -/

namespace Work

variable {α β : Type} {filter : LogFilter}

/-- Work goes on with what its first part results in. -/
theorem bind_of_ok {w : Work α} {a : α} (h : w.result = .ok a) (f : α → Work β) :
    w >>= f = ⟨w.notes ++ (f a).notes, (f a).result⟩ := by
  show w.andThen f = _
  rw [andThen, h]

/-- Work ends where its first part is interrupted. -/
theorem bind_of_error {w : Work α} {i : Interruption} (h : w.result = .error i)
    (f : α → Work β) : w >>= f = ⟨w.notes, .error i⟩ := by
  show w.andThen f = _
  rw [andThen, h]

theorem result_bind_ok {w : Work α} {a : α} (h : w.result = .ok a) (f : α → Work β) :
    (w >>= f).result = (f a).result := by
  rw [bind_of_ok h]

theorem result_bind_error {w : Work α} {i : Interruption} (h : w.result = .error i)
    (f : α → Work β) : (w >>= f).result = .error i := by
  rw [bind_of_error h]

/-- What is noted by the whole is noted by a part that is come to. -/
theorem mem_notes_bind {w : Work α} {f : α → Work β} {n : Note} (h : n ∈ (w >>= f).notes) :
    n ∈ w.notes ∨ ∃ a, w.result = .ok a ∧ n ∈ (f a).notes := by
  cases hresult : w.result with
  | error i =>
    rw [bind_of_error hresult] at h
    exact .inl h
  | ok a =>
    rw [bind_of_ok hresult] at h
    exact (List.mem_append.1 h).imp_right fun hf => ⟨a, rfl, hf⟩

/-- Everything that the work has noted is heard. -/
def Shown (filter : LogFilter) (w : Work α) : Prop := AllShown filter w.notes

theorem shown_of_notes_eq_nil {w : Work α} (h : w.notes = []) : w.Shown filter := by
  unfold Shown
  rw [h]
  exact List.forall_mem_nil _

theorem shown_tell {events : List Event} (h : ∀ e ∈ events, e.line?.isSome) :
    (tell events).Shown filter :=
  allShown_events h

theorem shown_ofExcept {ε : Type} (failure : ε → Failure) (step : Except ε α) :
    (ofExcept failure step).Shown filter :=
  shown_of_notes_eq_nil (by cases step <;> rfl)

theorem shown_ofChecked (step : Checked α) : (ofChecked step).Shown filter :=
  shown_of_notes_eq_nil (by cases step <;> rfl)

/-- What is heard of the parts is heard of the whole. -/
theorem Shown.bind {w : Work α} {f : α → Work β} (h : w.Shown filter)
    (hf : ∀ a, w.result = .ok a → (f a).Shown filter) : (w >>= f).Shown filter := by
  unfold Shown
  cases hresult : w.result with
  | error i => rw [bind_of_error hresult]; exact h
  | ok a => rw [bind_of_ok hresult]; exact allShown_append.2 ⟨h, hf a hresult⟩

/-- What is heard of the whole is heard of its first part. -/
theorem Shown.of_bind {w : Work α} {f : α → Work β} (h : (w >>= f).Shown filter) :
    w.Shown filter := by
  unfold Shown at h
  cases hresult : w.result with
  | error i => rw [bind_of_error hresult] at h; exact h
  | ok a => rw [bind_of_ok hresult] at h; exact (allShown_append.1 h).1

/-- What is heard of the whole is heard of what its first part leads to. -/
theorem Shown.of_bind_ok {w : Work α} {f : α → Work β} {a : α} (h : (w >>= f).Shown filter)
    (ha : w.result = .ok a) : (f a).Shown filter := by
  unfold Shown at h
  rw [bind_of_ok ha] at h
  exact (allShown_append.1 h).2

end Work

/-! ### The exit status -/

/-- The exit status of a command that is interrupted. -/
def Interruption.exit : Interruption → Exit
  | .failure f => f.exit
  | .stop => .stopped

instance (filter : LogFilter) (notes : List Note) : Decidable (AllShown filter notes) :=
  inferInstanceAs (Decidable (∀ n ∈ notes, _))

namespace Work

variable {α : Type} {filter : LogFilter}

instance (w : Work α) : Decidable (w.Shown filter) :=
  inferInstanceAs (Decidable (AllShown filter w.notes))

/-- The exit status that a result ends a command with. -/
def exitOf : Except Interruption (Exit × String) → Exit
  | .ok (exit, _) => exit
  | .error i => i.exit

/-- The exit status that is heard of a command. -/
def exitUnder (filter : LogFilter) (w : Work (Exit × String)) : Exit :=
  if w.Shown filter then exitOf w.result else .stopped

theorem exitUnder_of_shown {w : Work (Exit × String)} (h : w.Shown filter) :
    w.exitUnder filter = exitOf w.result :=
  if_pos h

theorem exitUnder_of_hidden {w : Work (Exit × String)} (h : ¬ w.Shown filter) :
    w.exitUnder filter = .stopped :=
  if_neg h

theorem exitUnder_bind_of_ok {w : Work α} {a : α} (hshown : w.Shown filter) (h : w.result = .ok a)
    (f : α → Work (Exit × String)) : (w >>= f).exitUnder filter = (f a).exitUnder filter := by
  -- The first part is heard, so it depends on the rest whether the whole is.
  have hiff : (w >>= f).Shown filter ↔ (f a).Shown filter := by
    unfold Shown at hshown ⊢
    rw [bind_of_ok h, allShown_append, and_iff_right hshown]
  unfold exitUnder
  rw [result_bind_ok h]
  simp only [hiff]

theorem exitUnder_bind_of_error {w : Work α} {i : Interruption} (hshown : w.Shown filter)
    (h : w.result = .error i) (f : α → Work (Exit × String)) :
    (w >>= f).exitUnder filter = i.exit := by
  have hwhole : (w >>= f).Shown filter :=
    hshown.bind fun a ha => nomatch h.symm.trans ha
  rw [exitUnder_of_shown hwhole, result_bind_error h]
  rfl

/-- Whatever the form of the answer, its exit status is that of the work. -/
theorem exit_reply (w : Work (Exit × String)) (form : OutputForm) :
    (w.reply form).exit = exitOf w.result := by
  unfold reply
  cases w.result with
  | ok r => rfl
  | error i =>
    cases i with
    | failure f => by_cases h : form = .json <;> simp [h, exitOf, Interruption.exit]
    | stop => rfl

/-- The text of a failure is heard in any case. -/
theorem allShown_reply_iff (w : Work (Exit × String)) (form : OutputForm) :
    AllShown filter (w.reply form).notes ↔ w.Shown filter := by
  have htext : ∀ s : String, AllShown filter [.text s] := fun s => allShown_texts id [s]
  unfold reply Shown
  split
  · rfl
  · split
    · rfl
    · rw [allShown_append, and_iff_left (htext _)]
  · rfl

end Work

/-! ### Runs -/

section
variable {r : Request} {s : Surroundings}

/-- What a request is answered, whatever is heard of it. -/
def answered (r : Request) (s : Surroundings) : Reply :=
  (answer r s (loadSettings r s).2 (loadSettings r s).1).1

theorem files_run (h : Request.read s.arguments = .ok r) :
    (run s).files = (answer r s (loadSettings r s).2 (loadSettings r s).1).2 := by
  rw [run, h]
  rfl

/-- A run is heard with what its filter complains about first. -/
theorem reply_run (h : Request.read s.arguments = .ok r) :
    ∃ complaints : List String, (run s).reply =
      ({ answered r s with notes := complaints.map .text ++ (answered r s).notes } : Reply).heard
        (run s).filter := by
  refine ⟨(LogFilter.complaints (filterText r s (loadSettings r s).1)).map asLine, ?_⟩
  have hrun : run s = perform r s := by rw [run, h]
  simp only [hrun, perform, answered, List.map_map, Function.comp_def]

/-- The answer is heard when all that is noted can be shown. -/
theorem heard_of_shown (h : Request.read s.arguments = .ok r)
    (hshown : AllShown (run s).filter (answered r s).notes) :
    (run s).reply.exit = (answered r s).exit ∧ (run s).reply.output = (answered r s).output := by
  obtain ⟨complaints, hreply⟩ := reply_run h
  rw [hreply, Reply.heard_eq (allShown_append.2 ⟨allShown_texts id complaints, hshown⟩)]
  exact ⟨rfl, rfl⟩

/-- Otherwise the run is stopped, and nothing is written. -/
theorem heard_of_hidden (h : Request.read s.arguments = .ok r)
    (hhidden : ¬ AllShown (run s).filter (answered r s).notes) :
    (run s).reply.exit = .stopped ∧ (run s).reply.output = "" := by
  obtain ⟨complaints, hreply⟩ := reply_run h
  rw [hreply]
  exact Reply.heard_of_not fun hall => hhidden (allShown_append.1 hall).2

/-- A run whose answer is made by work ends as is heard of the work. -/
theorem exit_of_answered (h : Request.read s.arguments = .ok r) {w : Work (Exit × String)}
    {form : OutputForm} (hanswered : answered r s = w.reply form) :
    (run s).reply.exit = w.exitUnder (run s).filter := by
  have hshown_iff : AllShown (run s).filter (answered r s).notes ↔ w.Shown (run s).filter := by
    rw [hanswered]
    exact w.allShown_reply_iff form
  by_cases hshown : w.Shown (run s).filter
  · rw [Work.exitUnder_of_shown hshown, ← w.exit_reply form, ← hanswered]
    exact (heard_of_shown h (hshown_iff.2 hshown)).1
  · rw [Work.exitUnder_of_hidden hshown]
    exact (heard_of_hidden h fun hall => hshown (hshown_iff.1 hall)).1

end

end DeskPlan.Command
