import DeskPlan.Json.Token
import DeskPlan.Proofs.Command.Agreement

/-!
# `DeskPlan.Proofs.Command.Choosing`: choosing by name

Where several blueprints fit, their names are offered, and a name is a way to choose. But a choice
is more than a name: white space at its ends is passed over, and a number is an index. So a name
that looks like an index or has white space at an end can stand for something else than itself.

* `readWord64_eq_ok_iff` says which texts are indices (`WritesIndex`);
* `choose_name_iff`: a name chooses a blueprint of this name exactly when it is `Unmistakable`;
* `mem_suggestions`, `question_of_chooseBlueprint`: the names that are offered are names of
  blueprints that fit, and these are chosen among, by what is picked (`result_chosen_iff`) or
  answered (`chosen_of_answer`).

`offered_name_chosen_iff` puts these together.
-/

set_option autoImplicit false

namespace DeskPlan

/-! ### Indices -/

/-- The text is an index: digits of an unsigned integer of 64 bits, with or without a plus sign. -/
def WritesIndex (s : String) (n : Nat) : Prop :=
  ∃ digits : List Char, (s.toList = digits ∨ s.toList = '+' :: digits) ∧ digits ≠ [] ∧
    (∀ c ∈ digits, c.isDigit = true) ∧ Json.natOfDigits digits = n ∧ n ≤ 18446744073709551615

/-- Further digits make no number smaller. -/
theorem le_foldl_digits (n : Nat) (cs : List Char) :
    n ≤ cs.foldl (fun n c => n * 10 + Json.digitValue c) n := by
  induction cs generalizing n with
  | nil => exact Nat.le_refl n
  | cons c cs ih =>
    have hstep : n ≤ n * 10 + Json.digitValue c := by omega
    exact Nat.le_trans hstep (ih _)

/-- Digits are read as their number, unless it is too large. -/
theorem readDigits_eq_ok_iff {most : Nat} {excess : IntegerFault} {cs : List Char} {n m : Nat}
    (hn : n ≤ most) : readDigits most excess n cs = .ok m ↔
      (∀ c ∈ cs, c.isDigit = true) ∧
        cs.foldl (fun n c => n * 10 + Json.digitValue c) n = m ∧ m ≤ most := by
  induction cs generalizing n with
  | nil =>
    simp only [readDigits, Except.ok.injEq, List.foldl_nil]
    constructor
    · rintro rfl
      exact ⟨nofun, rfl, hn⟩
    · exact fun h => h.2.1
  | cons c cs ih =>
    have hgrows := le_foldl_digits (n * 10 + Json.digitValue c) cs
    simp only [readDigits, List.forall_mem_cons, List.foldl_cons]
    cases hdigit : c.isDigit with
    | false => simp
    | true =>
      simp only [Bool.not_true, Bool.false_eq_true, if_false, true_and]
      split
      · next hlarge =>
        -- What follows cannot make up for the excess.
        simp only [reduceCtorEq, false_iff]
        rintro ⟨-, rfl, hle⟩
        exact absurd (Nat.le_trans hgrows hle) (Nat.not_le.2 hlarge)
      · next hsmall => exact ih (Nat.not_lt.1 hsmall)

/-- Where no integer is negative, an integer is digits behind a plus sign or none. -/
theorem readInteger_eq_ok_iff {high : Nat} {s : String} {m : Int} :
    readInteger 0 high s = .ok m ↔
      ∃ digits, (s.toList = digits ∨ s.toList = '+' :: digits) ∧ digits ≠ [] ∧
        (readDigits high .tooLarge 0 digits).map (fun n => (n : Int)) = .ok m := by
  have hplus : ∀ rest, readDigits high .tooLarge 0 ('+' :: rest) = .error .badDigit := fun _ => rfl
  have hminus : ∀ rest, readDigits high .tooLarge 0 ('-' :: rest) = .error .badDigit := fun _ => rfl
  unfold readInteger
  dsimp only
  split
  · next h => simp [h]
  · next h => simp [h, hplus, Except.map]
  · next h => simp [h, hminus, Except.map]
  · next rest hrest h =>
    constructor
    · exact fun hrest' => ⟨rest, .inr h, hrest, hrest'⟩
    · rintro ⟨digits, hdigits | hdigits, -, hread⟩
      · rw [← hdigits, h, hplus] at hread
        cases hread
      · cases h.symm.trans hdigits
        exact hread
  · next rest hrest h => simp [h, hminus, Except.map]
  · next hempty _ _ hsigned _ =>
    -- There is no sign.
    constructor
    · exact fun h => ⟨s.toList, .inl rfl, hempty, h⟩
    · rintro ⟨digits, rfl | h, -, hdigits⟩
      · exact hdigits
      · exact absurd h (hsigned digits)

/-- An index is read as its number, and nothing else is read as a number. -/
theorem readWord64_eq_ok_iff {s : String} {w : Word64} :
    readWord64 s = .ok w ↔ WritesIndex s w.val.toNat := by
  have hinteger : readWord64 s = .ok w ↔ readInteger 0 18446744073709551615 s = .ok w.val := by
    unfold readWord64
    cases readInteger 0 18446744073709551615 s with
    | error e => simp
    | ok m =>
      have hword := Ranged.ofInt?_eq_some_iff (n := m) (a := w)
      cases hof : (Ranged.ofInt? m : Option Word64) with
      | none => simp_all
      | some v => simp_all
  have hval : ∀ n : Nat, (n : Int) = w.val ↔ n = w.val.toNat := by
    have hlow : 0 ≤ w.val := w.lo_le
    omega
  rw [hinteger, readInteger_eq_ok_iff, WritesIndex]
  refine exists_congr fun digits => and_congr_right fun _ => and_congr_right fun _ => ?_
  calc (readDigits 18446744073709551615 .tooLarge 0 digits).map (fun n => (n : Int)) = .ok w.val
      ↔ readDigits 18446744073709551615 .tooLarge 0 digits = .ok w.val.toNat := by
        cases readDigits 18446744073709551615 .tooLarge 0 digits <;> simp [Except.map, hval]
    _ ↔ _ := readDigits_eq_ok_iff (Nat.zero_le _)

/-- A text is an index exactly when it is read as its number. -/
theorem writesIndex_iff {s : String} {n : Nat} :
    WritesIndex s n ↔ ∃ w, readWord64 s = .ok w ∧ w.val.toNat = n := by
  constructor
  · intro h
    have hmost : n ≤ 18446744073709551615 := h.choose_spec.2.2.2.2
    have hrange : (n : Int) ≤ 18446744073709551615 := by omega
    exact ⟨⟨n, Int.natCast_nonneg n, hrange⟩, readWord64_eq_ok_iff.2 h, rfl⟩
  · rintro ⟨w, hread, rfl⟩
    exact readWord64_eq_ok_iff.1 hread

/-! ### White space at the ends -/

namespace Text

theorem length_lowerAscii (s : String) : (lowerAscii s).length = s.length := by
  simp [lowerAscii, ← String.length_toList]

/-- A text that keeps its length keeps its ends. -/
theorem trim_of_length {s : String} (h : (trim s).length = s.length) : trim s = s := by
  have hdrop : ∀ t : List Char, (t.dropWhile isBlank).length = t.length → t.dropWhile isBlank = t :=
    fun t => (List.dropWhile_suffix isBlank).eq_of_length
  have hle : ∀ t : List Char, (t.dropWhile isBlank).length ≤ t.length :=
    fun t => (List.dropWhile_suffix isBlank).length_le
  have hchars : (trimChars s.toList).length = s.toList.length := by
    rw [trim, ← String.length_toList, String.toList_ofList, ← String.length_toList] at h
    exact h
  have hfront := hle s.toList
  have hback := hle (s.toList.dropWhile isBlank).reverse
  rw [trimChars, List.length_reverse] at hchars
  rw [List.length_reverse] at hback
  have hkept : s.toList.dropWhile isBlank = s.toList := hdrop s.toList (by omega)
  rw [hkept] at hchars
  rw [trim, trimChars, hkept, hdrop s.toList.reverse (by rw [hchars, List.length_reverse]),
    List.reverse_reverse, String.ofList_toList]

end Text

/-! ### Choosing among candidates -/

namespace Candidate

/-- The name stands for nothing but itself among the candidates: it is no index, unless that of a
candidate of this name, and has no white space at its ends. -/
structure Unmistakable (candidates : List Candidate) (name : String) : Prop where
  index : ∀ n, WritesIndex (Text.trim name) n → ∃ d, candidates[n]? = some d ∧ d.name = name
  ends : (∀ n, ¬ WritesIndex (Text.trim name) n) → Text.trim name = name

theorem choose_of_index {candidates : List Candidate} {choice : String} {w : Word64}
    (h : readWord64 (Text.trim choice) = .ok w) (d : Candidate) :
    choose candidates choice = .ok d ↔ candidates[w.val.toNat]? = some d := by
  unfold choose
  dsimp only
  rw [h]
  dsimp only
  cases candidates[w.val.toNat]? <;> simp

theorem choose_of_name {candidates : List Candidate} {choice : String} {e : IntegerFault}
    (h : readWord64 (Text.trim choice) = .error e) (d : Candidate) :
    choose candidates choice = .ok d ↔ named? candidates (Text.trim choice) = some d := by
  unfold choose
  dsimp only
  rw [h]
  dsimp only
  cases named? candidates (Text.trim choice) <;> simp

/-- A name that chooses itself has no white space at its ends that could be passed over. -/
theorem trim_of_named {candidates : List Candidate} {name : String} {d : Candidate}
    (h : named? candidates (Text.trim name) = some d) (hname : d.name = name) :
    Text.trim name = name := by
  rcases Option.or_eq_some_iff.1 h with hexact | ⟨-, hloose⟩
  · have htrim := List.find?_some hexact
    exact (of_decide_eq_true htrim).symm.trans hname
  · -- Case does not change the length, and white space would.
    have hcase := List.find?_some hloose
    have hlower := of_decide_eq_true hcase
    apply Text.trim_of_length
    rw [← Text.length_lowerAscii, ← hlower, Text.length_lowerAscii, hname]

/-- A candidate is named by its name. -/
theorem named?_self {candidates : List Candidate} {c : Candidate} (hc : c ∈ candidates) :
    ∃ d ∈ candidates, named? candidates c.name = some d ∧ d.name = c.name := by
  have hsome : (candidates.find? fun d => d.name = c.name).isSome :=
    List.find?_isSome.2 ⟨c, hc, decide_eq_true rfl⟩
  obtain ⟨d, hd⟩ := Option.isSome_iff_exists.1 hsome
  have hname := List.find?_some hd
  exact ⟨d, List.mem_of_find?_eq_some hd, by rw [named?, hd]; rfl, of_decide_eq_true hname⟩

/-- The name of a candidate chooses a candidate of this name exactly when it is unmistakable. -/
theorem choose_name_iff {candidates : List Candidate} {c : Candidate} (hc : c ∈ candidates) :
    (∃ d ∈ candidates, choose candidates c.name = .ok d ∧ d.name = c.name) ↔
      Unmistakable candidates c.name := by
  -- A number is never tried as a name, and what is no number never counts as an index.
  cases hread : readWord64 (Text.trim c.name) with
  | ok w =>
    have hindex := readWord64_eq_ok_iff.1 hread
    simp only [choose_of_index hread]
    constructor
    · rintro ⟨d, -, hd, hname⟩
      refine ⟨fun n hn => ⟨d, ?_, hname⟩, fun hnone => absurd hindex (hnone _)⟩
      obtain ⟨v, hv, rfl⟩ := writesIndex_iff.1 hn
      cases hread.symm.trans hv
      exact hd
    · intro h
      obtain ⟨d, hd, hname⟩ := h.index _ hindex
      exact ⟨d, List.mem_of_getElem? hd, hd, hname⟩
  | error e =>
    have hnone : ∀ n, ¬ WritesIndex (Text.trim c.name) n := by
      intro n hn
      obtain ⟨w, hw, -⟩ := writesIndex_iff.1 hn
      cases hread.symm.trans hw
    simp only [choose_of_name hread]
    constructor
    · rintro ⟨d, -, hd, hname⟩
      exact ⟨fun n hn => absurd hn (hnone n), fun _ => trim_of_named hd hname⟩
    · intro h
      rw [h.ends hnone]
      exact named?_self hc

/-- An answer on a line of its own chooses as the option does. -/
theorem answered_line (candidates : List Candidate) {answer : String}
    (hline : '\n' ∉ answer.toList) (rest : String) :
    answered candidates (answer ++ "\n" ++ rest) = choose candidates answer := by
  have hall : ∀ c ∈ answer.toList, decide (c ≠ '\n') = true := by
    intro c hc
    exact decide_eq_true fun hbreak => hline (hbreak ▸ hc)
  have hfirst : firstLine (answer ++ "\n" ++ rest) = answer := by
    rw [firstLine, String.toList_append, String.toList_append, List.append_assoc,
      List.takeWhile_append_of_pos hall]
    simp
  rw [answered, hfirst]

end Candidate

/-! ### Choosing among the blueprints that were found -/

namespace Command

namespace Workspace

open Work (result_bind_ok result_bind_error)

variable (x : Workspace)

/-- What a blueprint that was asked for by its path fails with offers no name. -/
theorem suggestions_explicitCandidate {path : String} {monitors : List Monitor} {f : Failure}
    (hfails : (x.explicitCandidate path monitors).result = .error (.failure f)) :
    f.suggestions = [] := by
  have hload := x.result_load path
  unfold explicitCandidate at hfails
  cases hfile : Blueprint.load path x.files with
  | error e =>
    rw [hfile] at hload
    rw [result_bind_error hload] at hfails
    cases hfails
    rfl
  | ok b =>
    rw [hfile] at hload
    rw [result_bind_ok hload] at hfails
    cases hcandidate : Blueprint.candidate? path b monitors with
    | none =>
      rw [hcandidate] at hfails
      cases hfails
    | some c =>
      rw [hcandidate, result_bind_ok (w := Work.ofChecked (some c)) rfl] at hfails
      split at hfails <;> cases hfails
      rfl

/-- What a choice among candidates fails with offers their names. -/
theorem suggestions_chooseAmong {valid : List Candidate} {pick : Option String} {f : Failure}
    (hfails : (x.chooseAmong valid pick).result = .error (.failure f)) :
    f.suggestions = valid.map Candidate.name := by
  have hpicked : ∀ choice, (picked valid choice).result = .error (.failure f) →
      f.suggestions = valid.map Candidate.name := by
    intro choice h
    cases choice <;> cases h
    rfl
  unfold chooseAmong at hfails
  split at hfails
  · exact hpicked _ hfails
  · cases hfails
  · split at hfails
    · rw [result_bind_ok (w := Work.ask _) rfl] at hfails
      exact hpicked _ hfails
    · cases hfails
      rfl

/-- The names that a failure to choose offers are names of blueprints that fit. -/
theorem mem_suggestions {explicit pick : Option String} {monitors : List Monitor} {f : Failure}
    (hfails : (x.chooseBlueprint explicit pick monitors).result = .error (.failure f))
    {name : String}
    (hname : name ∈ f.suggestions) :
    ∃ valid, x.fitting? monitors = some valid ∧ ∃ c ∈ valid, c.name = name := by
  cases explicit with
  | some path =>
    rw [x.suggestions_explicitCandidate hfails] at hname
    cases hname
  | none =>
    rw [chooseBlueprint] at hfails
    match hfound : x.fitting? monitors with
    | none => cases hfails.symm.trans (x.result_foundCandidate_stop pick hfound)
    | some [] =>
      obtain ⟨g, hg, -, hnothing⟩ := x.result_foundCandidate_nothing pick hfound
      cases hfails.symm.trans hg
      rw [hnothing] at hname
      cases hname
    | some (c :: cs) =>
      rw [x.result_foundCandidate pick hfound (List.cons_ne_nil c cs)] at hfails
      rw [x.suggestions_chooseAmong hfails] at hname
      exact ⟨c :: cs, rfl, List.mem_map.1 hname⟩

/-! ### The question -/

/-- The lines that number names from zero. -/
def numberedLines (names : List String) : String :=
  String.join (names.zipIdx.map fun n => s!"  {n.2}: {n.1}\n")

/-- The question lists the names of the candidates. -/
theorem question_eq (candidates : List Candidate) :
    Candidate.question candidates = "Blueprints available:\n" ++
      numberedLines (candidates.map Candidate.name) ++ "Which would you like to apply? " := by
  have hlines : candidates.zipIdx.map (fun c => s!"  {c.2}: {c.1.name}\n") =
      (candidates.map Candidate.name).zipIdx.map fun n => s!"  {n.2}: {n.1}\n" := by
    rw [List.zipIdx_map, List.map_map]
    exact List.map_congr_left fun _ _ => rfl
  unfold Candidate.question numberedLines
  rw [hlines]

/-- Among candidates the one question asked lists them. -/
theorem question_of_chooseAmong {valid : List Candidate} {pick : Option String} {question : String}
    (h : .question question ∈ (x.chooseAmong valid pick).notes) :
    question = Candidate.question valid := by
  have hpicked : ∀ choice, (picked valid choice).notes = [] := by
    intro choice
    cases choice <;> rfl
  unfold chooseAmong at h
  split at h
  · rw [hpicked] at h
    cases h
  · cases h
  · split at h
    · rcases Work.mem_notes_bind h with h | ⟨_, -, h⟩
      · cases List.mem_singleton.1 h
        rfl
      · rw [hpicked] at h
        cases h
    · cases h

/-- Telling of events asks no question. -/
theorem not_asks_tell (events : List Event) {question : String} :
    .question question ∉ (Work.tell events).notes := by
  intro h
  obtain ⟨e, -, he⟩ := List.mem_map.1 h
  cases he

theorem not_asks_ofChecked {α : Type} (step : Checked α) {question : String} :
    .question question ∉ (Work.ofChecked step).notes := by
  cases step <;> exact List.not_mem_nil

theorem not_asks_ofExcept {ε α : Type} (failure : ε → Failure) (step : Except ε α)
    {question : String} : .question question ∉ (Work.ofExcept failure step).notes := by
  cases step <;> exact List.not_mem_nil

theorem not_asks_findBlueprints {question : String} :
    .question question ∉ x.findBlueprints.notes := by
  intro h
  rcases Work.mem_notes_bind h with h | ⟨_, -, h⟩
  · exact not_asks_tell _ h
  · cases h

/-- Nothing is asked where the blueprint is given by its path. -/
theorem not_asks_explicitCandidate (path : String) (monitors : List Monitor) {question : String} :
    .question question ∉ (x.explicitCandidate path monitors).notes := by
  intro h
  rcases Work.mem_notes_bind h with h | ⟨b, -, h⟩
  · rcases Work.mem_notes_bind h with h | ⟨_, -, h⟩
    · exact not_asks_ofExcept _ _ h
    · rcases Work.mem_notes_bind h with h | ⟨_, -, h⟩
      · exact not_asks_tell _ h
      · cases h
  · rcases Work.mem_notes_bind h with h | ⟨c, -, h⟩
    · exact not_asks_ofChecked _ h
    · split at h <;> cases h

/-- The question that is asked while a blueprint is chosen lists the blueprints that fit. -/
theorem question_of_chooseBlueprint {explicit pick : Option String} {monitors : List Monitor}
    {question : String}
    (h : .question question ∈ (x.chooseBlueprint explicit pick monitors).notes) :
    ∃ valid, x.fitting? monitors = some valid ∧ question = Candidate.question valid := by
  cases explicit with
  | some path => exact absurd h (x.not_asks_explicitCandidate path monitors)
  | none =>
    rcases Work.mem_notes_bind h with h | ⟨paths, hpaths, h⟩
    · exact absurd h x.not_asks_findBlueprints
    · cases hpaths
      rcases Work.mem_notes_bind h with h | ⟨_, -, h⟩
      · exact absurd h (not_asks_tell _)
      · rcases Work.mem_notes_bind h with h | ⟨cs, hcs, h⟩
        · exact absurd h (not_asks_ofChecked _)
        · dsimp only at h
          split at h
          · cases h
          · refine ⟨cs.filter Candidate.fits, ?_, x.question_of_chooseAmong h⟩
            unfold fitting?
            cases hfound : (Blueprint.candidates monitors x.files x.blueprintPaths).1 with
            | none =>
              rw [hfound] at hcs
              cases hcs
            | some found =>
              rw [hfound] at hcs
              cases hcs
              rfl

/-- What is picked is chosen among the blueprints that fit. -/
theorem result_chosen_iff {monitors : List Monitor} {valid : List Candidate}
    (h : x.fitting? monitors = some valid) (hvalid : valid ≠ []) (choice : String) (d : Candidate) :
    (x.chooseBlueprint none (some choice) monitors).result = .ok d ↔
      Candidate.choose valid choice = .ok d := by
  rw [chooseBlueprint, x.result_foundCandidate _ h hvalid, chooseAmong, picked]
  cases Candidate.choose valid choice <;> simp [Work.ofExcept, Work.done, Work.fail]

/-- The workspace with somebody who gives an answer and does not read JSON. -/
def asked (form : OutputForm) (answer : String) : Workspace :=
  { x with form, interactive := true, answer }

/-- An unmistakable name of one line is chosen by an answer, too. -/
theorem chosen_of_answer {form : OutputForm} (hform : form ≠ .json) {monitors : List Monitor}
    {valid : List Candidate} (hvalid : x.fitting? monitors = some valid) {c : Candidate}
    (hc : c ∈ valid) (hline : '\n' ∉ c.name.toList)
    (hname : Candidate.Unmistakable valid c.name) (rest : String) :
    ∃ d, ((x.asked form (c.name ++ "\n" ++ rest)).chooseBlueprint none none monitors).result =
      .ok d ∧ d.name = c.name := by
  obtain ⟨d, -, hchoice, hd⟩ := (Candidate.choose_name_iff hc).2 hname
  have hasked : ((x.asked form (c.name ++ "\n" ++ rest)).foundCandidate none monitors).result =
      ((x.asked form (c.name ++ "\n" ++ rest)).chooseAmong valid none).result :=
    result_foundCandidate _ none hvalid (List.ne_nil_of_mem hc)
  have hanswer : Candidate.answered valid (x.asked form (c.name ++ "\n" ++ rest)).answer = .ok d :=
    (Candidate.answered_line _ hline rest).trans hchoice
  rw [chooseBlueprint, hasked]
  unfold chooseAmong
  split
  · next hnone => cases hnone
  · next only _ =>
    -- Where only one blueprint fits, nobody is asked.
    exact ⟨only, rfl, (List.mem_singleton.1 hc) ▸ rfl⟩
  · rw [if_pos (by simp [asked, hform]), result_bind_ok (w := Work.ask _) rfl, picked, hanswer]
    exact ⟨d, rfl, hd⟩

end Workspace

/-- The name of a candidate chooses a candidate of exactly this name if and only if it is
unmistakable. The names that are offered are names of blueprints that fit: those that come with a
failure to choose, and those that the question lists, which are all of them in their order. So such
a name can be picked exactly when it is unmistakable, and then it can be answered, too, if it is one
line. -/
theorem offered_name_chosen_iff :
    (∀ (candidates : List Candidate) (c : Candidate), c ∈ candidates →
      ((∃ d ∈ candidates, Candidate.choose candidates c.name = .ok d ∧ d.name = c.name) ↔
        Candidate.Unmistakable candidates c.name)) ∧
    ∀ (x : Workspace) (monitors : List Monitor),
      (∀ explicit pick f,
        (x.chooseBlueprint explicit pick monitors).result = .error (.failure f) →
          ∀ name ∈ f.suggestions,
            ∃ valid, x.fitting? monitors = some valid ∧ ∃ c ∈ valid, c.name = name) ∧
      (∀ explicit pick question,
        .question question ∈ (x.chooseBlueprint explicit pick monitors).notes →
          ∃ valid, x.fitting? monitors = some valid ∧
            question = "Blueprints available:\n" ++
              Workspace.numberedLines (valid.map Candidate.name) ++
              "Which would you like to apply? ") ∧
      ∀ valid, x.fitting? monitors = some valid → ∀ c ∈ valid,
        ((∃ d, (x.chooseBlueprint none (some c.name) monitors).result = .ok d ∧ d.name = c.name) ↔
          Candidate.Unmistakable valid c.name) ∧
        (Candidate.Unmistakable valid c.name → '\n' ∉ c.name.toList →
          ∀ form rest, form ≠ .json →
            ∃ d, ((x.asked form (c.name ++ "\n" ++ rest)).chooseBlueprint none none
              monitors).result = .ok d ∧ d.name = c.name) := by
  refine ⟨fun candidates c hc => Candidate.choose_name_iff hc, fun x monitors =>
    ⟨fun explicit pick f hfails name hname => x.mem_suggestions hfails hname,
      fun explicit pick question hasks => ?_, fun valid hvalid c hc => ⟨?_, ?_⟩⟩⟩
  · obtain ⟨valid, hvalid, rfl⟩ := x.question_of_chooseBlueprint hasks
    exact ⟨valid, hvalid, Workspace.question_eq valid⟩
  · rw [← Candidate.choose_name_iff hc]
    simp only [x.result_chosen_iff hvalid (List.ne_nil_of_mem hc)]
    exact ⟨fun ⟨d, hd, hname⟩ => ⟨d, mem_of_choose hd, hd, hname⟩,
      fun ⟨d, _, hd, hname⟩ => ⟨d, hd, hname⟩⟩
  · exact fun hname hline form rest hform => x.chosen_of_answer hform hvalid hc hline hname rest

/-- A candidate of a name, for no monitors. -/
def titled (name : String) : Candidate := ⟨"plain", ⟨name, none, .empty, [], []⟩, []⟩

/-- Names that do not choose what they name: a number that is no index, a number that is the index
of another name, a name with white space at its ends, and, when it is answered, a name of two
lines. -/
theorem mistaken_names :
    (¬ ∃ d, Candidate.choose [titled "1"] "1" = .ok d ∧ d.name = "1") ∧
    (¬ ∃ d, Candidate.choose [titled "1", titled "0"] "1" = .ok d ∧ d.name = "1") ∧
    (¬ ∃ d, Candidate.choose [titled " Desk "] " Desk " = .ok d ∧ d.name = " Desk ") ∧
    ¬ ∃ d, Candidate.answered [titled "A\nB"] "A\nB\n" = .ok d ∧ d.name = "A\nB" := by
  have hnumber : Candidate.choose [titled "1"] "1" = .error (.noSuchIndex 1 1) := by rfl
  have hindex : Candidate.choose [titled "1", titled "0"] "1" = .ok (titled "0") := by rfl
  have hspace : Candidate.choose [titled " Desk "] " Desk " = .error (.noSuchName "Desk") := by rfl
  have hlines : Candidate.answered [titled "A\nB"] "A\nB\n" = .error (.noSuchName "A") := by rfl
  rw [hnumber, hindex, hspace, hlines]
  refine ⟨nofun, ?_, nofun, nofun⟩
  rintro ⟨d, hd, hname⟩
  cases hd
  exact absurd hname (by decide)

/-- A text that is no number and has no white space at its ends is unmistakable. -/
theorem unmistakable_of_plain {name : String} {e : IntegerFault}
    (hread : readWord64 name = .error e)
    (htrim : Text.trim name = name) (candidates : List Candidate) :
    Candidate.Unmistakable candidates name := by
  have hnone : ∀ n, ¬ WritesIndex (Text.trim name) n := by
    intro n hn
    obtain ⟨w, hw, -⟩ := writesIndex_iff.1 hn
    rw [htrim, hread] at hw
    cases hw
  exact ⟨fun n hn => absurd hn (hnone n), fun _ => htrim⟩

/-- Two files with the blueprint of one screen, which have the names of their files. -/
def twinFiles : FileTree where
  entries := deskFiles.entries.flatMap fun e =>
    [(["desk.windowblueprint.json"], e.2), (["focus.windowblueprint.json"], e.2)]
  current := []

/-- A workspace with these files. -/
def twinSpace : Workspace := ⟨{}, .json, none, none, twinFiles, false, ""⟩

/-- Either name is offered and picks its file. -/
theorem chosen_in_twinSpace :
    ∃ valid, twinSpace.fitting? MonitorCheck.deskScreens = some valid ∧
      valid.map Candidate.name = ["desk", "focus"] ∧
    ∀ name ∈ ["desk", "focus"],
      (∃ d, (twinSpace.chooseBlueprint none (some name) MonitorCheck.deskScreens).result = .ok d ∧
        d.name = name) ∧
      ∃ d, ((twinSpace.asked .text (name ++ "\n" ++ "")).chooseBlueprint none none
        MonitorCheck.deskScreens).result = .ok d ∧ d.name = name := by
  have hpaths : twinSpace.blueprintPaths =
      ["/./desk.windowblueprint.json", "/./focus.windowblueprint.json"] := by
    have hfound : (twinSpace.directories.filter twinSpace.files.isDirectory).flatMap
        (Blueprint.filesIn twinSpace.files) =
          ["/./desk.windowblueprint.json", "/./focus.windowblueprint.json"] := by decide +kernel
    show Path.distinct (List.mergeSort _ Path.le) = _
    rw [hfound, List.mergeSort_of_pairwise (by decide +kernel)]
    decide +kernel
  have hnamed : (twinSpace.fitting? MonitorCheck.deskScreens).map (·.map Candidate.name) =
      some ["desk", "focus"] := by
    rw [Workspace.fitting?, hpaths]
    decide +kernel
  obtain ⟨valid, hvalid, hnames⟩ := Option.map_eq_some_iff.1 hnamed
  refine ⟨valid, hvalid, hnames, fun name hname => ?_⟩
  have hplain : readWord64 name = .error .badDigit ∧ Text.trim name = name ∧
      '\n' ∉ name.toList := by
    revert name
    decide
  rw [← hnames] at hname
  obtain ⟨c, hc, rfl⟩ := List.mem_map.1 hname
  have hunmistakable := unmistakable_of_plain hplain.1 hplain.2.1 valid
  obtain ⟨hpick, hanswer⟩ :=
    (offered_name_chosen_iff.2 twinSpace MonitorCheck.deskScreens).2.2 valid hvalid c hc
  exact ⟨hpick.2 hunmistakable, hanswer hunmistakable hplain.2.2 .text "" nofun⟩

end Command

end DeskPlan
