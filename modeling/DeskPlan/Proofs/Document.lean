import DeskPlan.Apply.Run
import DeskPlan.Proofs.Blueprint.Store
import DeskPlan.Proofs.Json.Record

/-!
# `DeskPlan.Proofs.Document`: documents lose nothing

What the library writes as a document it reads back unchanged: blueprints with all their parts, and
desktops. Each kind of record is recovered because its fields fill its schema in order
(`Json.Schema.Filled`), a field being left out only where its absence reads as the value it had.

A usable blueprint names a monitor, so a blueprint that was parsed is parsed again
(`documents_read_back`).
-/

set_option autoImplicit false

namespace DeskPlan

open Json

/-! ### Parts -/

theorem recovers_coordinate (a : Coordinate) : Recovers .coordinate (.int a.val) a :=
  recovers_ranged (by decide) (by decide) "i32" a

theorem recovers_word32 (a : Word32) : Recovers .word32 (.int a.val) a :=
  recovers_ranged (by decide) (by decide) "u32" a

theorem recovers_word64 (a : Word64) : Recovers .word64 (.int a.val) a :=
  recovers_ranged (by decide) (by decide) "u64" a

theorem Rect.recovers (r : Rect) : Recovers Rect.decode r.toJson r :=
  (Schema.recovers_record (.given (recovers_coordinate _) <| .given (recovers_coordinate _) <|
    .given (recovers_coordinate _) <| .given (recovers_coordinate _) .done)
    (by decide) "Rect").andThen rfl

theorem Fingerprint.recovers (f : Fingerprint) : Recovers Fingerprint.decode f.toJson f :=
  (Schema.recovers_record (.given (recovers_coordinate _) <| .given (recovers_coordinate _) <|
    .given (recovers_coordinate _) <| .given (recovers_coordinate _) <|
    .given (recovers_word32 _) <| .given (recovers_word32 _) .done)
    (by decide) "MonitorMatcher").andThen rfl

theorem Monitor.recovers (m : Monitor) : Recovers Monitor.decode m.toJson m :=
  (Schema.recovers_record (.given (recovers_word64 _) <| .given (recovers_string _) <|
    .given m.monitorRect.recovers <| .given m.workAreaRect.recovers <|
    .given (recovers_word32 _) <| .given (recovers_word32 _) .done)
    (by decide) "LiveMonitor").andThen rfl

/-- A text that is written as null when it is absent. -/
theorem recovers_optStr (a : Option String) : Recovers (.optional .string) (.optStr a) a := by
  cases a with
  | none => exact recovers_none .string
  | some s => exact recovers_some (recovers_string s) nofun

/-- An index that is written as null when it is absent. -/
theorem recovers_optWord32 (a : Option Word32) :
    Recovers (.optional .word32) (.optInt (a.map (·.val))) a := by
  cases a with
  | none => exact recovers_none .word32
  | some n => exact recovers_some (recovers_word32 n) nofun

theorem Window.recovers (w : Window) : Recovers Window.decode w.toJson w :=
  (Schema.recovers_record (.given (recovers_word64 _) <| .given w.rect.recovers <|
    .given (recovers_string _) <| .given (recovers_string _) <| .given (recovers_optStr _) <|
    .given (recovers_optStr _) <| .given (recovers_optWord32 _) <|
    .given (recovers_optWord32 _) <| .given (recovers_bool _) .done)
    (by decide) "ProgramWindow").andThen rfl

theorem ShowState.recovers (s : ShowState) : Recovers ShowState.decode s.toJson s where
  plain := .str _
  decodes := by cases s <;> rfl

section
variable {β : Type} {name union : String} {rest : Schema β} {fs : List (String × Json)} {b : β}

/-- A field with a text that is left out when it is absent. -/
theorem filled_text (a : Option String) (h : rest.Filled fs b) :
    (Schema.optional name .string rest).Filled (fieldIf name .str a ++ fs) (a, b) :=
  h.fieldIf fun s _ => ⟨recovers_string s, nofun⟩

/-- A field with a text that may also be given as a number. -/
theorem filled_textOrNumber (a : Option String) (h : rest.Filled fs b) :
    (Schema.optional name (.textOrNumber union) rest).Filled (fieldIf name .str a ++ fs) (a, b) :=
  h.fieldIf fun s _ => ⟨recovers_textOrNumber union s, nofun⟩

/-- A field with a truth value that is left out when it is absent. -/
theorem filled_bool (a : Option Bool) (h : rest.Filled fs b) :
    (Schema.optional name .bool rest).Filled (fieldIf name .bool a ++ fs) (a, b) :=
  h.fieldIf fun c _ => ⟨recovers_bool c, nofun⟩

/-- A field with a list that is left out when it is empty. -/
theorem filled_list {α : Type} {d : Decoder α} {encode : α → Json} {as : List α}
    (has : ∀ a ∈ as, Recovers d (encode a) a) (h : rest.Filled fs b) :
    (Schema.withDefault name (.list d) [] rest).Filled
      ((if as.isEmpty then [] else [(name, .list (as.map encode))]) ++ fs) (as, b) := by
  cases as with
  | nil => exact .left h
  | cons a as => exact .given (recovers_list has) h

end

theorem Filters.recovers (f : Filters) : Recovers Filters.decode f.toJson f := by
  have hfilled : Filters.schema.Filled _
      (f.windowTitle, f.windowClass, f.programPath, f.taskbarAppId, f.taskbarIndex,
        f.taskbarSubIndex, f.isToolWindow, ()) :=
    filled_text _ <| filled_text _ <| filled_text _ <| filled_text _ <| filled_textOrNumber _ <|
      filled_textOrNumber _ <| filled_bool _ .done
  have hrecovers : Recovers Filters.decode _ f :=
    (Schema.recovers_record hfilled (by decide) "WindowFilters").andThen rfl
  simpa only [Filters.toJson, List.append_assoc, List.append_nil] using hrecovers

theorem TargetBox.recovers (b : TargetBox) : Recovers TargetBox.decode b.toJson b := by
  have hfilled : TargetBox.schema.Filled _ (b.posX, b.posY, b.width, b.height, b.center, ()) :=
    filled_text _ <| filled_text _ <| filled_text _ <| filled_text _ <|
      .given (recovers_bool _) .done
  have hrecovers : Recovers TargetBox.decode _ b :=
    (Schema.recovers_record hfilled (by decide) "WindowRect").andThen rfl
  simpa only [TargetBox.toJson, List.append_assoc] using hrecovers

theorem Rule.recovers (r : Rule) : Recovers Rule.decode r.toJson r := by
  have hfilled : Rule.schema.Filled _ (r.enabled, r.name, r.comment, r.filters, r.targetMonitor,
      r.targetBox, r.targetState, ()) :=
    .given (recovers_bool _) <| .given (recovers_string _) <| filled_text _ <|
      .given r.filters.recovers <| filled_text _ <| .given r.targetBox.recovers <|
      .given r.targetState.recovers .done
  have hrecovers : Recovers Rule.decode _ r :=
    (Schema.recovers_record hfilled (by decide) "LayoutRule").andThen rfl
  simpa only [Rule.toJson, List.append_assoc, List.cons_append, List.nil_append] using hrecovers

/-! ### Whole documents -/

/-- The monitors that a blueprint names. -/
theorem recovers_monitorMatch (m : NameMap Fingerprint) :
    Recovers (fun v => (Decoder.entries Fingerprint.decode v).map .ofList)
      (.obj (m.entries.map fun e => (e.1, e.2.toJson))) m := by
  have hentries := recovers_entries fun e (_ : e ∈ m.entries) => e.2.recovers
  refine ⟨hentries.plain, ?_⟩
  rw [hentries.decodes]
  exact congrArg Except.ok m.ofList_entries

theorem Blueprint.recovers (b : Blueprint) : Recovers Blueprint.decode b.toJson b := by
  have hfilled : Blueprint.schema.Filled _
      (b.name, b.comment, b.monitorMatch, b.engineInitScripts, b.rules, ()) :=
    .given (recovers_string _) <| filled_text _ <| .given (recovers_monitorMatch _) <|
      filled_list (fun s _ => recovers_string s) <|
      .given (recovers_list fun r _ => r.recovers) .done
  have hrecovers : Recovers Blueprint.decode _ b :=
    (Schema.recovers_record hfilled (by decide) "Blueprint").andThen rfl
  simpa only [Blueprint.toJson, strings, List.append_assoc, List.cons_append,
    List.nil_append] using hrecovers

theorem Desktop.recovers (d : Desktop) : Recovers Desktop.decode d.toJson d :=
  (Schema.recovers_record (.given (recovers_bool _) <|
    .given (recovers_list fun m _ => m.recovers) <|
    .given (recovers_list fun w _ => w.recovers) .done)
    (by decide) "SnapshotDesktop").andThen rfl

/-- A desktop with the placements it has been told, the latest first. -/
structure RecordedDesktop where
  desktop : Desktop
  placements : List Placement

namespace RecordedDesktop

/-- The desktop as a document. What it has been told is no part of it. -/
def toJson (d : RecordedDesktop) : Json := d.desktop.toJson

/-- Reads a desktop out of a document. It has been told nothing yet. -/
def decode : Decoder RecordedDesktop := fun v => do
  let desktop ← Desktop.decode v
  return ⟨desktop, []⟩

theorem recovers (d : RecordedDesktop) : Recovers decode d.toJson { d with placements := [] } :=
  d.desktop.recovers.andThen rfl

end RecordedDesktop

/-- A blueprint that names a monitor is parsed from any text that it is read from. -/
theorem Blueprint.parse_of_decodeText {text : String} {b : Blueprint}
    (hdecode : decodeText decode text = .ok b) (hnames : b.monitorMatch.names ≠ []) :
    parse text = .ok b :=
  parse_eq_ok_iff.2 ⟨hdecode, hnames⟩

/-- A blueprint is read back from its document, and parsed if it names a monitor. A desktop is
read back from its document without the placements it was told. So what was parsed from any text is
parsed again from its own document. Each holds of documents on one line and over several lines. -/
theorem documents_read_back (write : Json → String) (hwrite : write = compact ∨ write = pretty) :
    (∀ b : Blueprint, decodeText Blueprint.decode (write b.toJson) = .ok b ∧
      (b.monitorMatch.names ≠ [] → Blueprint.parse (write b.toJson) = .ok b)) ∧
    (∀ d : RecordedDesktop, decodeText RecordedDesktop.decode (write d.toJson) =
      .ok { d with placements := [] }) ∧
    ∀ text b, Blueprint.parse text = .ok b → Blueprint.parse (write b.toJson) = .ok b := by
  have hread : ∀ {α : Type} {d : Decoder α} {v : Json} {a : α}, Recovers d v a →
      decodeText d (write v) = .ok a := by
    intro α d v a h
    rcases hwrite with rfl | rfl
    · exact h.compact
    · exact h.pretty
  refine ⟨fun b => ⟨hread b.recovers, Blueprint.parse_of_decodeText (hread b.recovers)⟩,
    fun d => hread d.recovers, fun text b hparse => ?_⟩
  obtain ⟨-, hnames⟩ := Blueprint.parse_eq_ok_iff.1 hparse
  exact Blueprint.parse_of_decodeText (hread b.recovers) hnames

/-- A blueprint with an index given as a number and a state in lower case. -/
def numericText : String :=
  "\x7b\"monitorMatch\": \x7b\"Main\": \x7b\"x\": -5, \"y\": 0, \"width\": 1920, " ++
    "\"height\": 1080, \"dpiX\": 96, \"dpiY\": 96\x7d\x7d, \"rules\": " ++
    "[\x7b\"filters\": \x7b\"taskbarIndex\": 3\x7d, \"targetState\": \"minimized\"\x7d]\x7d"

/-- The index is kept as a text and the state as a state, and both are read back. -/
theorem numericText_read_back :
    ∃ b, Blueprint.parse numericText = .ok b ∧
      b.rules.map (fun r => (r.filters.taskbarIndex, r.targetState)) = [(some "3", .minimized)] ∧
      Blueprint.parse b.toJson.compact = .ok b := by
  have hrules : (Blueprint.parse numericText).toOption.map (fun b =>
      b.rules.map fun r => (r.filters.taskbarIndex, r.targetState)) =
        some [(some "3", .minimized)] := by decide +kernel
  cases hparse : Blueprint.parse numericText with
  | error e =>
    rw [hparse] at hrules
    cases hrules
  | ok b =>
    rw [hparse] at hrules
    exact ⟨b, rfl, Option.some.inj hrules,
      (documents_read_back compact (.inl rfl)).2.2 numericText b hparse⟩

end DeskPlan
