import DeskPlan.Monitor.Basic

/-!
# `DeskPlan.Monitor.Check`: a blueprint's monitor names on live monitors

A blueprint names the monitors it needs by fingerprint. `MonitorCheck.of?` looks each name up
among the live monitors and lists every reason why the names do not stand for distinct monitors;
`MonitorCheck.mapping` gives the monitors when there is no such reason.

A monitor is measured when it is compared, which can end the program. What follows from the
monitors found for each name (`MonitorCheck.ofFound`) cannot.
-/

set_option autoImplicit false

namespace DeskPlan

/-- A reason why monitor names do not stand for distinct live monitors. -/
inductive MonitorIssue where
  /-- No monitor is named. -/
  | empty
  /-- No live monitor has the fingerprint. -/
  | unmatched (name : String)
  /-- Several live monitors share the fingerprint. -/
  | ambiguous (name : String) (count : Nat)
  /-- Several names stand for one live monitor. -/
  | aliased (names : List String) (handle : Word64)
deriving DecidableEq, Repr

namespace MonitorIssue

/-- A name in single quotes. -/
def inQuotes (s : String) : String := "'" ++ s ++ "'"

/-- The issue in words. -/
def message : MonitorIssue → String
  | empty => "blueprint has an empty monitorMatch"
  | unmatched name => s!"monitor '{name}' has no matching live monitor"
  | ambiguous name count =>
    s!"monitor '{name}' matches {count} live monitors with identical geometry"
  | aliased names handle =>
    "monitors " ++ String.intercalate ", " (names.map inQuotes) ++
      " all map to the same live monitor " ++ handleText handle

/-- The issue as a document. -/
def toJson : MonitorIssue → Json
  | empty => .obj [("kind", .str "empty")]
  | unmatched name => .obj [("kind", .str "unmatched"), ("name", .str name)]
  | ambiguous name count =>
    .obj [("kind", .str "ambiguous"), ("name", .str name), ("count", .int count)]
  | aliased names handle =>
    .obj [("kind", .str "aliased"), ("names", .strings names), ("handle", .int handle.val)]

end MonitorIssue

/-- The names of a blueprint with the live monitors they stand for. -/
abbrev MonitorAssignment := NameMap Monitor

/-- The outcome of looking the names up: the monitor of each name that has exactly one, and all
issues. -/
structure MonitorCheck where
  entries : NameMap (Option Monitor)
  issues : List MonitorIssue

namespace MonitorCheck

/-- The live monitors with a fingerprint. -/
def candidates? (monitors : List Monitor) (f : Fingerprint) : Checked (List Monitor) :=
  Checked.keepWhere (·.fits? f) monitors

/-- The monitor a name stands for, if it is the only one that was found. -/
def resolve : List Monitor → Option Monitor
  | [m] => some m
  | _ => none

/-- The issue of a name for which no monitor was found, or several. -/
def nameIssue (name : String) : List Monitor → Option MonitorIssue
  | [] => some (.unmatched name)
  | [_] => none
  | many => some (.ambiguous name many.length)

/-- A handle put in its place in an increasing list, unless it is there already. -/
def insertHandle (h : Word64) : List Word64 → List Word64
  | [] => [h]
  | k :: ks =>
    if h.val < k.val then h :: k :: ks
    else if h.val = k.val then k :: ks
    else k :: insertHandle h ks

/-- The distinct handles of a list, in increasing order. -/
def distinctHandles (hs : List Word64) : List Word64 := hs.foldr insertHandle []

/-- The names with the monitor each stands for, without the names that stand for none. -/
def resolved (entries : NameMap (Option Monitor)) : MonitorAssignment := entries.filterMap id

/-- The names that stand for the monitor with a handle. -/
def namesOf (mapping : MonitorAssignment) (h : Word64) : List String :=
  (mapping.entries.filter fun e => e.2.handle = h).map Prod.fst

/-- One issue for every handle that several names stand for, in increasing order of handles. -/
def aliasIssues (mapping : MonitorAssignment) : List MonitorIssue :=
  (distinctHandles (mapping.entries.map fun e => e.2.handle)).filterMap fun h =>
    let names := namesOf mapping h
    -- Names that stand for distinct monitors need no word.
    if 1 < names.length then some (.aliased names h) else none

/-- The outcome for the monitors that were found for each name. -/
def ofFound (found : NameMap (List Monitor)) : MonitorCheck :=
  let entries := found.map fun _ => resolve
  { entries
    issues :=
      (if found.isEmpty then [.empty] else []) ++
        found.entries.filterMap (fun e => nameIssue e.1 e.2) ++
        aliasIssues (resolved entries) }

/-- Looks every name up among the live monitors. -/
def of? (fingerprints : NameMap Fingerprint) (monitors : List Monitor) : Checked MonitorCheck :=
  (fingerprints.mapChecked (candidates? monitors)).map ofFound

/-- Whether there is no issue. -/
def valid (m : MonitorCheck) : Bool := m.issues.isEmpty

/-- The monitors the names stand for, or the issues that prevent it. -/
def mapping (m : MonitorCheck) : Except (List MonitorIssue) MonitorAssignment :=
  if m.valid then .ok (resolved m.entries) else .error m.issues

end MonitorCheck

end DeskPlan
