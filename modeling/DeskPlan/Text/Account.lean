/-!
# `DeskPlan.Text.Account`: what went wrong, and why

An `Account` says what went wrong and then, cause after cause, why. It is written on one line or
as a report of several lines.
-/

set_option autoImplicit false

namespace DeskPlan

/-- What went wrong, followed by its causes. -/
structure Account where
  what : String
  causes : List String := []
deriving DecidableEq, Repr

namespace Account

/-- The account on one line. -/
def line (a : Account) : String := String.intercalate ": " (a.what :: a.causes)

/-- The causes of a report, each on a line of its own; several causes are numbered. -/
def causeLines (causes : List String) : List String :=
  match causes with
  | [cause] => ["    " ++ cause]
  | causes => causes.zipIdx.map fun c => s!"    {c.2}: {c.1}"

/-- The account on several lines. -/
def report (a : Account) : String :=
  if a.causes.isEmpty then s!"Error: {a.what}\n"
  else s!"Error: {a.what}\n\nCaused by:\n" ++
    String.join ((causeLines a.causes).map fun l => l ++ "\n")

end Account

end DeskPlan
