import DeskPlan.Text.Case
import DeskPlan.Window.Basic

/-!
# `DeskPlan.Window.Order`: the order in which windows are processed

Windows are processed in the order of their program file names, first without regard to case,
then with regard to it. Windows of one file name keep the order in which they were found.
-/

set_option autoImplicit false

namespace DeskPlan.Window

/-- The key of the order: the file name in lower case, then the file name. -/
def orderKey (w : Window) : String × String :=
  (Text.lower w.fileName, w.fileName)

/-- Whether one key is before another or equal to it. -/
def keyLE (a b : String × String) : Bool := a.1 < b.1 || (a.1 = b.1 && !(b.2 < a.2))

/-- The windows in processing order. -/
def inProcessingOrder (windows : List Window) : List Window :=
  ((windows.map fun w => (w.orderKey, w)).mergeSort fun a b => keyLE a.1 b.1).map Prod.snd

end DeskPlan.Window
