/-
Where log messages go: nowhere until logging is set up, which can be done once.
-/
import LogicCapture.LogFilter
import LogicCapture.Usb.Error

namespace LogicCapture

/-- The state of logging. -/
structure Logging where
  /-- Messages go somewhere. -/
  active : Bool := false
  deriving DecidableEq

namespace Logging

/-- Sets logging up with a filter; `none` if reading the filter breaks off.  A bad filter
is reported first. -/
def setup (l : Logging) (filter : String) : Option (Except SetupError Unit × Logging) := do
  match ← (LogFilter.check filter).run with
  | .error fault => return (.error (.config s!"Invalid log filter: {fault.message}"), l)
  | .ok () =>
    if l.active then
      return (.error (.config ("Logging already initialized: " ++
        "a global default trace dispatcher has already been set")), l)
    else return (.ok (), { active := true })

/-- Makes sure that messages go somewhere; this may be asked for again. -/
def ensure (_ : Logging) : Logging := { active := true }

end Logging

end LogicCapture
