/-
Completion handlers that follow a script of verdicts and keep a record of every
call.
-/
import LogicCapture.Session

namespace LogicCapture

/-- A verdict that may depend on the completion. -/
inductive Verdict where
  | always (rearm : Rearm)
  /-- Resubmit after a normal completion. -/
  | onSuccess
  deriving DecidableEq

/-- The answer of a verdict to a completion. -/
def Verdict.rearm : Verdict → Completion → Rearm
  | always rearm, _ => rearm
  | onSuccess, c => if c.status = .completed then .resubmit else .release

/-- The verdicts of one handler. -/
inductive Verdicts where
  /-- The same for every call. -/
  | constant (verdict : Verdict)
  /-- One for each call, and release after that. -/
  | sequence (verdicts : List Verdict)
  deriving DecidableEq

/-- The next verdict, and those that follow. -/
def Verdicts.next : Verdicts → Verdict × Verdicts
  | constant verdict => (verdict, constant verdict)
  | sequence [] => (.always .release, sequence [])
  | sequence (verdict :: rest) => (verdict, sequence rest)

/-- A handler that follows a script of verdicts. -/
structure Recorder where
  /-- The name under which calls are recorded. -/
  tag : Nat
  verdicts : Verdicts
  deriving DecidableEq

/-- A recorded call. -/
structure Recorder.Call where
  tag : Nat
  completion : Completion
  verdict : Rearm
  deriving DecidableEq

namespace Recorder

/-- Answers a completion with the next verdict and records the call. -/
def react : Reaction Recorder (List Call) := fun recorder completion calls =>
  let (verdict, verdicts) := recorder.verdicts.next
  let rearm := verdict.rearm completion
  (rearm, { recorder with verdicts }, calls ++ [⟨recorder.tag, completion, rearm⟩])

instance : Consumer Recorder (List Call) := ⟨react⟩

end Recorder

end LogicCapture
