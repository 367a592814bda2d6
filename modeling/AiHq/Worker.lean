import AiHq.CodeChanges.Service
import AiHq.Departments.Runner

/-!
# The worker

One iteration of the worker does at most one unit of work: it observes recovery, advances an
autonomous mission, processes a code change, or lets a department take the oldest queued mission.
-/

namespace AiHq

open Concurrent Relational

/-- Run a part of an iteration under the name of its stage. -/
def staged {α : Type} (stage : Stage) (p : Py α) : Py α := p.mapEvent (.staged stage)

structure Worker where
  autonomousRunner : AutonomousMissionRunner
  departmentRunner : DepartmentRunner
  codeChangeRunner : Option CodeChangeQueueRunner := none
  /-- whether there is a recovery coordinator, and whether there are settings -/
  recoveryCoordinator : Bool := false
  settings : Bool := false

namespace Worker

variable (self : Worker)

def recoveryStage : Py Bool :=
  if self.recoveryCoordinator && self.settings then staged .recovery (.ask World.recovery)
  else return false

/-- Whether the code-change stage has worked; its exceptions are logged, not raised. -/
def codeChangeStage : Py Bool :=
  match self.codeChangeRunner with
  | none => return false
  | some runner =>
    tryCatch (Option.isSome <$> staged .codeChange runner.runOnce) fun _ => return false

/-- `run_worker_iteration` -/
def runIteration : Py Bool := do
  let recoveryWorked ← self.recoveryStage
  let autonomousResult ← staged .autonomous self.autonomousRunner.runOnce
  match autonomousResult with
  | some _ =>
    if self.recoveryCoordinator then do
      staged .recovery (.ask World.recoveryHandled)
      return true
    else return true
  | none => do
    let codeChangeWorked ← self.codeChangeStage
    if codeChangeWorked then return true
    else do
      let departmentWorked ← staged .department self.departmentRunner.runOnce
      if departmentWorked then return true else return recoveryWorked

end Worker
end AiHq
