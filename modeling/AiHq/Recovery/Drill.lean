import AiHq.Session

/-!
# The recovery drill

A drill puts an incident into the tables, writes the status of a target that has failed, and reads
back what it has written. Each of its statements may raise, and a commit may do so after it has
taken effect.
-/

namespace AiHq

open Concurrent Relational

/-! ### The recovery status -/

inductive RecoveryStatusResult where
  | unknown | healthy | unhealthy | error
  deriving DecidableEq, Repr

structure RecoveryStatus where
  target : String
  lastProbeAt : Option Datetime := none
  lastResult : RecoveryStatusResult := .unknown
  reachable : Option Bool := none
  statusCode : Option ℤ := none
  ready : Option Bool := none
  consecutiveFailures : ℤ := 0
  activeIncidentId : Option String := none
  activeIncidentState : Option RecoveryIncidentState := none
  deriving DecidableEq, Repr

instance : Keyed RecoveryStatus String := ⟨RecoveryStatus.target⟩

/-- How the database fails: before a statement takes effect, or after it. -/
inductive Outage where
  | refuses (error : PyError)
  | losesReply (error : PyError)
  deriving DecidableEq, Repr

/-- The tables, with the clock, the identifiers that `uuid4` yields, and how the database fails at
the moment, if it does. -/
structure DrillWorld where
  db : Database := {}
  statuses : Table RecoveryStatus := ∅
  now : Datetime := 0
  uuids : ℕ → String := fun n => toString n
  drawn : ℕ := 0
  outage : Option Outage := none

/-- What a statement shows. -/
inductive DrillEvent where
  | answered
  | raised (error : PyError)
  /-- the incident is in the tables; the commit may have raised all the same -/
  | inserted (incidentId : String) (error : Option PyError)
  | snapshot (status : RecoveryStatus)
  /-- whether the incident is there, without a mission -/
  | found (untouched : Bool)
  | attempts (count : ℕ)
  deriving DecidableEq, Repr

abbrev Drill (α : Type) := Prog PyError DrillEvent DrillWorld α

namespace Drill

section Statements

variable {α : Type} (shown : α → Option PyError → DrillEvent)
  (f : DrillWorld → Except PyError (α × DrillWorld)) (w : DrillWorld)

/-- What a statement shows, where `shown` is for those that take effect. -/
def shows : DrillEvent :=
  match w.outage, f w with
  | some (.refuses error), _ => .raised error
  | some (.losesReply error), .ok (a, _) => shown a (some error)
  | some (.losesReply error), .error _ => .raised error
  | none, .ok (a, _) => shown a none
  | none, .error error => .raised error

def leaves : DrillWorld :=
  match w.outage, f w with
  | some (.refuses _), _ => w
  | _, .ok (_, w') => w'
  | _, .error _ => w

def reply : Except PyError α :=
  match w.outage with
  | some (.refuses error) => .error error
  | some (.losesReply error) => .error error
  | none => (f w).map Prod.fst

def statement : Drill α := .act (shows shown f) (leaves f) fun w => .ofExcept (reply f w)

end Statements

/-- A statement that only reads. -/
def select {α : Type} (shown : α → DrillEvent) (f : DrillWorld → Except PyError α) : Drill α :=
  statement (fun a error => error.elim (shown a) .raised) fun w => (f w).map (·, w)

def clock : Drill Datetime := .act (fun _ => .answered) id fun w => .ret w.now

end Drill

/-- `_bounded_bool` -/
def boundedBool : Option Json → Option Bool
  | some (.bool value) => some value
  | _ => none

/-- `_bounded_status_code` -/
def boundedStatusCode : Option Json → Option ℤ
  | some (.int value) => if 100 ≤ value ∧ value ≤ 599 then some value else none
  | _ => none

namespace RecoveryStatusService

/-- `_active_incident` -/
def activeIncident (target : String) (db : Database) : Option RecoveryIncident :=
  firstBy (fun r => toLex (-r.lastObservedAt, OrderDual.toDual r.id))
    (db.incidents.rows.filter fun r => r.target = target && r.activeKey.isSome)

/-- The row that is not there reads like a new one. -/
def snapshot (target : String) : Drill RecoveryStatus :=
  .select .snapshot fun w => .ok ((w.statuses.get? target).getD { target })

/-- The columns of the row that differ from those of the row that has been read. -/
def changed (read row stored : RecoveryStatus) : RecoveryStatus where
  target := stored.target
  lastProbeAt := if row.lastProbeAt = read.lastProbeAt then stored.lastProbeAt else row.lastProbeAt
  lastResult := if row.lastResult = read.lastResult then stored.lastResult else row.lastResult
  reachable := if row.reachable = read.reachable then stored.reachable else row.reachable
  statusCode := if row.statusCode = read.statusCode then stored.statusCode else row.statusCode
  ready := if row.ready = read.ready then stored.ready else row.ready
  consecutiveFailures :=
    if row.consecutiveFailures = read.consecutiveFailures then stored.consecutiveFailures
    else row.consecutiveFailures
  activeIncidentId :=
    if row.activeIncidentId = read.activeIncidentId then stored.activeIncidentId
    else row.activeIncidentId
  activeIncidentState :=
    if row.activeIncidentState = read.activeIncidentState then stored.activeIncidentState
    else row.activeIncidentState

/-- The INSERT or the UPDATE of the row, where `read` has been there before. -/
def write (read : Option RecoveryStatus) (row : RecoveryStatus) (w : DrillWorld) :
    Except PyError (Unit × DrillWorld) :=
  match read with
  | none => match w.statuses.insert? row with
    | some statuses => .ok ((), { w with statuses })
    | none => .error .integrityError
  | some read =>
    if row = read then .ok ((), w)
    else match w.statuses.get? row.target with
      | some stored => .ok ((), { w with statuses := w.statuses.set (changed read row stored) })
      | none => .error (.other "StaleDataError")

def recordSuccessfulCycle (target : String) (observedAt : Datetime) (summary : Dict) :
    Drill RecoveryStatus := do
  let reachable := boundedBool (Dict.get summary "reachable")
  let statusCode := boundedStatusCode (Dict.get summary "status_code")
  let ready := boundedBool (Dict.get summary "ready")
  let incident ← .select (fun _ => .answered) fun w => .ok (activeIncident target w.db)
  let result : RecoveryStatusResult :=
    if ready = some false ∨ incident.isSome then .unhealthy
    else if ready = some true then .healthy
    else .unknown
  let read ← .select (fun _ => .answered) fun w => .ok (w.statuses.get? target)
  .statement (fun _ error => error.elim .answered .raised) (write read
    { target, lastProbeAt := some observedAt, lastResult := result, reachable, statusCode, ready,
      consecutiveFailures := (incident.map RecoveryIncident.consecutiveFailures).getD 0,
      activeIncidentId := incident.map RecoveryIncident.id,
      activeIncidentState := incident.map RecoveryIncident.state })
  snapshot target

end RecoveryStatusService

/-! ### The drill -/

/-- The settings that a drill reads. -/
structure DrillSettings where
  recoveryEnabled : Bool
  recoveryObserveOnly : Bool
  operatingMode : OperatingMode
  recoveryFailureThreshold : ℤ

/-- What a drill returns: `_failure(code)`, or that it is ok. -/
inductive DrillResult where
  | failure (code : String)
  | ok (incidentId : String) (consecutiveFailures : ℤ)
  deriving DecidableEq, Repr

namespace RecoveryDrillService

/-- `_has_active_incident` -/
def hasActiveIncident : Drill (Option Bool) :=
  tryCatch
    (some <$> .select (fun _ => .answered) fun w =>
      .ok (w.db.incidents.rows.any fun r => r.target = "dripvid" && r.activeKey.isSome))
    fun _ => return none

/-- `_fresh_healthy_snapshot`; none if there is nothing against the drill. -/
def freshHealthySnapshot (now : Datetime) : Drill (Option String) := do
  match ← tryCatch (some <$> RecoveryStatusService.snapshot "dripvid") (fun _ => return none) with
  | none => return some "drill_failed"
  | some snapshot =>
    if snapshot.lastResult ≠ .healthy ∨ snapshot.ready ≠ some true ∨
        snapshot.activeIncidentId ≠ none ∨ snapshot.activeIncidentState ≠ none then
      return some "healthy_status_required"
    else match snapshot.lastProbeAt with
      | none => return some "fresh_healthy_probe_required"
      | some lastProbeAt =>
        if now - lastProbeAt < 0 ∨ seconds 5 < now - lastProbeAt then
          return some "fresh_healthy_probe_required"
        else return none

/-- The incident of a drill. -/
def drillIncident (id : String) (now : Datetime) (threshold : ℤ) : RecoveryIncident where
  id := id
  activeKey := some "dripvid:app"
  target := "dripvid"
  component := "app"
  state := .suspect
  consecutiveFailures := threshold
  firstFailureAt := now
  lastFailureAt := now
  lastObservedAt := now
  diagnostics := [("drill", .bool true)]

/-- The INSERT under `uq_recovery_incidents_active_key`. -/
def insertTx (now : Datetime) (threshold : ℤ) (w : DrillWorld) :
    Except PyError (String × DrillWorld) :=
  if w.db.incidents.rows.any fun r => r.activeKey = some "dripvid:app" then
    .error .integrityError
  else match w.db.incidents.insert? (drillIncident (w.uuids w.drawn) now threshold) with
    | some incidents =>
      .ok (w.uuids w.drawn, { w with db := { w.db with incidents }, drawn := w.drawn + 1 })
    | none => .error .integrityError

/-- The body of `_insert_incident`; an error is a failure that it returns. -/
def insertBody (now : Datetime) (threshold : ℤ) : Drill (Except String String) := do
  if ← .select (fun _ => .answered) fun w =>
      .ok (w.db.incidents.rows.any fun r => r.target = "dripvid" && r.activeKey.isSome) then
    return .error "active_incident_present"
  let incidentId ← .statement .inserted (insertTx now threshold)
  -- `db.refresh(incident)`
  .select (fun _ => .answered) fun w => match w.db.incidents.get? incidentId with
    | some _ => .ok ()
    | none => .error (.other "InvalidRequestError")
  return .ok incidentId

/-- `_insert_incident` -/
def insertIncident (now : Datetime) (threshold : ℤ) : Drill (Except String String) :=
  tryCatch (insertBody now threshold) fun error =>
    return .error (if error = .integrityError then "drill_conflict" else "drill_failed")

/-- `_verify_no_mutation_artifacts` -/
def verifyNoMutationArtifacts (incidentId : String) : Drill Bool :=
  tryCatch (do
    if !(← .select .found fun w => .ok ((w.db.incidents.get? incidentId).any fun incident =>
        incident.recoveryMissionId.isNone)) then
      return false
    else do
      let attemptCount ← .select .attempts fun w =>
        .ok (w.db.attempts.rows.countP fun a => a.incidentId = incidentId)
      return attemptCount = 0)
    fun _ => return false

/-- `_UNHEALTHY_SUMMARY`, as far as it is read. -/
def unhealthySummary : Dict :=
  [("reachable", .bool true), ("status_code", .int 503), ("ready", .bool false)]

/-- The status that the drill wants to read back. -/
def expected (incidentId : String) (threshold : ℤ) (snapshot : RecoveryStatus) : Prop :=
  snapshot.lastResult = .unhealthy ∧ snapshot.ready = some false ∧
    snapshot.activeIncidentId = some incidentId ∧ snapshot.activeIncidentState = some .suspect ∧
    snapshot.consecutiveFailures = threshold

instance (incidentId : String) (threshold : ℤ) (snapshot : RecoveryStatus) :
    Decidable (expected incidentId threshold snapshot) := by
  unfold expected
  infer_instance

/-- What follows the insertion of the incident. -/
def check (now : Datetime) (threshold : ℤ) (incidentId : String) : Drill DrillResult := do
  match ← tryCatch (some <$> RecoveryStatusService.recordSuccessfulCycle "dripvid" now
      unhealthySummary) (fun _ => return none) with
  | none => return .failure "drill_failed"
  | some snapshot =>
    if ¬expected incidentId threshold snapshot then return .failure "status_verification_failed"
    else if !(← verifyNoMutationArtifacts incidentId) then
      return .failure "status_verification_failed"
    else return .ok incidentId threshold

def run (settings : DrillSettings) : Drill DrillResult := do
  if !settings.recoveryEnabled then return .failure "recovery_disabled"
  else if !settings.recoveryObserveOnly then return .failure "observe_only_required"
  else if settings.operatingMode = .freeze then return .failure "freeze_mode"
  else match ← hasActiveIncident with
    | none => return .failure "drill_failed"
    | some true => return .failure "active_incident_present"
    | some false => do
      let now ← .clock
      match ← freshHealthySnapshot now with
      | some code => return .failure code
      | none =>
        match ← insertIncident now settings.recoveryFailureThreshold with
        | .error code => return .failure code
        | .ok incidentId => check now settings.recoveryFailureThreshold incidentId

end RecoveryDrillService
end AiHq
