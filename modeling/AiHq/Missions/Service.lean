import AiHq.Session

/-!
# The mission service

Missions, their plans, and the leases under which workers process code changes.
-/

namespace AiHq

open Concurrent Relational

/-- `_ALLOWED_TRANSITIONS` -/
def allowedTransitions : MissionStatus → List MissionStatus
  | .queued => [.running, .paused, .cancelled, .failed]
  | .running => [.waitingApproval, .paused, .completed, .failed, .cancelled]
  | .waitingApproval => [.running, .paused, .cancelled, .failed]
  | .paused => [.queued, .running, .cancelled, .failed]
  | .completed => []
  | .failed => []
  | .cancelled => []

/-- `_ALLOWED_STEP_TRANSITIONS` -/
def allowedStepTransitions : MissionStepStatus → List MissionStepStatus
  | .pending => [.running]
  | .running => [.waitingApproval, .succeeded, .failed]
  | .waitingApproval => [.running, .failed]
  | .succeeded => []
  | .failed => []

/-- One entry of the `steps` of a plan; a key that is missing is `none`. -/
structure PlanEntry where
  description : Option String
  toolName : Option String
  toolArguments : Option (Option Dict) := none

/-- The order in which missions are served. -/
def Mission.order (mission : Mission) : Datetime ×ₗ String :=
  toLex (mission.createdAt, mission.id)

/-- The order in which the steps of a plan are taken. -/
def MissionStep.order (step : MissionStep) : ℕ ×ₗ String := toLex (step.position, step.id)

/-- A service with a ledger to record in, or without one. -/
structure MissionService where
  ledger : Bool

namespace MissionService

variable (self : MissionService)

/-! ### Reading -/

def getMissionTx (missionId : String) (db : Database) : Except PyError Mission :=
  match db.missions.get? missionId with
  | none => .error (.keyError ("mission not found: " ++ missionId))
  | some mission => .ok mission

def getMission (missionId : String) : Py Mission := .query fun _ => getMissionTx missionId

/-- The steps of a mission's plan, in their order. -/
def planSteps (missionId : String) (db : Database) : List MissionStep :=
  orderBy MissionStep.order (db.steps.rows.filter fun s => s.missionId = missionId)

def listPlanSteps (missionId : String) : Py (List MissionStep) :=
  .query fun _ db => do
    let _ ← getMissionTx missionId db
    return planSteps missionId db

def nextPendingStep (missionId : String) : Py (Option MissionStep) :=
  .query fun _ db => do
    let _ ← getMissionTx missionId db
    return firstBy MissionStep.order
      (db.steps.rows.filter fun s => s.missionId = missionId && s.status = .pending)

def waitingApprovalStep (missionId : String) : Py (Option MissionStep) :=
  .query fun _ db => do
    let _ ← getMissionTx missionId db
    return firstBy MissionStep.order
      (db.steps.rows.filter fun s => s.missionId = missionId && s.status = .waitingApproval)

def planIsComplete (missionId : String) : Py Bool := do
  let steps ← listPlanSteps missionId
  return !steps.isEmpty && steps.all fun s => s.status = .succeeded

def listMissions : Py (List Mission) :=
  .query fun _ db => .ok (orderBy Mission.order db.missions.rows)

def oldestQueuedTx (db : Database) : Option Mission :=
  firstBy Mission.order (db.missions.rows.filter fun m => m.status = .queued)

/-- `oldest_queued` shows which mission it has found. -/
def oldestQueued : Py (Option Mission) :=
  .query (fun _ db => .ok (oldestQueuedTx db)) fun
    | .ok mission => .oldestQueued (mission.map Mission.id)
    | .error _ => .silent

/-! ### Missions -/

/-- `if self.ledger is not None: self.ledger.add_to_session(...)` -/
def addToLedger (event : LedgerEvent) (db : Database) : Database :=
  if self.ledger then OperationsLedger.addToSession event db else db

def createMissionTx (title description ownerAgent source : String) (priority : MissionPriority)
    (risk : MissionRisk) (objectives dependencies : Option (List Json)) (xpReward : ℤ)
    (m : Moment) (db : Database) : Except PyError (Mission × Database) :=
  let mission : Mission :=
    { id := m.ids 0, title, description, ownerAgent, source, priority, risk,
      objectives := objectives.getD [], dependencies := dependencies.getD [], xpReward,
      createdAt := m.now }
  match db.missions.insert? mission with
  | none => .error .integrityError
  | some missions =>
    .ok (mission, self.addToLedger
      { missionId := mission.id, agentKey := some mission.ownerAgent,
        eventType := .missionCreated, summary := "Mission created",
        eventData := [("source", .str mission.source), ("priority", .str mission.priority.value),
          ("risk", .str mission.risk.value), ("status", .str mission.status.value)] }
      { db with missions })

def createMission (title description ownerAgent source : String)
    (priority : MissionPriority := .normal) (risk : MissionRisk := .green)
    (objectives dependencies : Option (List Json) := none) (xpReward : ℤ := 0) : Py Mission :=
  .transaction 1 (self.createMissionTx title description ownerAgent source priority risk objectives
    dependencies xpReward)

def assignOwnerTx (missionId ownerAgent : String) (db : Database) :
    Except PyError (Mission × Database) := do
  let mission ← getMissionTx missionId db
  raiseIf (mission.status ≠ .queued)
    (.valueError "mission must be queued before owner assignment")
  let mission := { mission with ownerAgent }
  return (mission, { db with missions := db.missions.set mission })

def assignOwner (missionId ownerAgent : String) : Py Mission :=
  .session fun _ => assignOwnerTx missionId ownerAgent

def recordResultTx (missionId : String) (result : Dict) (db : Database) :
    Except PyError (Mission × Database) := do
  let mission ← getMissionTx missionId db
  let mission := { mission with result := some (.obj result) }
  return (mission, { db with missions := db.missions.set mission })

def recordResult (missionId : String) (result : Dict) : Py Mission :=
  .session fun _ => recordResultTx missionId result

def transitionTx (missionId : String) (target : MissionStatus) (result errorState : Option Dict)
    (db : Database) : Except PyError (Mission × Database) := do
  let mission ← getMissionTx missionId db
  raiseIf (target ∉ allowedTransitions mission.status)
    (.valueError ("invalid mission transition: " ++ mission.status.value ++ " -> " ++ target.value))
  let mission' :=
    { mission with
      status := target
      result := (result.map .obj).or mission.result
      errorState := (errorState.map .obj).or mission.errorState }
  return (mission', self.addToLedger
    { missionId := mission.id, agentKey := some mission.ownerAgent,
      eventType := .missionStatusChanged,
      summary := "Mission status changed to " ++ target.value,
      eventData := [("from", .str mission.status.value), ("to", .str target.value)] }
    { db with missions := db.missions.set mission' })

/-- `transition` shows what it is asked for, whether or not the move is allowed. -/
def transition (missionId : String) (target : MissionStatus)
    (result errorState : Option Dict := none) : Py Mission :=
  .session (fun _ => self.transitionTx missionId target result errorState)
    fun _ => .missionTransition missionId target

/-! ### Plans -/

def planEntryStep (missionId : String) (ids : ℕ → String) (i : ℕ) (entry : PlanEntry) :
    Except PyError MissionStep := do
  let description ← entry.description.elim (.error (.keyError "description")) .ok
  let toolName ← entry.toolName.elim (.error (.keyError "tool_name")) .ok
  return { id := ids i, missionId, position := i + 1, description, toolName,
           toolArguments := entry.toolArguments.getD (some []) }

/-- The check that every tool of a plan is registered. -/
def checkTools (registry : ToolRegistry) : List PlanEntry → Except PyError Unit
  | [] => .ok ()
  | entry :: entries => do
    let toolName ← entry.toolName.elim (.error (.keyError "tool_name")) .ok
    raiseIf (!registry.resolves toolName) (.valueError ("unregistered mission tool: " ++ toolName))
    checkTools registry entries

def createPlanTx (missionId : String) (steps : List PlanEntry) (m : Moment) (db : Database) :
    Except PyError (List MissionStep × Database) := do
  let mission ← getMissionTx missionId db
  raiseIf (db.steps.rows.any fun s => s.missionId = missionId)
    (.valueError "mission already has a plan")
  let planned ← (steps.zipIdx).mapM fun (entry, i) => planEntryStep mission.id m.ids i entry
  match db.steps.insertAll? planned with
  | none => .error .integrityError
  | some steps => return (planned, { db with steps })

def createPlan (missionId : String) (steps : List PlanEntry)
    (toolRegistry : Option ToolRegistry := none) : Py (List MissionStep) := do
  raiseIf (steps = []) (.valueError "mission plan requires at least one step")
  match toolRegistry with
  | none => pure ()
  | some registry => checkTools registry steps
  .transaction steps.length (createPlanTx missionId steps)

/-- The UPDATE of a claim; the result is whether it has met the row as PENDING. -/
def claimStepTx (stepId : String) (db : Database) : Bool × Database :=
  match db.steps.get? stepId with
  | none => (false, db)
  | some step =>
    if step.status = .pending then
      let step := { step with status := .running }
      (true, { db with steps := db.steps.set step })
    else (false, db)

/-- The mission's first incomplete step. -/
def firstIncomplete (missionId : String) (db : Database) : Option MissionStep :=
  firstBy MissionStep.order
    (db.steps.rows.filter fun s => s.missionId = missionId && s.status ≠ .succeeded)

def claimNextPendingStep (missionId : String) : Py (Option MissionStep) := do
  let firstIncompleteId ← .query fun _ db =>
    .ok ((firstIncomplete missionId db).map MissionStep.id)
  match firstIncompleteId with
  | none => return none
  | some stepId =>
    let claimed ← .session (fun _ db => .ok (claimStepTx stepId db)) fun
      | .ok true => .stepClaimed stepId
      | _ => .silent
    if claimed then .query fun _ db => .ok (db.steps.get? stepId)
    else return none

def transitionStepTx (stepId : String) (target : MissionStepStatus)
    (result errorState : Option Json) (approvalReference : Option String) (db : Database) :
    Except PyError (MissionStep × Database) :=
  match db.steps.get? stepId with
  | none => .error (.keyError ("mission step not found: " ++ stepId))
  | some step => do
    raiseIf (target ∉ allowedStepTransitions step.status)
      (.valueError ("invalid mission step transition: " ++ step.status.value ++ " -> "
        ++ target.value))
    let step :=
      { step with
        status := target
        result := result.or step.result
        errorState := errorState.or step.errorState
        approvalReference := approvalReference.or step.approvalReference }
    return (step, { db with steps := db.steps.set step })

def transitionStep (stepId : String) (target : MissionStepStatus)
    (result errorState : Option Json := none) (approvalReference : Option String := none) :
    Py MissionStep :=
  .session (fun _ => transitionStepTx stepId target result errorState approvalReference) fun
    | .ok _ => .stepAt stepId target
    | .error _ => .stepRefused stepId target

/-! ### Leases -/

/-- `claimable`: queued, or running under a lease that has expired by `now`. -/
def claimable (now : Datetime) (mission : Mission) : Bool :=
  mission.status = .queued ||
    (mission.status = .running && mission.leaseExpiresAt.any fun expiresAt => expiresAt < now)

/-- A code change for the developer. -/
def isCodeChange (mission : Mission) : Bool :=
  mission.source = "hq_chat_code_change" && mission.ownerAgent = "developer"

def claimCandidates (now : Datetime) (db : Database) : List String :=
  ((orderBy Mission.order (db.missions.rows.filter fun m =>
    isCodeChange m && claimable now m)).take 8).map Mission.id

/-- The UPDATE of a claim; the result is whether it has met a claimable row. -/
def claimTx (workerId : String) (now expiresAt : Datetime) (missionId : String) (db : Database) :
    Bool × Database :=
  match db.missions.get? missionId with
  | none => (false, db)
  | some mission =>
    if isCodeChange mission && claimable now mission then
      let mission :=
        { mission with
          status := .running
          leaseOwner := some workerId
          leaseExpiresAt := some expiresAt
          attemptCount := mission.attemptCount + 1 }
      (true, { db with missions := db.missions.set mission })
    else (false, db)

/-- Try the candidates in turn. -/
def claimFirst (workerId : String) (now expiresAt : Datetime) :
    List String → Py (Option Mission)
  | [] => return none
  | missionId :: rest => do
    let claimed ← .session (fun _ db => .ok (claimTx workerId now expiresAt missionId db)) fun
      | .ok true => .leaseClaimed workerId missionId
      | _ => .silent
    if claimed then
      match ← .query fun _ db => .ok (db.missions.get? missionId) with
      | none => throw (.runtimeError "claimed mission disappeared")
      | some mission => return some mission
    else claimFirst workerId now expiresAt rest

def claimOldestCodeChange (workerId : String) (leaseSeconds : ℤ := 900) :
    Py (Option Mission) := do
  let workerId := strip workerId
  raiseIf (workerId = "") (.valueError "code-change worker id is required")
  raiseIf (leaseSeconds < 60) (.valueError "code-change lease must be at least 60 seconds")
  let now ← .clock
  let expiresAt := now + seconds leaseSeconds
  let candidateIds ← .query fun _ db => .ok (claimCandidates now db)
  claimFirst workerId now expiresAt candidateIds

def renewTx (missionId workerId : String) (leaseSeconds : ℤ) (now : Datetime) (db : Database) :
    Bool × Database :=
  match db.missions.get? missionId with
  | none => (false, db)
  | some mission =>
    if isCodeChange mission && mission.status = .running && mission.leaseOwner = some workerId &&
        mission.leaseExpiresAt.any fun expiresAt => now ≤ expiresAt then
      let mission := { mission with leaseExpiresAt := some (now + seconds leaseSeconds) }
      (true, { db with missions := db.missions.set mission })
    else (false, db)

def renewCodeChangeLease (missionId workerId : String) (leaseSeconds : ℤ := 900) : Py Bool := do
  raiseIf (leaseSeconds < 60) (.valueError "code-change lease must be at least 60 seconds")
  let now ← .clock
  .session (fun _ db => .ok (renewTx missionId workerId leaseSeconds now db)) fun
    | .ok true => .leaseRenewed workerId missionId
    | _ => .silent

def releaseTx (missionId workerId : String) (db : Database) : Bool × Database :=
  match db.missions.get? missionId with
  | none => (false, db)
  | some mission =>
    if mission.leaseOwner = some workerId then
      let mission := { mission with leaseOwner := none, leaseExpiresAt := none }
      (true, { db with missions := db.missions.set mission })
    else (false, db)

def releaseCodeChangeLease (missionId workerId : String) : Py Bool :=
  .session (fun _ db => .ok (releaseTx missionId workerId db)) fun
    | .ok true => .leaseReleased workerId missionId
    | _ => .silent

/-! ### What the transactions do -/

section Transactions

variable {db db' : Database} {missionId workerId stepId : String} {now expiresAt : Datetime}
  {leaseSeconds : ℤ} {mission : Mission}

lemma getMissionTx_eq_ok : getMissionTx missionId db = .ok mission ↔
    db.missions.get? missionId = some mission := by
  unfold getMissionTx
  split <;> simp_all

@[simp] lemma addToLedger_missions (event : LedgerEvent) :
    (self.addToLedger event db).missions = db.missions := by
  unfold addToLedger
  split_ifs <;> rfl

@[simp] lemma addToLedger_steps (event : LedgerEvent) :
    (self.addToLedger event db).steps = db.steps := by
  unfold addToLedger
  split_ifs <;> rfl

@[simp] lemma addToLedger_deliveries (event : LedgerEvent) :
    (self.addToLedger event db).deliveries = db.deliveries := by
  unfold addToLedger
  split_ifs <;> rfl

@[simp] lemma addToLedger_approvals (event : LedgerEvent) :
    (self.addToLedger event db).approvals = db.approvals := by
  unfold addToLedger
  split_ifs <;> rfl

@[simp] lemma addToLedger_incidents (event : LedgerEvent) :
    (self.addToLedger event db).incidents = db.incidents := by
  unfold addToLedger
  split_ifs <;> rfl

@[simp] lemma addToLedger_attempts (event : LedgerEvent) :
    (self.addToLedger event db).attempts = db.attempts := by
  unfold addToLedger
  split_ifs <;> rfl

/-- A transition moves the status of its mission along an edge of the table. -/
lemma transitionTx_eq_ok {self : MissionService} {target : MissionStatus}
    {result errorState : Option Dict} {mission' : Mission}
    (h : self.transitionTx missionId target result errorState db = .ok (mission', db')) :
    ∃ mission, db.missions.get? missionId = some mission ∧
      target ∈ allowedTransitions mission.status ∧
      mission' = { mission with
        status := target
        result := (result.map .obj).or mission.result
        errorState := (errorState.map .obj).or mission.errorState } ∧
      db'.missions = db.missions.set mission' ∧ db'.steps = db.steps ∧
      db'.deliveries = db.deliveries ∧ db'.approvals = db.approvals := by
  simp only [transitionTx, bind_eq_ok, raiseIf_eq_ok, getMissionTx_eq_ok, not_not] at h
  obtain ⟨mission, hm, _, ht, h⟩ := h
  cases h
  exact ⟨mission, hm, ht, rfl, by simp, by simp, by simp, by simp⟩

lemma claimStepTx_true (h : claimStepTx stepId db = (true, db')) :
    ∃ step, db.steps.get? stepId = some step ∧ step.status = .pending ∧
      db' = { db with steps := db.steps.set { step with status := .running } } := by
  unfold claimStepTx at h
  split at h
  · cases h
  · next step hstep =>
    simp only at h
    split_ifs at h with hp
    · cases h
      exact ⟨step, hstep, hp, rfl⟩
    · cases h

lemma claimStepTx_false (h : claimStepTx stepId db = (false, db')) : db' = db := by
  unfold claimStepTx at h
  split at h
  · cases h; rfl
  · simp only at h
    split_ifs at h
    · cases h
    · cases h; rfl

/-- A step moves along an edge of the step table. -/
lemma transitionStepTx_eq_ok {target : MissionStepStatus} {result errorState : Option Json}
    {approvalReference : Option String} {step' : MissionStep}
    (h : transitionStepTx stepId target result errorState approvalReference db
      = .ok (step', db')) :
    ∃ step, db.steps.get? stepId = some step ∧ target ∈ allowedStepTransitions step.status ∧
      step' = { step with
        status := target
        result := result.or step.result
        errorState := errorState.or step.errorState
        approvalReference := approvalReference.or step.approvalReference } ∧
      db' = { db with steps := db.steps.set step' } := by
  unfold transitionStepTx at h
  split at h
  · cases h
  · next step hstep =>
    simp only [bind_eq_ok, raiseIf_eq_ok, not_not] at h
    obtain ⟨_, ht, h⟩ := h
    cases h
    exact ⟨step, hstep, ht, rfl, rfl⟩

/-- A claim takes a claimable code change. -/
lemma claimTx_true (h : claimTx workerId now expiresAt missionId db = (true, db')) :
    ∃ mission, db.missions.get? missionId = some mission ∧ isCodeChange mission = true ∧
      claimable now mission = true ∧
      db' = { db with missions := db.missions.set { mission with
        status := .running
        leaseOwner := some workerId
        leaseExpiresAt := some expiresAt
        attemptCount := mission.attemptCount + 1 } } := by
  unfold claimTx at h
  split at h
  · cases h
  · next mission hm =>
    simp only at h
    split_ifs at h with hc
    · cases h
      rw [Bool.and_eq_true] at hc
      exact ⟨mission, hm, hc.1, hc.2, rfl⟩
    · cases h

lemma claimTx_false (h : claimTx workerId now expiresAt missionId db = (false, db')) :
    db' = db := by
  unfold claimTx at h
  split at h
  · cases h; rfl
  · simp only at h
    split_ifs at h
    · cases h
    · cases h; rfl

/-- A renewal needs the lease to be the worker's, and not to have expired. -/
lemma renewTx_true (h : renewTx missionId workerId leaseSeconds now db = (true, db')) :
    ∃ mission, db.missions.get? missionId = some mission ∧ isCodeChange mission = true ∧
      mission.status = .running ∧ mission.leaseOwner = some workerId ∧
      (∃ expiresAt, mission.leaseExpiresAt = some expiresAt ∧ now ≤ expiresAt) ∧
      db' = { db with missions := db.missions.set { mission with
        leaseExpiresAt := some (now + seconds leaseSeconds) } } := by
  unfold renewTx at h
  split at h
  · cases h
  · next mission hm =>
    simp only at h
    split_ifs at h with hc
    · cases h
      simp only [Bool.and_eq_true, decide_eq_true_eq, Option.any_eq_true] at hc
      exact ⟨mission, hm, hc.1.1.1, hc.1.1.2, hc.1.2, hc.2, rfl⟩
    · cases h

lemma renewTx_false (h : renewTx missionId workerId leaseSeconds now db = (false, db')) :
    db' = db := by
  unfold renewTx at h
  split at h
  · cases h; rfl
  · simp only at h
    split_ifs at h
    · cases h
    · cases h; rfl

lemma releaseTx_true (h : releaseTx missionId workerId db = (true, db')) :
    ∃ mission, db.missions.get? missionId = some mission ∧
      mission.leaseOwner = some workerId ∧
      db' = { db with missions := db.missions.set { mission with
        leaseOwner := none
        leaseExpiresAt := none } } := by
  unfold releaseTx at h
  split at h
  · cases h
  · next mission hm =>
    simp only at h
    split_ifs at h with hc
    · cases h
      exact ⟨mission, hm, hc, rfl⟩
    · cases h

lemma releaseTx_false (h : releaseTx missionId workerId db = (false, db')) : db' = db := by
  unfold releaseTx at h
  split at h
  · cases h; rfl
  · simp only at h
    split_ifs at h
    · cases h
    · cases h; rfl

end Transactions

end MissionService
end AiHq
