import AiHq.Missions.Service
import AiHq.ToolGateway.Service

/-!
# The mission executor

`MissionExecutor` advances a mission one step of its plan at a time, through the gateway, and
`AutonomousMissionRunner` picks the mission that a worker advances next.
-/

namespace AiHq

open Concurrent Relational

structure MissionExecutionResult where
  missionId : String
  missionStatus : MissionStatus
  stepId : Option String := none
  stepStatus : Option MissionStepStatus := none
  outcome : Option ToolOutcome := none

structure MissionExecutor where
  missions : MissionService
  gateway : ToolGateway

namespace MissionExecutor

variable (self : MissionExecutor)

/-- `_request_for` -/
def requestFor (mission : Mission) (step : MissionStep) : Except PyError ToolRequest :=
  let arguments := step.toolArguments.getD []
  let (target, arguments) := Dict.pop arguments "target" (.str mission.id)
  let (conditions, arguments) := Dict.pop arguments "conditions" (.obj [])
  let (mutatesExternalState, arguments) :=
    Dict.pop arguments "mutates_external_state" (.bool false)
  match conditions with
  | .obj conditions =>
    .ok { missionId := mission.id, agentKey := mission.ownerAgent, capability := step.toolName,
          target := target.pyStr, risk := mission.risk, params := arguments, conditions,
          mutatesExternalState := mutatesExternalState.truthy }
  | _ => .error (.valueError "mission step conditions must be an object")

/-- `gateway_state` and `reason` of a failure. -/
def failure (outcome : ToolOutcome) : Dict :=
  [("gateway_state", .str outcome.state.value), ("reason", (outcome.reason.map .str).getD .null)]

/-- What the call returns for a step that it has settled. -/
def settled (mission : Mission) (step : MissionStep) (outcome : ToolOutcome) :
    MissionExecutionResult :=
  { missionId := mission.id, missionStatus := mission.status, stepId := some step.id,
    stepStatus := some step.status, outcome := some outcome }

/-- Move the step and the mission on as the outcome of the gateway says. -/
def settle (mission : Mission) (step : MissionStep) (outcome : ToolOutcome) :
    Py MissionExecutionResult := do
  match outcome.state with
  | .waitingApproval =>
    let step ← MissionService.transitionStep step.id .waitingApproval none none
      outcome.approvalRequestId
    let mission ← self.missions.transition mission.id .waitingApproval
    return settled mission step outcome
  | .executed | .simulated =>
    let result := outcome.result.getD .null
    let step ← MissionService.transitionStep step.id .succeeded
      (some (if result.truthy then result else .obj []))
    if ← MissionService.planIsComplete mission.id then
      let mission ← self.missions.transition mission.id .completed
        (some [("plan_status", .str "completed")])
      return settled mission step outcome
    else return settled mission step outcome
  | .blocked | .failed =>
    let step ← MissionService.transitionStep step.id .failed none (some (.obj (failure outcome)))
    let mission ← self.missions.transition mission.id .failed none
      (some (("step_id", .str step.id) :: failure outcome))
    return settled mission step outcome

/-- Send the request of a step to the gateway and settle its outcome. -/
def perform (mission : Mission) (step : MissionStep) : Py MissionExecutionResult := do
  let request ← requestFor mission step
  .show_ (.gatewayRequest step.id)
  let outcome ← self.gateway.execute request
  self.settle mission step outcome

/-- A queued mission starts running. -/
def startQueued (mission : Mission) : Py Mission :=
  if mission.status = .queued then self.missions.transition mission.id .running
  else return mission

/-- With no step to claim: complete the mission if its plan is complete. -/
def finish (mission : Mission) : Py MissionExecutionResult := do
  if ← MissionService.planIsComplete mission.id then
    let mission ← self.startQueued mission
    if mission.status = .running then
      let mission ← self.missions.transition mission.id .completed
      return { missionId := mission.id, missionStatus := mission.status }
    else return { missionId := mission.id, missionStatus := mission.status }
  else return { missionId := mission.id, missionStatus := mission.status }

/-- Claim a step and perform it. -/
def advance (mission : Mission) : Py MissionExecutionResult := do
  match ← MissionService.claimNextPendingStep mission.id with
  | none => self.finish mission
  | some step =>
    let mission ← self.startQueued mission
    self.perform mission step

def runNext (missionId : String) : Py MissionExecutionResult := do
  let mission ← MissionService.getMission missionId
  match mission.status with
  | .completed | .failed | .cancelled =>
    return { missionId := mission.id, missionStatus := mission.status }
  | .waitingApproval =>
    match ← MissionService.waitingApprovalStep mission.id with
    | some waiting =>
      return { missionId := mission.id, missionStatus := mission.status,
               stepId := some waiting.id, stepStatus := some waiting.status }
    | none => self.advance mission
  | .queued | .running | .paused => self.advance mission

def resumeApproved (missionId : String) : Py MissionExecutionResult := do
  let mission ← MissionService.getMission missionId
  raiseIf (mission.status ≠ .waitingApproval)
    (.valueError "mission is not waiting for approval")
  match ← MissionService.waitingApprovalStep mission.id with
  | none => throw (.valueError "mission has no step waiting for approval")
  | some step =>
    let step ← MissionService.transitionStep step.id .running
    let mission ← self.missions.transition mission.id .running
    self.perform mission step

end MissionExecutor

/-! ### The runner -/

/-- `_handoff_delivery_candidate` does nothing: an execution result has no
`delivery_candidate`. -/
structure AutonomousMissionRunner where
  missions : MissionService
  executor : MissionExecutor

namespace AutonomousMissionRunner

variable (self : AutonomousMissionRunner)

/-- Advance the first of the missions that is under way and has a plan. -/
def runFirst : List Mission → Py (Option MissionExecutionResult)
  | [] => return none
  | mission :: rest =>
    if mission.status = .queued ∨ mission.status = .running then do
      let steps ← MissionService.listPlanSteps mission.id
      if steps.isEmpty then runFirst rest
      else some <$> self.executor.runNext mission.id
    else runFirst rest

def runOnce : Py (Option MissionExecutionResult) := do
  self.runFirst (← MissionService.listMissions)

def resumeApproved (missionId : String) : Py MissionExecutionResult :=
  self.executor.resumeApproved missionId

end AutonomousMissionRunner

/-! ### Frames -/

namespace MissionService

/-- The mission that is read or moved is the one that has been asked for. -/
def OfId (m : String) (r : Except PyError Mission) : Prop := ∀ mission, r = .ok mission → mission.id = m

lemma yields_getMission (m : String) :
    Yields (fun _ _ _ => True) (getMission m) (OfId m) := by
  rw [getMission, Py.query, Py.session]
  apply Py.yields_transaction
  · rintro w mission db hf _ _ ⟨⟩
    obtain ⟨found, hfound, hf⟩ := Py.map_eq_ok.mp hf
    cases hf
    exact Table.key_of_get? (getMissionTx_eq_ok.mp hfound)
  · rintro w error _ _ mission ⟨⟩

lemma yields_transition (self : MissionService) (m : String) (target : MissionStatus)
    (result errorState : Option Dict) :
    Yields (fun _ _ _ => True) (self.transition m target result errorState) (OfId m) := by
  rw [transition, Py.session]
  apply Py.yields_transaction
  · rintro w mission db hf _ _ ⟨⟩
    obtain ⟨row, hrow, -, rfl, -⟩ := transitionTx_eq_ok hf
    exact Table.key_of_get? hrow
  · rintro w error _ _ mission ⟨⟩

end MissionService

namespace MissionExecutor

section Frame

variable {G : World → Event → World → Prop} {m : String} (self : MissionExecutor)
  (hread : Every G (MissionService.planIsComplete m))
  (htransition : ∀ target result errorState,
    Every G (self.missions.transition m target result errorState))

lemma yields_startQueued {mission : Mission} (hid : mission.id = m) :
    Yields (fun _ _ _ => True) (self.startQueued mission) (MissionService.OfId m) := by
  unfold startQueued
  split_ifs
  · rw [hid]
    exact MissionService.yields_transition ..
  · apply Yields.ret
    rintro _ ⟨⟩
    exact hid

include htransition

/-- Where the reads and transitions of the mission are in `G`, so is all that a worker does
besides. -/
lemma every_startQueued_of {mission : Mission} (hid : mission.id = m) :
    Every G (self.startQueued mission) := by
  unfold startQueued
  split_ifs
  · rw [hid]
    exact htransition ..
  · exact .ret _

include hread

lemma every_finish_of {mission : Mission} (hid : mission.id = m) :
    Every G (self.finish mission) := by
  subst hid
  apply hread.bind
  intro complete
  split_ifs
  · apply (self.every_startQueued_of htransition rfl).bind_of_yields
      (self.yields_startQueued rfl)
    intro started hstarted
    split_ifs
    · rw [hstarted started rfl]
      exact (htransition ..).bind fun _ => .ret _
    · exact .ret _
  · exact .ret _

/-- What is left to do once a step has succeeded. -/
lemma every_complete_of {mission : Mission} (hid : mission.id = m) (step : MissionStep)
    (outcome : ToolOutcome) :
    Every G (do
      if ← MissionService.planIsComplete mission.id then
        let mission ← self.missions.transition mission.id .completed
          (some [("plan_status", .str "completed")])
        return settled mission step outcome
      else return settled mission step outcome) := by
  subst hid
  apply hread.bind
  intro complete
  split_ifs
  · exact (htransition ..).bind fun _ => .ret _
  · exact .ret _

end Frame

end MissionExecutor

/-- Reads, the transitions of the mission `m`, and those of steps to anything but RUNNING are
in `G`. -/
structure SettleFrame (G : World → Event → World → Prop) (executor : MissionExecutor) (m : String) :
    Prop where
  silent : ∀ w, G w .silent w
  transition : ∀ target result errorState,
    Every G (executor.missions.transition m target result errorState)
  transitionStep : ∀ stepId target result errorState approvalReference, target ≠ .running →
    Every G (MissionService.transitionStep stepId target result errorState approvalReference)

namespace SettleFrame

open MissionExecutor

variable {G : World → Event → World → Prop} {executor : MissionExecutor} {m : String}
  (hG : SettleFrame G executor m)

include hG

lemma query {α : Type} {g : Moment → Database → Except PyError α} : Every G (Py.query g) :=
  Py.every_query fun w _ => hG.silent w

lemma planIsComplete : Every G (MissionService.planIsComplete m) :=
  hG.query.bind fun _ => .ret _

lemma startQueued {mission : Mission} (hid : mission.id = m) :
    Every G (executor.startQueued mission) :=
  executor.every_startQueued_of hG.transition hid

lemma finish {mission : Mission} (hid : mission.id = m) : Every G (executor.finish mission) :=
  executor.every_finish_of hG.planIsComplete hG.transition hid

lemma settle {mission : Mission} (hid : mission.id = m) (step : MissionStep)
    (outcome : ToolOutcome) : Every G (executor.settle mission step outcome) := by
  have hcomplete := fun step =>
    executor.every_complete_of hG.planIsComplete hG.transition hid step outcome
  subst hid
  have hstep {target : MissionStepStatus} (htarget : target ≠ .running)
      (result errorState : Option Json) (approvalReference : Option String) :=
    hG.transitionStep step.id target result errorState approvalReference htarget
  unfold MissionExecutor.settle
  split
  · exact (hstep (by decide) ..).bind fun _ => (hG.transition ..).bind fun _ => .ret _
  · exact (hstep (by decide) ..).bind hcomplete
  · exact (hstep (by decide) ..).bind hcomplete
  · exact (hstep (by decide) ..).bind fun _ => (hG.transition ..).bind fun _ => .ret _
  · exact (hstep (by decide) ..).bind fun _ => (hG.transition ..).bind fun _ => .ret _

end SettleFrame

/-- So are the claims of the mission's steps, and the gateway. -/
structure ExecutorFrame (G : World → Event → World → Prop) (executor : MissionExecutor) (m : String) :
    Prop extends SettleFrame G executor m where
  request : ∀ w stepId, G w (.gatewayRequest stepId) w
  claimStep : Every G (MissionService.claimNextPendingStep m)
  execute : ∀ request, Every G (executor.gateway.execute request)

namespace ExecutorFrame

open MissionExecutor

variable {G : World → Event → World → Prop} {executor : MissionExecutor} {m : String}
  (hG : ExecutorFrame G executor m)

include hG

lemma perform {mission : Mission} (hid : mission.id = m) (step : MissionStep) :
    Every G (executor.perform mission step) := by
  apply (Py.every_lift _).bind
  intro request
  apply Every.bind (Py.every_query fun w _ => hG.request w step.id)
  intro _
  exact (hG.execute request).bind fun outcome => hG.toSettleFrame.settle hid step outcome

lemma advance {mission : Mission} (hid : mission.id = m) : Every G (executor.advance mission) := by
  unfold MissionExecutor.advance
  rw [hid]
  apply hG.claimStep.bind
  intro step
  cases step with
  | none => exact hG.toSettleFrame.finish hid
  | some step =>
    apply (hG.toSettleFrame.startQueued hid).bind_of_yields (executor.yields_startQueued hid)
    intro started hstarted
    exact hG.perform (hstarted started rfl) step

lemma runNext : Every G (executor.runNext m) := by
  apply hG.toSettleFrame.query.bind_of_yields (MissionService.yields_getMission m)
  intro mission hmission
  have hadvance := hG.advance (hmission mission rfl)
  split
  · exact .ret _
  · exact .ret _
  · exact .ret _
  · apply hG.toSettleFrame.query.bind
    intro waiting
    cases waiting with
    | none => exact hadvance
    | some waiting => exact .ret _
  all_goals exact hadvance

end ExecutorFrame

/-- Events of the steps of a plan. -/
def Event.OfStep : Event → Prop
  | .gatewayRequest _ | .stepClaimed _ | .stepAt _ _ | .stepRefused _ _ => True
  | _ => False

namespace MissionExecutor

/-- An action that leaves the steps alone and shows nothing of them. -/
structure Aside (w : World) (e : Event) (w' : World) : Prop where
  steps : w'.db.steps = w.db.steps
  event : ¬e.OfStep

lemma aside_silent (w : World) : Aside w .silent w := ⟨rfl, id⟩

lemma aside_of_gateway {w w' : World} {e : Event} (hg : ToolGateway.GatewayAction w e w') :
    Aside w e w' := by
  refine ⟨hg.frame.steps, ?_⟩
  have he := hg.event
  cases e <;> simp_all [Event.OfStep, ToolGateway.OfGateway, ToolGateway.OfSafety]

lemma every_query {α : Type} {g : Moment → Database → Except PyError α} :
    Every Aside (Py.query g) :=
  Py.every_query fun w _ => aside_silent w

lemma every_planIsComplete (missionId : String) :
    Every Aside (MissionService.planIsComplete missionId) :=
  every_query.bind fun _ => .ret _

lemma every_transition (missions : MissionService) (missionId : String) (target : MissionStatus)
    (result errorState : Option Dict) :
    Every Aside (missions.transition missionId target result errorState) := by
  rw [MissionService.transition, Py.session]
  apply Py.every_transaction
  · intro w mission db hf
    obtain ⟨_, -, -, -, -, hsteps, -⟩ := MissionService.transitionTx_eq_ok hf
    exact ⟨hsteps, id⟩
  · intro w e _
    exact ⟨rfl, id⟩

variable (self : MissionExecutor)

lemma every_startQueued (mission : Mission) : Every Aside (self.startQueued mission) :=
  self.every_startQueued_of (every_transition _ _) rfl

lemma every_finish (mission : Mission) : Every Aside (self.finish mission) :=
  self.every_finish_of (every_planIsComplete _) (every_transition _ _) rfl

lemma every_complete (mission : Mission) (step : MissionStep) (outcome : ToolOutcome) :
    Every Aside (do
      if ← MissionService.planIsComplete mission.id then
        let mission ← self.missions.transition mission.id .completed
          (some [("plan_status", .str "completed")])
        return settled mission step outcome
      else return settled mission step outcome) :=
  self.every_complete_of (every_planIsComplete _) (every_transition _ _) rfl step outcome

end MissionExecutor
end AiHq
