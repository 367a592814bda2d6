import AiHq.Delivery.AgentRunner

/-!
# The code-change service

A code change is queued as a mission, and a worker that has claimed it prepares its candidate:
the developer proposes, QA reviews, and the mission waits for approval or is completed. Between
its stages the worker renews its lease.
-/

namespace AiHq

open Concurrent Relational

def highRiskAiHqPrefixes : List String :=
  ["src/ai_hq/auth/", "src/ai_hq/approvals/", "src/ai_hq/tool_gateway/", "src/ai_hq/host_helper/",
    "deploy/"]

def highRiskAiHqExactFiles : List String :=
  ["src/ai_hq/delivery/repository_sandbox.py", "src/ai_hq/delivery/repository_profiles.py",
    "src/ai_hq/delivery/candidate_verifier.py"]

structure QueuedCodeChange where
  missionId : String
  repository : String

structure CodeChangeResult where
  missionId : String
  repository : String
  summary : String
  changeRef : String
  changedFiles : List Json
  developerEvidence : Dict
  qaResult : Option QAResult
  qaEvidence : Dict
  approvalReference : Option String
  readyForApproval : Bool
  highRisk : Bool
  repositoryDescription : String
  published : Bool
  deployed : Bool
  deploymentReleaseId : Option String
  deploymentPriorReleaseId : Option String
  rolledBack : Bool
  rollbackReleaseId : Option String

structure CodeChangeService where
  missions : MissionService
  delivery : DeliveryService
  runner : DeliveryAgentRunner
  repositoryDescriptions : List (String × String)

namespace CodeChangeService

/-- `_trusted_repository` -/
def trustedRepository : Json → Except PyError String
  | .str repository => do
    let repository := strip repository
    raiseIf (repository ∉ trustedRepositoryKeys)
      (.valueError "code change requires a trusted repository: ai-hq or dripvid")
    return repository
  | _ => .error (.valueError "code change requires a trusted repository")

/-- `_instruction` -/
def instruction : Json → Except PyError String
  | .str text => do
    let text := strip text
    raiseIf (text = "") (.valueError "code change instruction is required")
    return text
  | _ => .error (.valueError "code change instruction is required")

/-- `_high_risk`; the changed files of a delivery are texts. -/
def highRisk (repository : String) (changedFiles : List Json) : Bool :=
  repository = "ai-hq" && changedFiles.any fun
    | .str path => path ∈ highRiskAiHqExactFiles ||
        highRiskAiHqPrefixes.any fun stem => stem.toList.isPrefixOf path.toList
    | _ => false

variable (self : CodeChangeService)

def queueCandidate (repository text : Json) : Py QueuedCodeChange := do
  let repository ← trustedRepository repository
  let text ← instruction text
  let mission ← self.missions.createMission ("Code change: " ++ repository) text "developer"
    "hq_chat_code_change" .normal .amber (some [.str repository, .str text]) (some [])
  return { missionId := mission.id, repository }

/-- What `_result_for_mission` makes of a delivery. -/
def resultOf (missionId repository : String) (delivery : Delivery) : CodeChangeResult where
  missionId := missionId
  repository := repository
  summary := delivery.summary
  changeRef := delivery.changeRef
  changedFiles := delivery.changedFiles
  developerEvidence := delivery.developerEvidence
  qaResult := delivery.qaResult
  qaEvidence := delivery.qaEvidence.getD []
  approvalReference := delivery.approvalReference
  readyForApproval := delivery.qaResult = some .passed && given delivery.approvalReference
  highRisk := highRisk repository delivery.changedFiles
  repositoryDescription := (self.repositoryDescriptions.lookup repository).getD ""
  published := delivery.publishedBranch.isSome && delivery.publishedCommit.isSome &&
    delivery.publishedTree.isSome
  deployed := delivery.deploymentReleaseId.isSome
  deploymentReleaseId := delivery.deploymentReleaseId
  deploymentPriorReleaseId := delivery.deploymentPriorReleaseId
  rolledBack := delivery.rollbackReleaseId.isSome
  rollbackReleaseId := delivery.rollbackReleaseId

def resultForMission (missionId repository : String) : Py CodeChangeResult := do
  let finalDelivery ← DeliveryService.getDelivery missionId
  return self.resultOf missionId repository finalDelivery

def candidateResult (missionId : String) : Py CodeChangeResult := do
  let mission ← MissionService.getMission missionId
  raiseIf (mission.ownerAgent ≠ "developer" ∨ mission.source ≠ "hq_chat_code_change")
    (.valueError "mission is not an HQ code change")
  match mission.objectives with
  | [] => throw (.valueError "code-change mission has no repository")
  | objective :: _ => do
    let repository ← trustedRepository objective
    self.resultForMission mission.id repository

def renewWorkerLease (missionId : String) (leaseOwner : Option String) (leaseSeconds : ℤ) :
    Py Unit :=
  match leaseOwner with
  | none => return ()
  | some workerId => do
    let renewed ← MissionService.renewCodeChangeLease missionId workerId leaseSeconds
    raiseIf (!renewed) (.runtimeError "code-change lease was lost")

/-! ### Preparing a candidate -/

/-- The delivery that is there already; `KeyError` stands for none. -/
def existingDelivery (missionId : String) : Py (Option Delivery) :=
  tryCatch (some <$> DeliveryService.getDelivery missionId) fun
    | .keyError _ => return none
    | error => throw error

/-- The developer's delivery: the one that is there already, or a new one. -/
def developerDelivery (missionId : String) (leaseOwner : Option String) (leaseSeconds : ℤ)
    (existing : Option Delivery) : Py Delivery :=
  match existing with
  | some delivery => return delivery
  | none => do
    renewWorkerLease missionId leaseOwner leaseSeconds
    let _ ← self.runner.runDeveloper missionId
    DeliveryService.getDelivery missionId

/-- QA, if it is due. -/
def qaDelivery (missionId : String) (leaseOwner : Option String) (leaseSeconds : ℤ)
    (delivery : Delivery) : Py Unit :=
  if delivery.stage = .qa ∧ delivery.qaResult = none then do
    renewWorkerLease missionId leaseOwner leaseSeconds
    let _ ← self.runner.runQa delivery
    return ()
  else return ()

def runExistingMission (missionId repository : String) (leaseOwner : Option String := none)
    (leaseSeconds : ℤ := 900) (resumeExisting : Bool := false) : Py CodeChangeResult := do
  let _ ← .outside .runnerFactory
  let existing ← bif resumeExisting then existingDelivery missionId else return none
  let delivery ← self.developerDelivery missionId leaseOwner leaseSeconds existing
  self.qaDelivery missionId leaseOwner leaseSeconds delivery
  self.resultForMission missionId repository

/-! ### Processing a queued candidate -/

/-- What comes before the preparation, by the status of the mission. -/
def start (mission : Mission) (leaseOwner : Option String) (leaseSeconds : ℤ) : Py Unit :=
  match mission.status, leaseOwner with
  | .queued, some _ => throw (.valueError "leased code change must already be running")
  | .queued, none => do
    let _ ← self.missions.transition mission.id .running
    return ()
  | .running, none => return ()
  | .running, some workerId => do
    raiseIf (mission.leaseOwner ≠ some workerId) (.valueError "code-change lease owner mismatch")
    let renewed ← MissionService.renewCodeChangeLease mission.id workerId leaseSeconds
    raiseIf (!renewed) (.runtimeError "code-change lease was lost")
  | _, _ => throw (.valueError "queued code change is not runnable")

def releaseLease (missionId : String) : Option String → Py Unit
  | none => return ()
  | some workerId => do
    let _ ← MissionService.releaseCodeChangeLease missionId workerId
    return ()

/-- Record the result on the mission, as its status now asks for. -/
def recordOutcome (missionId repository : String) (result : CodeChangeResult) : Py Unit := do
  let target : MissionStatus := if result.readyForApproval then .waitingApproval else .completed
  let payload : Dict :=
    [("repository", .str repository), ("change_ref", .str result.changeRef),
      ("ready_for_approval", .bool result.readyForApproval)]
  let current ← MissionService.getMission missionId
  if current.status = target then do
    let _ ← MissionService.recordResult missionId payload
    return ()
  else if current.status = .running then do
    let _ ← self.missions.transition missionId target (some payload)
    return ()
  else throw (.runtimeError "code-change mission changed state during preparation")

/-- The body of the `try`. -/
def prepare (missionId repository : String) (leaseOwner : Option String) (leaseSeconds : ℤ) :
    Py CodeChangeResult := do
  let result ← self.runExistingMission missionId repository leaseOwner leaseSeconds true
  self.recordOutcome missionId repository result
  releaseLease missionId leaseOwner
  return result

def preparationFailed : Dict :=
  [("code", .str "code_change_preparation_failed"),
    ("message", .str "Code-change candidate preparation failed.")]

/-- The handler of the `try`: a mission that is RUNNING fails, whoever holds its lease. -/
def failPreparation (missionId : String) (leaseOwner : Option String) (error : PyError) :
    Py CodeChangeResult := do
  let current ← MissionService.getMission missionId
  if current.status = .running then do
    let _ ← self.missions.transition missionId .failed none (some preparationFailed)
    releaseLease missionId leaseOwner
    throw error
  else do
    releaseLease missionId leaseOwner
    throw error

/-- The repository of a code change that is in the queue. -/
def queuedRepository (mission : Mission) : Except PyError String := do
  raiseIf (mission.ownerAgent ≠ "developer" ∨ mission.source ≠ "hq_chat_code_change")
    (.valueError "mission is not a queued HQ code change")
  match mission.objectives with
  | [] => .error (.valueError "queued code change has no repository")
  | objective :: _ => trustedRepository objective

def processQueuedCandidate (missionId : String) (leaseOwner : Option String := none)
    (leaseSeconds : ℤ := 900) : Py CodeChangeResult := do
  let mission ← MissionService.getMission missionId
  let repository ← queuedRepository mission
  if mission.status = .waitingApproval ∨ mission.status = .completed then
    self.resultForMission mission.id repository
  else do
    self.start mission leaseOwner leaseSeconds
    tryCatch (self.prepare mission.id repository leaseOwner leaseSeconds)
      (self.failPreparation mission.id leaseOwner)

end CodeChangeService

/-! ### The worker -/

structure CodeChangeQueueRunner where
  service : CodeChangeService
  workerId : String
  leaseSeconds : ℤ := 900

namespace CodeChangeQueueRunner

variable (self : CodeChangeQueueRunner)

/-- `run_once` on a mission service, which has atomic claims. -/
def runOnce : Py (Option CodeChangeResult) := do
  let claimed ← MissionService.claimOldestCodeChange self.workerId self.leaseSeconds
  match claimed with
  | none => return none
  | some mission => do
    let result ← self.service.processQueuedCandidate mission.id (some self.workerId)
      self.leaseSeconds
    return some result

end CodeChangeQueueRunner
end AiHq
