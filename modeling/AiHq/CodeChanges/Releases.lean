import AiHq.CodeChanges.Publisher
import AiHq.CodeChanges.Service

/-!
# Releases of approved candidates

A candidate that QA has passed and a human has approved is published, deployed and rolled back, by
one call each. A call checks the delivery, asks a collaborator outside for the work, checks what it
reports, and records it.
-/

namespace AiHq

open Concurrent Relational FileSystem

/-! ### What the collaborators report -/

/-- A release that a deployer reports, within the bounds that the constructor checks. -/
structure DeployedRelease where
  repository : String
  changeRef : String
  releaseId : String
  priorReleaseId : Option String := none

/-- `DeployedRelease.__post_init__` -/
def DeployedRelease.postInit (repository changeRef releaseId : String)
    (priorReleaseId : Option String) : Except PyError DeployedRelease := do
  raiseIf (repository ∉ trustedRepositoryKeys) (.valueError "unknown deployed repository")
  raiseIf (CandidateStore.isDigest changeRef = false)
    (.valueError "change_ref must be a sha256 digest")
  raiseIf (!releaseIdValid releaseId)
    (.valueError "release id must use the trusted release identity charset")
  raiseIf (priorReleaseId.any fun releaseId => !releaseIdValid releaseId)
    (.valueError "prior release id must use the trusted release identity charset")
  return ⟨repository, changeRef, releaseId, priorReleaseId⟩

structure RollbackTarget where
  repository : String
  changeRef : String

/-- `RollbackTarget.__post_init__` -/
def RollbackTarget.postInit (repository changeRef : String) : Except PyError RollbackTarget := do
  raiseIf (repository ∉ trustedRepositoryKeys) (.valueError "unknown rollback repository")
  raiseIf (CandidateStore.isDigest changeRef = false)
    (.valueError "change_ref must be a sha256 digest")
  return ⟨repository, changeRef⟩

structure RolledBackRelease where
  repository : String
  changeRef : String
  releaseId : String

/-- `RolledBackRelease.__post_init__` -/
def RolledBackRelease.postInit (repository changeRef releaseId : String) :
    Except PyError RolledBackRelease := do
  raiseIf (repository ∉ trustedRepositoryKeys) (.valueError "unknown rollback repository")
  raiseIf (CandidateStore.isDigest changeRef = false)
    (.valueError "change_ref must be a sha256 digest")
  raiseIf (!releaseIdValid releaseId)
    (.valueError "release id must use the trusted release identity charset")
  return ⟨repository, changeRef, releaseId⟩

/-! ### Calls and their world -/

/-- The database, the files of the workspaces, and what the collaborators would report now. -/
structure ReleaseWorld where
  world : World
  files : FileTree ByteArray
  publish : PersistedCandidate → Except PyError PublishedCandidate
  deploy : PublishedCandidate → Except PyError DeployedRelease
  rollback : RollbackTarget → String → Except PyError RolledBackRelease

/-- What a call asks of a collaborator for a mission, with what it reports. -/
inductive ReleaseEvent where
  | silent
  | publish (missionId : String) (candidate : PersistedCandidate)
      (report : Except PyError PublishedCandidate)
  | deploy (missionId : String) (candidate : PublishedCandidate)
      (report : Except PyError DeployedRelease)
  | rollback (missionId : String) (target : RollbackTarget) (releaseId : String)
      (report : Except PyError RolledBackRelease)

abbrev Rel (α : Type) := Prog PyError ReleaseEvent ReleaseWorld α

namespace Rel

/-- Run what can raise outside any transaction. -/
def lift {α : Type} : Except PyError α → Rel α
  | .ok a => .ret a
  | .error e => .raise e

instance : MonadLift (Except PyError) Rel := ⟨lift⟩

/-- A service method, on the database. -/
def onDatabase {α : Type} (p : Py α) : Rel α :=
  (p.relabel fun _ => .silent).within ReleaseWorld.world fun w world => { w with world }

/-- Wait for what comes from outside the database. -/
def ask {α : Type} (ev : Except PyError α → ReleaseEvent)
    (reply : ReleaseWorld → Except PyError α) : Rel α :=
  .atomic ev fun w => (reply w).map (·, w)

end Rel

/-- The code-change service with the collaborators of its releases. -/
structure CodeChangeReleases where
  service : CodeChangeService
  candidateStore : Option CandidateStore
  publisher : Bool
  deployer : Bool
  rollbacker : Bool

namespace CodeChangeReleases

variable (self : CodeChangeReleases)

/-- What the three calls check first; the result is the repository, and the delivery once the human
decision is applied. -/
def approvedDelivery (noun missionId approvalReference changeRef : String) :
    Rel (String × Delivery) := do
  let mission ← Rel.onDatabase (MissionService.getMission missionId)
  Rel.lift (raiseIf (mission.ownerAgent ≠ "developer" ∨ mission.source ≠ "hq_chat_code_change")
    (.valueError "mission is not an HQ code change"))
  let repository ← Rel.lift (match mission.objectives with
    | [] => .error (.valueError "code-change mission has no repository")
    | objective :: _ => CodeChangeService.trustedRepository objective)
  let delivery ← Rel.onDatabase (DeliveryService.getDelivery missionId)
  Rel.lift do
    raiseIf (delivery.qaResult ≠ some .passed)
      (.valueError ("QA must pass before candidate " ++ noun))
    raiseIf (delivery.stage ≠ .waitingApproval)
      (.valueError ("candidate is not waiting for approved " ++ noun))
    raiseIf (delivery.approvalReference ≠ some approvalReference)
      (.valueError "approval reference does not match delivery")
    raiseIf (delivery.changeRef ≠ changeRef)
      (.valueError "change_ref does not match approved proposal")
  let decided ← Rel.onDatabase
    (DeliveryService.applyHumanDecision missionId approvalReference changeRef)
  Rel.lift (raiseIf (decided.stage ≠ .waitingApproval ∨ decided.qaResult ≠ some .passed ∨
      decided.approvalReference ≠ some approvalReference)
    (.valueError ("approved human approval is required for " ++ noun)))
  return (repository, decided)

/-- The candidate of the delivery, verified again. -/
def loadCandidate (store : CandidateStore) (missionId changeRef repository : String)
    (decided : Delivery) : Rel PersistedCandidate := do
  let candidate ← Rel.ask (fun _ => .silent) fun w =>
    store.loadVerified w.files missionId changeRef decided.changedFiles decided.developerEvidence
  Rel.lift do
    raiseIf (candidate.repository ≠ repository)
      (.valueError "candidate repository does not match mission repository")
    raiseIf (candidate.changeRef ≠ changeRef)
      (.valueError "candidate change_ref does not match approved proposal")
  return candidate

def result (missionId repository : String) : Rel CodeChangeResult :=
  Rel.onDatabase (self.service.resultForMission missionId repository)

def publishApprovedCandidate (missionId approvalReference changeRef : String) :
    Rel CodeChangeResult := do
  let (repository, decided) ← approvedDelivery "publication" missionId approvalReference changeRef
  if decided.publishedBranch.isSome ∧ decided.publishedCommit.isSome ∧
      decided.publishedTree.isSome then
    self.result missionId repository
  else do
    Rel.lift (raiseIf (decided.publishedBranch.isSome ∨ decided.publishedCommit.isSome ∨
        decided.publishedTree.isSome)
      (.valueError "persisted publication identity is incomplete"))
    match self.candidateStore, self.publisher with
    | some store, true => do
      let candidate ← loadCandidate store missionId changeRef repository decided
      let published ← Rel.ask (.publish missionId candidate) fun w => w.publish candidate
      Rel.lift do
        raiseIf (published.repository ≠ repository)
          (.valueError "published repository does not match candidate")
        raiseIf (published.changeRef ≠ changeRef)
          (.valueError "published change_ref does not match candidate")
        raiseIf (published.baseCommit ≠ candidate.baseCommit)
          (.valueError "published base commit does not match candidate")
      let _ ← Rel.onDatabase (DeliveryService.recordPublication missionId changeRef
        published.branchName published.commitSha published.treeSha)
      self.result missionId repository
    | _, _ => throw (.runtimeError "code-change publication is not configured")

/-- The publication that a delivery records. -/
def recordedPublication (noun : String) (decided : Delivery) :
    Except PyError (String × String × String) :=
  match decided.publishedBranch, decided.publishedCommit, decided.publishedTree with
  | some branch, some commit, some tree => .ok (branch, commit, tree)
  | _, _, _ => .error (.valueError ("candidate must be published before " ++ noun))

def deployApprovedCandidate (missionId approvalReference changeRef : String) :
    Rel CodeChangeResult := do
  let (repository, decided) ← approvedDelivery "deployment" missionId approvalReference changeRef
  let (branch, commit, tree) ← Rel.lift (recordedPublication "deployment" decided)
  if decided.deploymentReleaseId.isSome ∨ decided.deploymentPriorReleaseId.isSome then
    self.result missionId repository
  else
    match self.candidateStore, self.deployer with
    | some store, true => do
      let candidate ← loadCandidate store missionId changeRef repository decided
      let published ← Rel.lift (PublishedCandidate.postInit repository changeRef branch commit tree
        candidate.baseCommit)
      let deployed ← Rel.ask (.deploy missionId published) fun w => w.deploy published
      Rel.lift do
        raiseIf (deployed.repository ≠ repository)
          (.valueError "deployed repository does not match candidate")
        raiseIf (deployed.changeRef ≠ changeRef)
          (.valueError "deployed change_ref does not match candidate")
      let _ ← Rel.onDatabase (DeliveryService.recordDeployment missionId changeRef
        deployed.releaseId deployed.priorReleaseId)
      self.result missionId repository
    | _, _ => throw (.runtimeError "code-change deployment is not configured")

/-- The release that a deployed delivery can go back to. -/
def priorRelease (decided : Delivery) : Except PyError String :=
  match decided.deploymentReleaseId, decided.deploymentPriorReleaseId with
  | none, _ => .error (.valueError "candidate must be deployed before rollback")
  | some _, none => .error (.valueError "no prior known-good release is recorded for rollback")
  | some _, some prior => .ok prior

def rollbackApprovedDeployment (missionId approvalReference changeRef : String) :
    Rel CodeChangeResult := do
  let (repository, decided) ← approvedDelivery "rollback" missionId approvalReference changeRef
  let _ ← Rel.lift (recordedPublication "rollback" decided)
  let prior ← Rel.lift (priorRelease decided)
  match decided.rollbackReleaseId with
  | some existing => do
    Rel.lift (raiseIf (existing ≠ prior)
      (.valueError "rollback identity does not match persisted rollback"))
    self.result missionId repository
  | none => do
    Rel.lift (raiseIf (!self.rollbacker) (.runtimeError "code-change rollback is not configured"))
    let target ← Rel.lift (RollbackTarget.postInit repository changeRef)
    let rolledBack ← Rel.ask (.rollback missionId target prior) fun w => w.rollback target prior
    Rel.lift do
      raiseIf (rolledBack.repository ≠ repository)
        (.valueError "rolled back repository does not match candidate")
      raiseIf (rolledBack.changeRef ≠ changeRef)
        (.valueError "rolled back change_ref does not match candidate")
      raiseIf (rolledBack.releaseId ≠ prior)
        (.valueError "rolled back release does not match persisted history")
    let _ ← Rel.onDatabase (DeliveryService.recordRollback missionId changeRef
      rolledBack.releaseId)
    self.result missionId repository

end CodeChangeReleases
end AiHq
