import AiHq.Approvals.Service
import AiHq.Missions.Service

/-!
# The delivery service

The handoff of a change from the developer over QA to a human decision, and the record of its
publication, deployment and rollback.
-/

namespace AiHq

open Concurrent Relational

/-- `_approval_expired` -/
def approvalExpired (expiresAt now : Datetime) : Bool := expiresAt ≤ now

/-- `_GIT_SHA_RE` -/
def isGitSha (s : String) : Bool :=
  s.toList.length = 40 && s.toList.all fun c => c.isDigit || ('a' ≤ c && c ≤ 'f')

def publishBranchPrefix : String := "ai-hq/candidate/"

/-- `_release_id_valid` -/
def releaseIdValid (releaseId : String) : Bool :=
  releaseId.toList.length ≤ 128 && releaseId ≠ "" &&
    releaseId.toList.all fun c => c.isAlphanum || c = '.' || c = '_' || c = '-'

/-- Whether an optional text is there and not empty. -/
def given (text : Option String) : Bool := text.any fun s => s ≠ ""

structure DeliveryService where
  approvals : ApprovalService

namespace DeliveryService

variable (self : DeliveryService)

/-! ### Reading -/

def getDeliveryTx (missionId : String) (db : Database) : Except PyError Delivery :=
  match db.deliveries.get? missionId with
  | none => .error (.keyError ("delivery not found for mission: " ++ missionId))
  | some delivery => .ok delivery

def getDelivery (missionId : String) : Py Delivery := .query fun _ => getDeliveryTx missionId

/-! ### Developer and QA -/

def submitDeveloperProposalTx (missionId changeRef summary : String) (changedFiles : List Json)
    (evidence : Dict) (db : Database) : Except PyError (Delivery × Database) := do
  let mission ← MissionService.getMissionTx missionId db
  raiseIf (db.deliveries.get? missionId).isSome
    (.valueError "mission already has a developer proposal")
  let mission := if mission.status = .queued then { mission with status := .running } else mission
  raiseIf (mission.status ≠ .running)
    (.valueError "mission must be QUEUED or RUNNING for developer submission")
  let delivery : Delivery :=
    { missionId, stage := .qa, changeRef, summary, changedFiles, developerEvidence := evidence }
  match db.deliveries.insert? delivery with
  | none => .error .integrityError
  | some deliveries =>
    return (delivery, { db with missions := db.missions.set mission, deliveries })

def submitDeveloperProposal (missionId changeRef summary : String) (changedFiles : List Json)
    (evidence : Dict) : Py Delivery := do
  raiseIf (strip changeRef = "") (.valueError "change_ref is required")
  raiseIf (strip summary = "") (.valueError "summary is required")
  .session fun _ => submitDeveloperProposalTx missionId changeRef summary changedFiles evidence

/-- The action plan that QA asks a human to approve. -/
def approvalPlan (delivery : Delivery) (qaEvidence : Dict) : Dict :=
  [("change_ref", .str delivery.changeRef), ("summary", .str delivery.summary),
    ("changed_files", .list delivery.changedFiles),
    ("developer_evidence", .obj delivery.developerEvidence), ("qa_evidence", .obj qaEvidence)]

/-- The entry that a mission keeps of an approval that has been asked for. -/
def approvalEntry (reference changeRef : String) : Json :=
  .obj [("approval_reference", .str reference), ("change_ref", .str changeRef)]

def recordQaResultTx (missionId changeRef : String) (result : QAResult) (evidence : Dict)
    (m : Moment) (db : Database) : Except PyError (Delivery × Database) := do
  let mission ← MissionService.getMissionTx missionId db
  let delivery ← getDeliveryTx missionId db
  raiseIf (delivery.stage ≠ .qa) (.valueError "delivery is not awaiting QA")
  raiseIf (delivery.changeRef ≠ changeRef)
    (.valueError "change_ref does not match developer proposal")
  let delivery := { delivery with qaResult := some result, qaEvidence := some evidence }
  match result with
  | .failed =>
    let delivery := { delivery with stage := .developer, approvalReference := none }
    return (delivery, { db with deliveries := db.deliveries.set delivery })
  | .passed => do
    raiseIf (mission.status ≠ .running) (.valueError "mission must be RUNNING before approval")
    let (approval, db) ← self.approvals.createRequestTx mission.id "qa" "approve_delivery_change"
      delivery.changeRef mission.risk (approvalPlan delivery evidence) (m.now + hours 24) m db
    let delivery :=
      { delivery with stage := .waitingApproval, approvalReference := some approval.id }
    let mission :=
      { mission with
        status := .waitingApproval
        approvalReferences :=
          mission.approvalReferences ++ [approvalEntry approval.id delivery.changeRef] }
    return (delivery,
      { db with missions := db.missions.set mission, deliveries := db.deliveries.set delivery })

def recordQaResult (missionId changeRef : String) (result : QAResult) (evidence : Dict) :
    Py Delivery :=
  .transaction 1 (self.recordQaResultTx missionId changeRef result evidence)

/-! ### Publication, deployment and rollback -/

/-- The checks on the delivery of a candidate, up to its approval reference; `noun` is what is
to be recorded. -/
def candidateTx (noun missionId changeRef : String) (db : Database) :
    Except PyError Delivery := do
  let _ ← MissionService.getMissionTx missionId db
  let delivery ← getDeliveryTx missionId db
  raiseIf (delivery.changeRef ≠ changeRef)
    (.valueError ("change_ref does not match " ++ noun ++ " candidate"))
  raiseIf (delivery.stage ≠ .waitingApproval)
    (.valueError ("delivery is not waiting for " ++ noun ++ " approval"))
  raiseIf (delivery.qaResult ≠ some .passed)
    (.valueError ("QA must pass before " ++ noun))
  raiseIf (!given delivery.approvalReference)
    (.valueError (noun ++ " requires human approval"))
  return delivery

/-- Whether the action plan of an approval is for the change. -/
def planMatches (approval : ApprovalRequest) (changeRef : String) : Bool :=
  (Dict.get approval.actionPlan "change_ref").any fun value => Json.pyEq value (.str changeRef)

/-- The checks on the approval of a candidate. -/
def approvedTx (noun missionId changeRef : String) (delivery : Delivery) (now : Datetime)
    (db : Database) : Except PyError Unit := do
  let approval ← ApprovalService.getRequestTx (delivery.approvalReference.getD "") db
  raiseIf (approval.missionId ≠ missionId)
    (.valueError ("approval mission does not match " ++ noun))
  raiseIf (approval.target ≠ changeRef) (.valueError "approval target does not match change_ref")
  raiseIf (!planMatches approval changeRef)
    (.valueError "approval action plan does not match change_ref")
  raiseIf (approvalExpired approval.expiresAt now) (.valueError (noun ++ " approval expired"))
  raiseIf (approval.state ≠ .approved)
    (.valueError (noun ++ " requires approved human approval"))

/-- A candidate must be published before what `noun` names. -/
def publishedTx (noun : String) (delivery : Delivery) : Except PyError Unit :=
  raiseIf (!(given delivery.publishedBranch && given delivery.publishedCommit &&
    given delivery.publishedTree)) (.valueError ("candidate must be published before " ++ noun))

def recordPublicationTx (missionId changeRef branchName commitSha treeSha : String) (m : Moment)
    (db : Database) : Except PyError (Delivery × Database) := do
  let delivery ← candidateTx "publication" missionId changeRef db
  approvedTx "publication" missionId changeRef delivery m.now db
  if delivery.publishedBranch.isSome ∨ delivery.publishedCommit.isSome ∨
      delivery.publishedTree.isSome then do
    raiseIf (delivery.publishedBranch ≠ some branchName ∨
        delivery.publishedCommit ≠ some commitSha ∨ delivery.publishedTree ≠ some treeSha ∨
        delivery.publishedAt = none)
      (.valueError "publication identity does not match persisted publication")
    return (delivery, db)
  else
    let delivery :=
      { delivery with
        publishedBranch := some branchName
        publishedCommit := some commitSha
        publishedTree := some treeSha
        publishedAt := some m.now }
    return (delivery, { db with deliveries := db.deliveries.set delivery })

def recordPublication (missionId changeRef branchName commitSha treeSha : String) :
    Py Delivery := do
  raiseIf (!publishBranchPrefix.toList.isPrefixOf branchName.toList)
    (.valueError "publication branch must use generated candidate namespace")
  raiseIf (!isGitSha commitSha) (.valueError "publication commit must be a Git SHA")
  raiseIf (!isGitSha treeSha) (.valueError "publication tree must be a Git SHA")
  .session (recordPublicationTx missionId changeRef branchName commitSha treeSha)

def recordDeploymentTx (missionId changeRef releaseId : String) (priorReleaseId : Option String)
    (m : Moment) (db : Database) : Except PyError (Delivery × Database) := do
  let delivery ← candidateTx "deployment" missionId changeRef db
  publishedTx "deployment" delivery
  approvedTx "deployment" missionId changeRef delivery m.now db
  if delivery.deploymentReleaseId.isSome ∨ delivery.deploymentPriorReleaseId.isSome then do
    raiseIf (delivery.deploymentReleaseId ≠ some releaseId ∨
        delivery.deploymentPriorReleaseId ≠ priorReleaseId ∨ delivery.deployedAt = none)
      (.valueError "deployment identity does not match persisted deployment")
    return (delivery, db)
  else
    let delivery :=
      { delivery with
        deploymentReleaseId := some releaseId
        deploymentPriorReleaseId := priorReleaseId
        deployedAt := some m.now }
    return (delivery, { db with deliveries := db.deliveries.set delivery })

def recordDeployment (missionId changeRef releaseId : String)
    (priorReleaseId : Option String := none) : Py Delivery := do
  raiseIf (!releaseIdValid releaseId)
    (.valueError "release id must use the trusted release identity charset")
  raiseIf (priorReleaseId.any fun releaseId => !releaseIdValid releaseId)
    (.valueError "prior release id must use the trusted release identity charset")
  .session (recordDeploymentTx missionId changeRef releaseId priorReleaseId)

def recordRollbackTx (missionId changeRef releaseId : String) (m : Moment) (db : Database) :
    Except PyError (Delivery × Database) := do
  let delivery ← candidateTx "rollback" missionId changeRef db
  publishedTx "rollback" delivery
  raiseIf (!given delivery.deploymentReleaseId)
    (.valueError "candidate must be deployed before rollback")
  raiseIf (!given delivery.deploymentPriorReleaseId)
    (.valueError "no prior known-good release is recorded for rollback")
  raiseIf (delivery.deploymentPriorReleaseId ≠ some releaseId)
    (.valueError "rollback release must resolve from trusted deployment history")
  approvedTx "rollback" missionId changeRef delivery m.now db
  if delivery.rollbackReleaseId.isSome ∨ delivery.rolledBackAt.isSome then do
    raiseIf (delivery.rollbackReleaseId ≠ some releaseId ∨ delivery.rolledBackAt = none)
      (.valueError "rollback identity does not match persisted rollback")
    return (delivery, db)
  else
    let delivery :=
      { delivery with
        rollbackReleaseId := some releaseId
        rolledBackAt := some m.now }
    return (delivery, { db with deliveries := db.deliveries.set delivery })

def recordRollback (missionId changeRef releaseId : String) : Py Delivery := do
  raiseIf (!releaseIdValid releaseId)
    (.valueError "release id must use the trusted release identity charset")
  .session (recordRollbackTx missionId changeRef releaseId)

/-! ### The human decision -/

/-- The checks that the decision is for exactly the delivery; the result is the approval. -/
def decisionTx (missionId approvalReference changeRef : String) (now : Datetime)
    (db : Database) : Except PyError (Mission × Delivery × ApprovalRequest) := do
  let mission ← MissionService.getMissionTx missionId db
  let delivery ← getDeliveryTx missionId db
  raiseIf (delivery.stage ≠ .waitingApproval)
    (.valueError "delivery is not waiting for human approval")
  raiseIf (delivery.approvalReference ≠ some approvalReference)
    (.valueError "approval reference does not match delivery")
  raiseIf (delivery.changeRef ≠ changeRef)
    (.valueError "change_ref does not match approved proposal")
  let approval ← ApprovalService.getRequestTx approvalReference db
  raiseIf (approval.missionId ≠ missionId)
    (.valueError "approval mission does not match delivery")
  raiseIf (approval.target ≠ delivery.changeRef)
    (.valueError "approval target does not match change_ref")
  raiseIf (!planMatches approval delivery.changeRef)
    (.valueError "approval action plan does not match change_ref")
  raiseIf (approvalExpired approval.expiresAt now) (.valueError "approval request expired")
  return (mission, delivery, approval)

def applyHumanDecisionTx (missionId approvalReference changeRef : String) (m : Moment)
    (db : Database) : Except PyError (Delivery × Database) := do
  let (mission, delivery, approval) ← decisionTx missionId approvalReference changeRef m.now db
  match approval.state with
  | .pending => .error (.valueError "approval request has not been decided")
  | .approved => return (delivery, db)
  | .denied | .cancelled =>
    let delivery := { delivery with stage := .developer, approvalReference := none }
    -- whatever the status of the mission is
    let mission := { mission with status := .running }
    return (delivery,
      { db with missions := db.missions.set mission, deliveries := db.deliveries.set delivery })

def applyHumanDecision (missionId approvalReference changeRef : String) : Py Delivery :=
  .session (applyHumanDecisionTx missionId approvalReference changeRef)

/-! ### What the transactions do -/

section Transactions

variable {self : DeliveryService} {db db' : Database} {m : Moment} {missionId changeRef : String}
  {delivery : Delivery}

lemma getDeliveryTx_eq_ok : getDeliveryTx missionId db = .ok delivery ↔
    db.deliveries.get? missionId = some delivery := by
  unfold getDeliveryTx
  split <;> simp_all

/-- A proposal is a new delivery for QA, and a queued mission starts. -/
lemma submitDeveloperProposalTx_eq_ok {summary : String} {changedFiles : List Json}
    {evidence : Dict}
    (h : submitDeveloperProposalTx missionId changeRef summary changedFiles evidence db
      = .ok (delivery, db')) :
    ∃ mission deliveries, db.missions.get? missionId = some mission ∧
      (mission.status = .queued ∨ mission.status = .running) ∧
      delivery =
        { missionId, stage := .qa, changeRef, summary, changedFiles,
          developerEvidence := evidence } ∧
      db.deliveries.insert? delivery = some deliveries ∧
      db' = { db with
        missions := db.missions.set { mission with status := .running }, deliveries } := by
  simp only [submitDeveloperProposalTx, bind_eq_ok, raiseIf_eq_ok,
    MissionService.getMissionTx_eq_ok] at h
  obtain ⟨mission, hm, _, -, _, hstatus, h⟩ := h
  split at h
  · cases h
  · next deliveries hinsert =>
    cases h
    by_cases hq : mission.status = .queued
    · exact ⟨mission, deliveries, hm, .inl hq, rfl, hinsert, by rw [if_pos hq]⟩
    · rw [if_neg hq] at hstatus
      have hr : mission.status = .running := not_not.mp hstatus
      refine ⟨mission, deliveries, hm, .inr hr, rfl, hinsert, ?_⟩
      rw [if_neg hq, ← hr]

/-- QA either sends the delivery back to the developer, or asks for an approval of the change. -/
lemma recordQaResultTx_eq_ok {result : QAResult} {evidence : Dict} {delivery' : Delivery}
    (h : self.recordQaResultTx missionId changeRef result evidence m db = .ok (delivery', db')) :
    ∃ mission delivery, db.missions.get? missionId = some mission ∧
      db.deliveries.get? missionId = some delivery ∧ delivery.stage = .qa ∧
      ((result = .failed ∧
          delivery' = { delivery with
            qaResult := some .failed, qaEvidence := some evidence, stage := .developer,
            approvalReference := none } ∧
          db' = { db with deliveries := db.deliveries.set delivery' }) ∨
        ∃ approval approvals, result = .passed ∧ mission.status = .running ∧
          approval.missionId = mission.id ∧ approval.target = delivery.changeRef ∧
          db.approvals.insert? approval = some approvals ∧
          delivery' = { delivery with
            qaResult := some .passed, qaEvidence := some evidence, stage := .waitingApproval,
            approvalReference := some approval.id } ∧
          db' = { db with
            missions := db.missions.set { mission with
              status := .waitingApproval
              approvalReferences := mission.approvalReferences ++
                [approvalEntry approval.id delivery.changeRef] }
            deliveries := db.deliveries.set delivery'
            approvals }) := by
  simp only [recordQaResultTx, bind_eq_ok, raiseIf_eq_ok, MissionService.getMissionTx_eq_ok,
    getDeliveryTx_eq_ok] at h
  obtain ⟨mission, hm, delivery, hd, _, hstage, _, hchange, h⟩ := h
  refine ⟨mission, delivery, hm, hd, not_not.mp hstage, ?_⟩
  cases result with
  | failed =>
    cases h
    exact .inl ⟨rfl, rfl, rfl⟩
  | passed =>
    simp only [bind_eq_ok, raiseIf_eq_ok] at h
    obtain ⟨_, hstatus, ⟨approval, db₁⟩, hcreate, h⟩ := h
    obtain ⟨happroval, approvals, hinsert, rfl⟩ := ApprovalService.createRequestTx_eq_ok hcreate
    cases h
    refine .inr ⟨approval, approvals, rfl, not_not.mp hstatus, ?_, ?_, hinsert, rfl, rfl⟩
    · rw [happroval]
    · rw [happroval]

/-- The delivery waits under an approval that is granted and has not expired at `now`. -/
structure Authorized (db : Database) (now : Datetime) (delivery : Delivery) : Prop where
  stage : delivery.stage = .waitingApproval
  approval : ∃ reference approval, delivery.approvalReference = some reference ∧
    db.approvals.get? reference = some approval ∧ approval.missionId = delivery.missionId ∧
    approval.target = delivery.changeRef ∧ approval.state = .approved ∧ now < approval.expiresAt

lemma candidateTx_eq_ok {noun : String} (h : candidateTx noun missionId changeRef db = .ok delivery) :
    db.deliveries.get? missionId = some delivery ∧ delivery.changeRef = changeRef ∧
      delivery.stage = .waitingApproval ∧ given delivery.approvalReference = true := by
  simp only [candidateTx, bind_eq_ok, raiseIf_eq_ok, getDeliveryTx_eq_ok, not_not] at h
  obtain ⟨_, -, found, hd, _, hchange, _, hstage, _, -, _, hgiven, h⟩ := h
  cases h
  exact ⟨hd, hchange, hstage, by simpa using hgiven⟩

lemma authorized_of_approvedTx {noun : String} {now : Datetime} {u : Unit}
    (hd : db.deliveries.get? missionId = some delivery) (hchange : delivery.changeRef = changeRef)
    (hstage : delivery.stage = .waitingApproval) (hgiven : given delivery.approvalReference = true)
    (h : approvedTx noun missionId changeRef delivery now db = .ok u) :
    Authorized db now delivery := by
  simp only [approvedTx, bind_eq_ok, raiseIf_eq_ok, ApprovalService.getRequestTx_eq_ok,
    not_not] at h
  obtain ⟨approval, happroval, _, hmission, _, htarget, _, -, _, hexpired, hstate⟩ := h
  obtain ⟨reference, href⟩ : ∃ reference, delivery.approvalReference = some reference := by
    rw [given, Option.any_eq_true] at hgiven
    obtain ⟨reference, href, -⟩ := hgiven
    exact ⟨reference, href⟩
  rw [href, Option.getD_some] at happroval
  obtain rfl : delivery.missionId = missionId := Table.key_of_get? hd
  refine ⟨hstage, reference, approval, href, happroval, hmission, htarget.trans hchange.symm,
    hstate, ?_⟩
  simpa [approvalExpired] using hexpired

/-- A publication is recorded once, under an approval in force. -/
lemma recordPublicationTx_eq_ok {branchName commitSha treeSha : String}
    (h : recordPublicationTx missionId changeRef branchName commitSha treeSha m db
      = .ok (delivery, db')) :
    ∃ old, db.deliveries.get? missionId = some old ∧ Authorized db m.now old ∧
      ((delivery = old ∧ db' = db) ∨
        (old.publishedBranch = none ∧
          delivery = { old with
            publishedBranch := some branchName, publishedCommit := some commitSha,
            publishedTree := some treeSha, publishedAt := some m.now } ∧
          db' = { db with deliveries := db.deliveries.set delivery })) := by
  simp only [recordPublicationTx, bind_eq_ok] at h
  obtain ⟨old, hcandidate, _, happroved, h⟩ := h
  obtain ⟨hd, hchange, hstage, hgiven⟩ := candidateTx_eq_ok hcandidate
  refine ⟨old, hd, authorized_of_approvedTx hd hchange hstage hgiven happroved, ?_⟩
  split_ifs at h with hset
  · simp only [bind_eq_ok] at h
    obtain ⟨_, -, h⟩ := h
    cases h
    exact .inl ⟨rfl, rfl⟩
  · cases h
    simp only [not_or, Bool.not_eq_true, Option.isSome_eq_false_iff, Option.isNone_iff_eq_none]
      at hset
    exact .inr ⟨hset.1, rfl, rfl⟩

lemma publishedTx_eq_ok {noun : String} {u : Unit} (h : publishedTx noun delivery = .ok u) :
    delivery.publishedBranch ≠ none := by
  simp only [publishedTx, raiseIf_eq_ok] at h
  intro hnone
  simp [given, hnone] at h

/-- A deployment is recorded once, of a published candidate under an approval in force. -/
lemma recordDeploymentTx_eq_ok {releaseId : String} {priorReleaseId : Option String}
    (h : recordDeploymentTx missionId changeRef releaseId priorReleaseId m db
      = .ok (delivery, db')) :
    ∃ old, db.deliveries.get? missionId = some old ∧ Authorized db m.now old ∧
      ((delivery = old ∧ db' = db) ∨
        (old.publishedBranch ≠ none ∧ old.deploymentReleaseId = none ∧
          old.deploymentPriorReleaseId = none ∧
          delivery = { old with
            deploymentReleaseId := some releaseId, deploymentPriorReleaseId := priorReleaseId,
            deployedAt := some m.now } ∧
          db' = { db with deliveries := db.deliveries.set delivery })) := by
  simp only [recordDeploymentTx, bind_eq_ok] at h
  obtain ⟨old, hcandidate, _, hpublished, _, happroved, h⟩ := h
  obtain ⟨hd, hchange, hstage, hgiven⟩ := candidateTx_eq_ok hcandidate
  refine ⟨old, hd, authorized_of_approvedTx hd hchange hstage hgiven happroved, ?_⟩
  split_ifs at h with hset
  · simp only [bind_eq_ok] at h
    obtain ⟨_, -, h⟩ := h
    cases h
    exact .inl ⟨rfl, rfl⟩
  · cases h
    simp only [not_or, Bool.not_eq_true, Option.isSome_eq_false_iff, Option.isNone_iff_eq_none]
      at hset
    exact .inr ⟨publishedTx_eq_ok hpublished, hset.1, hset.2, rfl, rfl⟩

/-- A rollback is recorded once, to the prior release of a deployed candidate, under an approval
in force. -/
lemma recordRollbackTx_eq_ok {releaseId : String}
    (h : recordRollbackTx missionId changeRef releaseId m db = .ok (delivery, db')) :
    ∃ old, db.deliveries.get? missionId = some old ∧ Authorized db m.now old ∧
      ((delivery = old ∧ db' = db) ∨
        (old.deploymentReleaseId ≠ none ∧ old.deploymentPriorReleaseId = some releaseId ∧
          old.rollbackReleaseId = none ∧ old.rolledBackAt = none ∧
          delivery = { old with
            rollbackReleaseId := some releaseId, rolledBackAt := some m.now } ∧
          db' = { db with deliveries := db.deliveries.set delivery })) := by
  simp only [recordRollbackTx, bind_eq_ok, raiseIf_eq_ok, not_not] at h
  obtain ⟨old, hcandidate, _, -, _, hdeployed, _, -, _, hprior, _, happroved, h⟩ := h
  obtain ⟨hd, hchange, hstage, hgiven⟩ := candidateTx_eq_ok hcandidate
  refine ⟨old, hd, authorized_of_approvedTx hd hchange hstage hgiven happroved, ?_⟩
  have hrelease : old.deploymentReleaseId ≠ none := by
    intro hnone
    simp [given, hnone] at hdeployed
  split_ifs at h with hset
  · simp only [bind_eq_ok] at h
    obtain ⟨_, -, h⟩ := h
    cases h
    exact .inl ⟨rfl, rfl⟩
  · cases h
    simp only [not_or, Bool.not_eq_true, Option.isSome_eq_false_iff, Option.isNone_iff_eq_none]
      at hset
    exact .inr ⟨hrelease, hprior, hset.1, hset.2, rfl, rfl⟩

/-- A denied or cancelled decision is in force for the delivery of the mission. -/
def Rejected (missionId approvalReference changeRef : String) (now : Datetime) (db : Database)
    (mission : Mission) (delivery : Delivery) : Prop :=
  ∃ approval, decisionTx missionId approvalReference changeRef now db
      = .ok (mission, delivery, approval) ∧
    (approval.state = .denied ∨ approval.state = .cancelled)

lemma decisionTx_eq_ok {approvalReference : String} {now : Datetime} {mission : Mission}
    {approval : ApprovalRequest} (h : decisionTx missionId approvalReference changeRef now db
      = .ok (mission, delivery, approval)) :
    db.missions.get? missionId = some mission ∧ db.deliveries.get? missionId = some delivery := by
  simp only [decisionTx, bind_eq_ok, raiseIf_eq_ok, MissionService.getMissionTx_eq_ok,
    getDeliveryTx_eq_ok] at h
  obtain ⟨found, hm, found', hd, _, -, _, -, _, -, _, -, _, -, _, -, _, -, _, -, h⟩ := h
  cases h
  exact ⟨hm, hd⟩

/-- A rejected decision sends the delivery back to the developer and the mission back to
RUNNING; an approved one changes nothing. -/
lemma applyHumanDecisionTx_eq_ok {approvalReference : String}
    (h : applyHumanDecisionTx missionId approvalReference changeRef m db = .ok (delivery, db')) :
    db' = db ∨ ∃ mission old, Rejected missionId approvalReference changeRef m.now db mission old ∧
      delivery = { old with stage := .developer, approvalReference := none } ∧
      db' = { db with
        missions := db.missions.set { mission with status := .running }
        deliveries := db.deliveries.set delivery } := by
  simp only [applyHumanDecisionTx, bind_eq_ok] at h
  obtain ⟨⟨mission, old, approval⟩, hdecision, h⟩ := h
  simp only at h
  split at h
  · cases h
  · cases h
    exact .inl rfl
  · next hstate =>
    cases h
    exact .inr ⟨mission, old, ⟨approval, hdecision, .inl hstate⟩, rfl, rfl⟩
  · next hstate =>
    cases h
    exact .inr ⟨mission, old, ⟨approval, hdecision, .inr hstate⟩, rfl, rfl⟩

/-- Every rejected decision is applied. -/
lemma applyHumanDecisionTx_rejected {approvalReference : String} {mission : Mission}
    (h : Rejected missionId approvalReference changeRef m.now db mission delivery) :
    applyHumanDecisionTx missionId approvalReference changeRef m db =
      .ok ({ delivery with stage := .developer, approvalReference := none },
        { db with
          missions := db.missions.set { mission with status := .running }
          deliveries := db.deliveries.set
            { delivery with stage := .developer, approvalReference := none } }) := by
  obtain ⟨approval, hdecision, hstate⟩ := h
  simp only [applyHumanDecisionTx, hdecision, bind, Except.bind]
  rcases hstate with hstate | hstate
  all_goals
    simp only [hstate]
    rfl

lemma Rejected.rows {approvalReference : String} {now : Datetime} {mission : Mission}
    (h : Rejected missionId approvalReference changeRef now db mission delivery) :
    db.missions.get? missionId = some mission ∧ db.deliveries.get? missionId = some delivery := by
  obtain ⟨approval, hdecision, -⟩ := h
  exact decisionTx_eq_ok hdecision

end Transactions

end DeliveryService
end AiHq
