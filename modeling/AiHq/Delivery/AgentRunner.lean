import AiHq.Delivery.Service

/-!
# Running the developer and QA

A runner coordinates the developer, the workspace in which the candidate is tested and verified,
and QA, and hands what they produce to the delivery service. The agents and the workspace are
outside the database, and each of them may raise.
-/

namespace AiHq

open Concurrent Relational

def trustedRepositoryKeys : List String := ["ai-hq", "dripvid"]

/-! ### File changes -/

inductive FileOperation where
  | write | delete
  deriving DecidableEq, Repr

def FileOperation.ofValue? : Json → Option FileOperation
  | .str "write" => some write
  | .str "delete" => some delete
  | _ => none

/-- A change that has passed `__post_init__`. -/
structure FileChange where
  path : String
  operation : FileOperation
  content : Option String
  required : path ≠ ""
  content_iff : content.isSome ↔ operation = .write

/-- `FileChange(path=..., operation=..., content=...)` -/
def FileChange.postInit (path : String) (operation : FileOperation) (content : Json) :
    Except PyError FileChange :=
  if hpath : strip path = "" then .error (.valueError "path is required")
  else match operation, content with
    | .write, .str text => .ok ⟨strip path, .write, some text, hpath, by simp⟩
    | .write, _ => .error (.valueError "write content is required")
    | .delete, .null => .ok ⟨strip path, .delete, none, hpath, by simp⟩
    | .delete, _ => .error (.valueError "delete content must be empty")

/-- One entry of the changes that the developer proposes. -/
def fileChange (raw : Json) (index : ℕ) : Except PyError FileChange := do
  let ofChange (text : String) := PyError.valueError ("developer change " ++ toString index ++ text)
  match raw with
  | .obj change =>
    match Dict.get change "path" with
    | some (.str path) => do
      raiseIf (strip path = "") (ofChange " requires path")
      let operation ← ((Dict.get change "operation").bind FileOperation.ofValue?).elim
        (.error (ofChange " has invalid operation")) .ok
      let content ← (Dict.get change "content").elim (.error (ofChange " requires content")) .ok
      match FileChange.postInit path operation content with
      | .error (.valueError exc) => .error (ofChange (" is invalid: " ++ exc))
      | result => result
    | _ => .error (ofChange " requires path")
  | _ => .error (ofChange " must be an object")

/-- `_candidate_file_changes` -/
def candidateFileChanges (candidate : Dict) : Except PyError (List FileChange) :=
  match Dict.get candidate "changes" with
  | some (.list rawChanges) => rawChanges.zipIdx.mapM fun (raw, index) => fileChange raw index
  | _ => .error (.valueError "developer candidate changes must be a list")

/-! ### Handing over -/

namespace DeliveryRuntime

def handoffToDeveloper (missionId changeRef summary : String) (changedFiles : List Json)
    (evidence : Dict) : Py Delivery := do
  let changeRef := strip changeRef
  let summary := strip summary
  raiseIf (changeRef = "") (.valueError "change_ref is required")
  raiseIf (summary = "") (.valueError "summary is required")
  raiseIf (evidence.isEmpty) (.valueError "developer evidence is required")
  DeliveryService.submitDeveloperProposal missionId changeRef summary changedFiles evidence

def handoffToQa (self : DeliveryService) (missionId changeRef : String) (result : QAResult)
    (evidence : Dict) : Py Delivery := do
  let changeRef := strip changeRef
  raiseIf (changeRef = "") (.valueError "change_ref is required")
  raiseIf (evidence.isEmpty) (.valueError "QA evidence is required")
  self.recordQaResult missionId changeRef result evidence

end DeliveryRuntime

/-! ### The runner -/

/-- `QAResult(value)` -/
def QAResult.ofValue? : Json → Option QAResult
  | .str "PASSED" => some passed
  | .str "FAILED" => some failed
  | _ => none

/-- A runner, with a candidate verifier and a workspace service or without them. -/
structure DeliveryAgentRunner where
  delivery : DeliveryService
  candidateVerifier : Bool
  workspaceService : Bool

namespace DeliveryAgentRunner

variable (self : DeliveryAgentRunner)

def prepareWorkspace : Py Unit := do
  raiseIf (!self.workspaceService) (.valueError "repository workspace service is required")
  raiseIf (!self.candidateVerifier) (.valueError "candidate verifier is required")
  let _ ← .outside .prepareWorkspace
  return ()

/-- The checks on a candidate before anything is done with it. -/
def checkCandidate (candidate : Json) : Except PyError (List FileChange) :=
  match candidate with
  | .obj candidate =>
    match Dict.get candidate "summary" with
    | some (.str summary) => do
      raiseIf (strip summary = "") (.valueError "developer candidate requires summary")
      raiseIf (!(self.workspaceService && self.candidateVerifier))
        (.valueError "verified candidate dependencies are required")
      candidateFileChanges candidate
    | _ => .error (.valueError "developer candidate requires summary")
  | _ => .error (.typeError "developer candidate must be a mapping")

/-- `candidate_verifier.verify` -/
def verify : Py VerifiedCandidate := .ask fun w => (w.work .verifyCandidate).map fun _ => w.verified

def verifyAndPersist (missionId : String) (candidate : Json) : Py Unit := do
  let _ ← self.checkCandidate candidate
  let _ ← .outside .applyChanges
  let _ ← .outside .reviewDiff
  let _ ← .outside .runTests
  let verified ← verify
  let _ ← DeliveryRuntime.handoffToDeveloper missionId verified.changeRef verified.summary
    (verified.changedFiles.map .str) verified.evidence
  return ()

def runDeveloper (missionId : String) : Py Bool := do
  self.prepareWorkspace
  let candidate ← .outside .developerExecute
  self.verifyAndPersist missionId candidate
  return true

/-- The checks on what QA returns. -/
def checkReview : Json → Except PyError (QAResult × Dict)
  | .obj review => do
    let result ← ((Dict.get review "result").bind QAResult.ofValue?).elim
      (.error (.valueError "QA result must be PASSED or FAILED")) .ok
    match Dict.get review "evidence" with
    | some (.obj evidence) => do
      raiseIf (evidence.isEmpty) (.valueError "QA result requires evidence")
      return (result, evidence)
    | _ => .error (.valueError "QA result requires evidence")
  | _ => .error (.typeError "QA result must be a mapping")

def runQa (delivery : Delivery) : Py Bool := do
  let review ← .outside .qaReview
  let (result, evidence) ← checkReview review
  let _ ← DeliveryRuntime.handoffToQa self.delivery delivery.missionId delivery.changeRef result
    evidence
  return true

end DeliveryAgentRunner
end AiHq
