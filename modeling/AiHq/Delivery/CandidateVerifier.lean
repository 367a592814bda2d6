import AiHq.Delivery.Manifest

/-!
# The candidate verifier

The verifier binds the proposal of a developer to what the machine has observed of the candidate.
-/

namespace AiHq
namespace CandidateVerifier

/-- The identity and the evidence of a candidate. -/
structure VerifiedCandidate where
  missionId : String
  changeRef : String
  summary : String
  changedFiles : List String
  evidence : Dict

/-- The `change_ref` of a candidate, from JSON that is written with `ensure_ascii=False`. -/
def changeRefOf (sha256 : Sha256) (identityPayload : Json) : String :=
  textDigest sha256 (String.ofList (identityPayload.dumpsAs Json.escapeUnicode))

def summaryOf (proposal : Dict) : Except PyError String :=
  match proposal.get "summary" with
  | some (.str summary) =>
    if strip summary = "" then .error (.valueError "proposal summary is required")
    else .ok (strip summary)
  | _ => .error (.valueError "proposal summary is required")

def evidenceOf (sha256 : Sha256) (changeRef : String) (snapshot : CandidateSnapshot)
    (testEvidence : TestEvidence) (candidateDiff : Option String) : Dict :=
  [("verification", .str "candidate_identity_verified"), ("algorithm", .str "sha256"),
    ("change_ref", .str changeRef), ("workspace_id", .str snapshot.workspaceId),
    ("repository", .str snapshot.repository), ("base_ref", .str snapshot.baseRef),
    ("base_commit", .str snapshot.baseCommit.1), ("diff_digest", .str snapshot.diffDigest.1),
    ("content_digest", .str snapshot.contentDigest.1),
    ("tests", .obj [("passed", .bool testEvidence.passed), ("exit_code", .int testEvidence.exitCode),
      ("summary", .str testEvidence.summary),
      ("evidence_digest", .str testEvidence.evidenceDigest.1)])] ++
    candidateDiff.elim [] fun diff => [("candidate_diff", .str diff),
      ("candidate_diff_digest", .str (textDigest sha256 diff))]

def verify (sha256 : Sha256) (missionId : String) (proposal : Dict) (snapshot : CandidateSnapshot)
    (testEvidence : TestEvidence) (candidateDiff : Option String := none) :
    Except PyError VerifiedCandidate := do
  raiseIf (strip missionId = "") (.valueError "mission_id is required")
  let summary ← summaryOf proposal
  raiseIf (testEvidence.passed = false ∨ testEvidence.exitCode ≠ 0)
    (.valueError "workspace tests must pass before candidate verification")
  let identityPayload ← snapshot.identityPayload (strip missionId)
  let changeRef := changeRefOf sha256 identityPayload
  raiseIf (snapshot.changedFiles ≠ [] ∧ candidateDiff = some "")
    (.valueError "changed candidate requires machine-derived review diff")
  return { missionId := strip missionId, changeRef, summary,
           changedFiles := snapshot.changedFiles.map Subtype.val,
           evidence := evidenceOf sha256 changeRef snapshot testEvidence candidateDiff }

end CandidateVerifier
end AiHq
