import AiHq.Delivery.AgentRunner
import AiHq.Python.Text

/-!
# Workspaces and candidate snapshots

The values that the sandbox, the verifier and the candidate store exchange. Each has the types of
what its `__post_init__` has checked.
-/

namespace AiHq

/-- A text that is not blank and has no spaces at its ends. -/
def IsRequired (value : String) : Prop := strip value = value ∧ value ≠ ""

instance : DecidablePred IsRequired := fun value => by
  unfold IsRequired
  infer_instance

abbrev Required := {value : String // IsRequired value}

/-- `_required(value, field=...)` -/
def required (value field : String) : Except PyError Required :=
  if h : strip value = "" then .error (.valueError (field ++ " is required"))
  else .ok ⟨strip value, strip_strip value, h⟩

lemma required_eq_ok {value field : String} {result : Required} :
    required value field = .ok result ↔ strip value = result := by
  obtain ⟨result, hstrip, hne⟩ := result
  unfold required
  split_ifs with h
  · simp only [false_iff]
    rintro rfl
    exact hne h
  · exact ⟨fun hok => congrArg Subtype.val (Except.ok.inj hok),
      fun heq => congrArg Except.ok (Subtype.ext heq)⟩

/-! ### Digests and commits -/

/-- What `_sha256_digest` accepts of a text. -/
def isSha256Digest (value : String) : Bool :=
  match value.toList with
  | 's' :: 'h' :: 'a' :: '2' :: '5' :: '6' :: ':' :: digest => digest.length = 64 && isInt16 digest
  | _ => false

abbrev Sha256Digest := {value : Required // isSha256Digest value = true}

def sha256Digest (value field : String) : Except PyError Sha256Digest := do
  let value ← required value field
  if h : isSha256Digest value = true then return ⟨value, h⟩
  else throw (.valueError (field ++ " must be a sha256 digest"))

/-- What `_git_commit` accepts of a text. -/
def isGitCommit (value : String) : Bool :=
  value.toList.length = 40 && (value.toList.all fun c => !c.isUpper) && isInt16 value.toList

abbrev GitCommit := {value : Required // isGitCommit value = true}

def gitCommit (value field : String) : Except PyError GitCommit := do
  let value ← required value field
  if h : isGitCommit value = true then return ⟨value, h⟩
  else throw (.valueError (field ++ " must be a 40-character lowercase Git commit"))

def noGitBaseCommit : String := "0000000000000000000000000000000000000000"

lemma sha256Digest_eq_ok {value field : String} {result : Sha256Digest} :
    sha256Digest value field = .ok result ↔ strip value = result.1 := by
  simp only [sha256Digest, bind_eq_ok, required_eq_ok]
  constructor
  · rintro ⟨value', hvalue, h⟩
    split_ifs at h with hdigest
    obtain rfl := Except.ok.inj h
    exact hvalue
  · intro h
    exact ⟨result.1, h, dif_pos result.2⟩

lemma gitCommit_eq_ok {value field : String} {result : GitCommit} :
    gitCommit value field = .ok result ↔ strip value = result.1 := by
  simp only [gitCommit, bind_eq_ok, required_eq_ok]
  constructor
  · rintro ⟨value', hvalue, h⟩
    split_ifs at h with hcommit
    obtain rfl := Except.ok.inj h
    exact hvalue
  · intro h
    exact ⟨result.1, h, dif_pos result.2⟩

/-! ### Values -/

/-- The identity of one isolated candidate workspace. -/
structure RepositoryWorkspace where
  missionId : Required
  repository : Required
  baseRef : Required
  workspaceId : Required
  baseCommit : GitCommit

def RepositoryWorkspace.postInit (missionId repository baseRef workspaceId baseCommit : String) :
    Except PyError RepositoryWorkspace := do
  return {
    missionId := ← required missionId "mission_id"
    repository := ← required repository "repository"
    baseRef := ← required baseRef "base_ref"
    workspaceId := ← required workspaceId "workspace_id"
    baseCommit := ← gitCommit baseCommit "base_commit" }

lemma RepositoryWorkspace.postInit_eq_ok
    {missionId repository baseRef workspaceId baseCommit : String}
    {workspace : RepositoryWorkspace} :
    postInit missionId repository baseRef workspaceId baseCommit = .ok workspace ↔
      strip missionId = workspace.missionId ∧ strip repository = workspace.repository ∧
      strip baseRef = workspace.baseRef ∧ strip workspaceId = workspace.workspaceId ∧
      strip baseCommit = workspace.baseCommit.1 := by
  simp only [postInit, bind_eq_ok, required_eq_ok, gitCommit_eq_ok]
  constructor
  · rintro ⟨_, h₁, _, h₂, _, h₃, _, h₄, _, h₅, hok⟩
    obtain rfl := Except.ok.inj hok
    exact ⟨h₁, h₂, h₃, h₄, h₅⟩
  · rintro ⟨h₁, h₂, h₃, h₄, h₅⟩
    exact ⟨_, h₁, _, h₂, _, h₃, _, h₄, _, h₅, rfl⟩

/-- What the machine has observed of a candidate. -/
structure CandidateSnapshot where
  workspaceId : Required
  repository : Required
  baseRef : Required
  baseCommit : GitCommit
  changedFiles : List Required
  diffDigest : Sha256Digest
  contentDigest : Sha256Digest

namespace CandidateSnapshot

def normalizedFiles : List String → Except PyError (List Required)
  | [] => .ok []
  | path :: paths =>
    if h : strip path = "" then
      .error (.valueError "changed_files must contain non-empty strings")
    else do
      let paths ← normalizedFiles paths
      return ⟨strip path, strip_strip path, h⟩ :: paths

def postInit (workspaceId repository baseRef : String) (changedFiles : List String)
    (diffDigest contentDigest baseCommit : String) : Except PyError CandidateSnapshot := do
  return {
    workspaceId := ← required workspaceId "workspace_id"
    repository := ← required repository "repository"
    baseRef := ← required baseRef "base_ref"
    baseCommit := ← gitCommit baseCommit "base_commit"
    changedFiles := ← normalizedFiles changedFiles
    diffDigest := ← sha256Digest diffDigest "diff_digest"
    contentDigest := ← sha256Digest contentDigest "content_digest" }

lemma normalizedFiles_eq_ok {paths : List String} {files : List Required} :
    normalizedFiles paths = .ok files ↔ paths.map strip = files.map Subtype.val := by
  induction paths generalizing files with
  | nil =>
    rw [normalizedFiles, Except.ok.injEq, List.map_nil]
    cases files with
    | nil => simp
    | cons file files => simp
  | cons path paths ih =>
    rw [normalizedFiles]
    split_ifs with h
    · simp only [false_iff, List.map_cons]
      intro hmap
      cases files with
      | nil => cases hmap
      | cons file files => exact file.2.2 ((List.cons.inj hmap).1 ▸ h)
    · simp only [bind_eq_ok, ih]
      constructor
      · rintro ⟨files', hfiles, hok⟩
        obtain rfl := Except.ok.inj hok
        rw [List.map_cons, hfiles, List.map_cons]
      · intro hmap
        cases files with
        | nil => cases hmap
        | cons file files =>
          obtain ⟨hfile, hfiles⟩ := List.cons.inj hmap
          exact ⟨files, hfiles, congrArg (fun f => Except.ok (f :: files)) (Subtype.ext hfile)⟩

/-- `__post_init__` strips every field. -/
lemma postInit_eq_ok {workspaceId repository baseRef : String} {changedFiles : List String}
    {diffDigest contentDigest baseCommit : String} {snapshot : CandidateSnapshot} :
    postInit workspaceId repository baseRef changedFiles diffDigest contentDigest baseCommit =
        .ok snapshot ↔
      strip workspaceId = snapshot.workspaceId ∧ strip repository = snapshot.repository ∧
      strip baseRef = snapshot.baseRef ∧ strip baseCommit = snapshot.baseCommit.1 ∧
      changedFiles.map strip = snapshot.changedFiles.map Subtype.val ∧
      strip diffDigest = snapshot.diffDigest.1 ∧ strip contentDigest = snapshot.contentDigest.1 := by
  simp only [postInit, bind_eq_ok, required_eq_ok, gitCommit_eq_ok, sha256Digest_eq_ok,
    normalizedFiles_eq_ok]
  constructor
  · rintro ⟨_, h₁, _, h₂, _, h₃, _, h₄, _, h₅, _, h₆, _, h₇, hok⟩
    obtain rfl := Except.ok.inj hok
    exact ⟨h₁, h₂, h₃, h₄, h₅, h₆, h₇⟩
  · rintro ⟨h₁, h₂, h₃, h₄, h₅, h₆, h₇⟩
    exact ⟨_, h₁, _, h₂, _, h₃, _, h₄, _, h₅, _, h₆, _, h₇, rfl⟩

/-- What identifies the candidate of a mission. -/
def identityPayload (self : CandidateSnapshot) (missionId : String) : Except PyError Json := do
  let missionId ← required missionId "mission_id"
  return .obj [("mission_id", .str missionId), ("repository", .str self.repository),
    ("base_ref", .str self.baseRef), ("base_commit", .str self.baseCommit.1),
    ("workspace_id", .str self.workspaceId),
    ("changed_files", .list (self.changedFiles.map fun path => .str path)),
    ("diff_digest", .str self.diffDigest.1), ("content_digest", .str self.contentDigest.1)]

end CandidateSnapshot

/-- The result of the fixed test profile of a workspace. -/
structure TestEvidence where
  passed : Bool
  exitCode : ℤ
  summary : Required
  evidenceDigest : Sha256Digest
  bounded : summary.1.length ≤ 4000

def TestEvidence.postInit (passed : Bool) (exitCode : ℤ) (summary evidenceDigest : String) :
    Except PyError TestEvidence := do
  let summary ← required summary "summary"
  if bounded : summary.1.length ≤ 4000 then
    return { passed, exitCode, summary, bounded,
             evidenceDigest := ← sha256Digest evidenceDigest "evidence_digest" }
  else throw (.valueError "summary exceeds maximum length")

end AiHq
