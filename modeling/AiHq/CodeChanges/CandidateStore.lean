import AiHq.Delivery.RepositorySandbox

/-!
# The candidate store

A candidate that was verified is opened again for its publication, if the evidence of it and the
files of its workspace still have the digests that they had.
-/

namespace AiHq

open Relational FileSystem

structure PersistedCandidate where
  missionId : String
  repository : String
  workspaceId : String
  baseRef : String
  baseCommit : String
  changeRef : String
  changedFiles : List String
  contentDigest : String
  workspacePath : Path
  deriving DecidableEq

structure CandidateStore where
  sandboxRoot : Path
  sha256 : Sha256

namespace CandidateStore

/-- `_SHA256_RE.fullmatch(value)` -/
def isDigest (value : String) : Bool :=
  match value.toList with
  | 's' :: 'h' :: 'a' :: '2' :: '5' :: '6' :: ':' :: digest => isLowerHex 64 digest
  | _ => false

/-- `_required` of a value of any type -/
def required : Json → String → Except PyError String
  | .str value, field =>
    if strip value = "" then .error (.valueError (field ++ " is required")) else .ok (strip value)
  | _, field => .error (.valueError (field ++ " is required"))

/-- `_sha256` -/
def digest (value : Json) (field : String) : Except PyError String := do
  let value ← required value field
  if isDigest value then return value
  else throw (.valueError (field ++ " must be a sha256 digest"))

/-- `_git_commit` -/
def gitCommit (value : Json) : Except PyError String := do
  let value ← required value "base_commit"
  if isLowerHex 40 value.toList then return value
  else throw (.valueError "base_commit must be a 40-character lowercase Git commit")

/-- Whether `UUID(value)` is one. -/
def parsesAsUuid (value : String) : Bool :=
  let isBrace := fun c : Char => c = '\x7b' || c = '\x7d'
  let hex := ((value.replace "urn:" "").replace "uuid:" "").toList
  let hex := ((hex.dropWhile isBrace).rdropWhile isBrace).filter (· ≠ '-')
  hex.length = 32 && isInt16 hex

/-- `_workspace_id`; `str(uuid)` has the form that `isUuid` tells. -/
def workspaceId (value : Json) : Except PyError String := do
  let value ← required value "workspace_id"
  if isUuid value then return value
  else if parsesAsUuid value then throw (.valueError "workspace_id must be a normalized UUID")
  else throw (.valueError "workspace_id must be a UUID")

/-- `_safe_changed_path` -/
def safeChangedPath : Json → Except PyError String
  | .str value => do
    raiseIf (value = "") (.valueError "changed file path is required")
    raiseIf ('\\' ∈ value.toList)
      (.valueError "changed file path must use normalized separators")
    -- an absolute path has an empty first part
    raiseIf (∃ part ∈ components value, part = "" ∨ part = "." ∨ part = "..")
      (.valueError "changed file path must be normalized and relative")
    raiseIf ((components value).head? = some ".git")
      (.valueError "changed file path cannot target .git")
    return value
  | _ => .error (.valueError "changed file path is required")

/-- `_changed_files` -/
def changedFiles (values : List Json) : Except PyError (List String) := do
  let normalized ← values.mapM safeChangedPath
  raiseIf (¬normalized.Nodup) (.valueError "changed file paths must be unique")
  raiseIf (orderBy id normalized ≠ normalized) (.valueError "changed file paths must be sorted")
  return normalized

/-- Whether `value not in {None, "sha256"}`, which lists and objects cannot be looked up in. -/
def otherAlgorithm : Option Json → Except PyError Bool
  | none | some .null => .ok false
  | some (.str algorithm) => .ok (algorithm ≠ "sha256")
  | some (.list _) | some (.obj _) => .error (.typeError "unhashable type")
  | some _ => .ok true

/-- `__init__` -/
def init (sha256 : Sha256) (t : FileTree ByteArray) (sandboxRoot : Path) :
    Except PyError CandidateStore := do
  let root ← resolvePath t sandboxRoot
  raiseIf (t.isDir root = false)
    (.valueError "candidate sandbox root must be an existing directory")
  return { sandboxRoot := root, sha256 }

variable (self : CandidateStore) (t : FileTree ByteArray)

/-- `_canonical_digest(self._manifest(root))` -/
def contentDigest (root : Path) : String :=
  digestOf self.sha256 (manifestJson (manifestOf self.sha256 t root))

/-- The workspace of a candidate, which stands in the directory of its repository. -/
def verifiedWorkspace (repository workspaceId : String) : Except PyError Path := do
  let repositoryRoot := (components repository).reverse ++ self.sandboxRoot
  let workspacePath := workspaceId :: repositoryRoot
  raiseIf (t.isSymlink workspacePath = true)
    (.valueError "candidate workspace cannot be a symlink")
  raiseIf (t.isDir workspacePath = false) (.valueError "candidate workspace is missing")
  let resolvedRepository ← resolvePath t repositoryRoot
  let resolvedWorkspace ← resolvePath t workspacePath
  raiseIf (resolvedWorkspace.tail ≠ resolvedRepository ∨ resolvedRepository.tail ≠ self.sandboxRoot)
    (.valueError "candidate workspace escapes sandbox root")
  return resolvedWorkspace

def loadVerified (missionId changeRef : String) (files : List Json) (evidence : Dict) :
    Except PyError PersistedCandidate := do
  let mission ← required (.str missionId) "mission_id"
  let requestedRef ← digest (.str changeRef) "change_ref"
  raiseIf (¬((evidence.get "verification").any fun value =>
      value.pyEq (.str "candidate_identity_verified")) = true)
    (.valueError "candidate verification evidence is required")
  let other ← otherAlgorithm (evidence.get "algorithm")
  raiseIf (other = true) (.valueError "candidate verification algorithm is invalid")
  let evidenceRef ← digest ((evidence.get "change_ref").getD .null) "change_ref"
  raiseIf (evidenceRef ≠ requestedRef) (.valueError "candidate change_ref mismatch")
  let repository ← required ((evidence.get "repository").getD .null) "repository"
  raiseIf (repository ∉ trustedRepositoryKeys) (.valueError "unknown candidate repository")
  let baseRef ← required ((evidence.get "base_ref").getD .null) "base_ref"
  raiseIf (baseRef ≠ "main") (.valueError "candidate base reference must be main")
  let baseCommit ← gitCommit ((evidence.get "base_commit").getD .null)
  let workspaceId ← workspaceId ((evidence.get "workspace_id").getD .null)
  let diffDigest ← digest ((evidence.get "diff_digest").getD .null) "diff_digest"
  let contentDigest ← digest ((evidence.get "content_digest").getD .null) "content_digest"
  let normalizedFiles ← changedFiles files
  let identity := Json.obj [("mission_id", .str mission), ("repository", .str repository),
    ("base_ref", .str baseRef), ("base_commit", .str baseCommit),
    ("workspace_id", .str workspaceId), ("changed_files", .list (normalizedFiles.map .str)),
    ("diff_digest", .str diffDigest), ("content_digest", .str contentDigest)]
  raiseIf (digestOf self.sha256 identity ≠ requestedRef)
    (.valueError "candidate change_ref does not match machine identity")
  let workspacePath ← self.verifiedWorkspace t repository workspaceId
  raiseIf (self.contentDigest t workspacePath ≠ contentDigest)
    (.valueError "candidate workspace content digest is stale")
  return { missionId := mission, repository, workspaceId, baseRef, baseCommit,
           changeRef := requestedRef, changedFiles := normalizedFiles, contentDigest, workspacePath }

/-- The bytes of a changed file, or nothing if it is not there. -/
def readChangedFile (candidate : PersistedCandidate) (path : String) :
    Except PyError (Option ByteArray) := do
  let relative ← safeChangedPath (.str path)
  raiseIf (relative ∉ candidate.changedFiles) (.valueError "path is not a verified changed file")
  let target := (components relative).reverse ++ candidate.workspacePath
  raiseIf (t.isSymlink target = true)
    (.valueError "changed file must be a regular file, not a symlink")
  if t.present target = false then return none
  else
    raiseIf (t.isFile target = false) (.valueError "changed file must be a regular file")
    let resolvedParent ← resolvePath t target.tail
    let root ← resolvePath t candidate.workspacePath
    raiseIf (resolvedParent ≠ root ∧ ¬root <:+ resolvedParent)
      (.valueError "changed file escapes candidate workspace")
    match t.read target with
    | .ok content => return some content
    | .error error => throw (osError error)

variable {self t}

/-- What a candidate that is opened again has been checked for. -/
lemma loadVerified_eq_ok {missionId changeRef : String} {files : List Json} {evidence : Dict}
    {candidate : PersistedCandidate}
    (h : self.loadVerified t missionId changeRef files evidence = .ok candidate) :
    required (.str missionId) "mission_id" = .ok candidate.missionId ∧
      digest (.str changeRef) "change_ref" = .ok candidate.changeRef ∧
      candidate.repository ∈ trustedRepositoryKeys ∧ candidate.baseRef = "main" ∧
      gitCommit ((evidence.get "base_commit").getD .null) = .ok candidate.baseCommit ∧
      changedFiles files = .ok candidate.changedFiles ∧
      self.verifiedWorkspace t candidate.repository candidate.workspaceId =
        .ok candidate.workspacePath ∧
      self.contentDigest t candidate.workspacePath = candidate.contentDigest := by
  simp only [loadVerified, bind_eq_ok, raiseIf_eq_ok, exists_const, not_not] at h
  obtain ⟨mission, hmission, requested, hrequested, -, _, -, -, _, -, -, repository, -,
    hrepository, baseRef, -, hbaseRef, baseCommit, hbaseCommit, workspaceId, -, _, -, _, -, paths,
    hpaths, -, workspacePath, hworkspace, hcontent, hok⟩ := h
  obtain rfl := Except.ok.inj hok
  exact ⟨hmission, hrequested, hrepository, hbaseRef, hbaseCommit, hpaths, hworkspace, hcontent⟩

lemma pairwise_of_changedFiles {values : List Json} {paths : List String}
    (h : changedFiles values = .ok paths) : paths.Pairwise (· < ·) := by
  simp only [changedFiles, bind_eq_ok, raiseIf_eq_ok, exists_const, not_not] at h
  obtain ⟨normalized, -, hnodup, hsorted, hok⟩ := h
  obtain rfl := Except.ok.inj hok
  have hle : normalized.Pairwise (· ≤ ·) := hsorted ▸ pairwise_orderBy id normalized
  exact (hle.and hnodup).imp fun h => lt_of_le_of_ne h.1 h.2

end CandidateStore

end AiHq
