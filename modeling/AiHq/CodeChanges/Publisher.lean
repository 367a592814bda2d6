import AiHq.CodeChanges.CandidateStore
import AiHq.Library.Program
import AiHq.Python.Base64

/-!
# The publisher

A candidate that was approved becomes a commit on a new branch of its repository at GitHub. The
publisher is a program over whatever is at the other end: its state may be anything, and so may be
its replies.
-/

namespace AiHq

open Concurrent Relational FileSystem

/-! ### Targets -/

def isNameChar (c : Char) : Bool :=
  ('A' ≤ c && c ≤ 'Z') || ('a' ≤ c && c ≤ 'z') || c.isDigit || c = '_' || c = '.' || c = '-'

/-- `_REPOSITORY_RE.fullmatch(value)` -/
def isRepositoryName (value : String) : Bool :=
  match value.toList.splitOn '/' with
  | [owner, name] => owner ≠ [] && name ≠ [] && owner.all isNameChar && name.all isNameChar
  | _ => false

/-- `_BRANCH_PREFIX_RE.fullmatch(value)` -/
def isBranchPrefix (value : String) : Bool :=
  1 < value.length && value.toList.getLast? = some '/' &&
    value.toList.all fun c => isNameChar c || c = '/'

structure RepositoryPublishTarget where
  key : String
  repositoryFullName : String
  baseBranch : String
  branchPrefix : String
  trusted : key ∈ trustedRepositoryKeys
  main : baseBranch = "main"

/-- `__post_init__` -/
def RepositoryPublishTarget.postInit
    (key repositoryFullName baseBranch branchPrefix : String) :
    Except PyError RepositoryPublishTarget := do
  let key ← required key "key"
  let repository ← required repositoryFullName "repository_full_name"
  let baseBranch ← required baseBranch "base_branch"
  let branchPrefix ← required branchPrefix "branch_prefix"
  if trusted : key.1 ∈ trustedRepositoryKeys then
    raiseIf (isRepositoryName repository = false)
      (.valueError "repository_full_name must be owner/name")
    if main : baseBranch.1 = "main" then
      raiseIf (isBranchPrefix branchPrefix = false) (.valueError "branch_prefix is invalid")
      raiseIf ("..".toList <:+: branchPrefix.1.toList ∨ branchPrefix.1.toList.head? = some '/')
        (.valueError "branch_prefix is invalid")
      return ⟨key, repository, baseBranch, branchPrefix, trusted, main⟩
    else throw (.valueError "publish target base branch must be main")
  else throw (.valueError "unsupported publish target key")

instance : Keyed RepositoryPublishTarget String := ⟨RepositoryPublishTarget.key⟩

/-- The targets by their keys. -/
abbrev RepositoryPublishTargetRegistry := Table RepositoryPublishTarget

def RepositoryPublishTargetRegistry.get (targets : RepositoryPublishTargetRegistry) (key : String) :
    Except PyError RepositoryPublishTarget :=
  match targets.get? key with
  | some target => .ok target
  | none => .error (.keyError ("unknown publish target: " ++ key))

/-- `generated_branch_name` -/
def generatedBranchName (sha256 : Sha256) (target : RepositoryPublishTarget)
    (missionId changeRef : String) : Except PyError String := do
  let mission ← required missionId "mission_id"
  raiseIf (CandidateStore.isDigest changeRef = false)
    (.valueError "change_ref must be a sha256 digest")
  let missionDigest := slice (sha256.hexdigest mission.1.toUTF8) 12
  let changeDigest := slice (String.ofList (changeRef.toList.drop 7)) 12
  return target.branchPrefix ++ missionDigest ++ "-" ++ changeDigest

/-- What has been published, as `__post_init__` has checked it. -/
structure PublishedCandidate where
  repository : String
  changeRef : String
  branchName : String
  commitSha : String
  treeSha : String
  baseCommit : String

/-- `PublishedCandidate.__post_init__` -/
def PublishedCandidate.postInit (repository changeRef branchName commitSha treeSha baseCommit : String) :
    Except PyError PublishedCandidate := do
  let repository ← required repository "repository"
  let branchName ← required branchName "branch_name"
  raiseIf (repository.1 ∉ trustedRepositoryKeys) (.valueError "unknown published repository")
  raiseIf (CandidateStore.isDigest changeRef = false)
    (.valueError "change_ref must be a sha256 digest")
  [("commit_sha", commitSha), ("tree_sha", treeSha), ("base_commit", baseCommit)].forM
    fun (field, value) => raiseIf (isLowerHex 40 value.toList = false)
      (.valueError (field ++ " must be a 40-character Git commit identity"))
  raiseIf ("ai-hq/candidate/".toList.isPrefixOf branchName.1.toList = false)
    (.valueError "published branch must use generated candidate namespace")
  return ⟨repository, changeRef, branchName, commitSha, treeSha, baseCommit⟩

/-! ### Requests -/

structure HttpRequest where
  method : String
  url : String
  headers : List (String × String)
  json : Option Json

/-- What a request comes to: an `httpx.HTTPError`, another exception, or a response whose body may
not be JSON. -/
inductive HttpReply where
  | httpError
  | raised (error : PyError)
  | response (statusCode : ℤ) (body : Option Json)

structure Exchange where
  request : HttpRequest
  reply : HttpReply

/-- Whatever is at the other end. -/
structure Remote (σ : Type) where
  respond : HttpRequest → σ → HttpReply × σ

/-- The payload that `_request` makes of a reply. -/
def HttpReply.payload : HttpReply → Except PyError Dict
  | .httpError => .error (.runtimeError "GitHub candidate publication request failed")
  | .raised error => .error error
  | .response statusCode body =>
    if statusCode < 200 ∨ 300 ≤ statusCode then
      .error (.runtimeError "GitHub candidate publication request failed")
    else match body with
      | none => .error (.runtimeError "GitHub candidate publication returned invalid JSON")
      | some (.obj payload) => .ok payload
      | some _ => .error (.runtimeError "GitHub candidate publication returned invalid payload")

/-- `_git_sha(value, field)` -/
def gitSha (value : Json) (field : String) : Except PyError String :=
  match value with
  | .str sha =>
    if isLowerHex 40 sha.toList then .ok sha
    else .error (.runtimeError ("GitHub " ++ field ++ " identity is invalid"))
  | _ => .error (.runtimeError ("GitHub " ++ field ++ " identity is invalid"))

/-- `_git_sha(payload.get("sha"), field)` -/
def ownSha (payload : Dict) (field : String) : Except PyError String :=
  gitSha ((payload.get "sha").getD .null) field

/-- `_git_sha(payload.get(key, {}).get("sha"), field)` -/
def innerSha (payload : Dict) (key field : String) : Except PyError String :=
  match (payload.get key).getD (.obj []) with
  | .obj inner => ownSha inner field
  | _ => .error (.other "AttributeError")

/-! ### The base tree -/

/-- `for entry in value` -/
def iterate : Json → Except PyError (List Json)
  | .list xs => .ok xs
  | .obj fields => .ok (fields.map fun field => .str field.1)
  | .str s => .ok (s.toList.map fun c => .str (String.singleton c))
  | _ => .error (.typeError "object is not iterable")

/-- `_ALLOWED_BLOB_MODES` -/
def allowedBlobModes : List String := ["100644", "100755"]

/-- The body of the loop over the entries of the base tree: the path and the mode of a blob. -/
def baseEntry : Json → Except PyError (Option (String × String))
  | .obj entry => do
    let mode := (Dict.get entry "mode").getD .null
    let entryType := (Dict.get entry "type").getD .null
    match Dict.get entry "path" with
    | some (.str path) =>
      if entryType.pyEq (.str "tree") then
        raiseIf (¬mode.pyEq (.str "040000") = true)
          (.runtimeError "GitHub base tree contains invalid directory mode")
        return none
      else match mode with
        | .list _ | .obj _ => throw (.typeError "unhashable type")
        | .str mode =>
          raiseIf (mode = "120000" ∨ mode = "160000") (.runtimeError
            "GitHub base tree contains unsupported symlink or submodule entry")
          raiseIf (¬entryType.pyEq (.str "blob") = true)
            (.runtimeError "GitHub base tree contains unsupported non-blob entry")
          raiseIf (mode ∉ allowedBlobModes)
            (.runtimeError "GitHub base tree contains unsupported blob mode")
          return some (path, mode)
        | _ =>
          raiseIf (¬entryType.pyEq (.str "blob") = true)
            (.runtimeError "GitHub base tree contains unsupported non-blob entry")
          throw (.runtimeError "GitHub base tree contains unsupported blob mode")
    | _ => throw (.runtimeError "GitHub base tree path is invalid")
  | _ => .error (.runtimeError "GitHub base tree is invalid")

/-- The modes of the blobs in the base tree. The last entry of a path counts. -/
def baseModes : List Json → Except PyError (List (String × String))
  | [] => .ok []
  | entry :: entries => do
    let mode ← baseEntry entry
    let modes ← baseModes entries
    return modes ++ mode.toList

/-- The checks of the base tree. -/
def checkedBaseTree (tree : Dict) : Except PyError (List (String × String)) := do
  raiseIf ((tree.get "truncated").any (fun value => value matches .bool true) = true)
    (.runtimeError "GitHub base tree is truncated")
  let entries ← iterate ((tree.get "tree").getD (.list []))
  baseModes entries

/-! ### The tree of the candidate -/

/-- An entry of the tree that is posted. -/
structure TreeEntry where
  path : String
  mode : String
  sha : Option String

def TreeEntry.json (entry : TreeEntry) : Json :=
  .obj [("path", .str entry.path), ("mode", .str entry.mode), ("type", .str "blob"),
    ("sha", orNull entry.sha)]

structure GitHubCandidatePublisher where
  token : String
  store : CandidateStore
  targets : RepositoryPublishTargetRegistry

namespace GitHubCandidatePublisher

variable (self : GitHubCandidatePublisher) {σ : Type} (remote : Remote σ)

/-- The request that `_request` sends. -/
def httpRequest (method url : String) (json : Option Json) : HttpRequest where
  method := method
  url := url
  headers := [("Authorization", "Bearer " ++ self.token),
    ("Accept", "application/vnd.github+json"), ("X-GitHub-Api-Version", "2022-11-28")]
  json := json

/-- `_request` -/
def request (method url : String) (json : Option Json) : Prog PyError Exchange σ Dict :=
  let sent := self.httpRequest method url json
  .act (fun s => ⟨sent, (remote.respond sent s).1⟩) (fun s => (remote.respond sent s).2) fun s =>
    match (remote.respond sent s).1.payload with
    | .ok payload => .ret payload
    | .error error => .raise error

instance : MonadLift (Except PyError) (Prog PyError Exchange σ) := ⟨Prog.ofExcept⟩

/-- The address of a repository. -/
def apiRoot (target : RepositoryPublishTarget) : String :=
  "https://api.github.com/repos/" ++ target.repositoryFullName

variable (t : FileTree ByteArray) (candidate : PersistedCandidate)

/-- The first part of `publish`: the base tree of a candidate that is not stale, and the modes of
the blobs in it. -/
def checkedBase (target : RepositoryPublishTarget) :
    Prog PyError Exchange σ (String × List (String × String)) := do
  let ref ← self.request remote "GET"
    (apiRoot target ++ "/git/ref/heads/" ++ target.baseBranch) none
  let remoteBase ← innerSha ref "object" "remote base"
  raiseIf (remoteBase ≠ candidate.baseCommit)
    (.runtimeError "candidate base is stale; remote main has changed")
  let commit ← self.request remote "GET"
    (apiRoot target ++ "/git/commits/" ++ candidate.baseCommit) none
  let baseTree ← innerSha commit "tree" "base tree"
  let tree ← self.request remote "GET"
    (apiRoot target ++ "/git/trees/" ++ baseTree ++ "?recursive=1") none
  let modes ← checkedBaseTree tree
  return (baseTree, modes)

/-- The blob that is posted of a content. -/
def blobJson (content : ByteArray) : Json :=
  .obj [("content", .str (b64encode content)), ("encoding", .str "base64")]

/-- The body of the loop over the changed files. -/
def treeEntry (target : RepositoryPublishTarget) (modes : List (String × String)) (path : String) :
    Prog PyError Exchange σ TreeEntry := do
  let content ← CandidateStore.readChangedFile t candidate path
  let mode := (modes.lookup path).getD "100644"
  raiseIf (mode ∉ allowedBlobModes) (.runtimeError "candidate file has unsupported Git mode")
  match content with
  | none =>
    raiseIf (modes.lookup path = none)
      (.runtimeError "verified deletion is absent from base tree")
    return ⟨path, mode, none⟩
  | some content =>
    let blob ← self.request remote "POST" (apiRoot target ++ "/git/blobs") (some (blobJson content))
    let blobSha ← ownSha blob "blob"
    return ⟨path, mode, some blobSha⟩

def treeEntries (target : RepositoryPublishTarget) (modes : List (String × String)) :
    List String → Prog PyError Exchange σ (List TreeEntry)
  | [] => return []
  | path :: paths => do
    let entry ← self.treeEntry remote t candidate target modes path
    let entries ← treeEntries target modes paths
    return entry :: entries

def treeJson (baseTree : String) (changes : List TreeEntry) : Json :=
  .obj [("base_tree", .str baseTree), ("tree", .list (changes.map TreeEntry.json))]

def commitJson (treeSha : String) : Json :=
  .obj [("message", .str ("AI HQ verified candidate " ++ slice candidate.changeRef 19)),
    ("tree", .str treeSha), ("parents", .list [.str candidate.baseCommit])]

/-- What is checked of the tree in a reply that has one. -/
def checkReturnedTree (commit : Dict) (treeSha : String) : Except PyError Unit :=
  match commit.get "tree" with
  | some (.obj returned) => do
    let returnedSha ← ownSha returned "published commit tree"
    raiseIf (returnedSha ≠ treeSha) (.runtimeError "GitHub published commit tree mismatch")
  | _ => .ok ()

/-- Post the tree and the commit. -/
def postCommit (target : RepositoryPublishTarget) (baseTree : String) (changes : List TreeEntry) :
    Prog PyError Exchange σ (String × String) := do
  let newTree ← self.request remote "POST" (apiRoot target ++ "/git/trees")
    (some (treeJson baseTree changes))
  let treeSha ← ownSha newTree "published tree"
  let newCommit ← self.request remote "POST" (apiRoot target ++ "/git/commits")
    (some (commitJson candidate treeSha))
  let commitSha ← ownSha newCommit "published commit"
  checkReturnedTree newCommit treeSha
  return (treeSha, commitSha)

def refJson (branchName commitSha : String) : Json :=
  .obj [("ref", .str ("refs/heads/" ++ branchName)), ("sha", .str commitSha)]

/-- Post the branch of the candidate. -/
def postRef (target : RepositoryPublishTarget) (branchName commitSha : String) :
    Prog PyError Exchange σ Unit := do
  let createdRef ← self.request remote "POST" (apiRoot target ++ "/git/refs")
    (some (refJson branchName commitSha))
  let createdSha ← innerSha createdRef "object" "published ref"
  raiseIf (createdSha ≠ commitSha) (.runtimeError "GitHub published ref commit mismatch")

def publish : Prog PyError Exchange σ PublishedCandidate := do
  raiseIf (candidate.baseCommit = noGitBaseCommit ∨ isLowerHex 40 candidate.baseCommit.toList = false)
    (.valueError "candidate base commit must be an exact Git commit")
  let target ← self.targets.get candidate.repository
  let (baseTree, modes) ← self.checkedBase remote candidate target
  let changes ← self.treeEntries remote t candidate target modes (orderBy id candidate.changedFiles)
  let (treeSha, commitSha) ← self.postCommit remote candidate target baseTree changes
  let branchName ← generatedBranchName self.store.sha256 target candidate.missionId
    candidate.changeRef
  self.postRef remote target branchName commitSha
  PublishedCandidate.postInit candidate.repository candidate.changeRef branchName commitSha treeSha
    candidate.baseCommit

end GitHubCandidatePublisher

end AiHq
