import AiHq.Delivery.Manifest

/-!
# The repository sandbox

Workspaces are copies of a trusted repository; the sandbox applies the changes of a developer in
them, observes what has changed, and runs the fixed test profile.
-/

namespace AiHq

open Relational FileSystem

structure RepositoryProfile where
  key : Required
  trusted : key.1 ∈ trustedRepositoryKeys
  sourcePath : Path
  baseRef : Required
  testCommands : List (List String)
  commands_ne : testCommands ≠ [] ∧ ∀ command ∈ testCommands, command ≠ []
  copyExcludes : List String
  /-- the relative path of each link, and the directory that it leads to -/
  sharedDependencyLinks : List (String × Path)

structure CompletedProcess where
  returncode : ℤ
  stdout : Option String
  stderr : Option String

structure WorkspaceState where
  workspaceId : String
  path : Path
  profile : RepositoryProfile
  baseManifest : List (String × String)
  baseCommit : String
  snapshotFingerprint : Option String := none
  candidateReviewDiff : Option String := none

instance : Keyed WorkspaceState String := ⟨WorkspaceState.workspaceId⟩

/-- The files of the machine and what the sandbox remembers of its workspaces. -/
structure Sandbox where
  files : FileTree ByteArray
  workspaces : Table WorkspaceState

/-- A sandbox for one repository, with the functions and programs that it calls:
`shutil.ignore_patterns`, `git`, the runner of test commands, which may do anything to the files,
and `difflib.unified_diff`. -/
structure IsolatedRepositorySandbox where
  profile : RepositoryProfile
  sandboxRoot : Path
  sha256 : Sha256
  ignorePatterns : List String → String → Bool
  git : FileTree ByteArray → Path → List String → Option CompletedProcess
  commandRunner : List String → Path → FileTree ByteArray →
    Except PyError CompletedProcess × FileTree ByteArray
  unifiedDiff : List String → List String → String → String → List String

/-- How a failed call on the file system shows in the program. -/
def osError : Errno → PyError
  | .noEntry => .other "FileNotFoundError"
  | .notDirectory => .other "NotADirectoryError"
  | .alreadyExists => .other "FileExistsError"
  | .isDirectory => .other "IsADirectoryError"
  | .invalid => .valueError "embedded null byte"
  | .loop | .unsupported => .other "OSError"

/-- `path.resolve()` -/
def resolvePath (t : FileTree ByteArray) (p : Path) : Except PyError Path :=
  match t.realpath p with
  | .ok q => .ok q
  | .error .loop => .error (.runtimeError "Symlink loop")
  | .error error => .error (osError error)

namespace IsolatedRepositorySandbox

variable (self : IsolatedRepositorySandbox)

def manifest (t : FileTree ByteArray) (root : Path) : List (String × String) :=
  manifestOf self.sha256 t root

def canonicalDigest (value : Json) : String := digestOf self.sha256 value

/-! ### Preparing a workspace -/

def gitRead (t : FileTree ByteArray) (args : List String) : Except PyError CompletedProcess :=
  (self.git t self.profile.sourcePath args).elim
    (.error (.runtimeError "repository base checkout could not be verified")) .ok

def resolveBaseCommit (t : FileTree ByteArray) : Except PyError String :=
  if t.present (".git" :: self.profile.sourcePath) then do
    let baseResult ← self.gitRead t
      ["rev-parse", "--verify", self.profile.baseRef ++ "^\x7bcommit\x7d"]
    let baseCommit := strip (baseResult.stdout.getD "")
    raiseIf (baseResult.returncode ≠ 0 ∨ !isLowerHex 40 baseCommit.toList)
      (.runtimeError "repository base commit could not be resolved")
    let headResult ← self.gitRead t ["rev-parse", "--verify", "HEAD^\x7bcommit\x7d"]
    let headCommit := strip (headResult.stdout.getD "")
    raiseIf (headResult.returncode ≠ 0 ∨ !isLowerHex 40 headCommit.toList ∨ headCommit ≠ baseCommit)
      (.runtimeError "repository source HEAD must match the exact base commit")
    let statusResult ← self.gitRead t ["status", "--porcelain=v1", "--untracked-files=all"]
    raiseIf (statusResult.returncode ≠ 0)
      (.runtimeError "repository source checkout could not be verified")
    raiseIf (strip (statusResult.stdout.getD "") ≠ "")
      (.runtimeError "repository source checkout must be clean before candidate preparation")
    return baseCommit
  else .ok noGitBaseCommit

def excluded (name : String) : Bool :=
  if self.profile.copyExcludes = [] then false
  else self.ignorePatterns self.profile.copyExcludes name

/-- `shutil.copytree(source_path, workspace_path, symlinks=True, ignore=ignore)`; a device, a pipe
or a socket is skipped, and reported at the end. -/
def copyRepository (t : FileTree ByteArray) (workspaceId : String) :
    Except PyError Unit × FileTree ByteArray :=
  if t.node? self.profile.sourcePath ≠ some .dir then (.error (.other "FileNotFoundError"), t)
  else match t.makeDirs self.sandboxRoot with
    | (.error error, t) => (.error (osError error), t)
    | (.ok (), t) =>
      if Proper workspaceId ∧ t.node? self.sandboxRoot = some .dir ∧
          t.node? (workspaceId :: self.sandboxRoot) = none then
        let special := t.nodes.rows.any fun n => n.entry.isSpecial &&
          (relative self.profile.sourcePath n.path).any fun r => !r.any self.excluded
        (if special then .error (.other "Error") else .ok (),
          t.copyTree self.excluded self.profile.sourcePath (workspaceId :: self.sandboxRoot))
      else (.error (.other "FileExistsError"), t)

def linkDependencies (t : FileTree ByteArray) (workspacePath : Path) :
    List (String × Path) → Except PyError Unit × FileTree ByteArray
  | [] => (.ok (), t)
  | (relativePath, dependency) :: links =>
    let link := (components relativePath).reverse ++ workspacePath
    match t.makeDirs link.tail with
    | (.error error, t) => (.error (osError error), t)
    | (.ok (), t) => match t.symlink link ("/" ++ slashed dependency.reverse) with
      | .error error => (.error (osError error), t)
      | .ok t => linkDependencies t workspacePath links

/-- `uuid4` has yielded `workspaceId`. -/
def prepare (missionId : String) (workspaceId : Uuid) (s : Sandbox) :
    Except PyError RepositoryWorkspace × Sandbox :=
  if strip missionId = "" then (.error (.valueError "mission_id is required"), s)
  else match self.resolveBaseCommit s.files with
    | .error error => (.error error, s)
    | .ok baseCommit =>
      let workspacePath := workspaceId.1 :: self.sandboxRoot
      match self.copyRepository s.files workspaceId with
      | (.error error, files) => (.error error, { s with files })
      | (.ok (), files) =>
        match linkDependencies files workspacePath self.profile.sharedDependencyLinks with
        | (.error error, files) => (.error error, { s with files })
        | (.ok (), files) =>
          let state : WorkspaceState :=
            { workspaceId := workspaceId, path := workspacePath, profile := self.profile,
              baseManifest := self.manifest files workspacePath, baseCommit }
          (RepositoryWorkspace.postInit missionId self.profile.key self.profile.baseRef workspaceId
            baseCommit, { files, workspaces := s.workspaces.put state })

/-! ### Observing a workspace -/

def stateFor (s : Sandbox) (workspace : RepositoryWorkspace) : Except PyError WorkspaceState :=
  match s.workspaces.get? workspace.workspaceId with
  | none => .error (.keyError ("unknown repository workspace: " ++ workspace.workspaceId))
  | some state => do
    raiseIf (workspace.repository.1 ≠ state.profile.key)
      (.valueError "workspace repository identity mismatch")
    raiseIf (workspace.baseRef.1 ≠ state.profile.baseRef)
      (.valueError "workspace base reference mismatch")
    raiseIf (workspace.baseCommit.1.1 ≠ state.baseCommit)
      (.valueError "workspace base commit mismatch")
    return state

lemma stateFor_eq_ok {s : Sandbox} {workspace : RepositoryWorkspace} {state : WorkspaceState} :
    stateFor s workspace = .ok state ↔ s.workspaces.get? workspace.workspaceId = some state ∧
      workspace.repository.1 = state.profile.key ∧ workspace.baseRef.1 = state.profile.baseRef ∧
      workspace.baseCommit.1.1 = state.baseCommit := by
  unfold stateFor
  cases s.workspaces.get? workspace.workspaceId with
  | none => simp
  | some state' =>
    simp only [bind_eq_ok, raiseIf_eq_ok, not_not, Option.some.injEq]
    constructor
    · rintro ⟨-, hrepository, -, href, -, hcommit, hok⟩
      obtain rfl := Except.ok.inj hok
      exact ⟨rfl, hrepository, href, hcommit⟩
    · rintro ⟨rfl, hrepository, href, hcommit⟩
      exact ⟨(), hrepository, (), href, (), hcommit, rfl⟩

/-- The sandbox finds what it has remembered of a workspace in place of `state`. -/
lemma stateFor_set {s : Sandbox} {workspace : RepositoryWorkspace} {state state' : WorkspaceState}
    {files : FileTree ByteArray} (h : stateFor s workspace = .ok state)
    (hid : state'.workspaceId = state.workspaceId) (hprofile : state'.profile = state.profile)
    (hcommit : state'.baseCommit = state.baseCommit) :
    stateFor { files, workspaces := s.workspaces.set state' } workspace = .ok state' := by
  obtain ⟨hget, hrepository, href, hbase⟩ := stateFor_eq_ok.mp h
  refine stateFor_eq_ok.mpr ⟨?_, ?_, ?_, ?_⟩
  · have hkey : workspace.workspaceId.1 = key state' :=
      (Table.key_of_get? hget).symm.trans hid.symm
    rw [hkey] at hget ⊢
    exact Table.get?_set_self hget
  · rw [hprofile, hrepository]
  · rw [hprofile, href]
  · rw [hcommit, hbase]

/-- The paths at which two manifests differ, in order. -/
def changedPaths (base candidate : List (String × String)) : List String :=
  orderBy id ((base.map Prod.fst ++ candidate.map Prod.fst).dedup.filter fun path =>
    base.lookup path ≠ candidate.lookup path)

def diffMaterial (base candidate : List (String × String)) : Json :=
  .list ((changedPaths base candidate).map fun path => .obj
    [("path", .str path),
      ("before", .str ((base.lookup path).getD "deleted-or-absent")),
      ("after", .str ((candidate.lookup path).getD "deleted-or-absent"))])

def snapshot (workspace : RepositoryWorkspace) (s : Sandbox) :
    Except PyError CandidateSnapshot × Sandbox :=
  match stateFor s workspace with
  | .error error => (.error error, s)
  | .ok state =>
    let candidateManifest := self.manifest s.files state.path
    let contentDigest := self.canonicalDigest (manifestJson candidateManifest)
    (CandidateSnapshot.postInit workspace.workspaceId workspace.repository workspace.baseRef
        (changedPaths state.baseManifest candidateManifest)
        (self.canonicalDigest (diffMaterial state.baseManifest candidateManifest)) contentDigest
        state.baseCommit,
      { s with workspaces :=
          s.workspaces.set { state with snapshotFingerprint := some contentDigest } })

/-- The digest of the manifest of a workspace. -/
def workspaceDigest (t : FileTree ByteArray) (root : Path) : String :=
  self.canonicalDigest (manifestJson (self.manifest t root))

variable {self} in
/-- What a snapshot says of the workspace, and what the sandbox remembers of it. -/
lemma snapshot_eq_ok {workspace : RepositoryWorkspace} {s s' : Sandbox}
    {candidate : CandidateSnapshot} (h : self.snapshot workspace s = (.ok candidate, s')) :
    ∃ state, stateFor s workspace = .ok state ∧
      s' = { s with workspaces :=
        s.workspaces.set { state with snapshotFingerprint := some candidate.contentDigest.1 } } ∧
      candidate.contentDigest.1.1 = self.workspaceDigest s.files state.path ∧
      (changedPaths state.baseManifest (self.manifest s.files state.path)).map strip =
        candidate.changedFiles.map Subtype.val := by
  unfold snapshot at h
  cases hstate : stateFor s workspace with
  | error error =>
    rw [hstate] at h
    cases h
  | ok state =>
    rw [hstate] at h
    obtain ⟨hok, rfl⟩ := Prod.mk.inj h
    obtain ⟨-, -, -, -, hfiles, -, hcontent⟩ := CandidateSnapshot.postInit_eq_ok.mp hok
    have hdigest : candidate.contentDigest.1.1 = self.workspaceDigest s.files state.path :=
      hcontent.symm.trans (strip_textDigest self.sha256 _)
    exact ⟨state, rfl, by rw [hdigest]; rfl, hdigest, hfiles⟩

def requireCurrentSnapshot (s : Sandbox) (state : WorkspaceState) : Except PyError Unit :=
  match state.snapshotFingerprint with
  | none => .error (.runtimeError "repository workspace snapshot is required before tests")
  | some fingerprint =>
    raiseIf (self.canonicalDigest (manifestJson (self.manifest s.files state.path)) ≠ fingerprint)
      (.runtimeError "repository workspace snapshot is stale")

def reviewDiff (workspace : RepositoryWorkspace) (s : Sandbox) : Except PyError String := do
  let state ← stateFor s workspace
  self.requireCurrentSnapshot s state
  state.candidateReviewDiff.elim
    (.error (.runtimeError "candidate review diff is required before QA")) .ok

/-! ### Applying changes -/

/-- Down the parts of a path, none of which may be a link that leads anywhere. -/
def checkParts (t : FileTree ByteArray) : Path → List String → Except PyError Path
  | current, [] => .ok current
  | current, part :: parts => do
    raiseIf (t.present (part :: current) ∧ t.isSymlink (part :: current))
      (.valueError "repository path cannot traverse a symlink escape")
    checkParts t (part :: current) parts

def safeTarget (t : FileTree ByteArray) (workspaceRoot : Path) (rawPath : String) :
    Except PyError Path := do
  raiseIf (rawPath = "") (.valueError "repository path is required")
  raiseIf ('\\' ∈ rawPath.toList)
    (.valueError "repository path must use normalized relative separators")
  let rawParts := components rawPath
  raiseIf (∃ part ∈ rawParts, part ∈ ["", ".", ".."])
    (.valueError "repository path must be normalized and relative to workspace")
  let current ← checkParts t workspaceRoot rawParts
  let resolvedParent ← resolvePath t current.tail
  let root ← resolvePath t workspaceRoot
  raiseIf (resolvedParent ≠ root ∧ ¬root <:+ resolvedParent)
    (.valueError "repository path escapes workspace")
  return current

def reviewText (t : FileTree ByteArray) (path : Path) : Except PyError (Option String) :=
  if !t.present path then .ok none
  else if !t.isFile path || t.isSymlink path then
    .error (.valueError "candidate review diff requires regular files")
  else match t.read path with
    | .error error => .error (osError error)
    | .ok content => (readText content).elim
      (.error (.valueError "candidate review diff requires UTF-8 text files")) (.ok ∘ some)

/-- The texts of the changed files, the first time that each is met. -/
def reviewBefore (t : FileTree ByteArray) (workspaceRoot : Path) :
    List (String × Option String) → List FileChange →
      Except PyError (List (String × Option String))
  | before, [] => .ok before
  | before, change :: changes => do
    let target ← safeTarget t workspaceRoot change.path
    if before.any fun field => field.1 = change.path then
      reviewBefore t workspaceRoot before changes
    else
      let text ← reviewText t target
      reviewBefore t workspaceRoot (before ++ [(change.path, text)]) changes

/-- The body of the loop for a write, and the files afterwards even if it fails. -/
def writeTarget (t : FileTree ByteArray) (target : Path) (content : String) :
    Except PyError Unit × FileTree ByteArray :=
  match t.makeDirs target.tail with
  | (.error error, t) => (.error (osError error), t)
  | (.ok (), t) => match t.write target content.toUTF8 with
    | .error error => (.error (osError error), t)
    | .ok t => (.ok (), t)

def deleteTarget (t : FileTree ByteArray) (target : Path) :
    Except PyError Unit × FileTree ByteArray :=
  if t.present target then
    if !t.isFile target || t.isSymlink target then
      (.error (.valueError "delete target must be a regular workspace file"), t)
    else match t.unlink target with
      | .error error => (.error (osError error), t)
      | .ok t => (.ok (), t)
  else (.ok (), t)

def applyChange (t : FileTree ByteArray) (workspaceRoot : Path) (change : FileChange) :
    Except PyError Unit × FileTree ByteArray :=
  match safeTarget t workspaceRoot change.path with
  | .error error => (.error error, t)
  | .ok target => match change.operation with
    | .write => writeTarget t target (change.content.getD "")
    | .delete => deleteTarget t target

def applyAll (t : FileTree ByteArray) (workspaceRoot : Path) :
    List FileChange → Except PyError Unit × FileTree ByteArray
  | [] => (.ok (), t)
  | change :: changes => match applyChange t workspaceRoot change with
    | (.error error, t) => (.error error, t)
    | (.ok (), t) => applyAll t workspaceRoot changes

def reviewAfter (t : FileTree ByteArray) (workspaceRoot : Path) :
    List (String × Option String) → Except PyError (List (String × Option String))
  | [] => .ok []
  | (relativePath, _) :: before => do
    let target ← safeTarget t workspaceRoot relativePath
    let text ← reviewText t target
    let after ← reviewAfter t workspaceRoot before
    return (relativePath, text) :: after

/-- The part of the review diff for one file. -/
def diffSection (relativePath : String) (old new : Option String) : String :=
  if old = new then ""
  else String.join (self.unifiedDiff (old.elim [] splitLines) (new.elim [] splitLines)
    (if old = none then "/dev/null" else "a/" ++ relativePath)
    (if new = none then "/dev/null" else "b/" ++ relativePath))

def buildReviewDiff (before after : List (String × Option String)) : Except PyError String := do
  let sections := (orderBy id (before.map Prod.fst)).map fun relativePath =>
    self.diffSection relativePath ((before.lookup relativePath).getD none)
      ((after.lookup relativePath).getD none)
  let reviewDiff := String.join sections
  raiseIf (24000 < reviewDiff.length)
    (.valueError "candidate review diff exceeds maximum safe review size")
  return reviewDiff

def applyChanges (workspace : RepositoryWorkspace) (changes : List FileChange) (s : Sandbox) :
    Except PyError CandidateSnapshot × Sandbox :=
  match stateFor s workspace with
  | .error error => (.error error, s)
  | .ok state => match reviewBefore s.files state.path [] changes with
    | .error error => (.error error, s)
    | .ok before => match applyAll s.files state.path changes with
      | (.error error, files) => (.error error, { s with files })
      | (.ok (), files) =>
        match (reviewAfter files state.path before).bind (self.buildReviewDiff before) with
        | .error error => (.error error, { s with files })
        | .ok reviewDiff =>
          let state := { state with candidateReviewDiff := some reviewDiff }
          self.snapshot workspace { files, workspaces := s.workspaces.set state }

/-! ### Running the tests -/

/-- What the loop over the commands has gathered. -/
structure TestLoop where
  records : List Json
  summaryParts : List String
  finalExitCode : ℤ
  passed : Bool

/-- The record and the summary of one command. -/
def observe (index : ℕ) (result : CompletedProcess) : Json × String :=
  let stdout := slice (strip (result.stdout.getD "")) 1800
  let stderr := slice (strip (result.stderr.getD "")) 1800
  let output := "\n".intercalate ([stdout, stderr].filter (· ≠ ""))
  let summary := "step " ++ toString index ++ ": exit " ++ toString result.returncode
  (.obj [("index", .int index), ("returncode", .int result.returncode), ("stdout", .str stdout),
    ("stderr", .str stderr)],
    if output = "" then summary else summary ++ "\n" ++ output)

/-- The loop over the commands, from the given index on. Beside what the source has, it lists the
file systems on which commands were started. -/
def runCommands (cwd : Path) : ℕ → List (List String) → FileTree ByteArray →
    Except PyError TestLoop × FileTree ByteArray × List (FileTree ByteArray)
  | _, [], t => (.ok ⟨[], [], 0, true⟩, t, [])
  | index, command :: commands, t =>
    match self.commandRunner command cwd t with
    | (.error (.other "TimeoutExpired"), t') =>
      (.error (.runtimeError "repository test profile timed out"), t', [t])
    | (.error error, t') => (.error error, t', [t])
    | (.ok result, t') =>
      if result.returncode ≠ 0 then
        (.ok ⟨[(observe index result).1], [(observe index result).2], result.returncode, false⟩,
          t', [t])
      else match runCommands cwd (index + 1) commands t' with
        | (.error error, t'', started) => (.error error, t'', t :: started)
        | (.ok rest, t'', started) =>
          (.ok { rest with records := (observe index result).1 :: rest.records,
                           summaryParts := (observe index result).2 :: rest.summaryParts },
            t'', t :: started)

def testEvidence (loop : TestLoop) : Except PyError TestEvidence :=
  let summary := strip ("\n\n".intercalate loop.summaryParts)
  let summary := if summary = "" then "repository test profile completed" else summary
  TestEvidence.postInit loop.passed loop.finalExitCode (slice summary 4000)
    (self.canonicalDigest (.list loop.records))

/-- The evidence, the sandbox afterwards, and the file systems on which commands were started. -/
def runTests (workspace : RepositoryWorkspace) (s : Sandbox) :
    Except PyError TestEvidence × Sandbox × List (FileTree ByteArray) :=
  match stateFor s workspace with
  | .error error => (.error error, s, [])
  | .ok state => match self.requireCurrentSnapshot s state with
    | .error error => (.error error, s, [])
    | .ok () => match self.runCommands state.path 1 state.profile.testCommands s.files with
      | (.error error, files, started) => (.error error, { s with files }, started)
      | (.ok loop, files, started) => (self.testEvidence loop, { s with files }, started)

/-! ### A small repository -/

def sampleProfile : RepositoryProfile where
  key := ⟨"ai-hq", by decide⟩
  trusted := by decide
  sourcePath := ["src"]
  baseRef := ⟨"main", by decide⟩
  testCommands := [["python", "-m", "ruff", "check", "src", "tests"], ["python", "-m", "pytest", "-q"]]
  commands_ne := by decide
  copyExcludes := []
  sharedDependencyLinks := []

/-- A sandbox beside the repository, for given digests, test commands and diffs. -/
def sample (table : List (String × String))
    (commandRunner : List String → Path → FileTree ByteArray →
      Except PyError CompletedProcess × FileTree ByteArray)
    (unifiedDiff : List String → List String → String → String → List String) :
    IsolatedRepositorySandbox where
  profile := sampleProfile
  sandboxRoot := ["ai-hq", "sandbox"]
  sha256 := .ofTable table
  ignorePatterns patterns name := patterns.contains name
  git _ _ _ := none
  commandRunner := commandRunner
  unifiedDiff := unifiedDiff

def sampleId : Uuid := ⟨"0f8fad5b-d9cb-469f-a165-70867728950e", by decide⟩

def sampleWorkspace : RepositoryWorkspace where
  missionId := ⟨"m", by decide⟩
  repository := ⟨"ai-hq", by decide⟩
  baseRef := ⟨"main", by decide⟩
  workspaceId := ⟨sampleId, by decide⟩
  baseCommit := ⟨⟨noGitBaseCommit, by decide⟩, by decide⟩

end IsolatedRepositorySandbox
end AiHq
