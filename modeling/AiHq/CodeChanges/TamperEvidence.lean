import AiHq.CodeChanges.PublisherConfinement
import AiHq.CodeChanges.Reopening

/-!
# Tamper evidence

A candidate that is opened under the digest of an identity has that identity, and the files of its
workspace are those that the digest was computed of. What is read of them has the digest that the
manifest has, and so has what is published.
-/

namespace AiHq

open Relational FileSystem Json Concurrent

/-- The identity that a candidate was opened with. -/
def PersistedCandidate.identity (candidate : PersistedCandidate) (diffDigest : String) :
    CandidateIdentity where
  missionId := candidate.missionId
  repository := candidate.repository
  baseRef := candidate.baseRef
  baseCommit := candidate.baseCommit
  workspaceId := candidate.workspaceId
  changedFiles := candidate.changedFiles
  diffDigest := diffDigest
  contentDigest := candidate.contentDigest

namespace CandidateStore

variable {store : CandidateStore} {t : FileTree ByteArray} {missionId changeRef : String}
  {files : List Json} {evidence : Dict} {persisted : PersistedCandidate}

end CandidateStore

/-! ### The files -/

namespace IsolatedRepositorySandbox

variable {self : IsolatedRepositorySandbox} {workspace : RepositoryWorkspace} {workspaceId : Uuid}
  {s : Sandbox} {state : WorkspaceState}

end IsolatedRepositorySandbox

namespace CandidateStore

variable {sha256 : Sha256} {t files : FileTree ByteArray} {root root' d : Path} {c path : String}
  {candidate : PersistedCandidate} {content : Option ByteArray}

end CandidateStore

/-! ### What is posted -/

namespace GitHubCandidatePublisher

variable {σ : Type} {publisher : GitHubCandidatePublisher} {remote : Remote σ}
  {t : FileTree ByteArray} {candidate : PersistedCandidate} {target : RepositoryPublishTarget}
  {manifest : List (String × String)} {modes : List (String × String)} {s : σ}

/-- The entry of a posted tree has the bytes that the manifest has a digest of, and takes away
what the manifest does not have. -/
def Matches (sha256 : Sha256) (manifest : List (String × String)) (target : RepositoryPublishTarget)
    (sent : List Exchange) (entry : TreeEntry) : Prop :=
  match entry.sha with
  | none => manifest.lookup entry.path = none
  | some sha => ∃ content,
      manifest.lookup entry.path = some ("sha256:" ++ sha256.hexdigest content) ∧
        ∃ x ∈ sent, PostsBlob target x content ∧ HasSha x sha

variable {sha256 : Sha256} {path : String} {paths : List String}

lemma Matches.mono {sent sent' : List Exchange} {entry : TreeEntry}
    (h : Matches sha256 manifest target sent entry) (hsent : sent ⊆ sent') :
    Matches sha256 manifest target sent' entry := by
  unfold Matches at h ⊢
  cases hsha : entry.sha with
  | none => simpa only [hsha] using h
  | some sha =>
    simp only [hsha] at h ⊢
    obtain ⟨content, hlookup, x, hx, hpost⟩ := h
    exact ⟨content, hlookup, x, hsent hx, hpost⟩

end GitHubCandidatePublisher

/-! ### From the snapshot to the publication -/

section Opened

open CandidateStore CandidateVerifier IsolatedRepositorySandbox GitHubCandidatePublisher

variable {self : IsolatedRepositorySandbox} {store : CandidateStore} {workspaceId : Uuid}
  {workspace : RepositoryWorkspace} {s s' : Sandbox} {state : WorkspaceState}
  {candidate : CandidateSnapshot} {missionId openedId : String} {proposal evidence : Dict}
  {testEvidence : TestEvidence} {candidateDiff : Option String}
  {verified : CandidateVerifier.VerifiedCandidate}
  {t : FileTree ByteArray} {files : List Json} {persisted : PersistedCandidate}

end Opened

/-! ### A note in a checkout -/

section Cloned

open CandidateStore CandidateVerifier IsolatedRepositorySandbox GitHubCandidatePublisher

/-- The identity of a candidate that adds the note to the checkout of a commit. -/
def clonedIdentity : CandidateIdentity := { plain.identity with baseCommit := sampleCommit 'a' }

def clonedTable : List (String × String) :=
  [(noteText, plain.digest), (canonicalText plain.manifest, plain.contentDigest),
    (canonicalText plain.material, plain.diffDigest),
    (canonicalText clonedIdentity.payload,
      "58971eb9a293e8eb043e286c9b0d7f36c7ace9d95ac2b1c5b63a5ace3e83c68d")]

/-- A checkout at the commit, with nothing in it that is not committed. -/
def clonedSandbox : IsolatedRepositorySandbox :=
  { sample clonedTable (fun _ _ t => (.ok ⟨0, some "1 passed", some ""⟩, t)) fun _ _ _ _ => [] with
    git := fun _ _ args => some ⟨0, some (if args.head? = some "status" then ""
      else sampleCommit 'a'), some ""⟩ }

def clonedRepository : Sandbox :=
  ⟨((FileTree.empty.put ["src"] .dir).put [".git", "src"] .dir).put ["sandbox"] .dir, ∅⟩

/-- The workspace before the note is written. -/
def cloned : Sandbox := (clonedSandbox.prepare "m" sampleId clonedRepository).2

/-- The files once the note is written. -/
def clonedWritten : FileTree ByteArray := (applyAll cloned.files noteRoot [plain.change]).2

lemma manifest_clonedWritten : clonedSandbox.manifest clonedWritten noteRoot =
    [("e.md", "sha256:" ++ plain.digest)] := by
  decide +kernel

/-- The workspace once the note is written, and what a snapshot sees of it. -/
structure Cloned (workspace : RepositoryWorkspace) (s : Sandbox) (state : WorkspaceState)
    (candidate : CandidateSnapshot) : Prop where
  reached : clonedSandbox.Reached sampleId workspace s
  state_eq : stateFor s workspace = .ok state
  files : s.files = clonedWritten
  path : state.path = noteRoot
  base : state.baseManifest = []
  snapshot : (clonedSandbox.snapshot workspace s).1 = .ok candidate
  baseRef : candidate.baseRef.1 = "main"
  baseCommit : candidate.baseCommit.1.1 = sampleCommit 'a'
  changedFiles : candidate.changedFiles.map Subtype.val = ["e.md"]
  diffDigest : candidate.diffDigest.1.1 =
    textDigest clonedSandbox.sha256 (canonicalText plain.material)
  contentDigest : candidate.contentDigest.1.1 =
    textDigest clonedSandbox.sha256 (canonicalText plain.manifest)

lemma Cloned.changedPaths {workspace : RepositoryWorkspace} {s : Sandbox} {state : WorkspaceState}
    {candidate : CandidateSnapshot} (h : Cloned workspace s state candidate) :
    changedPaths state.baseManifest (clonedSandbox.manifest s.files state.path) = ["e.md"] := by
  rw [h.base, h.files, h.path, manifest_clonedWritten]
  decide

end Cloned

end AiHq
