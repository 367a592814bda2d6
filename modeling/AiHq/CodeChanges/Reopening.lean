import AiHq.CodeChanges.Opening

/-!
# Opening a candidate again

The candidate store accepts what the verifier has accepted if it computes the same digest, which
it does if there are only ASCII characters in the identity, and if it accepts the paths.
-/

namespace AiHq

open Relational FileSystem Json

namespace CandidateStore

/-- A candidate that the verifier has accepted is opened again if its paths are accepted, the
digest is that of its identity, and its workspace has the digest that it had. -/
lemma loadVerified_evidenceOf (store : CandidateStore) (t : FileTree ByteArray)
    {missionId changeRef : String} {snapshot : CandidateSnapshot} (testEvidence : TestEvidence)
    (candidateDiff : Option String) (persisted : PersistedCandidate)
    (haccepts : Accepts (.ofSnapshot missionId snapshot))
    (href : ∀ field, digest (.str changeRef) field = .ok changeRef) :
    let I := CandidateIdentity.ofSnapshot missionId snapshot
    store.loadVerified t missionId changeRef (I.changedFiles.map .str)
        (CandidateVerifier.evidenceOf store.sha256 changeRef snapshot testEvidence candidateDiff) =
        .ok persisted ↔
      (∀ path ∈ I.changedFiles, SafePath path) ∧ I.changedFiles.Pairwise (· < ·) ∧
        I.storeRef store.sha256 = changeRef ∧
        ∃ workspacePath, store.verifiedWorkspace t I.repository I.workspaceId = .ok workspacePath ∧
          store.contentDigest t workspacePath = I.contentDigest ∧
          persisted = ⟨missionId, I.repository, I.workspaceId, I.baseRef, I.baseCommit, changeRef,
            I.changedFiles, I.contentDigest, workspacePath⟩ := by
  intro I
  set evidence := CandidateVerifier.evidenceOf store.sha256 changeRef snapshot testEvidence
    candidateDiff
  have hevidence : Evidences evidence changeRef I := by
    have halgorithm : evidence.get "algorithm" = some (.str "sha256") := rfl
    refine ⟨rfl, ?_, rfl, rfl, rfl, rfl, rfl, rfl, rfl⟩
    rw [halgorithm]
    decide
  exact loadVerified_of_evidences (I := I) store t persisted haccepts href hevidence

end CandidateStore

namespace CandidateVerifier

variable {sha256 : Sha256} {missionId : String} {proposal : Dict} {snapshot : CandidateSnapshot}
  {testEvidence : TestEvidence} {candidateDiff : Option String} {verified : VerifiedCandidate}

/-- What the verifier makes of a candidate that it accepts. -/
lemma verify_eq_ok (h : verify sha256 missionId proposal snapshot testEvidence candidateDiff =
      .ok verified) :
    let I := CandidateIdentity.ofSnapshot (strip missionId) snapshot
    IsRequired I.missionId ∧ verified.missionId = I.missionId ∧
      verified.changeRef = I.verifierRef sha256 ∧ verified.changedFiles = I.changedFiles ∧
      verified.evidence =
        evidenceOf sha256 (I.verifierRef sha256) snapshot testEvidence candidateDiff := by
  intro I
  simp only [verify, bind_eq_ok, raiseIf_eq_ok, exists_const] at h
  obtain ⟨hmission, summary, -, -, payload, hpayload, -, hok⟩ := h
  simp only [CandidateSnapshot.identityPayload, bind_eq_ok, required_eq_ok] at hpayload
  obtain ⟨mission, hstrip, hpayload⟩ := hpayload
  rw [strip_strip] at hstrip
  obtain rfl : I.payload = payload := by
    have hfiles : (snapshot.changedFiles >>= fun path => pure path.1) = I.changedFiles :=
      List.map_eq_flatMap.symm
    rw [← Except.ok.inj hpayload, ← hstrip, hfiles]
    rfl
  obtain rfl := Except.ok.inj hok
  exact ⟨⟨strip_strip missionId, hmission⟩, rfl, rfl, rfl, rfl⟩

/-- A candidate that has passed its tests is accepted. -/
lemma exists_verified {summary : String} (hmission : strip missionId ≠ "")
    (hsummary : summaryOf proposal = .ok summary) (hpassed : testEvidence.passed = true)
    (hexit : testEvidence.exitCode = 0) (hdiff : candidateDiff ≠ some "") :
    ∃ verified, verify sha256 missionId proposal snapshot testEvidence candidateDiff =
      .ok verified := by
  obtain ⟨payload, hpayload⟩ : ∃ payload,
      snapshot.identityPayload (strip missionId) = .ok payload := by
    simp only [CandidateSnapshot.identityPayload, bind_eq_ok, required_eq_ok]
    exact ⟨_, ⟨strip missionId, strip_strip missionId, hmission⟩, strip_strip missionId, rfl⟩
  have htests : ¬(testEvidence.passed = false ∨ testEvidence.exitCode ≠ 0) := by
    simp [hpassed, hexit]
  simp only [verify, bind_eq_ok, raiseIf_eq_ok, exists_const]
  exact ⟨_, hmission, summary, hsummary, htests, payload, hpayload, fun h => hdiff h.2, rfl⟩

end CandidateVerifier

namespace IsolatedRepositorySandbox

variable {self : IsolatedRepositorySandbox} {workspace : RepositoryWorkspace}
  {workspaceId : Uuid} {s s' : Sandbox} {state : WorkspaceState} {candidate : CandidateSnapshot}

/-- The store accepts what a snapshot says of a workspace, its paths apart. -/
lemma accepts_ofSnapshot {missionId : String} (hmission : IsRequired missionId)
    (hstate : stateFor s workspace = .ok state)
    (hstanding : self.Standing workspaceId state s.files)
    (hid : workspace.workspaceId.1 = workspaceId)
    (hsnapshot : self.snapshot workspace s = (.ok candidate, s'))
    (hmain : candidate.baseRef.1 = "main") :
    CandidateStore.Accepts (.ofSnapshot missionId candidate) ∧
      candidate.repository = self.profile.key ∧ candidate.workspaceId.1 = workspaceId := by
  obtain ⟨-, -, hprofile, hcommit⟩ := hstanding
  obtain ⟨-, hrepository, -, -⟩ := stateFor_eq_ok.mp hstate
  rw [snapshot, hstate] at hsnapshot
  obtain ⟨hworkspace', hrepository', -, hcommit', -, hdiff, hcontent⟩ :=
    CandidateSnapshot.postInit_eq_ok.mp (Prod.mk.inj hsnapshot).1
  rw [hid, strip_uuid workspaceId.2] at hworkspace'
  rw [workspace.repository.2.1, hrepository, hprofile] at hrepository'
  rw [strip_eq_self fun c hc => isSpace_of_isLowerHex hcommit hc] at hcommit'
  rw [canonicalDigest, digestOf, strip_textDigest] at hdiff hcontent
  refine ⟨⟨hmission, ?_, hmain, ?_, ?_, fun field => ?_, fun field => ?_⟩,
    Subtype.ext hrepository'.symm, hworkspace'.symm⟩
  · show candidate.repository.1 ∈ trustedRepositoryKeys
    rw [← hrepository']
    exact self.profile.trusted
  · show isLowerHex 40 candidate.baseCommit.1.1.toList = true
    rw [← hcommit']
    exact hcommit
  · show isUuid candidate.workspaceId.1 = true
    rw [← hworkspace']
    exact workspaceId.2
  · show CandidateStore.digest (.str candidate.diffDigest.1.1) field = .ok candidate.diffDigest.1.1
    rw [← hdiff]
    exact CandidateStore.digest_textDigest _ _
  · show CandidateStore.digest (.str candidate.contentDigest.1.1) field =
      .ok candidate.contentDigest.1.1
    rw [← hcontent]
    exact CandidateStore.digest_textDigest _ _

end IsolatedRepositorySandbox

/-! ### Opening what was observed -/

namespace CandidateStore

lemma isAscii_of_isLowerHex {n : ℕ} {value : String} (h : isLowerHex n value.toList = true) :
    IsAscii value := by
  intro c hc
  rcases lowerHex_of_mem h hc with hc | hc
  · omega
  · omega

lemma isAscii_uuid {value : String} (h : isUuid value = true) : IsAscii value := by
  intro c hc
  rcases uuid_of_mem h hc with rfl | hc | hc
  · decide
  · omega
  · omega

lemma isAscii_of_digest {value field : String} (h : digest (.str value) field = .ok value) :
    IsAscii value := by
  simp only [digest, bind_eq_ok] at h
  obtain ⟨value', -, h⟩ := h
  split_ifs at h with hdigest
  obtain rfl := Except.ok.inj h
  unfold isDigest at hdigest
  split at hdigest
  · next digits heq =>
    intro c hc
    rw [heq] at hc
    have hsplit : c ∈ "sha256:".toList ∨ c ∈ digits := List.mem_append.mp hc
    rcases hsplit with hc | hc
    · have hpre : ∀ c ∈ "sha256:".toList, c.toNat < 0x7f := by decide
      exact hpre c hc
    · rcases lowerHex_of_mem hdigest hc with hc | hc
      · omega
      · omega
  · cases hdigest

/-- The two ways of writing the identity are the same if the mission and the paths are ASCII. -/
lemma ascii_iff_of_accepts {I : CandidateIdentity} (h : Accepts I) :
    I.payload.dumpsAs escapeUnicode = I.payload.dumps ↔
      IsAscii I.missionId ∧ ∀ path ∈ I.changedFiles, IsAscii path := by
  have htrusted : ∀ repository ∈ trustedRepositoryKeys, IsAscii repository := by decide
  have hmain : IsAscii "main" := by decide
  rw [dumpsAs_eq_iff]
  exact CandidateIdentity.ascii_texts_iff (htrusted _ h.repository) (h.baseRef ▸ hmain)
    (isAscii_of_isLowerHex h.baseCommit) (isAscii_uuid h.workspaceId)
    (isAscii_of_digest (h.diffDigest "")) (isAscii_of_digest (h.contentDigest ""))

open IsolatedRepositorySandbox CandidateVerifier

/-- A candidate that was observed and verified is opened again as what it was. -/
def Reopens (store : CandidateStore) (t : FileTree ByteArray) (candidate : CandidateSnapshot)
    (verified : CandidateVerifier.VerifiedCandidate) : Prop :=
  ∃ persisted, store.loadVerified t verified.missionId verified.changeRef
      (verified.changedFiles.map .str) verified.evidence = .ok persisted ∧
    persisted.repository = candidate.repository ∧
    persisted.baseCommit = candidate.baseCommit.1 ∧
    persisted.workspaceId = candidate.workspaceId ∧
    persisted.changedFiles = candidate.changedFiles.map Subtype.val ∧
    persisted.contentDigest = candidate.contentDigest.1

/-- The store opens what the sandbox has observed and the verifier has accepted exactly if the
mission and the paths are ASCII, and the paths are safe and in order. -/
theorem reopens_iff {self : IsolatedRepositorySandbox} {store : CandidateStore}
    {workspace : RepositoryWorkspace} {workspaceId : Uuid} {s s' : Sandbox} {state : WorkspaceState}
    {candidate : CandidateSnapshot} {missionId : String} {proposal : Dict}
    {testEvidence : TestEvidence} {candidateDiff : Option String}
    {verified : CandidateVerifier.VerifiedCandidate} (hsha : store.sha256 = self.sha256)
    (hroot : self.sandboxRoot = self.profile.key.1 :: store.sandboxRoot)
    (hid : workspace.workspaceId.1 = workspaceId)
    (hstate : stateFor s workspace = .ok state)
    (hstanding : self.Standing workspaceId state s.files)
    (hsnapshot : self.snapshot workspace s = (.ok candidate, s'))
    (hmain : candidate.baseRef.1 = "main")
    (hverify : verify self.sha256 missionId proposal candidate testEvidence candidateDiff =
      .ok verified)
    (hcollision : CandidateIdentity.NoCollision self.sha256
      (String.ofList ((CandidateIdentity.ofSnapshot (strip missionId) candidate).payload.dumpsAs
        escapeUnicode))
      (canonicalText (CandidateIdentity.ofSnapshot (strip missionId) candidate).payload)) :
    store.Reopens s'.files candidate verified ↔ IsAscii (strip missionId) ∧
      (∀ path ∈ candidate.changedFiles, IsAscii path.1 ∧ SafePath path.1) ∧
      (candidate.changedFiles.map Subtype.val).Pairwise (· < ·) := by
  obtain ⟨hmission, hmission', href, hfiles, hevidence⟩ := verify_eq_ok hverify
  obtain ⟨haccepts, hrepository, hworkspaceId⟩ :=
    accepts_ofSnapshot hmission hstate hstanding hid hsnapshot hmain
  obtain ⟨hpath, hdir, -, -⟩ := hstanding
  obtain ⟨state', hstate', rfl, hcontent, -⟩ := snapshot_eq_ok hsnapshot
  obtain rfl := Except.ok.inj (hstate.symm.trans hstate')
  let I := CandidateIdentity.ofSnapshot (strip missionId) candidate
  have hI : CandidateStore.Accepts I := haccepts
  -- the workspace is found, and its files are those that were observed
  have hplace : state.path = I.workspaceId :: I.repository :: store.sandboxRoot := by
    show state.path = candidate.workspaceId.1 :: candidate.repository.1 :: store.sandboxRoot
    rw [hpath, hroot, hworkspaceId, hrepository]
  have hworkspace : store.verifiedWorkspace s.files I.repository I.workspaceId =
      .ok (I.workspaceId :: I.repository :: store.sandboxRoot) :=
    verifiedWorkspace_of_dir hI.repository (hplace ▸ hdir)
  have hcurrent : store.contentDigest s.files
      (I.workspaceId :: I.repository :: store.sandboxRoot) = I.contentDigest := by
    rw [← hplace, contentDigest, hsha]
    exact hcontent.symm
  have hrefOk (field : String) :
      digest (.str (I.verifierRef store.sha256)) field = .ok (I.verifierRef store.sha256) :=
    digest_textDigest _ _
  -- the digest is the same if the two texts are
  have hdigest : I.storeRef store.sha256 = I.verifierRef store.sha256 ↔
      IsAscii I.missionId ∧ ∀ path ∈ I.changedFiles, IsAscii path := by
    rw [← ascii_iff_of_accepts hI]
    constructor
    · intro h
      rw [hsha] at h
      exact (CandidateIdentity.eq_of_verifierRef_eq hcollision h.symm).2
    · intro h
      rw [CandidateIdentity.verifierRef, changeRefOf, h]
      rfl
  have hload (persisted : PersistedCandidate) := loadVerified_evidenceOf store s.files testEvidence
    candidateDiff persisted haccepts hrefOk
  rw [Reopens, hmission', href, hfiles, hevidence, ← hsha]
  constructor
  · rintro ⟨persisted, hloaded, -⟩
    obtain ⟨hsafe, hsorted, hrefs, -⟩ := (hload persisted).mp hloaded
    obtain ⟨hasciiMission, hasciiFiles⟩ := hdigest.mp hrefs
    exact ⟨hasciiMission, fun path h => ⟨hasciiFiles _ (List.mem_map_of_mem h),
      hsafe _ (List.mem_map_of_mem h)⟩, hsorted⟩
  · rintro ⟨hasciiMission, hpaths, hsorted⟩
    have hall {P : String → Prop} (h : ∀ path ∈ candidate.changedFiles, P path.1) :
        ∀ path ∈ I.changedFiles, P path := by
      intro path hpath
      obtain ⟨path', hmem, rfl⟩ := List.mem_map.mp hpath
      exact h path' hmem
    refine ⟨_, (hload _).mpr ⟨hall fun path h => (hpaths path h).2, hsorted,
      hdigest.mpr ⟨hasciiMission, hall fun path h => (hpaths path h).1⟩, _, hworkspace, hcurrent,
      rfl⟩, rfl, rfl, rfl, rfl, rfl⟩

/-! ### Two new notes -/

def noteText : String := "x = 1\n"

/-- A new note, with the digests of its text, of its manifest, of what is changed, and of the two
texts of the identity. -/
structure Note where
  path : String
  ne_empty : path ≠ ""
  digest : String
  contentDigest : String
  diffDigest : String
  verifierDigest : String
  storeDigest : String

namespace Note

variable (note : Note)

def manifest : Json := manifestJson [(note.path, "sha256:" ++ note.digest)]

def material : Json := diffMaterial [] [(note.path, "sha256:" ++ note.digest)]

/-- The identity of a candidate that adds the note. -/
def identity : CandidateIdentity where
  missionId := "m"
  repository := "ai-hq"
  baseRef := "main"
  baseCommit := noGitBaseCommit
  workspaceId := sampleId
  changedFiles := [note.path]
  diffDigest := "sha256:" ++ note.diffDigest
  contentDigest := "sha256:" ++ note.contentDigest

def table : List (String × String) :=
  [(noteText, note.digest), (canonicalText note.manifest, note.contentDigest),
    (canonicalText note.material, note.diffDigest),
    (String.ofList (note.identity.payload.dumpsAs escapeUnicode), note.verifierDigest),
    (canonicalText note.identity.payload, note.storeDigest)]

def sandbox : IsolatedRepositorySandbox :=
  sample note.table (fun _ _ t => (.ok ⟨0, some "1 passed", some ""⟩, t)) fun _ _ _ _ => []

def store : CandidateStore := ⟨["sandbox"], note.sandbox.sha256⟩

def change : FileChange := ⟨note.path, .write, some noteText, note.ne_empty, by simp⟩

end Note

def emptyRepository : Sandbox := ⟨(FileTree.empty.put ["src"] .dir).put ["sandbox"] .dir, ∅⟩

def noteRoot : Path := [sampleId, "ai-hq", "sandbox"]

namespace Note

variable (note : Note)

/-- The empty workspace. -/
def before : Sandbox := (note.sandbox.prepare "m" sampleId emptyRepository).2

/-- The files once the note is written. -/
def written : FileTree ByteArray := (applyAll note.before.files noteRoot [note.change]).2

end Note

def noteEvidence : TestEvidence where
  passed := true
  exitCode := 0
  summary := ⟨"1 passed", by decide⟩
  evidenceDigest := sha256DigestOf (.ofTable []) ""
  bounded := by decide

/-- A name that is not ASCII. -/
def accented : Note where
  path := "é.md"
  ne_empty := by decide
  digest := "9e26bf369911c45c243c684147b23fc9e1dcfcf257d299a1c632016a6fcd33f4"
  contentDigest := "17e34c48782b212ce12100e126cbd7e1abf85b9e81e03fe6b05b1e9b04390ca5"
  diffDigest := "ce0c6d449cd9b8d724586506a787cd2a19d6b547c981f0a724f5ef60e7d711f6"
  verifierDigest := "188b29f926006f1407d48745eb11ad190d6c37f7677f437802ba1222a42022e9"
  storeDigest := "afb458810201624184a436125db89d40e90248e570bdd251b004974bf062c80a"

def plain : Note where
  path := "e.md"
  ne_empty := by decide
  digest := "9e26bf369911c45c243c684147b23fc9e1dcfcf257d299a1c632016a6fcd33f4"
  contentDigest := "c0d905b19120dbde753b8ec2a8ee1fe207d2ccbef8f4ded8c7719d3d6f0236be"
  diffDigest := "d9bf82fe2d8ed422b3a16c46963aec2fe6173739626860607c805a2369695552"
  verifierDigest := "01895bd13887e8127eadd3260bf07bbdf044bb6c69d0102d39d8eed87dc271fc"
  storeDigest := "01895bd13887e8127eadd3260bf07bbdf044bb6c69d0102d39d8eed87dc271fc"

def notes : List Note := [accented, plain]

variable {note : Note}

/-- Neither the manifest nor the identity is a list, and only one has a mission. -/
lemma Note.nodup_table (hascii : ¬IsAscii note.path) :
    ((note.table).map Prod.fst).Nodup := by
  have hnote (escape : Char → List Char) (x : Json) (hx : x = note.material ∨
      ∃ fields, x = .obj fields) : noteText ≠ String.ofList (x.dumpsAs escape) := by
    refine ne_of_head? ?_
    rcases hx with rfl | ⟨fields, rfl⟩
    · rw [Note.material, diffMaterial, head?_dumpsAs_list]
      decide
    · rw [head?_dumpsAs_obj]
      decide
  have hmaterial (escape : Char → List Char) (fields : Dict) :
      String.ofList ((note.material).dumpsAs escapeChar) ≠
        String.ofList ((Json.obj fields).dumpsAs escape) := by
    refine ne_of_head? ?_
    rw [String.toList_ofList, Note.material, diffMaterial, head?_dumpsAs_list, head?_dumpsAs_obj]
    decide
  have htexts : String.ofList ((note.identity).payload.dumpsAs escapeUnicode) ≠
      String.ofList ((note.identity).payload.dumpsAs escapeChar) := by
    intro h
    rw [dumpsAs_escapeChar] at h
    exact hascii (dumpsAs_eq_iff.mp (String.ofList_inj.mp h) note.path (mem_textsFields.mpr
      ⟨("changed_files", .list [.str note.path]), by simp [Note.identity, CandidateIdentity.fields],
        .inr (by simp [texts, textsList])⟩))
  simp only [Note.table, canonicalText, ← dumpsAs_escapeChar, List.map_cons, List.map_nil,
    List.nodup_cons, List.mem_cons, List.not_mem_nil, or_false, not_or, List.nodup_nil, and_true,
    not_false_eq_true]
  refine ⟨⟨hnote _ _ (.inr ⟨_, rfl⟩), hnote _ _ (.inl rfl), hnote _ _ (.inr ⟨_, rfl⟩),
    hnote _ _ (.inr ⟨_, rfl⟩)⟩, ⟨(hmaterial _ _).symm,
    manifest_ne_payload escaped_escapeUnicode _ _ _, manifest_ne_payload escaped_escapeChar _ _ _⟩, ⟨hmaterial _ _, hmaterial _ _⟩, htexts⟩

lemma textDigest_accented : ∀ field ∈ accented.table,
    textDigest accented.sandbox.sha256 field.1 = "sha256:" ++ field.2 := by
  intro field hfield
  have hhex : ∀ digest ∈ accented.table.map Prod.snd, isLowerHex 64 digest.toList = true := by
    decide +kernel
  rw [textDigest]
  exact congrArg _ (Sha256.hexdigest_ofTable (Note.nodup_table (by decide)) hfield
    (hhex _ (List.mem_map_of_mem hfield)))

lemma prepared_note : ∀ note ∈ notes, ((note.sandbox.prepare "m" sampleId
    emptyRepository).1.toOption.any fun workspace =>
      workspace.baseCommit.1.1 = noGitBaseCommit) = true := by
  decide

lemma reviewBefore_note : ∀ note ∈ notes,
    reviewBefore note.before.files noteRoot [] [note.change] = .ok [(note.path, none)] := by
  decide

lemma applied_note : ∀ note ∈ notes,
    (applyAll note.before.files noteRoot [note.change]).1 = .ok () := by
  decide

lemma reviewAfter_note : ∀ note ∈ notes,
    reviewAfter note.written noteRoot [(note.path, none)] = .ok [(note.path, some noteText)] := by
  decide

lemma reviewDiff_note : ∀ note ∈ notes, note.sandbox.buildReviewDiff [(note.path, none)]
    [(note.path, some noteText)] = .ok "" := by
  decide

lemma manifest_before : ∀ note ∈ notes, note.sandbox.manifest note.before.files noteRoot = [] := by
  decide

lemma manifest_written : ∀ note ∈ notes, note.sandbox.manifest note.written noteRoot =
    [(note.path, "sha256:" ++ note.digest)] := by
  decide +kernel

lemma changedPaths_note : ∀ note ∈ notes,
    changedPaths [] [(note.path, "sha256:" ++ note.digest)] = [note.path] := by
  decide

lemma strip_note : ∀ note ∈ notes, IsRequired note.path := by
  decide

/-- What a snapshot sees once the note is written. -/
structure Noted (note : Note) (workspace : RepositoryWorkspace) (s : Sandbox)
    (candidate : CandidateSnapshot) : Prop where
  reached : note.sandbox.Reached sampleId workspace s
  snapshot : (note.sandbox.snapshot workspace s).1 = .ok candidate
  baseRef : candidate.baseRef.1 = "main"
  baseCommit : candidate.baseCommit.1.1 = noGitBaseCommit
  changedFiles : candidate.changedFiles.map Subtype.val = [note.path]
  diffDigest : candidate.diffDigest.1.1 =
    textDigest note.sandbox.sha256 (canonicalText note.material)
  contentDigest : candidate.contentDigest.1.1 =
    textDigest note.sandbox.sha256 (canonicalText note.manifest)

lemma exists_noted (note : Note) (hnote : note ∈ notes) :
    ∃ workspace s candidate, Noted note workspace s candidate := by
  obtain ⟨workspace, hworkspace⟩ :=
    isSome_toOption.mp (Option.isSome_of_any (prepared_note note hnote))
  have hcommit := prepared_note note hnote
  rw [hworkspace] at hcommit
  have hprepare : note.sandbox.prepare "m" sampleId emptyRepository =
      (.ok workspace, note.before) := Prod.ext hworkspace rfl
  obtain ⟨state, hstate, -, -, href, ⟨hpath, -, -, -⟩, hbase, -, -⟩ := prepare_eq_ok hprepare
  have hroot : state.path = noteRoot := hpath
  -- the change is made, and a review diff of it is remembered
  have hbefore := reviewBefore_note note hnote
  have hafter := reviewAfter_note note hnote
  have hall : applyAll note.before.files noteRoot [note.change] = (.ok (), note.written) :=
    Prod.ext (applied_note note hnote) rfl
  rw [← hroot] at hbefore hafter hall
  let state' : WorkspaceState := { state with candidateReviewDiff := some "" }
  let s' : Sandbox := ⟨note.written, note.before.workspaces.set state'⟩
  have hcall : note.sandbox.applyChanges workspace [note.change] note.before =
      note.sandbox.snapshot workspace s' := by
    simp only [applyChanges, hstate, hbefore, hall, hafter, Except.bind, reviewDiff_note note hnote]
    rfl
  have hset : stateFor s' workspace = .ok state' := stateFor_set hstate rfl rfl rfl
  have hreached := (Reached.prepared hprepare).called (.applyChanges [note.change])
  rw [call, hcall, snapshot_snd hset] at hreached
  -- only the note has changed
  have hmanifest : note.sandbox.manifest note.written state.path =
      [(note.path, "sha256:" ++ note.digest)] := by
    rw [hroot]
    exact manifest_written note hnote
  have hempty : state.baseManifest = [] := by
    rw [hbase, hroot]
    exact manifest_before note hnote
  have hpaths : (changedPaths state.baseManifest
      (note.sandbox.manifest note.written state.path)).map strip =
        [(⟨note.path, strip_note note hnote⟩ : Required)].map Subtype.val := by
    rw [hempty, hmanifest, changedPaths_note note hnote]
    exact congrArg (fun path => [path]) (strip_note note hnote).1
  let state'' : WorkspaceState := { state' with
    snapshotFingerprint := some (note.sandbox.workspaceDigest note.written state.path) }
  let s'' : Sandbox := ⟨note.written, s'.workspaces.set state''⟩
  have hlast : stateFor s'' workspace = .ok state'' := stateFor_set hset rfl rfl rfl
  have hsnapshot := snapshot_of_paths (s := s'') hlast hpaths
  have hempty' : state''.baseManifest = [] := hempty
  have hmanifest' : note.sandbox.manifest s''.files state''.path =
    [(note.path, "sha256:" ++ note.digest)] := hmanifest
  rw [hempty', hmanifest'] at hsnapshot
  refine ⟨workspace, s'', _, hreached, hsnapshot, congrArg Subtype.val href,
    of_decide_eq_true hcommit, rfl, ?_, ?_⟩
  · rw [Note.material]
    rfl
  · rw [Note.manifest]
    rfl

lemma verified_note (sha256 : Sha256) (candidate : CandidateSnapshot) : ∃ verified, verify sha256
    "m" [("summary", .str "Add a note")] candidate noteEvidence none = .ok verified := by
  have hmission : strip "m" ≠ "" := by decide
  have hsummary : summaryOf [("summary", .str "Add a note")] = .ok "Add a note" := by
    decide
  exact exists_verified hmission hsummary rfl rfl nofun

/-- A candidate with a note whose name is not ASCII cannot be opened again. -/
theorem not_reopens_accented : ¬∀ (self : IsolatedRepositorySandbox) (store : CandidateStore)
    (workspaceId : Uuid) (workspace : RepositoryWorkspace) (s s' : Sandbox)
    (candidate : CandidateSnapshot) (missionId : String) (proposal : Dict)
    (testEvidence : TestEvidence) (candidateDiff : Option String)
    (verified : CandidateVerifier.VerifiedCandidate), store.sha256 = self.sha256 →
    self.sandboxRoot = self.profile.key.1 :: store.sandboxRoot →
    self.Reached workspaceId workspace s → self.snapshot workspace s = (.ok candidate, s') →
    candidate.baseRef.1 = "main" →
    verify self.sha256 missionId proposal candidate testEvidence candidateDiff = .ok verified →
      store.Reopens s'.files candidate verified := by
  intro h
  obtain ⟨workspace, s, candidate, hreached, hsnapshot, hmain, hcommit, hfiles, hdiff, hcontent⟩ :=
    exists_noted accented (.head _)
  obtain ⟨hid, hrepository, state, hstate, hstanding⟩ := hreached.standing
  obtain ⟨verified, hverified⟩ := verified_note accented.sandbox.sha256 candidate
  have hsnapshot' : accented.sandbox.snapshot workspace s =
      (.ok candidate, (accented.sandbox.snapshot workspace s).2) := Prod.ext hsnapshot rfl
  obtain ⟨persisted, hloaded, -⟩ := h _ accented.store sampleId workspace s _ candidate "m" _
    noteEvidence none verified rfl rfl hreached hsnapshot' hmain hverified
  obtain ⟨hrequired, hmission, href, hfiles', hevidence⟩ := verify_eq_ok hverified
  have hstrip : strip "m" = "m" := by decide
  rw [hstrip] at hrequired hmission href hfiles' hevidence
  obtain ⟨haccepts, hrepository', hid'⟩ :=
    accepts_ofSnapshot hrequired hstate hstanding hid hsnapshot' hmain
  rw [hmission, href, hfiles', hevidence] at hloaded
  have hrefs : (CandidateIdentity.ofSnapshot "m" candidate).storeRef accented.sandbox.sha256 =
      (CandidateIdentity.ofSnapshot "m" candidate).verifierRef accented.sandbox.sha256 :=
    ((loadVerified_evidenceOf accented.store _ _ _ _ haccepts fun field =>
      digest_textDigest _ _).mp hloaded).2.2.1
  -- the two digests are those of the table
  have hI : CandidateIdentity.ofSnapshot "m" candidate = accented.identity := by
    have hdiff' := textDigest_accented (canonicalText accented.material, _)
      (.tail _ (.tail _ (.head _)))
    have hcontent' := textDigest_accented (canonicalText accented.manifest, _) (.tail _ (.head _))
    simp only [CandidateIdentity.ofSnapshot, Note.identity, CandidateIdentity.mk.injEq]
    refine ⟨trivial, congrArg Subtype.val hrepository', hmain, hcommit, hid', hfiles, ?_, ?_⟩
    · rw [hdiff, hdiff']
    · rw [hcontent, hcontent']
  have hverifier := textDigest_accented (_, accented.verifierDigest)
    (.tail _ (.tail _ (.tail _ (.head _))))
  have hstore := textDigest_accented (_, accented.storeDigest)
    (.tail _ (.tail _ (.tail _ (.tail _ (.head _)))))
  rw [hI] at hrefs
  exact absurd (hstore.symm.trans (hrefs.trans hverifier)) (by decide)

/-- A candidate with a note whose name is ASCII is opened again. -/
theorem reopens_plain : ∃ workspace s s' candidate verified,
    plain.sandbox.snapshot workspace s = (.ok candidate, s') ∧
      candidate.changedFiles.map Subtype.val = ["e.md"] ∧
      plain.store.Reopens s'.files candidate verified := by
  obtain ⟨workspace, s, candidate, hreached, hsnapshot, hmain, hcommit, hfiles, hdiff, hcontent⟩ :=
    exists_noted plain (.tail _ (.head _))
  obtain ⟨hid, hrepository, state, hstate, hstanding⟩ := hreached.standing
  obtain ⟨verified, hverified⟩ := verified_note plain.sandbox.sha256 candidate
  have hsnapshot' : plain.sandbox.snapshot workspace s =
      (.ok candidate, (plain.sandbox.snapshot workspace s).2) := Prod.ext hsnapshot rfl
  obtain ⟨hrequired, -⟩ := verify_eq_ok hverified
  obtain ⟨haccepts, -⟩ := accepts_ofSnapshot hrequired hstate hstanding hid hsnapshot' hmain
  have hpaths : ∀ path ∈ [plain.path], IsAscii path ∧ SafePath path := by
    intro path hpath
    obtain rfl := List.mem_singleton.mp hpath
    exact ⟨by decide, by decide, by decide, by decide, by decide⟩
  rw [← hfiles, List.forall_mem_map] at hpaths
  have hmission : IsAscii (strip "m") := by decide
  have htexts := (ascii_iff_of_accepts haccepts).mpr
    ⟨hmission, List.forall_mem_map.mpr fun path hpath => (hpaths path hpath).1⟩
  refine ⟨workspace, s, _, candidate, verified, hsnapshot', hfiles, ?_⟩
  have hcollision : CandidateIdentity.NoCollision plain.sandbox.sha256
      (String.ofList ((CandidateIdentity.ofSnapshot (strip "m") candidate).payload.dumpsAs
        escapeUnicode))
      (canonicalText (CandidateIdentity.ofSnapshot (strip "m") candidate).payload) := fun _ => congrArg String.ofList htexts
  have hsorted : (candidate.changedFiles.map Subtype.val).Pairwise (· < ·) := by
    rw [hfiles]
    exact List.pairwise_singleton _ _
  have hsha : plain.store.sha256 = plain.sandbox.sha256 := rfl
  exact (reopens_iff hsha rfl hid hstate hstanding hsnapshot' hmain hverified hcollision).mpr
    ⟨hmission, hpaths, hsorted⟩

end CandidateStore

end AiHq
