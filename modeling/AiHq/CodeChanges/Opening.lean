import AiHq.CodeChanges.Identity
import AiHq.Delivery.AppliedChanges

/-!
# Evidence that opens a candidate

What the candidate store asks of the fields of a candidate and of the evidence of it.
-/

namespace AiHq

open Relational FileSystem Json

namespace CandidateStore

/-- The form that a path has that the store accepts. -/
structure SafePath (path : String) : Prop where
  ne_empty : path ≠ ""
  no_backslash : '\\' ∉ path.toList
  parts : ∀ part ∈ components path, part ∉ ["", ".", ".."]
  no_git : (components path).head? ≠ some ".git"

variable {path path' field : String} {paths paths' : List String}

lemma safeChangedPath_eq_ok : safeChangedPath (.str path) = .ok path' ↔
    SafePath path ∧ path' = path := by
  simp only [safeChangedPath, bind_eq_ok, raiseIf_eq_ok, exists_const]
  constructor
  · rintro ⟨hne, hback, hparts, hgit, hok⟩
    refine ⟨⟨hne, hback, fun part hpart hmem => hparts ⟨part, hpart, ?_⟩, hgit⟩,
      (Except.ok.inj hok).symm⟩
    simpa using hmem
  · rintro ⟨⟨hne, hback, hparts, hgit⟩, rfl⟩
    refine ⟨hne, hback, ?_, hgit, rfl⟩
    rintro ⟨part, hpart, hmem⟩
    exact hparts part hpart (by simpa using hmem)

lemma mapM_safeChangedPath : (paths.map Json.str).mapM safeChangedPath = .ok paths' ↔
    (∀ path ∈ paths, SafePath path) ∧ paths' = paths := by
  induction paths generalizing paths' with
  | nil =>
    constructor
    · intro h
      exact ⟨List.forall_mem_nil _, (Except.ok.inj h).symm⟩
    · rintro ⟨-, rfl⟩
      rfl
  | cons path paths ih =>
    simp only [List.map_cons, List.mapM_cons, bind_eq_ok, safeChangedPath_eq_ok, ih,
      List.forall_mem_cons]
    constructor
    · rintro ⟨_, ⟨hpath, rfl⟩, _, ⟨hpaths, rfl⟩, hok⟩
      exact ⟨⟨hpath, hpaths⟩, (Except.ok.inj hok).symm⟩
    · rintro ⟨⟨hpath, hpaths⟩, rfl⟩
      exact ⟨_, ⟨hpath, rfl⟩, _, ⟨hpaths, rfl⟩, rfl⟩

lemma changedFiles_eq_ok : changedFiles (paths.map .str) = .ok paths' ↔
    (∀ path ∈ paths, SafePath path) ∧ paths.Pairwise (· < ·) ∧ paths' = paths := by
  constructor
  · intro h
    have hsorted := pairwise_of_changedFiles h
    simp only [changedFiles, bind_eq_ok, mapM_safeChangedPath, raiseIf_eq_ok, exists_const] at h
    obtain ⟨_, ⟨hpaths, rfl⟩, -, -, hok⟩ := h
    obtain rfl := Except.ok.inj hok
    exact ⟨hpaths, hsorted, rfl⟩
  · rintro ⟨hpaths, hsorted, rfl⟩
    simp only [changedFiles, bind_eq_ok, mapM_safeChangedPath, raiseIf_eq_ok, exists_const, not_not]
    refine ⟨_, ⟨hpaths, rfl⟩, hsorted.imp ne_of_lt, ?_, rfl⟩
    exact (hsorted.imp le_of_lt).insertionSort_eq

lemma required_str {value : String} (h : IsRequired value) :
    required (.str value) field = .ok value := by
  rw [required, h.1, if_neg h.2]

lemma isRequired_of_hex {n : ℕ} {value : String} (h : isLowerHex (n + 1) value.toList = true) :
    IsRequired value := by
  refine ⟨strip_eq_self fun c hc => isSpace_of_isLowerHex h hc, ?_⟩
  rintro rfl
  simp [isLowerHex] at h

lemma isRequired_uuid {value : String} (h : isUuid value = true) : IsRequired value := by
  refine ⟨strip_uuid h, ?_⟩
  rintro rfl
  revert h
  decide

lemma isDigest_textDigest (sha256 : Sha256) (text : String) :
    isDigest (textDigest sha256 text) = true := by
  rw [isDigest, textDigest, String.toList_append]
  exact sha256.isLowerHex_hexdigest _

lemma digest_str {value : String} (h : IsRequired value) (hdigest : isDigest value = true) :
    digest (.str value) field = .ok value := by
  simp only [digest, bind_eq_ok]
  exact ⟨_, required_str h, if_pos hdigest⟩

/-- A digest is accepted as it is. -/
lemma digest_textDigest (sha256 : Sha256) (text : String) :
    digest (.str (textDigest sha256 text)) field = .ok (textDigest sha256 text) :=
  digest_str (isRequired_textDigest sha256 text) (isDigest_textDigest sha256 text)

lemma gitCommit_of_isLowerHex {value : String} (h : isLowerHex 40 value.toList = true) :
    gitCommit (.str value) = .ok value := by
  simp only [gitCommit, bind_eq_ok]
  exact ⟨_, required_str (isRequired_of_hex h), if_pos h⟩

lemma workspaceId_of_isUuid {value : String} (h : isUuid value = true) :
    workspaceId (.str value) = .ok value := by
  simp only [workspaceId, bind_eq_ok]
  exact ⟨_, required_str (isRequired_uuid h), if_pos h⟩

lemma isRequired_of_trusted {value : String} (h : value ∈ trustedRepositoryKeys) :
    IsRequired value := by
  revert value
  decide

/-- A workspace that stands in the directory of its repository. -/
lemma verifiedWorkspace_of_dir {store : CandidateStore} {t : FileTree ByteArray}
    {repository workspaceId : String} (htrusted : repository ∈ trustedRepositoryKeys)
    (hdir : t.node? (workspaceId :: repository :: store.sandboxRoot) = some .dir) :
    store.verifiedWorkspace t repository workspaceId =
      .ok (workspaceId :: repository :: store.sandboxRoot) := by
  have hcomponents : (components repository).reverse ++ store.sandboxRoot =
      repository :: store.sandboxRoot := by
    have hall : ∀ repository ∈ trustedRepositoryKeys, components repository = [repository] := by
      decide
    rw [hall repository htrusted]
    rfl
  have hrepository := (FileTree.closed_of_node? hdir).2
  simp only [verifiedWorkspace, hcomponents, bind_eq_ok, raiseIf_eq_ok, exists_const]
  refine ⟨?_, ?_, _, IsolatedRepositorySandbox.resolvePath_of_dir hrepository, _,
    IsolatedRepositorySandbox.resolvePath_of_dir hdir, ?_, rfl⟩
  · rw [FileTree.isSymlink, FileTree.stat_of_solid (FileTree.solid_of_dir hdir) hdir]
    simp
  · rw [FileTree.isDir_of_dir hdir]
    simp
  · simp

/-- The fields of a candidate that the store accepts as they are. -/
structure Accepts (I : CandidateIdentity) : Prop where
  missionId : IsRequired I.missionId
  repository : I.repository ∈ trustedRepositoryKeys
  baseRef : I.baseRef = "main"
  baseCommit : isLowerHex 40 I.baseCommit.toList = true
  workspaceId : isUuid I.workspaceId = true
  diffDigest : ∀ field, digest (.str I.diffDigest) field = .ok I.diffDigest
  contentDigest : ∀ field, digest (.str I.contentDigest) field = .ok I.contentDigest

/-- Evidence that has the fields of a candidate. -/
structure Evidences (evidence : Dict) (changeRef : String) (I : CandidateIdentity) : Prop where
  verification : evidence.get "verification" = some (.str "candidate_identity_verified")
  algorithm : otherAlgorithm (evidence.get "algorithm") = .ok false
  changeRef : evidence.get "change_ref" = some (.str changeRef)
  repository : evidence.get "repository" = some (.str I.repository)
  baseRef : evidence.get "base_ref" = some (.str I.baseRef)
  baseCommit : evidence.get "base_commit" = some (.str I.baseCommit)
  workspaceId : evidence.get "workspace_id" = some (.str I.workspaceId)
  diffDigest : evidence.get "diff_digest" = some (.str I.diffDigest)
  contentDigest : evidence.get "content_digest" = some (.str I.contentDigest)

/-- A candidate is opened by its evidence if its paths are accepted, the digest is that of its
identity, and its workspace has the digest that it had. -/
lemma loadVerified_of_evidences (store : CandidateStore) (t : FileTree ByteArray)
    {I : CandidateIdentity} {changeRef : String} {evidence : Dict} (persisted : PersistedCandidate)
    (hI : Accepts I) (href : ∀ field, digest (.str changeRef) field = .ok changeRef)
    (hevidence : Evidences evidence changeRef I) :
    store.loadVerified t I.missionId changeRef (I.changedFiles.map .str) evidence = .ok persisted ↔
      (∀ path ∈ I.changedFiles, SafePath path) ∧ I.changedFiles.Pairwise (· < ·) ∧
        I.storeRef store.sha256 = changeRef ∧
        ∃ workspacePath, store.verifiedWorkspace t I.repository I.workspaceId = .ok workspacePath ∧
          store.contentDigest t workspacePath = I.contentDigest ∧
          persisted = ⟨I.missionId, I.repository, I.workspaceId, I.baseRef, I.baseCommit, changeRef,
            I.changedFiles, I.contentDigest, workspacePath⟩ := by
  obtain ⟨hverification, halgorithm, hchangeRef, hrepository, hbaseRef, hbaseCommit, hworkspaceId,
    hdiffDigest, hcontentDigest⟩ := hevidence
  have hmain : IsRequired "main" := by decide
  have hmission : required (.str I.missionId) "mission_id" = .ok I.missionId :=
    required_str hI.missionId
  have hpayload : I.payload = .obj [("mission_id", .str I.missionId),
      ("repository", .str I.repository), ("base_ref", .str "main"),
      ("base_commit", .str I.baseCommit), ("workspace_id", .str I.workspaceId),
      ("changed_files", .list (I.changedFiles.map .str)), ("diff_digest", .str I.diffDigest),
      ("content_digest", .str I.contentDigest)] := by
    rw [← hI.baseRef]
    rfl
  simp only [loadVerified, hverification, halgorithm, hchangeRef, hrepository, hbaseRef,
    hbaseCommit, hworkspaceId, hdiffDigest, hcontentDigest, Option.getD_some, href,
    hmission, required_str (isRequired_of_trusted hI.repository),
    hI.baseRef, required_str hmain, gitCommit_of_isLowerHex hI.baseCommit,
    workspaceId_of_isUuid hI.workspaceId, hI.diffDigest, hI.contentDigest, bind_eq_ok,
    raiseIf_eq_ok, changedFiles_eq_ok, exists_const, Except.ok.injEq, exists_eq_left', not_not,
    ne_eq, true_and, and_assoc]
  rw [CandidateIdentity.storeRef, hpayload]
  constructor
  · rintro ⟨-, -, -, _, hsafe, hsorted, rfl, hdigest, workspacePath, hworkspace, hcontent, hok⟩
    exact ⟨hsafe, hsorted, hdigest, workspacePath, hworkspace, hcontent,
      (Except.ok.inj hok).symm⟩
  · rintro ⟨hsafe, hsorted, hdigest, workspacePath, hworkspace, hcontent, rfl⟩
    exact ⟨rfl, Bool.false_ne_true, hI.repository, _, hsafe, hsorted, rfl, hdigest, workspacePath,
      hworkspace, hcontent, rfl⟩

/-! ### Texts that are not the same -/

lemma ne_of_head? {text : String} {l : List Char} (h : text.toList.head? ≠ l.head?) :
    text ≠ String.ofList l := by
  rintro rfl
  exact h (by rw [String.toList_ofList])

lemma head?_dumpsAs_obj (escape : Char → List Char) (fields : Dict) :
    (dumpsAs escape (.obj fields)).head? = some '\x7b' := by
  rw [dumpsAs_obj, List.head?_cons]

lemma head?_dumpsAs_list (escape : Char → List Char) (xs : List Json) :
    (dumpsAs escape (.list xs)).head? = some '[' := by
  rw [dumpsAs, List.head?_cons]

/-- No manifest of one file is written as an identity is. -/
lemma manifest_ne_payload {escape : Char → List Char} (hescape : ∀ c, Escaped c (escape c))
    (path value : String) (I : CandidateIdentity) :
    String.ofList ((manifestJson [(path, value)]).dumpsAs escapeChar) ≠
      String.ofList (I.payload.dumpsAs escape) := by
  intro h
  have hfloatless : Floatless (manifestJson [(path, value)]) :=
    .obj (List.nodup_singleton path) fun field hfield => by
      obtain rfl := List.mem_singleton.mp hfield
      exact .str value
  have hvalid : Valid (fun _ => 0) (manifestJson [(path, value)]) := hfloatless.valid
  have hcanon := dumpsAs_inj escaped_escapeChar hescape hvalid I.floatless.valid
    (String.ofList_inj.mp h)
  have hkey {key : String} (hkey : I.fields.get key ≠ none) : key = path := by
    by_contra hne
    have hkeys : ([(path, Json.str value)].map Prod.fst).Nodup := List.nodup_singleton path
    have hget := canon_get hkeys I.nodup_fields hcanon key
    have hnone : Dict.get [(path, Json.str value)] key = none := by
      rw [Dict.get, List.lookup_cons, beq_false_of_ne hne, List.lookup_nil]
    rw [hnone, Option.map_none, eq_comm, Option.map_eq_none_iff] at hget
    exact hkey hget
  have hmission : I.fields.get "mission_id" ≠ none := Option.some_ne_none _
  have hrepository : I.fields.get "repository" ≠ none := Option.some_ne_none _
  exact absurd ((hkey hmission).trans (hkey hrepository).symm) (by decide)

end CandidateStore

end AiHq
