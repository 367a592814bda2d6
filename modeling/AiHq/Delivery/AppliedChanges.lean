import AiHq.Delivery.RepositorySandbox

/-!
# What a change does to the files

A change can only be made at a path whose names are no links that lead anywhere. The one way out
is a link at the last name that leads to nothing: writing to it makes what it leads to.
-/

namespace AiHq

open Relational FileSystem

namespace IsolatedRepositorySandbox

variable {t t' : FileTree ByteArray} {root p q : Path} {rawPath : String} {change : FileChange}

/-- The place of a path in a workspace. -/
def placeOf (root : Path) (rawPath : String) : Path := (components rawPath).reverse ++ root

lemma suffix_placeOf (root : Path) (rawPath : String) : root <:+ placeOf root rawPath :=
  List.suffix_append _ root

/-- The form that a path must have to be a target. -/
structure Targetable (rawPath : String) : Prop where
  ne_empty : rawPath ≠ ""
  no_backslash : '\\' ∉ rawPath.toList
  parts : ∀ part ∈ components rawPath, part ∉ ["", ".", ".."]

lemma Targetable.plain (h : Targetable rawPath) : ∀ c ∈ components rawPath, Plain c :=
  fun c hc => ⟨h.parts c hc, not_mem_of_mem_components hc⟩

/-- No name on the way may be one of a link that leads anywhere. -/
lemma checkParts_eq_ok {parts : List String} : checkParts t root parts = .ok p ↔
    p = parts.reverse ++ root ∧ t.Unlinked root p := by
  induction parts generalizing root with
  | nil =>
    rw [checkParts, Except.ok.injEq]
    constructor
    · rintro rfl
      refine ⟨rfl, fun q hroot hne hq => ?_⟩
      exact absurd (hq.eq_of_length_le hroot.length_le) hne
    · rintro ⟨rfl, -⟩
      rfl
  | cons part parts ih =>
    simp only [checkParts, bind_eq_ok, raiseIf_eq_ok, ih, List.reverse_cons, List.append_assoc,
      List.singleton_append]
    constructor
    · rintro ⟨-, hpart, rfl, hun⟩
      refine ⟨rfl, fun q hroot hne hq => ?_⟩
      have hlt : root.length < q.length := by
        refine lt_of_le_of_ne hroot.length_le fun hlen => hne (hroot.eq_of_length hlen).symm
      have hpart' : part :: root <:+ q :=
        List.suffix_of_suffix_length_le (List.suffix_append _ _) hq hlt
      by_cases heq : q = part :: root
      · rw [heq]
        exact hpart
      · exact hun q hpart' heq hq
    · rintro ⟨rfl, hun⟩
      refine ⟨(), ?_, rfl, fun q hroot hne hq => ?_⟩
      · exact hun _ (List.suffix_cons _ _) (List.cons_ne_self _ _) (List.suffix_append _ _)
      · refine hun q ((List.suffix_cons _ _).trans hroot) ?_ hq
        rintro rfl
        exact absurd hroot.length_le (by simp)

lemma placeOf_eq_cons (root : Path) (rawPath : String) :
    ∃ c d, placeOf root rawPath = c :: d ∧ root <:+ d ∧ c ∈ components rawPath := by
  obtain ⟨c, parts, hparts⟩ := List.exists_cons_of_ne_nil
    (List.reverse_ne_nil_iff.mpr (components_ne_nil rawPath))
  refine ⟨c, parts ++ root, ?_, List.suffix_append _ _, ?_⟩
  · rw [placeOf, hparts, List.cons_append]
  · rw [← List.mem_reverse, hparts]
    exact List.mem_cons_self

lemma resolvePath_of_dir (h : t.node? p = some .dir) : resolvePath t p = .ok p := by
  rw [resolvePath, FileTree.realpath_of_dir h]

lemma safeTarget_eq_ok (h : safeTarget t root rawPath = .ok p) :
    p = placeOf root rawPath ∧ Targetable rawPath ∧ t.Unlinked root p := by
  simp only [safeTarget, bind_eq_ok, raiseIf_eq_ok, checkParts_eq_ok] at h
  obtain ⟨-, hne, -, hback, -, hparts, p', ⟨rfl, hun⟩, -, -, -, -, -, -, hok⟩ := h
  obtain rfl := Except.ok.inj hok
  exact ⟨rfl, ⟨hne, hback, fun part hpart hmem => hparts ⟨part, hpart, hmem⟩⟩, hun⟩

/-- A target in a directory of the workspace. -/
lemma safeTarget_of_dir (hroot : t.node? root = some .dir) (hraw : Targetable rawPath)
    (hun : t.Unlinked root (placeOf root rawPath))
    (hdir : t.node? (placeOf root rawPath).tail = some .dir) :
    safeTarget t root rawPath = .ok (placeOf root rawPath) := by
  have hbelow : root <:+ (placeOf root rawPath).tail := by
    obtain ⟨c, d, hcd, hd, -⟩ := placeOf_eq_cons root rawPath
    rw [hcd]
    exact hd
  simp only [safeTarget, bind_eq_ok, raiseIf_eq_ok, checkParts_eq_ok]
  refine ⟨(), hraw.ne_empty, (), hraw.no_backslash, (), ?_, _, ⟨rfl, hun⟩, _,
    resolvePath_of_dir hdir, _, resolvePath_of_dir hroot, (), ?_, rfl⟩
  · rintro ⟨part, hpart, hmem⟩
    exact hraw.parts part hpart hmem
  · exact fun hescape => hescape.2 hbelow

/-- What one change can do to the files. -/
inductive Applied (t : FileTree ByteArray) (root : Path) (change : FileChange) :
    Except PyError Unit → FileTree ByteArray → Prop where
  /-- the change is refused, after directories have been made for it if it comes to that -/
  | failed {error : PyError} {t' : FileTree ByteArray}
      (hgrown : FileTree.Grown root (placeOf root change.path).tail t t') :
      Applied t root change (.error error) t'
  | written {t' : FileTree ByteArray} (hop : change.operation = .write)
      (hgrown : FileTree.Grown root (placeOf root change.path).tail t t')
      (hdir : t'.node? (placeOf root change.path).tail = some .dir)
      (hold : t.node? (placeOf root change.path) = none ∨
        ∃ old, t.node? (placeOf root change.path) = some (.file old)) :
      Applied t root change (.ok ()) (t'.put (placeOf root change.path)
        (.file (change.content.getD "").toUTF8))
  /-- the path is one of a link to `q`, where nothing is -/
  | leaked {q : Path} {target : String} (hop : change.operation = .write)
      (hlink : t.node? (placeOf root change.path) = some (.link target))
      (hlookup : t.lookup true (placeOf root change.path) = .missing q) :
      Applied t root change (.ok ()) (t.put q (.file (change.content.getD "").toUTF8))
  | absent (hop : change.operation = .delete)
      (habsent : t.present (placeOf root change.path) = false) : Applied t root change (.ok ()) t
  | deleted {old : ByteArray} (hop : change.operation = .delete)
      (hfile : t.node? (placeOf root change.path) = some (.file old)) :
      Applied t root change (.ok ()) (t.remove (placeOf root change.path))

lemma plain_placeOf (hroot : t.node? root = some .dir) (hraw : Targetable rawPath) :
    ∀ c ∈ placeOf root rawPath, Plain c := by
  intro c hc
  rcases List.mem_append.mp hc with hc | hc
  · exact hraw.plain c (List.mem_reverse.mp hc)
  · have hentry : t.node? (root ++ []) = some .dir := by rwa [List.append_nil]
    exact plain_of_node? hentry c hc

lemma node?_place_of_grown {c : String} {d : Path} (h : FileTree.Grown root d t t') :
    t'.node? (c :: d) = t.node? (c :: d) := by
  rcases h (c :: d) with heq | ⟨-, -, -, hsuf⟩
  · exact heq
  · have hlen : d.length + 1 ≤ d.length := hsuf.length_le
    omega

lemma applied_writeTarget (hroot : t.node? root = some .dir) (hraw : Targetable change.path)
    (hun : t.Unlinked root (placeOf root change.path)) (hop : change.operation = .write) :
    Applied t root change (writeTarget t (placeOf root change.path) (change.content.getD "")).1
      (writeTarget t (placeOf root change.path) (change.content.getD "")).2 := by
  obtain ⟨c, d, hcd, hbelow, hc⟩ := placeOf_eq_cons root change.path
  have hplain := plain_placeOf hroot hraw
  rw [hcd] at hun hplain
  have hspec := FileTree.makeDirs_spec hroot hbelow
    (fun x hx => hplain x (List.mem_cons_of_mem c hx)) hun.parent
  have htail : (placeOf root change.path).tail = d := by rw [hcd, List.tail_cons]
  rw [writeTarget, htail]
  cases hm : t.makeDirs d with
  | mk r t₁ =>
    rw [hm] at hspec
    obtain ⟨hgrown, hmade⟩ := hspec
    have hfailed : ∀ error, Applied t root change (.error error) t₁ :=
      fun error => .failed (htail ▸ hgrown)
    cases r with
    | error error => exact hfailed _
    | ok u =>
      have hdir : t₁.node? d = some .dir := hmade rfl
      have hsame := node?_place_of_grown (c := c) hgrown
      simp only
      by_cases hproper : Proper c
      · have hparent : ∀ {e : Entry ByteArray}, t₁.node? (c :: d) = some e →
            (∀ target, e ≠ .link target) →
            t₁.lookup true (placeOf root change.path) = .found (c :: d) maxLinks := by
          intro e he hlink
          rw [hcd, FileTree.lookup_of_parent hproper hdir, FileTree.walk_single hproper hdir, he]
          cases e with
          | link target => exact absurd rfl (hlink target)
          | dir | file | special => rfl
        cases he : t₁.node? (c :: d) with
        | none =>
          have hmissing : t₁.lookup true (placeOf root change.path) = .missing (c :: d) := by
            rw [hcd, FileTree.lookup_of_parent hproper hdir, FileTree.walk_single hproper hdir, he]
          rw [FileTree.write, hmissing, ← hcd]
          exact .written hop (htail ▸ hgrown) (htail ▸ hdir) (.inl (by rw [hcd, ← hsame, he]))
        | some e =>
          cases e with
          | dir =>
            rw [FileTree.write, hparent he nofun]
            simp only [he]
            exact hfailed _
          | special =>
            rw [FileTree.write, hparent he nofun]
            simp only [he]
            exact hfailed _
          | file old =>
            rw [FileTree.write, hparent he nofun]
            simp only [he]
            rw [← hcd]
            exact .written hop (htail ▸ hgrown) (htail ▸ hdir)
              (.inr ⟨old, by rw [hcd, ← hsame, he]⟩)
          | link target =>
            -- the directory was there already, so that nothing has been made
            have hlink : t.node? (c :: d) = some (.link target) := hsame ▸ he
            obtain rfl : t = t₁ := by
              have := FileTree.makeDirs_of_dir (FileTree.closed_of_node? hlink).2
              rw [hm] at this
              exact (Prod.mk.inj this).2.symm
            rw [FileTree.write]
            cases hl : t.lookup true (placeOf root change.path) with
            | found q m =>
              rw [hcd] at hl
              refine absurd ⟨FileTree.present_of_found hl, FileTree.isSymlink_of_link hlink⟩
                (hun _ (hbelow.trans (List.suffix_cons c d)) ?_ (List.suffix_refl _))
              rintro rfl
              rw [hroot] at hlink
              cases hlink
            | missing q => exact .leaked hop (by rw [hcd]; exact hlink) hl
            | failed error => exact hfailed _
      · have hunclean : ¬FileTree.Clean (placeOf root change.path) := by
          rw [hcd]
          exact fun hclean => hproper (FileTree.proper_of_clean hplain hclean)
        rw [FileTree.write, FileTree.lookup, if_neg hunclean]
        exact hfailed _

lemma applied_deleteTarget (hroot : t.node? root = some .dir) (hraw : Targetable change.path)
    (hun : t.Unlinked root (placeOf root change.path)) (hop : change.operation = .delete) :
    Applied t root change (deleteTarget t (placeOf root change.path)).1
      (deleteTarget t (placeOf root change.path)).2 := by
  unfold deleteTarget
  by_cases hpresent : t.present (placeOf root change.path) = true
  · obtain ⟨e, he, hlink⟩ := FileTree.solid_of_present hroot (suffix_placeOf root change.path)
      (plain_placeOf hroot hraw) hun hpresent
    rw [if_pos hpresent]
    by_cases hfile : (!t.isFile (placeOf root change.path) ||
        t.isSymlink (placeOf root change.path)) = true
    · rw [if_pos hfile]
      exact .failed .refl
    · rw [if_neg hfile]
      rw [Bool.or_eq_true, not_or] at hfile
      rw [FileTree.isFile, FileTree.stat_of_solid ⟨e, he, hlink⟩ he] at hfile
      cases e with
      | dir | special => exact absurd rfl hfile.1
      | link target => exact absurd rfl (hlink target)
      | file old =>
        rw [FileTree.unlink, FileTree.lookup_of_solid ⟨_, he, hlink⟩]
        simp only [he, Option.some.injEq, reduceCtorEq, if_false]
        exact .deleted hop he
  · rw [if_neg hpresent]
    exact .absent hop (by simpa using hpresent)

/-- Everything that one change can do. -/
theorem applied_applyChange (hroot : t.node? root = some .dir) (change : FileChange) :
    Applied t root change (applyChange t root change).1 (applyChange t root change).2 := by
  unfold applyChange
  cases hs : safeTarget t root change.path with
  | error error => exact .failed .refl
  | ok p =>
    obtain ⟨rfl, hraw, hun⟩ := safeTarget_eq_ok hs
    cases hop : change.operation with
    | write => exact applied_writeTarget hroot hraw hun hop
    | delete => exact applied_deleteTarget hroot hraw hun hop

/-! ### Changed paths -/

variable {self : IsolatedRepositorySandbox} {workspace : RepositoryWorkspace} {s s' : Sandbox}
  {changes : List FileChange} {state : WorkspaceState}

lemma keepsDirs_linkDependencies (root : Path) (t : FileTree ByteArray)
    (links : List (String × Path)) :
    FileTree.KeepsDirs t (linkDependencies t root links).2 := by
  induction links generalizing t with
  | nil => exact .refl
  | cons link links ih =>
    obtain ⟨relativePath, dependency⟩ := link
    have hmake := t.keepsDirs_makeDirs ((components relativePath).reverse ++ root).tail
    rw [linkDependencies]
    split
    · next hm =>
      rw [hm] at hmake
      exact hmake
    · next hm =>
      rw [hm] at hmake
      split
      · exact hmake
      · next hlink => exact hmake.trans ((FileTree.keepsDirs_symlink hlink).trans (ih _))

/-- A workspace stands where `prepare` has made it. -/
structure Standing (self : IsolatedRepositorySandbox) (workspaceId : Uuid) (state : WorkspaceState)
    (files : FileTree ByteArray) : Prop where
  path_eq : state.path = workspaceId.1 :: self.sandboxRoot
  root : files.node? state.path = some .dir
  profile_eq : state.profile = self.profile
  commit : isLowerHex 40 state.baseCommit.toList = true

/-- The workspace as `prepare` leaves it. -/
structure Prepared (self : IsolatedRepositorySandbox) (workspaceId : Uuid) (state : WorkspaceState)
    (files : FileTree ByteArray) : Prop extends Standing self workspaceId state files where
  base : state.baseManifest = self.manifest files state.path
  fingerprint : state.snapshotFingerprint = none
  diff : state.candidateReviewDiff = none

/-- The copy is a directory. -/
lemma isDir_copyRepository {workspaceId : String}
    (h : self.copyRepository t workspaceId = (.ok (), t')) :
    t'.node? (workspaceId :: self.sandboxRoot) = some .dir := by
  unfold copyRepository at h
  split_ifs at h with hsource
  · cases h
  · split at h
    · cases h
    · next t₁ hmake =>
      split_ifs at h with hvacant
      · obtain ⟨-, rfl⟩ := Prod.mk.inj h
        have hsource' : t₁.node? self.profile.sourcePath = some .dir := by
          have hkeep := t.keepsDirs_makeDirs self.sandboxRoot
          rw [hmake] at hkeep
          exact hkeep _ (not_not.mp hsource)
        have hcopy := FileTree.node?_copyTree self.excluded hsource' hvacant.1 hvacant.2.1
          hvacant.2.2 []
        rw [List.nil_append, List.nil_append, hsource'] at hcopy
        exact hcopy.trans rfl
      · cases h

/-- The base commit is one in full. -/
lemma isLowerHex_resolveBaseCommit {baseCommit : String}
    (h : self.resolveBaseCommit t = .ok baseCommit) : isLowerHex 40 baseCommit.toList = true := by
  unfold resolveBaseCommit at h
  split_ifs at h with hgit
  · simp only [bind_eq_ok, raiseIf_eq_ok, not_or] at h
    obtain ⟨baseResult, -, -, ⟨-, hhex⟩, _, -, -, -, _, -, -, -, -, -, hok⟩ := h
    obtain rfl := Except.ok.inj hok
    simpa using hhex
  · obtain rfl := Except.ok.inj h
    decide

theorem prepare_eq_ok {missionId : String} {workspaceId : Uuid}
    (h : self.prepare missionId workspaceId s = (.ok workspace, s')) :
    ∃ state, stateFor s' workspace = .ok state ∧ workspace.workspaceId.1 = workspaceId ∧
      workspace.repository = self.profile.key ∧ workspace.baseRef = self.profile.baseRef ∧
      self.Prepared workspaceId state s'.files := by
  unfold prepare at h
  split_ifs at h with hmission
  · cases h
  · split at h
    · cases h
    · next baseCommit hbase =>
      have hcommit := isLowerHex_resolveBaseCommit hbase
      have hstrip : strip baseCommit = baseCommit :=
        strip_eq_self fun c hc => isSpace_of_isLowerHex hcommit hc
      simp only at h
      split at h
      · cases h
      · next files hcopy =>
        split at h
        · cases h
        · next files' hlink =>
          obtain ⟨hok, rfl⟩ := Prod.mk.inj h
          obtain ⟨-, hrepository, href, hid, hbaseCommit⟩ :=
            RepositoryWorkspace.postInit_eq_ok.mp hok
          rw [strip_uuid workspaceId.2] at hid
          rw [self.profile.key.2.1] at hrepository
          rw [self.profile.baseRef.2.1] at href
          rw [hstrip] at hbaseCommit
          have hroot := keepsDirs_linkDependencies (workspaceId.1 :: self.sandboxRoot) files
            self.profile.sharedDependencyLinks _ (isDir_copyRepository hcopy)
          rw [hlink] at hroot
          let state : WorkspaceState :=
            { workspaceId := workspaceId, path := workspaceId.1 :: self.sandboxRoot,
              profile := self.profile, baseCommit,
              baseManifest := self.manifest files' (workspaceId.1 :: self.sandboxRoot) }
          have hget : (s.workspaces.put state).get? workspace.workspaceId = some state := by
            rw [← hid]
            exact Table.get?_put.trans (if_pos rfl)
          exact ⟨state, stateFor_eq_ok.mpr ⟨hget, hrepository.symm, href.symm, hbaseCommit.symm⟩,
            hid.symm, Subtype.ext hrepository.symm, Subtype.ext href.symm,
            ⟨⟨rfl, hroot, rfl, hcommit⟩, rfl, rfl, rfl⟩⟩

lemma Applied.keepsDirs {r : Except PyError Unit} (h : Applied t root change r t') :
    FileTree.KeepsDirs t t' := by
  have hgrown {p : Path} {u : FileTree ByteArray} (h : FileTree.Grown root p t u) :
      FileTree.KeepsDirs t u := by
    intro q hq
    rcases h q with heq | ⟨hnone, -, -, -⟩
    · rw [heq, hq]
    · rw [hq] at hnone
      cases hnone
  cases h with
  | failed h => exact hgrown h
  | written _ h => exact (hgrown h).trans (FileTree.keepsDirs_put _ _ _)
  | leaked => exact FileTree.keepsDirs_put _ _ _
  | absent => exact .refl
  | deleted => exact FileTree.keepsDirs_remove _ _

lemma keepsDirs_applyAll (hroot : t.node? root = some .dir) (changes : List FileChange) :
    FileTree.KeepsDirs t (applyAll t root changes).2 := by
  induction changes generalizing t with
  | nil => exact .refl
  | cons change changes ih =>
    have hkeep := (applied_applyChange hroot change).keepsDirs
    rw [applyAll]
    split
    · next hchange =>
      rw [hchange] at hkeep
      exact hkeep
    · next hchange =>
      rw [hchange] at hkeep
      exact hkeep.trans (ih (hkeep _ hroot))

/-- A snapshot changes no file, and only the fingerprint is remembered. -/
lemma snapshot_snd (h : stateFor s workspace = .ok state) :
    (self.snapshot workspace s).2 =
      { s with workspaces := s.workspaces.set { state with
          snapshotFingerprint := some (self.workspaceDigest s.files state.path) } } := by
  rw [snapshot, h]
  rfl

/-- A snapshot can be taken if there is a name left of every path that has changed. -/
lemma snapshot_of_paths (hstate : stateFor s workspace = .ok state) {paths : List Required}
    (hpaths : (changedPaths state.baseManifest (self.manifest s.files state.path)).map strip =
      paths.map Subtype.val) :
    (self.snapshot workspace s).1 = .ok {
      workspaceId := workspace.workspaceId
      repository := workspace.repository
      baseRef := workspace.baseRef
      baseCommit := workspace.baseCommit
      changedFiles := paths
      diffDigest := sha256DigestOf self.sha256 (canonicalText
        (diffMaterial state.baseManifest (self.manifest s.files state.path)))
      contentDigest := sha256DigestOf self.sha256
        (canonicalText (manifestJson (self.manifest s.files state.path))) } := by
  obtain ⟨-, -, -, hcommit⟩ := stateFor_eq_ok.mp hstate
  rw [snapshot, hstate]
  exact CandidateSnapshot.postInit_eq_ok.mpr ⟨workspace.workspaceId.2.1, workspace.repository.2.1,
    workspace.baseRef.2.1, (congrArg strip hcommit.symm).trans workspace.baseCommit.1.2.1, hpaths,
    strip_textDigest _ _, strip_textDigest _ _⟩

/-- The ways that `apply_changes` can go: it is refused before anything is written, it fails on
the way or afterwards, or there is a review diff and a snapshot is taken. -/
lemma applyChanges_cases (h : stateFor s workspace = .ok state) (changes : List FileChange) :
    ((∃ error, reviewBefore s.files state.path [] changes = .error error) ∧
      ∃ error, self.applyChanges workspace changes s = (.error error, s)) ∨
    ∃ before, reviewBefore s.files state.path [] changes = .ok before ∧
      ((∃ error, self.applyChanges workspace changes s =
          (.error error, { s with files := (applyAll s.files state.path changes).2 })) ∨
        ∃ after reviewDiff, (applyAll s.files state.path changes).1 = .ok () ∧
          reviewAfter (applyAll s.files state.path changes).2 state.path before = .ok after ∧
          self.buildReviewDiff before after = .ok reviewDiff ∧
          self.applyChanges workspace changes s = self.snapshot workspace
            { files := (applyAll s.files state.path changes).2,
              workspaces :=
                s.workspaces.set { state with candidateReviewDiff := some reviewDiff } }) := by
  unfold applyChanges
  rw [h]
  cases hbefore : reviewBefore s.files state.path [] changes with
  | error error => exact .inl ⟨⟨error, rfl⟩, error, by simp only [hbefore]⟩
  | ok before =>
    refine .inr ⟨before, rfl, ?_⟩
    cases hall : applyAll s.files state.path changes with
    | mk r files =>
      cases r with
      | error error => exact .inl ⟨error, by simp only [hbefore, hall]⟩
      | ok u =>
        cases hafter : reviewAfter files state.path before with
        | error error => exact .inl ⟨error, by simp only [hbefore, hall, hafter, Except.bind]⟩
        | ok after =>
          cases hdiff : self.buildReviewDiff before after with
          | error error =>
            exact .inl ⟨error, by simp only [hbefore, hall, hafter, Except.bind, hdiff]⟩
          | ok reviewDiff =>
            exact .inr ⟨after, reviewDiff, rfl, rfl, hdiff,
              by simp only [hbefore, hall, hafter, Except.bind, hdiff]⟩

/-- The calls by which a developer's changes come into a workspace and are observed. -/
inductive Call where
  | applyChanges (changes : List FileChange)
  | snapshot

def call (self : IsolatedRepositorySandbox) (workspace : RepositoryWorkspace) :
    Call → Sandbox → Except PyError CandidateSnapshot × Sandbox
  | .applyChanges changes => self.applyChanges workspace changes
  | .snapshot => self.snapshot workspace

/-- The states after a workspace is prepared and after each call, whether it returns or raises. -/
inductive Reached (self : IsolatedRepositorySandbox) (workspaceId : Uuid)
    (workspace : RepositoryWorkspace) : Sandbox → Prop where
  | prepared {missionId : String} {s s' : Sandbox}
      (h : self.prepare missionId workspaceId s = (.ok workspace, s')) :
      Reached self workspaceId workspace s'
  | called {s : Sandbox} (h : Reached self workspaceId workspace s) (c : Call) :
      Reached self workspaceId workspace (self.call workspace c s).2

variable {workspaceId : Uuid}

lemma standing_snapshot (hstate : stateFor s workspace = .ok state)
    (h : self.Standing workspaceId state s.files) :
    ∃ state', stateFor (self.snapshot workspace s).2 workspace = .ok state' ∧
      self.Standing workspaceId state' (self.snapshot workspace s).2.files := by
  obtain ⟨hpath, hroot, hprofile, hcommit⟩ := h
  rw [snapshot_snd hstate]
  exact ⟨_, stateFor_set hstate rfl rfl rfl, ⟨hpath, hroot, hprofile, hcommit⟩⟩

/-- Once a workspace has been prepared, it stands where it is. -/
theorem Reached.standing (h : Reached self workspaceId workspace s) :
    workspace.workspaceId.1 = workspaceId ∧ workspace.repository = self.profile.key ∧
      ∃ state, stateFor s workspace = .ok state ∧ self.Standing workspaceId state s.files := by
  induction h with
  | prepared h =>
    obtain ⟨state, hstate, hid, hrepository, -, hstanding, -⟩ := prepare_eq_ok h
    exact ⟨hid, hrepository, state, hstate, hstanding⟩
  | @called s h c ih =>
    obtain ⟨hid, hrepository, state, hstate, hstanding⟩ := ih
    obtain ⟨hpath, hroot, hprofile, hcommit⟩ := hstanding
    refine ⟨hid, hrepository, ?_⟩
    cases c with
    | snapshot => exact standing_snapshot hstate ⟨hpath, hroot, hprofile, hcommit⟩
    | applyChanges changes =>
      have hroot' := keepsDirs_applyAll hroot changes _ hroot
      obtain ⟨-, error, hcall⟩ | ⟨before, -, ⟨error, hcall⟩ | ⟨after, reviewDiff, -, -, -, hcall⟩⟩ :=
        applyChanges_cases hstate changes
      · rw [call, hcall]
        exact ⟨state, hstate, hpath, hroot, hprofile, hcommit⟩
      · rw [call, hcall]
        exact ⟨state, hstate, hpath, hroot', hprofile, hcommit⟩
      · rw [call, hcall]
        exact standing_snapshot (stateFor_set hstate rfl rfl rfl)
          ⟨hpath, hroot', hprofile, hcommit⟩

end IsolatedRepositorySandbox
end AiHq
