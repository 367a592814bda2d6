import AiHq.CodeChanges.Opening
import AiHq.CodeChanges.Publisher

/-!
# What the publisher sends

The requests of one publication, whatever the replies to them are.
-/

namespace AiHq

open Concurrent Relational FileSystem

/-! ### The base tree -/

section BaseTree

variable {entry : Json} {entries : List Json} {path mode : String}

/-- An entry of a tree for a directory. -/
def IsDirectoryEntry (entry : Json) : Prop :=
  ∃ fields path, entry = .obj fields ∧ Dict.get fields "path" = some (.str path) ∧
    Dict.get fields "type" = some (.str "tree") ∧ Dict.get fields "mode" = some (.str "040000")

/-- An entry of a tree for a regular file. -/
def IsBlobEntry (entry : Json) (path mode : String) : Prop :=
  ∃ fields, entry = .obj fields ∧ Dict.get fields "path" = some (.str path) ∧
    Dict.get fields "type" = some (.str "blob") ∧ Dict.get fields "mode" = some (.str mode) ∧
    mode ∈ allowedBlobModes

/-- The last entry for a regular file at the path has the mode. -/
def HasMode (entries : List Json) (path mode : String) : Prop :=
  ∃ before entry after, entries = before ++ entry :: after ∧ IsBlobEntry entry path mode ∧
    ∀ e ∈ after, ∀ m, ¬IsBlobEntry e path m

lemma pyEq_str_right {x : Json} {s : String} : x.pyEq (.str s) = true ↔ x = .str s := by
  cases x with
  | str t => simp [Json.pyEq]
  | _ => simp [Json.pyEq, Json.number?]

lemma getD_null_eq_str {d : Dict} {key s : String} :
    (d.get key).getD .null = .str s ↔ d.get key = some (.str s) := by
  cases d.get key with
  | none => simp
  | some x => simp

lemma IsBlobEntry.unique {path' mode' : String} (h : IsBlobEntry entry path mode)
    (h' : IsBlobEntry entry path' mode') : path = path' ∧ mode = mode' := by
  obtain ⟨fields, rfl, hpath, -, hmode, -⟩ := h
  obtain ⟨fields', heq, hpath', -, hmode', -⟩ := h'
  obtain rfl := Json.obj.inj heq
  rw [hpath] at hpath'
  rw [hmode] at hmode'
  simpa using And.intro hpath' hmode'

/-- What the loop makes of an entry that it accepts. -/
lemma baseEntry_eq_ok {result : Option (String × String)} (h : baseEntry entry = .ok result) :
    (result = none ∧ IsDirectoryEntry entry) ∨
      ∃ path mode, result = some (path, mode) ∧ IsBlobEntry entry path mode := by
  cases entry with
  | obj fields =>
    simp only [baseEntry] at h
    cases hpath : Dict.get fields "path" with
    | none =>
      simp only [hpath] at h
      cases h
    | some value =>
      cases value with
      | str path =>
        simp only [hpath] at h
        by_cases htree : ((Dict.get fields "type").getD .null).pyEq (.str "tree") = true
        · rw [if_pos htree] at h
          simp only [bind_eq_ok, raiseIf_eq_ok, not_not, exists_const, pyEq_str_right,
            getD_null_eq_str] at h htree
          exact .inl ⟨(Except.ok.inj h.2).symm, fields, path, rfl, hpath, htree, h.1⟩
        · rw [if_neg htree] at h
          cases hmode : (Dict.get fields "mode").getD .null with
          | str mode =>
            simp only [hmode, bind_eq_ok, raiseIf_eq_ok, not_not, exists_const, pyEq_str_right,
              getD_null_eq_str] at h
            exact .inr ⟨path, mode, (Except.ok.inj h.2.2.2).symm, fields, rfl, hpath, h.2.1,
              getD_null_eq_str.mp hmode, h.2.2.1⟩
          | list xs =>
            simp only [hmode] at h
            cases h
          | obj xs =>
            simp only [hmode] at h
            cases h
          | null | bool b | int n | float q text =>
            simp only [hmode, bind_eq_ok, raiseIf_eq_ok, exists_const] at h
            cases h.2
      | _ =>
        simp only [hpath] at h
        cases h
  | _ => cases h

/-- What the loop makes of entries that it accepts. -/
lemma baseModes_eq_ok {modes : List (String × String)} (h : baseModes entries = .ok modes) :
    (∀ e ∈ entries, IsDirectoryEntry e ∨ ∃ path mode, IsBlobEntry e path mode) ∧
      (∀ path mode, modes.lookup path = some mode → HasMode entries path mode) ∧
      ∀ path, modes.lookup path = none → ∀ e ∈ entries, ∀ mode, ¬IsBlobEntry e path mode := by
  induction entries generalizing modes with
  | nil =>
    obtain rfl := Except.ok.inj h
    exact ⟨nofun, nofun, fun _ _ => nofun⟩
  | cons entry entries ih =>
    simp only [baseModes, bind_eq_ok] at h
    obtain ⟨mode, hentry, modes', hmodes, hok⟩ := h
    obtain rfl := Except.ok.inj hok
    obtain ⟨hall, hhas, hnot⟩ := ih hmodes
    have hhas' : ∀ path mode, HasMode entries path mode → HasMode (entry :: entries) path mode := by
      rintro path mode ⟨before, e, after, rfl, he, hafter⟩
      exact ⟨entry :: before, e, after, rfl, he, hafter⟩
    rcases baseEntry_eq_ok hentry with ⟨rfl, hdir⟩ | ⟨p, m, rfl, hblob⟩
    · rw [Option.toList_none, List.append_nil]
      refine ⟨List.forall_mem_cons.mpr ⟨.inl hdir, hall⟩,
        fun path mode h => hhas' path mode (hhas path mode h),
        fun path h => List.forall_mem_cons.mpr ⟨?_, hnot path h⟩⟩
      rintro mode ⟨fields, rfl, -, htype, -⟩
      obtain ⟨fields', path', heq, -, htype', -⟩ := hdir
      obtain rfl := Json.obj.inj heq
      rw [htype] at htype'
      simp at htype'
    · rw [Option.toList_some]
      refine ⟨List.forall_mem_cons.mpr ⟨.inr ⟨p, m, hblob⟩, hall⟩, ?_, ?_⟩
      · intro path mode h
        rw [List.lookup_append] at h
        cases hrest : modes'.lookup path with
        | some mode' =>
          rw [hrest] at h
          obtain rfl := Option.some.inj h
          exact hhas' path _ (hhas path _ hrest)
        | none =>
          rw [hrest, Option.none_or, List.lookup_cons] at h
          cases hp : path == p with
          | true =>
            rw [hp] at h
            obtain rfl : m = mode := by simpa using h
            obtain rfl : path = p := by simpa using hp
            exact ⟨[], entry, entries, rfl, hblob, hnot path hrest⟩
          | false =>
            rw [hp] at h
            cases h
      · intro path h
        rw [List.lookup_append] at h
        obtain ⟨hrest, hlast⟩ := Option.or_eq_none_iff.mp h
        refine List.forall_mem_cons.mpr ⟨?_, hnot path hrest⟩
        intro mode hmode
        obtain ⟨rfl, rfl⟩ := hmode.unique hblob
        simp at hlast

end BaseTree

/-! ### Exchanges -/

namespace GitHubCandidatePublisher

variable {σ : Type} {self : GitHubCandidatePublisher} {remote : Remote σ} {t : FileTree ByteArray}
  {candidate : PersistedCandidate} {target : RepositoryPublishTarget}

/-- The exchange is a GET from an address. -/
def Gets (x : Exchange) (url : String) : Prop :=
  x.request.method = "GET" ∧ x.request.url = url ∧ x.request.json = none

/-- The exchange is a POST of a value to an address. -/
def Posts (x : Exchange) (url : String) (json : Json) : Prop :=
  x.request.method = "POST" ∧ x.request.url = url ∧ x.request.json = some json

/-- The identity in the reply. -/
def HasSha (x : Exchange) (sha : String) : Prop :=
  ∃ payload, x.reply.payload = .ok payload ∧ payload.get "sha" = some (.str sha)

/-- The identity of an object in the reply. -/
def HasInnerSha (x : Exchange) (key sha : String) : Prop :=
  ∃ payload inner, x.reply.payload = .ok payload ∧ payload.get key = some (.obj inner) ∧
    Dict.get inner "sha" = some (.str sha)

/-- The exchanges begin with GETs that show the base commit of the candidate as the head of the
remote `main`, and its tree, which is not reported as truncated and has directories and regular
files only. -/
def ShowsBase (target : RepositoryPublishTarget) (candidate : PersistedCandidate)
    (sent : List Exchange) (baseTree : String) (entries : List Json) : Prop :=
  ∃ head commit tree rest payload, sent = head :: commit :: tree :: rest ∧
    Gets head (apiRoot target ++ "/git/ref/heads/main") ∧
    HasInnerSha head "object" candidate.baseCommit ∧
    Gets commit (apiRoot target ++ "/git/commits/" ++ candidate.baseCommit) ∧
    HasInnerSha commit "tree" baseTree ∧
    Gets tree (apiRoot target ++ "/git/trees/" ++ baseTree ++ "?recursive=1") ∧
    tree.reply.payload = .ok payload ∧ payload.get "truncated" ≠ some (.bool true) ∧
    iterate ((payload.get "tree").getD (.list [])) = .ok entries ∧
    ∀ e ∈ entries, IsDirectoryEntry e ∨ ∃ path mode, IsBlobEntry e path mode

/-- The exchange is the post of a blob that has exactly these bytes. -/
def PostsBlob (target : RepositoryPublishTarget) (x : Exchange) (content : ByteArray) : Prop :=
  Posts x (apiRoot target ++ "/git/blobs") (blobJson content) ∧
    ∀ other, Posts x (apiRoot target ++ "/git/blobs") (blobJson other) → other = content

/-- The entry of the posted tree says what has become of the file at its path: it keeps the mode
that the base tree has there, and it has the blob of what the workspace has there. -/
def Describes (t : FileTree ByteArray) (target : RepositoryPublishTarget)
    (candidate : PersistedCandidate) (entries : List Json) (sent : List Exchange)
    (entry : TreeEntry) : Prop :=
  let target' := (components entry.path).reverse ++ candidate.workspacePath
  (HasMode entries entry.path entry.mode ∨
    entry.mode = "100644" ∧ ∀ e ∈ entries, ∀ mode, ¬IsBlobEntry e entry.path mode) ∧
  match entry.sha with
  | none => HasMode entries entry.path entry.mode ∧ t.present target' = false
  | some sha => ∃ content, t.read target' = .ok content ∧
      ∃ x ∈ sent, PostsBlob target x content ∧ HasSha x sha

lemma postsBlob_of_posts {x : Exchange} {content : ByteArray}
    (h : Posts x (apiRoot target ++ "/git/blobs") (blobJson content)) :
    PostsBlob target x content := by
  refine ⟨h, fun other hother => ?_⟩
  have hjson : blobJson other = blobJson content :=
    Option.some.inj (hother.2.2.symm.trans h.2.2)
  simp only [blobJson, Json.obj.injEq, List.cons.injEq, Prod.mk.injEq, Json.str.injEq, true_and,
    and_true] at hjson
  exact b64encode_inj hjson

/-- What is read of a changed file is what the workspace has at its path. -/
lemma readChangedFile_eq_ok {path : String} {content : Option ByteArray}
    (h : CandidateStore.readChangedFile t candidate path = .ok content) :
    match content with
    | none => t.present ((components path).reverse ++ candidate.workspacePath) = false
    | some content => t.read ((components path).reverse ++ candidate.workspacePath) = .ok content := by
  simp only [CandidateStore.readChangedFile, bind_eq_ok, raiseIf_eq_ok, exists_const] at h
  obtain ⟨relative, hrelative, -, -, h⟩ := h
  obtain rfl : path = relative := by
    simp only [CandidateStore.safeChangedPath, bind_eq_ok, raiseIf_eq_ok, exists_const] at hrelative
    exact Except.ok.inj hrelative.2.2.2.2
  by_cases hpresent : t.present ((components path).reverse ++ candidate.workspacePath) = false
  · rw [if_pos hpresent] at h
    obtain rfl := Except.ok.inj h
    exact hpresent
  · rw [if_neg hpresent] at h
    simp only [bind_eq_ok, raiseIf_eq_ok, exists_const] at h
    obtain ⟨-, _, _, _, _, -, h⟩ := h
    cases hread : t.read ((components path).reverse ++ candidate.workspacePath) with
    | error error =>
      simp only [hread] at h
      cases h
    | ok content' =>
      simp only [hread] at h
      obtain rfl := Except.ok.inj h
      rfl

lemma ownSha_eq_ok {payload : Dict} {field sha : String} (h : ownSha payload field = .ok sha) :
    payload.get "sha" = some (.str sha) := by
  unfold ownSha gitSha at h
  cases hsha : (payload.get "sha").getD .null with
  | str sha' =>
    simp only [hsha] at h
    split_ifs at h
    obtain rfl := Except.ok.inj h
    exact getD_null_eq_str.mp hsha
  | _ =>
    simp only [hsha] at h
    cases h

lemma innerSha_eq_ok {payload : Dict} {key field sha : String}
    (h : innerSha payload key field = .ok sha) :
    ∃ inner, payload.get key = some (.obj inner) ∧ Dict.get inner "sha" = some (.str sha) := by
  unfold innerSha at h
  cases hinner : payload.get key with
  | none =>
    simp only [hinner, Option.getD_none] at h
    cases ownSha_eq_ok h
  | some value =>
    cases value with
    | obj inner =>
      simp only [hinner, Option.getD_some] at h
      exact ⟨inner, rfl, ownSha_eq_ok h⟩
    | _ =>
      simp only [hinner, Option.getD_some] at h
      cases h

/-! ### The parts of a publication -/

section Parts

variable {α : Type} {s : σ} {Q : List Exchange → Except PyError α → σ → Prop}

lemma liftM_eq (x : Except PyError α) :
    (liftM x : Prog PyError Exchange σ α) = Prog.ofExcept x := rfl

/-- A request is sent, and the rest of the program goes on with its payload. -/
lemma request_bind {method url : String} {json : Option Json}
    {k : Dict → Prog PyError Exchange σ α}
    (hok : ∀ reply payload u, reply.payload = .ok payload → Traces (k payload) u fun l r v =>
      Q (⟨self.httpRequest method url json, reply⟩ :: l) r v)
    (herr : ∀ reply error u, reply.payload = .error error →
      Q [⟨self.httpRequest method url json, reply⟩] (.error error) u) :
    Traces (self.request remote method url json >>= k) s Q := by
  set sent := self.httpRequest method url json with hsent
  cases hreply : (remote.respond sent s).1.payload with
  | ok payload =>
    have hrest := hok _ payload (remote.respond sent s).2 hreply
    unfold Traces at hrest ⊢
    simpa only [request, Prog.act_bind, Prog.trace, Prog.run, ← hsent, hreply, Prog.ret_bind]
      using hrest
  | error error =>
    have hrest := herr _ error (remote.respond sent s).2 hreply
    unfold Traces
    simpa only [request, Prog.act_bind, Prog.trace, Prog.run, ← hsent, hreply, Prog.raise_bind]
      using hrest

/-- The base tree is read, and nothing is written. -/
lemma traces_checkedBase : Traces (self.checkedBase remote candidate target) s fun l r _ =>
    (∀ x ∈ l, x.request.method = "GET") ∧ ∀ baseTree modes, r = .ok (baseTree, modes) →
      ∃ entries, ShowsBase target candidate l baseTree entries ∧
        baseModes entries = .ok modes := by
  unfold checkedBase
  refine request_bind (fun head headPayload _ hhead => ?_) fun _ _ _ _ => ⟨by simp [httpRequest], nofun⟩
  refine Traces.ofExcept_bind (fun remoteBase hbase => ?_) fun _ _ => ⟨by simp [httpRequest], nofun⟩
  refine Traces.ofExcept_bind (fun _ hstale => ?_) fun _ _ => ⟨by simp [httpRequest], nofun⟩
  refine request_bind (fun commit commitPayload _ hcommit => ?_)
    fun _ _ _ _ => ⟨by simp [httpRequest], nofun⟩
  refine Traces.ofExcept_bind (fun baseTree htree => ?_) fun _ _ => ⟨by simp [httpRequest], nofun⟩
  refine request_bind (fun tree treePayload _ hreply => ?_)
    fun _ _ _ _ => ⟨by simp [httpRequest], nofun⟩
  refine Traces.ofExcept_bind (fun modes hmodes => ?_) fun _ _ => ⟨by simp [httpRequest], nofun⟩
  refine Traces.ret ⟨by simp [httpRequest], fun baseTree' modes' hok => ?_⟩
  obtain ⟨rfl, rfl⟩ := Prod.mk.inj (Except.ok.inj hok)
  obtain rfl := of_not_not (raiseIf_eq_ok.mp hstale)
  change checkedBaseTree treePayload = .ok modes at hmodes
  simp only [checkedBaseTree, bind_eq_ok, raiseIf_eq_ok, exists_const] at hmodes
  obtain ⟨htruncated, entries, hentries, hmodes⟩ := hmodes
  obtain ⟨headInner, hobject, hhead'⟩ := innerSha_eq_ok hbase
  obtain ⟨commitInner, hcommitTree, hcommit'⟩ := innerSha_eq_ok htree
  refine ⟨entries, ⟨_, _, _, [], treePayload, rfl, ⟨rfl, ?_, rfl⟩,
    ⟨headPayload, headInner, hhead, hobject, hhead'⟩, ⟨rfl, rfl, rfl⟩,
    ⟨commitPayload, commitInner, hcommit, hcommitTree, hcommit'⟩, ⟨rfl, rfl, rfl⟩, hreply, ?_,
    hentries, (baseModes_eq_ok hmodes).1⟩, hmodes⟩
  · show apiRoot target ++ "/git/ref/heads/" ++ target.baseBranch = _
    rw [target.main, String.append_assoc]
    rfl
  · intro htrue
    rw [htrue] at htruncated
    exact htruncated rfl

/-- A changed file is read, and what it has is posted as a blob. -/
lemma traces_treeEntry {modes : List (String × String)} {entries : List Json} {path : String}
    (hmodes : baseModes entries = .ok modes) :
    Traces (self.treeEntry remote t candidate target modes path) s fun l r _ =>
      (∀ x ∈ l, ∃ content, Posts x (apiRoot target ++ "/git/blobs") (blobJson content)) ∧
      ∀ entry, r = .ok entry → entry.path = path ∧
        Describes t target candidate entries l entry := by
  obtain ⟨-, hhas, hnot⟩ := baseModes_eq_ok hmodes
  have hmode : HasMode entries path ((modes.lookup path).getD "100644") ∨
      (modes.lookup path).getD "100644" = "100644" ∧
        ∀ e ∈ entries, ∀ mode, ¬IsBlobEntry e path mode := by
    cases hlookup : modes.lookup path with
    | none => exact .inr ⟨rfl, hnot path hlookup⟩
    | some mode => exact .inl (hhas path mode hlookup)
  unfold treeEntry
  refine Traces.ofExcept_bind (fun content hcontent => ?_) fun _ _ => ⟨nofun, nofun⟩
  refine Traces.ofExcept_bind (fun _ _ => ?_) fun _ _ => ⟨nofun, nofun⟩
  have hread := readChangedFile_eq_ok hcontent
  cases content with
  | none =>
    refine Traces.ofExcept_bind (fun _ hexisting => ?_) fun _ _ => ⟨nofun, nofun⟩
    refine Traces.ret ⟨nofun, fun entry hentry => ?_⟩
    obtain rfl := Except.ok.inj hentry
    refine ⟨rfl, hmode, ?_, hread⟩
    cases hlookup : modes.lookup path with
    | none => exact absurd hlookup (raiseIf_eq_ok.mp hexisting)
    | some mode => exact hhas path mode hlookup
  | some content =>
    have hpost : ∀ reply, ∃ content', Posts
        ⟨self.httpRequest "POST" (apiRoot target ++ "/git/blobs") (some (blobJson content)), reply⟩
        (apiRoot target ++ "/git/blobs") (blobJson content') := fun _ => ⟨content, rfl, rfl, rfl⟩
    refine request_bind (fun reply payload _ hreply => ?_)
      fun reply _ _ _ => ⟨List.forall_mem_singleton.mpr (hpost reply), nofun⟩
    refine Traces.ofExcept_bind (fun blobSha hsha => ?_)
      fun _ _ => ⟨List.forall_mem_singleton.mpr (hpost reply), nofun⟩
    refine Traces.ret ⟨List.forall_mem_singleton.mpr (hpost reply), fun entry hentry => ?_⟩
    obtain rfl := Except.ok.inj hentry
    exact ⟨rfl, hmode, content, hread, _, List.mem_singleton_self _,
      postsBlob_of_posts ⟨rfl, rfl, rfl⟩, payload, hreply, ownSha_eq_ok hsha⟩

lemma Describes.mono {entries : List Json} {sent sent' : List Exchange} {entry : TreeEntry}
    (h : Describes t target candidate entries sent entry) (hsent : sent ⊆ sent') :
    Describes t target candidate entries sent' entry := by
  refine ⟨h.1, ?_⟩
  have h := h.2
  cases hsha : entry.sha with
  | none => simpa only [hsha] using h
  | some sha =>
    simp only [hsha] at h ⊢
    obtain ⟨content, hread, x, hx, hpost⟩ := h
    exact ⟨content, hread, x, hsent hx, hpost⟩

lemma traces_treeEntries {modes : List (String × String)} {entries : List Json}
    {paths : List String} (hmodes : baseModes entries = .ok modes) :
    Traces (self.treeEntries remote t candidate target modes paths) s fun l r _ =>
      (∀ x ∈ l, ∃ content, Posts x (apiRoot target ++ "/git/blobs") (blobJson content)) ∧
      ∀ changes, r = .ok changes → changes.map TreeEntry.path = paths ∧
        ∀ entry ∈ changes, Describes t target candidate entries l entry := by
  induction paths generalizing s with
  | nil =>
    refine Traces.ret ⟨nofun, fun changes hchanges => ?_⟩
    obtain rfl := Except.ok.inj hchanges
    exact ⟨rfl, nofun⟩
  | cons path paths ih =>
    refine Traces.bind (traces_treeEntry hmodes) ?_ fun l e u hl => ⟨hl.1, nofun⟩
    rintro l entry u ⟨hposts, hentry⟩
    obtain ⟨hpath, hentry⟩ := hentry entry rfl
    refine Traces.bind ih ?_ fun l' e v hl' =>
      ⟨List.forall_mem_append.mpr ⟨hposts, hl'.1⟩, nofun⟩
    rintro l' changes v ⟨hposts', hchanges⟩
    obtain ⟨hpaths, hchanges⟩ := hchanges changes rfl
    refine Traces.ret ⟨?_, fun all hall => ?_⟩
    · rw [List.append_nil]
      exact List.forall_mem_append.mpr ⟨hposts, hposts'⟩
    · obtain rfl := Except.ok.inj hall
      rw [List.append_nil, List.map_cons, hpath, hpaths]
      refine ⟨rfl, List.forall_mem_cons.mpr ⟨hentry.mono (List.subset_append_left _ _), ?_⟩⟩
      exact fun e he => (hchanges e he).mono (List.subset_append_right _ _)

/-- The tree is posted, and then the commit. -/
lemma traces_postCommit {baseTree : String} {changes : List TreeEntry} :
    Traces (self.postCommit remote candidate target baseTree changes) s fun l r _ =>
      ∃ tree, Posts tree (apiRoot target ++ "/git/trees") (treeJson baseTree changes) ∧
        ((l = [tree] ∧ ∀ a, r ≠ .ok a) ∨
          ∃ treeSha commit, HasSha tree treeSha ∧
            Posts commit (apiRoot target ++ "/git/commits") (commitJson candidate treeSha) ∧
            l = [tree, commit] ∧ ∀ a, r = .ok a → a.1 = treeSha ∧ HasSha commit a.2) := by
  unfold postCommit
  refine request_bind (fun reply payload _ hreply => ?_)
    fun reply _ _ _ => ⟨_, ⟨rfl, rfl, rfl⟩, .inl ⟨rfl, nofun⟩⟩
  refine Traces.ofExcept_bind (fun treeSha hsha => ?_)
    fun _ _ => ⟨_, ⟨rfl, rfl, rfl⟩, .inl ⟨rfl, nofun⟩⟩
  have htree : HasSha ⟨self.httpRequest "POST" (apiRoot target ++ "/git/trees")
      (some (treeJson baseTree changes)), reply⟩ treeSha := ⟨payload, hreply, ownSha_eq_ok hsha⟩
  refine request_bind (fun reply' payload' _ hreply' => ?_)
    fun _ _ _ _ => ⟨_, ⟨rfl, rfl, rfl⟩, .inr ⟨treeSha, _, htree, ⟨rfl, rfl, rfl⟩, rfl, nofun⟩⟩
  refine Traces.ofExcept_bind (fun commitSha hcommit => ?_)
    fun _ _ => ⟨_, ⟨rfl, rfl, rfl⟩, .inr ⟨treeSha, _, htree, ⟨rfl, rfl, rfl⟩, rfl, nofun⟩⟩
  refine Traces.ofExcept_bind (fun _ _ => ?_)
    fun _ _ => ⟨_, ⟨rfl, rfl, rfl⟩, .inr ⟨treeSha, _, htree, ⟨rfl, rfl, rfl⟩, rfl, nofun⟩⟩
  refine Traces.ret ⟨_, ⟨rfl, rfl, rfl⟩, .inr ⟨treeSha, _, htree, ⟨rfl, rfl, rfl⟩, rfl, ?_⟩⟩
  rintro a ha
  obtain rfl := Except.ok.inj ha
  exact ⟨rfl, payload', hreply', ownSha_eq_ok hcommit⟩

lemma traces_postRef {branchName commitSha : String} :
    Traces (self.postRef remote target branchName commitSha) s fun l r _ =>
      ∃ ref, Posts ref (apiRoot target ++ "/git/refs") (refJson branchName commitSha) ∧ l = [ref] ∧
        (r = .ok () → HasInnerSha ref "object" commitSha) := by
  unfold postRef
  refine request_bind (fun reply payload _ hreply => ?_)
    fun _ _ _ _ => ⟨_, ⟨rfl, rfl, rfl⟩, rfl, nofun⟩
  refine Traces.ofExcept_bind (fun createdSha hsha => ?_)
    fun _ _ => ⟨_, ⟨rfl, rfl, rfl⟩, rfl, nofun⟩
  refine Traces.ofExcept (fun _ hsame => ?_) fun _ _ => ⟨_, ⟨rfl, rfl, rfl⟩, rfl, nofun⟩
  refine ⟨_, ⟨rfl, rfl, rfl⟩, rfl, fun _ => ?_⟩
  obtain rfl := of_not_not (raiseIf_eq_ok.mp hsame)
  obtain ⟨inner, hobject, hinner⟩ := innerSha_eq_ok hsha
  exact ⟨payload, inner, hreply, hobject, hinner⟩

end Parts

/-! ### A whole publication -/

/-- What may be sent after what has been sent before. -/
inductive Allowed (self : GitHubCandidatePublisher) (t : FileTree ByteArray)
    (candidate : PersistedCandidate) (target : RepositoryPublishTarget) (before : List Exchange)
    (x : Exchange) : Prop where
  | get (hget : x.request.method = "GET")
  | blob {baseTree entries content} (hbase : ShowsBase target candidate before baseTree entries)
      (hpost : Posts x (apiRoot target ++ "/git/blobs") (blobJson content))
  | tree {baseTree entries changes} (hbase : ShowsBase target candidate before baseTree entries)
      (hpost : Posts x (apiRoot target ++ "/git/trees") (treeJson baseTree changes))
      (hpaths : changes.map TreeEntry.path = candidate.changedFiles)
      (hsorted : candidate.changedFiles.Pairwise (· < ·))
      (hchanges : ∀ entry ∈ changes, Describes t target candidate entries before entry)
  | commit {baseTree entries tree json treeSha}
      (hbase : ShowsBase target candidate before baseTree entries) (htree : tree ∈ before)
      (htreePost : Posts tree (apiRoot target ++ "/git/trees") json) (hsha : HasSha tree treeSha)
      (hpost : Posts x (apiRoot target ++ "/git/commits") (commitJson candidate treeSha))
  | ref {baseTree entries commit json commitSha branchName}
      (hbase : ShowsBase target candidate before baseTree entries) (hcommit : commit ∈ before)
      (hcommitPost : Posts commit (apiRoot target ++ "/git/commits") json)
      (hsha : HasSha commit commitSha)
      (hbranch : generatedBranchName self.store.sha256 target candidate.missionId
        candidate.changeRef = .ok branchName)
      (hpost : Posts x (apiRoot target ++ "/git/refs") (refJson branchName commitSha))

/-- After `before`, everything is sent that is allowed, and nothing follows the post of a ref. -/
def ConfinedAfter (self : GitHubCandidatePublisher) (t : FileTree ByteArray)
    (candidate : PersistedCandidate) (target : RepositoryPublishTarget) (before : List Exchange) :
    List Exchange → Prop
  | [] => True
  | x :: sent => Allowed self t candidate target before x ∧
      ((∃ json, Posts x (apiRoot target ++ "/git/refs") json) → sent = []) ∧
      ConfinedAfter self t candidate target (before ++ [x]) sent

/-- The branch is there: the last reply says that its head is the commit that was posted. -/
def Created (target : RepositoryPublishTarget) (sent : List Exchange) (commitSha : String) : Prop :=
  ∃ before commit ref json branchName, sent = before ++ [ref] ∧ commit ∈ before ∧
    Posts commit (apiRoot target ++ "/git/commits") json ∧ HasSha commit commitSha ∧
    Posts ref (apiRoot target ++ "/git/refs") (refJson branchName commitSha) ∧
    HasInnerSha ref "object" commitSha

section Whole

variable {before sent : List Exchange} {baseTree : String} {entries : List Json}

lemma ShowsBase.append (h : ShowsBase target candidate before baseTree entries)
    (sent : List Exchange) : ShowsBase target candidate (before ++ sent) baseTree entries := by
  obtain ⟨head, commit, tree, rest, payload, rfl, hshows⟩ := h
  exact ⟨head, commit, tree, rest ++ sent, payload, rfl, hshows⟩

/-- Of the posts, only one is to the address for refs. -/
lemma not_refs_of_posts {x : Exchange} {part : String} {json : Json} (hpart : part ≠ "/git/refs")
    (h : Posts x (apiRoot target ++ part) json) (json' : Json) :
    ¬Posts x (apiRoot target ++ "/git/refs") json' := by
  intro h'
  have hurl : apiRoot target ++ part = apiRoot target ++ "/git/refs" := h.2.1.symm.trans h'.2.1
  rw [← String.toList_inj, String.toList_append, String.toList_append] at hurl
  exact hpart (String.toList_inj.mp (List.append_cancel_left hurl))

lemma confinedAfter_gets (h : ∀ x ∈ sent, x.request.method = "GET") :
    ConfinedAfter self t candidate target before sent := by
  induction sent generalizing before with
  | nil => trivial
  | cons x sent ih =>
    refine ⟨.get (h x List.mem_cons_self), ?_, ih fun y hy => h y (List.mem_cons_of_mem x hy)⟩
    rintro ⟨json, hpost, -⟩
    rw [h x List.mem_cons_self] at hpost
    exact absurd hpost (by decide)

lemma confinedAfter_blobs (hbase : ShowsBase target candidate before baseTree entries)
    (h : ∀ x ∈ sent, ∃ content, Posts x (apiRoot target ++ "/git/blobs") (blobJson content)) :
    ConfinedAfter self t candidate target before sent := by
  induction sent generalizing before with
  | nil => trivial
  | cons x sent ih =>
    obtain ⟨content, hpost⟩ := h x List.mem_cons_self
    refine ⟨.blob hbase hpost, ?_, ih (hbase.append _) fun y hy => h y (List.mem_cons_of_mem x hy)⟩
    rintro ⟨json, hpost'⟩
    exact absurd hpost' (not_refs_of_posts (by decide) hpost json)

/-- Nothing that comes before the post of a ref is one. -/
lemma ConfinedAfter.append {sent' : List Exchange}
    (h : ConfinedAfter self t candidate target before sent)
    (hsent : ∀ x ∈ sent, ∀ json, ¬Posts x (apiRoot target ++ "/git/refs") json)
    (h' : ConfinedAfter self t candidate target (before ++ sent) sent') :
    ConfinedAfter self t candidate target before (sent ++ sent') := by
  induction sent generalizing before with
  | nil => simpa using h'
  | cons x sent ih =>
    obtain ⟨hallowed, -, hrest⟩ := h
    refine ⟨hallowed, ?_, ih hrest (fun y hy => hsent y (List.mem_cons_of_mem x hy)) (by simpa using h')⟩
    rintro ⟨json, hpost⟩
    exact absurd hpost (hsent x List.mem_cons_self json)

lemma not_refs_of_get {x : Exchange} (h : x.request.method = "GET") (json : Json) :
    ¬Posts x (apiRoot target ++ "/git/refs") json := by
  rintro ⟨hpost, -⟩
  rw [h] at hpost
  exact absurd hpost (by decide)

lemma commitSha_of_postInit {repository changeRef branchName commitSha treeSha baseCommit : String}
    {published : PublishedCandidate} (h : PublishedCandidate.postInit repository changeRef branchName
      commitSha treeSha baseCommit = .ok published) : published.commitSha = commitSha := by
  simp only [PublishedCandidate.postInit, bind_eq_ok] at h
  obtain ⟨_, -, _, -, _, -, _, -, _, -, _, -, hok⟩ := h
  rw [← Except.ok.inj hok]

/-- All that a publication sends is allowed, and it only succeeds with its branch. -/
lemma traces_publish {s : σ} (htarget : self.targets.get candidate.repository = .ok target)
    (hsorted : candidate.changedFiles.Pairwise (· < ·)) :
    Traces (self.publish remote t candidate) s fun l r _ =>
      ConfinedAfter self t candidate target [] l ∧
        ∀ published, r = .ok published → Created target l published.commitSha := by
  unfold publish
  refine Traces.ofExcept_bind (fun _ _ => ?_) fun _ _ => ⟨trivial, nofun⟩
  refine Traces.ofExcept_bind (fun target' htarget' => ?_) fun _ _ => ⟨trivial, nofun⟩
  obtain rfl : target = target' := Except.ok.inj (htarget.symm.trans htarget')
  refine Traces.bind traces_checkedBase ?_ fun l e u hl => ⟨confinedAfter_gets hl.1, nofun⟩
  rintro gets ⟨baseTree, modes⟩ u ⟨hgets, hbase⟩
  obtain ⟨entries, hbase, hmodes⟩ := hbase baseTree modes rfl
  have hreading : ∀ sent, ConfinedAfter self t candidate target gets sent →
      ConfinedAfter self t candidate target [] (gets ++ sent) := fun sent h =>
    (confinedAfter_gets hgets).append (fun x hx => not_refs_of_get (hgets x hx)) h
  refine Traces.bind (traces_treeEntries hmodes) ?_ fun l e v hl =>
    ⟨hreading l (confinedAfter_blobs hbase hl.1), nofun⟩
  rintro blobs changes v ⟨hblobs, hchanges⟩
  obtain ⟨hpaths, hchanges⟩ := hchanges changes rfl
  have hposting : ∀ sent, ConfinedAfter self t candidate target (gets ++ blobs) sent →
      ConfinedAfter self t candidate target [] (gets ++ (blobs ++ sent)) := by
    refine fun sent h => hreading _ ((confinedAfter_blobs hbase hblobs).append ?_ h)
    intro x hx
    obtain ⟨content, hpost⟩ := hblobs x hx
    exact not_refs_of_posts (by decide) hpost
  -- the tree and the commit are posted
  have hbase := hbase.append blobs
  have hsame : orderBy id candidate.changedFiles = candidate.changedFiles :=
    List.Pairwise.insertionSort_eq (hsorted.imp le_of_lt)
  have htreeAllowed : ∀ tree, Posts tree (apiRoot target ++ "/git/trees")
      (treeJson baseTree changes) → Allowed self t candidate target (gets ++ blobs) tree :=
    fun tree hpost => .tree hbase hpost (hpaths.trans hsame) hsorted
      fun entry he => (hchanges entry he).mono (List.subset_append_right _ _)
  have hcommitting : ∀ tree treeSha commit sent,
      Posts tree (apiRoot target ++ "/git/trees") (treeJson baseTree changes) →
      HasSha tree treeSha →
      Posts commit (apiRoot target ++ "/git/commits") (commitJson candidate treeSha) →
      ConfinedAfter self t candidate target (gets ++ blobs ++ [tree, commit]) sent →
      ConfinedAfter self t candidate target [] (gets ++ (blobs ++ ([tree, commit] ++ sent))) := by
    intro tree treeSha commit sent htree hsha hcommit hsent
    refine hposting _ ⟨htreeAllowed tree htree, ?_, ?_, ?_, ?_⟩
    · exact fun ⟨json, hpost⟩ => absurd hpost (not_refs_of_posts (by decide) htree json)
    · exact .commit (hbase.append [tree]) (by simp) htree hsha hcommit
    · exact fun ⟨json, hpost⟩ => absurd hpost (not_refs_of_posts (by decide) hcommit json)
    · simpa using hsent
  refine Traces.bind traces_postCommit ?_ ?_
  · rintro l ⟨treeSha, commitSha⟩ w ⟨tree, htree, ⟨-, hno⟩ | ⟨treeSha', commit, hsha, hcommit, rfl, hshas⟩⟩
    · exact absurd rfl (hno _)
    obtain ⟨rfl, hcommitSha⟩ := hshas _ rfl
    refine Traces.ofExcept_bind (fun branchName hbranch => ?_) fun _ _ => ⟨?_, nofun⟩
    · have hposted : ∀ ref, Posts ref (apiRoot target ++ "/git/refs")
          (refJson branchName commitSha) → ConfinedAfter self t candidate target []
            (gets ++ (blobs ++ ([tree, commit] ++ [ref]))) := fun ref href =>
        hcommitting tree _ commit [ref] htree hsha hcommit
          ⟨.ref (hbase.append _) (by simp) hcommit hcommitSha hbranch href, fun _ => rfl, trivial⟩
      refine Traces.bind traces_postRef ?_ ?_
      · rintro l ⟨⟩ w ⟨ref, href, rfl, hcreated⟩
        refine Traces.ofExcept (fun published hpublished => ?_) fun _ _ => ⟨hposted ref href, nofun⟩
        refine ⟨hposted ref href, fun published' hok => ?_⟩
        obtain rfl := Except.ok.inj hok
        rw [commitSha_of_postInit hpublished]
        exact ⟨gets ++ blobs ++ [tree, commit], commit, ref, _, branchName, by simp, by simp, hcommit,
          hcommitSha, href, hcreated rfl⟩
      · rintro l e w ⟨ref, href, rfl, -⟩
        exact ⟨hposted ref href, nofun⟩
    · exact hcommitting tree _ commit [] htree hsha hcommit trivial
  · rintro l e w ⟨tree, htree, ⟨rfl, -⟩ | ⟨treeSha, commit, hsha, hcommit, rfl, -⟩⟩
    · refine ⟨hposting _ ⟨htreeAllowed tree htree, fun _ => rfl, trivial⟩, nofun⟩
    · exact ⟨hcommitting tree treeSha commit [] htree hsha hcommit trivial, nofun⟩

end Whole

/-- Whatever the replies are, a candidate that has been opened again is published with GETs and with
posts of its files, of one tree, of one commit on its base, and at last of its own branch; and what
is returned has been created. -/
theorem publish_confined (self : GitHubCandidatePublisher) (remote : Remote σ)
    (t t' : FileTree ByteArray) (missionId changeRef : String) (files : List Json) (evidence : Dict)
    (candidate : PersistedCandidate) (s : σ)
    (h : self.store.loadVerified t' missionId changeRef files evidence = .ok candidate) :
    ((self.publish remote t candidate).trace s = [] ∧
        ∀ published, ((self.publish remote t candidate).run s).1 ≠ .ok published) ∨
      ∃ target, self.targets.get candidate.repository = .ok target ∧
        ConfinedAfter self t candidate target [] ((self.publish remote t candidate).trace s) ∧
        ∀ published, ((self.publish remote t candidate).run s).1 = .ok published →
          Created target ((self.publish remote t candidate).trace s) published.commitSha := by
  have hsorted := CandidateStore.pairwise_of_changedFiles
    (CandidateStore.loadVerified_eq_ok h).2.2.2.2.2.1
  cases htarget : self.targets.get candidate.repository with
  | ok target => exact .inr ⟨target, rfl, traces_publish htarget hsorted⟩
  | error error =>
    refine .inl ?_
    have htraces : Traces (self.publish remote t candidate) s fun l r _ =>
        l = [] ∧ ∀ published, r ≠ .ok published := by
      unfold publish
      refine Traces.ofExcept_bind (fun _ _ => ?_) fun _ _ => ⟨rfl, nofun⟩
      refine Traces.ofExcept_bind (fun target htarget' => ?_) fun _ _ => ⟨rfl, nofun⟩
      cases htarget.symm.trans htarget'
    exact htraces

/-! ### A small publication -/

def sampleCommit (c : Char) : String := String.ofList (List.replicate 40 c)

def sampleDigest : String := "sha256:" ++ String.ofList (List.replicate 64 'd')

def sampleContentDigest : String :=
  "sha256:39e065d1a0d6eb171b59c8d9c9d3959fd4e3268768ca5b355879829a6f5ab470"

def sampleChangeRef : String :=
  "sha256:d87b9ef2ea18cb971378d9eeead80e4edf73f962b166ff7903fab0e560a1361a"

def sampleWorkspaceId : String := "0f8fad5b-d9cb-469f-a165-70867728950e"

/-- A candidate that changes `main.py` and deletes `old.py`. -/
def sampleCandidate : PersistedCandidate where
  missionId := "m"
  repository := "ai-hq"
  workspaceId := sampleWorkspaceId
  baseRef := "main"
  baseCommit := sampleCommit 'a'
  changeRef := sampleChangeRef
  changedFiles := ["main.py", "old.py"]
  contentDigest := sampleContentDigest
  workspacePath := [sampleWorkspaceId, "ai-hq", "sandbox"]

def sampleEvidence : Dict :=
  [("verification", .str "candidate_identity_verified"), ("change_ref", .str sampleChangeRef),
    ("repository", .str "ai-hq"), ("base_ref", .str "main"),
    ("base_commit", .str (sampleCommit 'a')), ("workspace_id", .str sampleWorkspaceId),
    ("diff_digest", .str sampleDigest), ("content_digest", .str sampleContentDigest)]

def sampleTree : FileTree ByteArray :=
  (((FileTree.empty.put ["sandbox"] .dir).put ["ai-hq", "sandbox"] .dir).put
    sampleCandidate.workspacePath .dir).put ("main.py" :: sampleCandidate.workspacePath)
    (.file "x = 1\n".toUTF8)

def sampleStore : CandidateStore where
  sandboxRoot := ["sandbox"]
  sha256 := .ofTable [
    ("x = 1\n", "9e26bf369911c45c243c684147b23fc9e1dcfcf257d299a1c632016a6fcd33f4"),
    (canonicalText (manifestJson [("main.py",
        "sha256:9e26bf369911c45c243c684147b23fc9e1dcfcf257d299a1c632016a6fcd33f4")]),
      "39e065d1a0d6eb171b59c8d9c9d3959fd4e3268768ca5b355879829a6f5ab470"),
    (canonicalText (.obj [("mission_id", .str "m"), ("repository", .str "ai-hq"),
        ("base_ref", .str "main"), ("base_commit", .str (sampleCommit 'a')),
        ("workspace_id", .str sampleWorkspaceId),
        ("changed_files", .list [.str "main.py", .str "old.py"]),
        ("diff_digest", .str sampleDigest), ("content_digest", .str sampleContentDigest)]),
      "d87b9ef2ea18cb971378d9eeead80e4edf73f962b166ff7903fab0e560a1361a"),
    ("m", "62c66a7a5dd70c3146618063c344e531e6d4b59e379808443ce962b3abd63c5a")]

def sampleTarget : RepositoryPublishTarget where
  key := "ai-hq"
  repositoryFullName := "Waitenomore-ai/ai-hq"
  baseBranch := "main"
  branchPrefix := "ai-hq/candidate/"
  trusted := by decide
  main := rfl

def samplePublisher : GitHubCandidatePublisher where
  token := "token"
  store := sampleStore
  targets := Table.empty.put sampleTarget

/-- The identity of the sample. -/
def sampleIdentity : CandidateIdentity where
  missionId := "m"
  repository := "ai-hq"
  baseRef := "main"
  baseCommit := sampleCommit 'a'
  workspaceId := sampleWorkspaceId
  changedFiles := ["main.py", "old.py"]
  diffDigest := sampleDigest
  contentDigest := sampleContentDigest

/-- The texts of which the store has digests. -/
def sampleTable : List (String × String) :=
  [("x = 1\n", "9e26bf369911c45c243c684147b23fc9e1dcfcf257d299a1c632016a6fcd33f4"),
    (canonicalText (manifestJson [("main.py",
        "sha256:9e26bf369911c45c243c684147b23fc9e1dcfcf257d299a1c632016a6fcd33f4")]),
      "39e065d1a0d6eb171b59c8d9c9d3959fd4e3268768ca5b355879829a6f5ab470"),
    (canonicalText sampleIdentity.payload,
      "d87b9ef2ea18cb971378d9eeead80e4edf73f962b166ff7903fab0e560a1361a"),
    ("m", "62c66a7a5dd70c3146618063c344e531e6d4b59e379808443ce962b3abd63c5a")]

lemma sha256_sampleStore : sampleStore.sha256 = .ofTable sampleTable := rfl

lemma nodup_sampleTable : (sampleTable.map Prod.fst).Nodup := by
  have htext (fields : Dict) : "x = 1\n" ≠ canonicalText (.obj fields) ∧
      "m" ≠ canonicalText (.obj fields) := by
    rw [canonicalText, ← Json.dumpsAs_escapeChar]
    constructor
    · refine CandidateStore.ne_of_head? ?_
      rw [CandidateStore.head?_dumpsAs_obj]
      decide
    · refine CandidateStore.ne_of_head? ?_
      rw [CandidateStore.head?_dumpsAs_obj]
      decide
  have hpayload := CandidateStore.manifest_ne_payload Json.escaped_escapeChar "main.py"
    "sha256:9e26bf369911c45c243c684147b23fc9e1dcfcf257d299a1c632016a6fcd33f4" sampleIdentity
  rw [Json.dumpsAs_escapeChar, Json.dumpsAs_escapeChar] at hpayload
  simp only [sampleTable, List.map_cons, List.map_nil, List.nodup_cons, List.mem_cons,
    List.not_mem_nil, or_false, not_or, List.nodup_nil, and_true, not_false_eq_true]
  exact ⟨⟨(htext _).1, (htext _).1, by decide⟩, ⟨hpayload, (htext _).2.symm⟩, (htext _).2.symm⟩

lemma textDigest_sample : ∀ field ∈ sampleTable,
    textDigest sampleStore.sha256 field.1 = "sha256:" ++ field.2 := by
  intro field hfield
  have hhex : ∀ digest ∈ sampleTable.map Prod.snd, isLowerHex 64 digest.toList = true := by
    decide
  rw [textDigest, sha256_sampleStore]
  exact congrArg _ (Sha256.hexdigest_ofTable nodup_sampleTable hfield
    (hhex _ (List.mem_map_of_mem hfield)))

lemma loadVerified_sample : sampleStore.loadVerified sampleTree "m" sampleChangeRef
    [.str "main.py", .str "old.py"] sampleEvidence = .ok sampleCandidate := by
  have hdir : sampleTree.node? sampleCandidate.workspacePath = some .dir := by decide
  have hmanifest : manifestOf sampleStore.sha256 sampleTree sampleCandidate.workspacePath =
      [("main.py", "sha256:9e26bf369911c45c243c684147b23fc9e1dcfcf257d299a1c632016a6fcd33f4")] := by
    decide +kernel
  have hcontent : sampleStore.contentDigest sampleTree sampleCandidate.workspacePath =
      sampleContentDigest := by
    rw [CandidateStore.contentDigest, hmanifest]
    exact (textDigest_sample _ (.tail _ (.head _))).trans (by decide +kernel)
  have href : sampleIdentity.storeRef sampleStore.sha256 = sampleChangeRef :=
    (textDigest_sample (canonicalText sampleIdentity.payload, _)
      (.tail _ (.tail _ (.head _)))).trans (by decide +kernel)
  have hdigests : ∀ value ∈ [sampleDigest, sampleContentDigest, sampleChangeRef],
      IsRequired value ∧ CandidateStore.isDigest value = true := by
    decide +kernel
  have hdigest {value : String}
      (hvalue : value ∈ [sampleDigest, sampleContentDigest, sampleChangeRef]) (field : String) :
      CandidateStore.digest (.str value) field = .ok value :=
    CandidateStore.digest_str (hdigests value hvalue).1 (hdigests value hvalue).2
  have haccepts : CandidateStore.Accepts sampleIdentity :=
    { missionId := by decide
      repository := by decide
      baseRef := rfl
      baseCommit := by decide
      workspaceId := by decide
      diffDigest := hdigest (.head _)
      contentDigest := hdigest (.tail _ (.head _)) }
  have hpaths : ∀ path ∈ sampleIdentity.changedFiles, CandidateStore.SafePath path := by
    intro path hpath
    have hsafe : ∀ path ∈ ["main.py", "old.py"], path ≠ "" ∧ '\\' ∉ path.toList ∧
        (∀ part ∈ components path, part ∉ ["", ".", ".."]) ∧
          (components path).head? ≠ some ".git" := by
      decide
    obtain ⟨hne, hback, hparts, hgit⟩ := hsafe path hpath
    exact ⟨hne, hback, hparts, hgit⟩
  exact (CandidateStore.loadVerified_of_evidences (I := sampleIdentity) sampleStore sampleTree
    sampleCandidate haccepts (hdigest (.tail _ (.tail _ (.head _))))
    ⟨rfl, by decide, rfl, rfl, rfl, rfl, rfl, rfl, rfl⟩).mpr
    ⟨hpaths, by decide, href, _, CandidateStore.verifiedWorkspace_of_dir (by decide) hdir,
      hcontent, rfl⟩

/-- A remote that gives one reply after the other. -/
def scripted : Remote (List HttpReply) where
  respond _ replies := (replies.headD .httpError, replies.tail)

def reply (payload : Dict) : HttpReply := .response 200 (some (.obj payload))

def blobEntryJson (path mode : String) : Json :=
  .obj [("path", .str path), ("mode", .str mode), ("type", .str "blob")]

def sampleReplies : List HttpReply :=
  [reply [("object", .obj [("sha", .str (sampleCommit 'a'))])],
    reply [("tree", .obj [("sha", .str (sampleCommit 'b'))])],
    reply [("truncated", .bool false), ("tree", .list [blobEntryJson "main.py" "100755",
      blobEntryJson "old.py" "100644"])],
    reply [("sha", .str (sampleCommit 'c'))], reply [("sha", .str (sampleCommit 'd'))],
    reply [("sha", .str (sampleCommit 'e')), ("tree", .obj [("sha", .str (sampleCommit 'd'))])],
    reply [("object", .obj [("sha", .str (sampleCommit 'e'))])]]

/-- The sample is published, and confined. -/
theorem publish_confined_sample : ∃ published target,
    ((samplePublisher.publish scripted sampleTree sampleCandidate).run sampleReplies).1 =
      .ok published ∧
    samplePublisher.targets.get "ai-hq" = .ok target ∧
    ConfinedAfter samplePublisher sampleTree sampleCandidate target []
      ((samplePublisher.publish scripted sampleTree sampleCandidate).trace sampleReplies) ∧
    Created target ((samplePublisher.publish scripted sampleTree sampleCandidate).trace sampleReplies)
      published.commitSha := by
  obtain ⟨published, hpublished⟩ := isSome_toOption.mp (by decide +kernel :
    ((samplePublisher.publish scripted sampleTree sampleCandidate).run
      sampleReplies).1.toOption.isSome = true)
  rcases publish_confined samplePublisher scripted sampleTree sampleTree "m" sampleChangeRef
    [.str "main.py", .str "old.py"] sampleEvidence sampleCandidate sampleReplies
    loadVerified_sample with ⟨-, hno⟩ | ⟨target, htarget, hconfined, hcreated⟩
  · exact absurd hpublished (hno published)
  · exact ⟨published, target, hpublished, htarget, hconfined, hcreated published hpublished⟩

end GitHubCandidatePublisher

end AiHq
