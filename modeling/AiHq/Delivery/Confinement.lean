import AiHq.Delivery.AppliedChanges

/-!
# What stays as it is outside a workspace

Whatever is written into a workspace, nothing that stands outside is changed or removed. The one
thing that can come into being there is a file that a link of the workspace leads to. Links come
with the repository only: no change makes one.
-/

namespace AiHq

open Relational FileSystem

namespace IsolatedRepositorySandbox

variable {t t' t'' : FileTree ByteArray} {root q : Path} {change : FileChange}
  {changes : List FileChange}

/-- What stands outside `root` stays. -/
def KeepsOutside (root : Path) (t t' : FileTree ByteArray) : Prop :=
  ∀ q e, ¬root <:+ q → t.node? q = some e → t'.node? q = some e

/-- Outside `root` there is the same in both trees. -/
def SameOutside (root : Path) (t t' : FileTree ByteArray) : Prop :=
  ∀ q, ¬root <:+ q → t'.node? q = t.node? q

lemma KeepsOutside.trans (h : KeepsOutside root t t') (h' : KeepsOutside root t' t'') :
    KeepsOutside root t t'' := fun q e hq he => h' q e hq (h q e hq he)

lemma SameOutside.refl : SameOutside root t t := fun _ _ => rfl

lemma SameOutside.trans (h : SameOutside root t t') (h' : SameOutside root t' t'') :
    SameOutside root t t'' := fun q hq => (h' q hq).trans (h q hq)

lemma SameOutside.keeps (h : SameOutside root t t') : KeepsOutside root t t' :=
  fun q _ hq he => (h q hq).trans he

lemma SameOutside.iff_right (h : SameOutside root t t') :
    SameOutside root t t'' ↔ SameOutside root t' t'' :=
  ⟨fun h' q hq => (h' q hq).trans (h q hq).symm, h.trans⟩

lemma SameOutside.of_grown {p : Path} (h : FileTree.Grown root p t t') :
    SameOutside root t t' := by
  intro q hq
  obtain heq | ⟨-, -, hsuf, -⟩ := h q
  · exact heq
  · exact absurd hsuf hq

lemma SameOutside.put {p : Path} (hp : root <:+ p) (e : Entry ByteArray) :
    SameOutside root t (t.put p e) := by
  intro q hq
  refine FileTree.node?_put_of_ne ?_
  rintro rfl
  exact hq hp

lemma SameOutside.remove {p : Path} (hp : root <:+ p) : SameOutside root t (t.remove p) := by
  intro q hq
  refine FileTree.node?_remove_of_ne ?_
  rintro rfl
  exact hq hp

/-- A write at a link of the workspace that leads to a place outside at which nothing stands. -/
structure Leak (t : FileTree ByteArray) (root : Path) (change : FileChange) (q : Path) : Prop where
  operation_eq : change.operation = .write
  targetable : Targetable change.path
  link : ∃ target, t.node? (placeOf root change.path) = some (.link target)
  lookup_eq : t.lookup true (placeOf root change.path) = .missing q
  outside : ¬root <:+ q

/-- A file comes into being where the link leads. -/
lemma Leak.applied (h : Leak t root change q) (hroot : t.node? root = some .dir) :
    applyChange t root change =
      (.ok (), t.put q (.file (change.content.getD "").toUTF8)) := by
  obtain ⟨hop, hraw, ⟨target, hlink⟩, hlookup, -⟩ := h
  have hdir : t.node? (placeOf root change.path).tail = some .dir := by
    obtain ⟨c, d, hcd, -⟩ := placeOf_eq_cons root change.path
    rw [hcd] at hlink ⊢
    exact (FileTree.closed_of_node? hlink).2
  have hun : t.Unlinked root (placeOf root change.path) := by
    intro p _ _ hp ⟨hpresent, hsymlink⟩
    by_cases heq : p = placeOf root change.path
    · rw [heq, FileTree.present, FileTree.stat, hlookup] at hpresent
      cases hpresent
    · have hbelow : p <:+ (placeOf root change.path).tail := by
        obtain ⟨c, d, hcd, -⟩ := placeOf_eq_cons root change.path
        rw [hcd] at hp heq ⊢
        exact (List.suffix_cons_iff.mp hp).resolve_left heq
      have hp' := FileTree.isDir_of_suffix hdir hbelow
      rw [FileTree.isSymlink, FileTree.stat, FileTree.lookup_of_dir hp'] at hsymlink
      simp only [hp'] at hsymlink
      cases hsymlink
  have hmake : t.makeDirs (placeOf root change.path).tail = (.ok (), t) :=
    FileTree.makeDirs_of_dir hdir
  have hwrite : t.write (placeOf root change.path) (change.content.getD "").toUTF8 =
      .ok (t.put q (.file (change.content.getD "").toUTF8)) := by
    rw [FileTree.write, hlookup]
  rw [applyChange, safeTarget_of_dir hroot hraw hun hdir]
  simp only [hop, writeTarget, hmake, hwrite]

lemma Leak.created (h : Leak t root change q) (hroot : t.node? root = some .dir) :
    t.node? q = none ∧ (applyChange t root change).2.node? q =
      some (.file (change.content.getD "").toUTF8) := by
  have hvacant := t.lookup_spec (p := placeOf root change.path)
  rw [h.lookup_eq] at hvacant
  rw [h.applied hroot]
  refine ⟨?_, FileTree.node?_put_of_vacant hvacant _⟩
  obtain ⟨c, p, -, -, -, hnone⟩ := hvacant
  exact hnone

/-- A change that is no leak changes nothing outside, and one that is makes a file there. -/
lemma keepsOutside_applyChange (hroot : t.node? root = some .dir) (change : FileChange) :
    KeepsOutside root t (applyChange t root change).2 ∧
      ((¬∃ q, Leak t root change q) → SameOutside root t (applyChange t root change).2) := by
  cases hs : safeTarget t root change.path with
  | error error =>
    have hsame : applyChange t root change = (.error error, t) := by rw [applyChange, hs]
    rw [hsame]
    exact ⟨SameOutside.refl.keeps, fun _ => .refl⟩
  | ok p =>
    obtain ⟨-, hraw, -⟩ := safeTarget_eq_ok hs
    have hplace := suffix_placeOf root change.path
    have hsame {u : FileTree ByteArray} (h : SameOutside root t u) :
        KeepsOutside root t u ∧ ((¬∃ q, Leak t root change q) → SameOutside root t u) :=
      ⟨h.keeps, fun _ => h⟩
    have happlied := applied_applyChange hroot change
    generalize applyChange t root change = result at happlied ⊢
    obtain ⟨r, u⟩ := result
    cases happlied with
    | failed hgrown => exact hsame (.of_grown hgrown)
    | written _ hgrown => exact hsame ((SameOutside.of_grown hgrown).trans (.put hplace _))
    | absent => exact hsame .refl
    | deleted => exact hsame (.remove hplace)
    | @leaked q target hop hlink hlookup =>
      by_cases hq : root <:+ q
      · exact hsame (.put hq _)
      · refine ⟨?_, fun h => absurd ⟨q, hop, hraw, ⟨target, hlink⟩, hlookup, hq⟩ h⟩
        have hvacant := t.lookup_spec (p := placeOf root change.path)
        rw [hlookup] at hvacant
        obtain ⟨c, d, rfl, -, -, hnone⟩ := hvacant
        intro p e _ he
        exact FileTree.KeepsAllBut.put_of_none hnone _ he

/-- One of the changes that are made is a leak. -/
def Leaks (root : Path) : FileTree ByteArray → List FileChange → Prop
  | _, [] => False
  | t, change :: changes => (∃ q, Leak t root change q) ∨
      (applyChange t root change).1 = .ok () ∧ Leaks root (applyChange t root change).2 changes

lemma keepsOutside_applyAll (hroot : t.node? root = some .dir) (changes : List FileChange) :
    KeepsOutside root t (applyAll t root changes).2 ∧
      (SameOutside root t (applyAll t root changes).2 ↔ ¬Leaks root t changes) := by
  induction changes generalizing t with
  | nil => exact ⟨SameOutside.refl.keeps, fun _ h => h, fun _ => .refl⟩
  | cons change changes ih =>
    obtain ⟨hkeep, hsame⟩ := keepsOutside_applyChange hroot change
    have hdirs := (applied_applyChange hroot change).keepsDirs
    by_cases hleak : ∃ q, Leak t root change q
    · obtain ⟨q, hleak'⟩ := hleak
      obtain ⟨hnone, hfile⟩ := hleak'.created hroot
      have hall : applyAll t root (change :: changes) =
          applyAll (applyChange t root change).2 root changes := by
        rw [applyAll, hleak'.applied hroot]
      rw [hall]
      obtain ⟨hrest, -⟩ := ih (hdirs _ hroot)
      refine ⟨hkeep.trans hrest, fun h => ?_, fun h => absurd (.inl ⟨q, hleak'⟩) h⟩
      have hfile' := hrest q _ hleak'.outside hfile
      rw [h q hleak'.outside, hnone] at hfile'
      cases hfile'
    · have hsame' := hsame hleak
      cases hr : applyChange t root change with
      | mk r t' =>
        rw [hr] at hkeep hsame' hdirs
        cases r with
        | error error =>
          have hall : applyAll t root (change :: changes) = (.error error, t') := by
            rw [applyAll, hr]
          rw [hall, Leaks, hr]
          refine ⟨hkeep, fun _ h => ?_, fun _ => hsame'⟩
          obtain h | ⟨h, -⟩ := h
          · exact hleak h
          · cases h
        | ok u =>
          have hall : applyAll t root (change :: changes) = applyAll t' root changes := by
            rw [applyAll, hr]
          obtain ⟨hrest, hiff⟩ := ih (hdirs _ hroot)
          rw [hall, Leaks, hr]
          refine ⟨hkeep.trans hrest, ?_⟩
          rw [hsame'.iff_right, hiff, or_iff_right hleak, and_iff_right rfl]

/-! ### Links -/

/-- No link comes into a directory that has none. -/
def Linkless (root : Path) (t : FileTree ByteArray) : Prop :=
  ∀ q target, root <:+ q → t.node? q ≠ some (.link target)

lemma Linkless.not_leak (h : Linkless root t) : ¬∃ q, Leak t root change q := by
  rintro ⟨q, hleak⟩
  obtain ⟨target, hlink⟩ := hleak.link
  exact h _ target (suffix_placeOf root change.path) hlink

lemma Linkless.grown {p : Path} (h : Linkless root t) (hgrown : FileTree.Grown root p t t') :
    Linkless root t' := by
  intro q target hq hlink
  obtain heq | ⟨-, hdir, -⟩ := hgrown q
  · exact h q target hq (heq.symm.trans hlink)
  · rw [hdir] at hlink
    cases hlink

lemma Linkless.put_file (h : Linkless root t) (p : Path) (content : ByteArray) :
    Linkless root (t.put p (.file content)) := by
  intro q target hq hlink
  by_cases heq : q = p
  · obtain hold | hfile := FileTree.node?_put_self (t := t) (p := p) (e := .file content)
    · rw [heq, hold] at hlink
      exact h p target (heq ▸ hq) hlink
    · rw [heq, hfile] at hlink
      cases hlink
  · rw [FileTree.node?_put_of_ne heq] at hlink
    exact h q target hq hlink

lemma Linkless.remove (h : Linkless root t) (p : Path) : Linkless root (t.remove p) := by
  intro q target hq hlink
  by_cases hdir : t.node? p = some .dir
  · rw [FileTree.remove, dif_pos hdir] at hlink
    exact h q target hq hlink
  · rw [FileTree.node?_remove hdir] at hlink
    split_ifs at hlink
    · exact h q target hq hlink

lemma Linkless.applied {r : Except PyError Unit} (h : Linkless root t)
    (happlied : Applied t root change r t') : Linkless root t' := by
  cases happlied with
  | failed hgrown => exact h.grown hgrown
  | written _ hgrown => exact (h.grown hgrown).put_file _ _
  | leaked => exact h.put_file _ _
  | absent => exact h
  | deleted => exact h.remove _

lemma Linkless.applyAll (h : Linkless root t) (hroot : t.node? root = some .dir)
    (changes : List FileChange) :
    ¬Leaks root t changes ∧ Linkless root (applyAll t root changes).2 := by
  induction changes generalizing t with
  | nil => exact ⟨fun h => h, h⟩
  | cons change changes ih =>
    have happlied := applied_applyChange hroot change
    have hdirs := happlied.keepsDirs
    have hlinks := h.applied happlied
    obtain ⟨hleaks, hall⟩ := ih hlinks (hdirs _ hroot)
    refine ⟨fun hleak => hleak.elim h.not_leak fun hleak => hleaks hleak.2, ?_⟩
    rw [IsolatedRepositorySandbox.applyAll]
    split
    · next hchange =>
      rw [hchange] at hlinks
      exact hlinks
    · next hchange =>
      rw [hchange] at hall
      exact hall

/-! ### Runs on one workspace -/

variable {self : IsolatedRepositorySandbox} {workspace : RepositoryWorkspace} {workspaceId : Uuid}
  {s : Sandbox} {state : WorkspaceState}

/-- The sandbox after some calls. -/
def afterCalls (self : IsolatedRepositorySandbox) (workspace : RepositoryWorkspace) :
    List Call → Sandbox → Sandbox
  | [], s => s
  | c :: calls, s => afterCalls self workspace calls (self.call workspace c s).2

/-- The call comes to the point where it makes its changes, and one of them is a leak. -/
def LeaksIn (root : Path) (s : Sandbox) : Call → Prop
  | .snapshot => False
  | .applyChanges changes =>
    (reviewBefore s.files root [] changes).toOption.isSome = true ∧ Leaks root s.files changes

/-- One of the calls leaks. -/
def LeaksAfter (self : IsolatedRepositorySandbox) (workspace : RepositoryWorkspace) (root : Path) :
    List Call → Sandbox → Prop
  | [], _ => False
  | c :: calls, s =>
    LeaksIn root s c ∨ LeaksAfter self workspace root calls (self.call workspace c s).2

/-- What one call does to the files. -/
lemma files_call (self : IsolatedRepositorySandbox) (hstate : stateFor s workspace = .ok state)
    (c : Call) :
    (∃ changes, c = .applyChanges changes ∧
      (reviewBefore s.files state.path [] changes).toOption.isSome = true ∧
      (self.call workspace c s).2.files = (applyAll s.files state.path changes).2) ∨
    ¬LeaksIn state.path s c ∧ (self.call workspace c s).2.files = s.files := by
  cases c with
  | snapshot =>
    refine .inr ⟨fun h => h, ?_⟩
    rw [call, snapshot_snd hstate]
  | applyChanges changes =>
    obtain ⟨⟨error, hbefore⟩, error', hcall⟩ | ⟨before, hbefore, hcalls⟩ :=
      applyChanges_cases hstate changes
    · refine .inr ⟨fun h => ?_, by rw [call, hcall]⟩
      rw [LeaksIn, hbefore] at h
      cases h.1
    · refine .inl ⟨changes, rfl, by rw [hbefore]; rfl, ?_⟩
      obtain ⟨error, hcall⟩ | ⟨after, reviewDiff, -, -, -, hcall⟩ := hcalls
      · rw [call, hcall]
      · let state' : WorkspaceState := { state with candidateReviewDiff := some reviewDiff }
        have hset : stateFor ⟨(applyAll s.files state.path changes).2, s.workspaces.set state'⟩
            workspace = .ok state' := stateFor_set hstate rfl rfl rfl
        rw [call, hcall, snapshot_snd hset]

lemma keepsOutside_call (self : IsolatedRepositorySandbox)
    (hstate : stateFor s workspace = .ok state)
    (hroot : s.files.node? state.path = some .dir) (c : Call) :
    KeepsOutside state.path s.files (self.call workspace c s).2.files ∧
      (SameOutside state.path s.files (self.call workspace c s).2.files ↔
        ¬LeaksIn state.path s c) := by
  obtain ⟨changes, rfl, hbefore, hfiles⟩ | ⟨hno, hfiles⟩ := files_call self hstate c
  · obtain ⟨hkeep, hiff⟩ := keepsOutside_applyAll hroot changes
    rw [hfiles, LeaksIn, and_iff_right hbefore]
    exact ⟨hkeep, hiff⟩
  · rw [hfiles]
    exact ⟨SameOutside.refl.keeps, fun _ => hno, fun _ => .refl⟩

lemma Linkless.call (self : IsolatedRepositorySandbox) (h : Linkless state.path s.files)
    (hstate : stateFor s workspace = .ok state)
    (hroot : s.files.node? state.path = some .dir) (c : Call) :
    ¬LeaksIn state.path s c ∧ Linkless state.path (self.call workspace c s).2.files := by
  obtain ⟨changes, rfl, -, hfiles⟩ | ⟨hno, hfiles⟩ := files_call self hstate c
  · obtain ⟨hleaks, hall⟩ := h.applyAll hroot changes
    rw [hfiles]
    exact ⟨fun hleak => hleaks hleak.2, hall⟩
  · rw [hfiles]
    exact ⟨hno, h⟩

/-- In every run on a workspace, what stands outside stays as it is. The files outside are the
same at the end if and only if no change was a write at a link that leads to where nothing stands
outside; in a workspace without links there is no such change. -/
theorem outside_of_reached (h : self.Reached workspaceId workspace s) (calls : List Call) :
    KeepsOutside (workspaceId.1 :: self.sandboxRoot) s.files
        (self.afterCalls workspace calls s).files ∧
      (SameOutside (workspaceId.1 :: self.sandboxRoot) s.files
          (self.afterCalls workspace calls s).files ↔
        ¬self.LeaksAfter workspace (workspaceId.1 :: self.sandboxRoot) calls s) ∧
      (Linkless (workspaceId.1 :: self.sandboxRoot) s.files →
        ¬self.LeaksAfter workspace (workspaceId.1 :: self.sandboxRoot) calls s) := by
  induction calls generalizing s with
  | nil =>
    exact ⟨SameOutside.refl.keeps, ⟨fun _ h => h, fun _ => .refl⟩, fun _ h => h⟩
  | cons c calls ih =>
    obtain ⟨-, -, state, hstate, hpath, hroot, -, -⟩ := h.standing
    obtain ⟨hkeep, hiff⟩ := keepsOutside_call self hstate hroot c
    obtain ⟨hkeeps, hiffs, hlinks⟩ := ih (.called h c)
    rw [← hpath] at hkeeps hiffs hlinks ⊢
    rw [afterCalls, LeaksAfter, not_or]
    refine ⟨hkeep.trans hkeeps, ⟨fun hsame => ?_, fun ⟨hno, hrest⟩ => ?_⟩, fun hless => ?_⟩
    · -- what came into being outside would still be there
      have hfirst : SameOutside state.path s.files (self.call workspace c s).2.files := by
        intro q hq
        cases he : s.files.node? q with
        | some e => exact hkeep q e hq he
        | none =>
          cases he' : (self.call workspace c s).2.files.node? q with
          | none => rfl
          | some e =>
            have hlast := hkeeps q e hq he'
            rw [hsame q hq, he] at hlast
            cases hlast
      exact ⟨hiff.mp hfirst, hiffs.mp (hfirst.iff_right.mp hsame)⟩
    · exact (hiff.mpr hno).trans (hiffs.mpr hrest)
    · obtain ⟨hno, hless'⟩ := hless.call self hstate hroot c
      exact ⟨hno, hlinks hless'⟩

/-! ### A repository with a link -/

/-- A link in the repository leads out of it, to where nothing stands. -/
def linkedRepository : Sandbox :=
  ⟨((FileTree.empty.put ["src"] .dir).put ["out", "src"] (.link "/leaked")).put ["sandbox"] .dir, ∅⟩

def linkedSandbox : IsolatedRepositorySandbox :=
  sample [] (fun _ _ t => (.ok ⟨0, some "", some ""⟩, t)) fun old new fromFile toFile =>
    fromFile :: toFile :: (old ++ new)

/-- The workspace in which the link has been copied. -/
def linked : Sandbox := (linkedSandbox.prepare "m" sampleId linkedRepository).2

def writeOut : FileChange := ⟨"out", .write, some "x = 1\n", by decide, by simp⟩

def writeNote : FileChange := ⟨"note", .write, some "x = 1\n", by decide, by simp⟩

lemma exists_linked : ∃ workspace,
    linkedSandbox.prepare "m" sampleId linkedRepository = (.ok workspace, linked) := by
  have hok : (linkedSandbox.prepare "m" sampleId linkedRepository).1.toOption.isSome = true := by
    decide
  obtain ⟨workspace, hworkspace⟩ := isSome_toOption.mp hok
  exact ⟨workspace, Prod.ext hworkspace rfl⟩

lemma leak_writeOut : Leak linked.files (sampleId.1 :: linkedSandbox.sandboxRoot) writeOut
    ["leaked"] where
  operation_eq := rfl
  targetable := ⟨by decide, by decide, by decide⟩
  link := ⟨"/leaked", by decide⟩
  lookup_eq := rfl
  outside := by decide

/-- Through the link a file is made outside; a file without a link is made inside. -/
theorem outside_of_reached_linked : ∃ workspace,
    linkedSandbox.Reached sampleId workspace linked ∧
    ¬SameOutside (sampleId.1 :: linkedSandbox.sandboxRoot) linked.files
      (linkedSandbox.afterCalls workspace [.applyChanges [writeOut]] linked).files ∧
    SameOutside (sampleId.1 :: linkedSandbox.sandboxRoot) linked.files
      (linkedSandbox.afterCalls workspace [.applyChanges [writeNote]] linked).files := by
  obtain ⟨workspace, hprepared⟩ := exists_linked
  have hreached := Reached.prepared hprepared
  obtain ⟨-, hout, -⟩ := outside_of_reached hreached [.applyChanges [writeOut]]
  obtain ⟨-, hnote, -⟩ := outside_of_reached hreached [.applyChanges [writeNote]]
  refine ⟨workspace, hreached, fun hsame => ?_, hnote.mpr ?_⟩
  · exact hout.mp hsame (.inl ⟨by decide, .inl ⟨_, leak_writeOut⟩⟩)
  · rintro (⟨-, ⟨q, hleak⟩ | ⟨-, h⟩⟩ | h)
    · obtain ⟨target, hlink⟩ := hleak.link
      have hnone : linked.files.node? (placeOf (sampleId.1 :: linkedSandbox.sandboxRoot)
          writeNote.path) = none := by decide
      rw [hnone] at hlink
      cases hlink
    · exact h
    · exact h

end IsolatedRepositorySandbox
end AiHq
