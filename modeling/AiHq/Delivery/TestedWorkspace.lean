import AiHq.Delivery.RepositorySandbox

/-!
# What the tests have been run on

The sandbox compares the workspace with its snapshot once, before the first test command. Each
command may change what the next one runs on, and what is left in the workspace.
-/

namespace AiHq

open Relational FileSystem

namespace IsolatedRepositorySandbox

variable (self : IsolatedRepositorySandbox)

/-- Every command leaves the digest of the workspace as it was when it was started; each one is
started on what the one before has left. -/
def Preserving (cwd : Path) : List (List String) → FileTree ByteArray → Prop
  | [], _ => True
  | command :: commands, t =>
    self.workspaceDigest (self.commandRunner command cwd t).2 cwd = self.workspaceDigest t cwd ∧
      Preserving cwd commands (self.commandRunner command cwd t).2

variable {self} {cwd : Path} {index : ℕ} {command : List String} {commands : List (List String)}
  {t t' : FileTree ByteArray} {loop : TestLoop} {started : List (FileTree ByteArray)} {d : String}

/-- The tests go on to the next command only if this one has returned zero. -/
lemma runCommands_passed_cons
    (hrun : self.runCommands cwd index (command :: commands) t = (.ok loop, t', started))
    (hpassed : loop.passed = true) : ∃ rest started', rest.passed = true ∧
      self.runCommands cwd (index + 1) commands (self.commandRunner command cwd t).2 =
        (.ok rest, t', started') ∧ started = t :: started' := by
  rw [runCommands] at hrun
  split at hrun
  · cases hrun
  · cases hrun
  · next result t₁ hresult =>
    rw [hresult]
    by_cases hcode : result.returncode = 0
    · rw [if_neg (not_not.mpr hcode)] at hrun
      split at hrun
      · cases hrun
      · next rest t₂ started' hrest =>
        obtain ⟨hloop, rfl, rfl⟩ := by simpa only [Prod.mk.injEq] using hrun
        obtain rfl := Except.ok.inj hloop
        exact ⟨rest, started', hpassed, hrest, rfl⟩
    · rw [if_pos hcode] at hrun
      obtain ⟨hloop, -⟩ := Prod.mk.inj hrun
      obtain rfl := Except.ok.inj hloop
      cases hpassed

/-- The first command is started on the files that the loop begins with. -/
lemma runCommands_first (hpassed : loop.passed = true)
    (hrun : self.runCommands cwd index commands t = (.ok loop, t', started))
    (hdigest : (∀ u ∈ started, self.workspaceDigest u cwd = d) ∧ self.workspaceDigest t' cwd = d) :
    self.workspaceDigest t cwd = d := by
  cases commands with
  | nil =>
    obtain ⟨-, rfl, -⟩ := by simpa only [runCommands, Prod.mk.injEq] using hrun
    exact hdigest.2
  | cons command commands =>
    obtain ⟨rest, started', -, -, rfl⟩ := runCommands_passed_cons hrun hpassed
    exact hdigest.1 t List.mem_cons_self

/-- Every command was started. -/
lemma length_started (hpassed : loop.passed = true)
    (hrun : self.runCommands cwd index commands t = (.ok loop, t', started)) :
    started.length = commands.length := by
  induction commands generalizing index t loop started with
  | nil =>
    obtain ⟨-, -, rfl⟩ := by simpa only [runCommands, Prod.mk.injEq] using hrun
    rfl
  | cons command commands ih =>
    obtain ⟨rest, started', hpassed', hrest, rfl⟩ := runCommands_passed_cons hrun hpassed
    rw [List.length_cons, List.length_cons, ih hpassed' hrest]

/-- All commands ran on the digest that the loop began with, and it is there at the end, if and
only if each command preserves it. -/
theorem runCommands_digest (hpassed : loop.passed = true)
    (hrun : self.runCommands cwd index commands t = (.ok loop, t', started))
    (hbegin : self.workspaceDigest t cwd = d) :
    ((∀ u ∈ started, self.workspaceDigest u cwd = d) ∧ self.workspaceDigest t' cwd = d) ↔
      self.Preserving cwd commands t := by
  induction commands generalizing index t loop started with
  | nil =>
    obtain ⟨-, rfl, rfl⟩ := by simpa only [runCommands, Prod.mk.injEq] using hrun
    simp [Preserving, hbegin]
  | cons command commands ih =>
    obtain ⟨rest, started', hpassed', hrest, rfl⟩ := runCommands_passed_cons hrun hpassed
    rw [Preserving, hbegin]
    constructor
    · rintro ⟨hstarted, hend⟩
      have hstarted' : ∀ u ∈ started', self.workspaceDigest u cwd = d :=
        fun u hu => hstarted u (List.mem_cons_of_mem t hu)
      have hnext := runCommands_first hpassed' hrest ⟨hstarted', hend⟩
      exact ⟨hnext, (ih hpassed' hrest hnext).mp ⟨hstarted', hend⟩⟩
    · rintro ⟨hnext, hpreserving⟩
      obtain ⟨hstarted', hend⟩ := (ih hpassed' hrest hnext).mpr hpreserving
      exact ⟨List.forall_mem_cons.mpr ⟨hbegin, hstarted'⟩, hend⟩

lemma passed_testEvidence {evidence : TestEvidence}
    (h : self.testEvidence loop = .ok evidence) : evidence.passed = loop.passed := by
  unfold testEvidence TestEvidence.postInit at h
  obtain ⟨summary, -, h⟩ := bind_eq_ok.mp h
  split_ifs at h with hbounded
  obtain ⟨digest, -, h⟩ := bind_eq_ok.mp h
  obtain rfl := Except.ok.inj h
  rfl

/-- What the tests of a candidate with the content digest `d` ought to show: every command of the
profile was started on a workspace with that digest, and the workspace has it in the end. -/
structure Tested (sandbox : IsolatedRepositorySandbox) (state : WorkspaceState) (d : String)
    (started : List (FileTree ByteArray)) (files : FileTree ByteArray) : Prop where
  all_started : started.length = state.profile.testCommands.length
  started_on : ∀ t ∈ started, sandbox.workspaceDigest t state.path = d
  left : sandbox.workspaceDigest files state.path = d

/-- After passing tests, whatever had become of the files since the snapshot, it is the candidate
that was tested if and only if each command of the profile preserves the digest of the workspace
that it is started on. -/
theorem tested_iff (self : IsolatedRepositorySandbox) {workspace : RepositoryWorkspace}
    {s s₁ s₂ : Sandbox} {candidate : CandidateSnapshot} {files : FileTree ByteArray}
    {evidence : TestEvidence} (hsnapshot : self.snapshot workspace s = (.ok candidate, s₁))
    (hrun : self.runTests workspace { s₁ with files } = (.ok evidence, s₂, started))
    (hpassed : evidence.passed = true) : ∃ state, stateFor s workspace = .ok state ∧
      (self.Tested state candidate.contentDigest.1 started s₂.files ↔
        self.Preserving state.path state.profile.testCommands files) := by
  obtain ⟨state, hstate, rfl, -, -⟩ := snapshot_eq_ok hsnapshot
  refine ⟨state, hstate, ?_⟩
  let remembered : WorkspaceState :=
    { state with snapshotFingerprint := some candidate.contentDigest.1 }
  have hremembered : stateFor { files, workspaces := s.workspaces.set remembered } workspace =
      .ok remembered :=
    stateFor_set hstate rfl rfl rfl
  unfold runTests at hrun
  rw [hremembered] at hrun
  split at hrun
  · cases hrun
  · next hok =>
    obtain rfl := Except.ok.inj hok
    split at hrun
    · cases hrun
    · next hcurrent =>
      have hbegin : self.workspaceDigest files state.path = candidate.contentDigest.1 :=
        not_not.mp (raiseIf_eq_ok.mp hcurrent)
      split at hrun
      · cases hrun
      · next loop files' started' hloop =>
        obtain ⟨hevidence, rfl, rfl⟩ := by simpa only [Prod.mk.injEq] using hrun
        rw [passed_testEvidence hevidence] at hpassed
        rw [← runCommands_digest hpassed hloop hbegin]
        exact ⟨fun h => ⟨h.started_on, h.left⟩,
          fun h => ⟨length_started hpassed hloop, h.1, h.2⟩⟩

/-! ### Commands that write and commands that do not -/

def mainText : String := "x = 1\n"

def mainDigest : String := "9e26bf369911c45c243c684147b23fc9e1dcfcf257d299a1c632016a6fcd33f4"

def tagText : String := "Signature: 8a477f597d28d172789f06886806bc55\n"

def tagDigest : String := "a6cadd53399872fa9aca8a92b2a96e111a30203e4e8a21f4068d0b960031b3af"

def outputs : List String → String
  | ["python", "-m", "pytest", "-q"] => "1 passed"
  | _ => "All checks passed!"

def digestTable : List (String × String) :=
  [(mainText, mainDigest), (tagText, tagDigest),
    (canonicalText (.list []), "4f53cda18c2baa0c0354bb5f9a3ecbe5ed12ab4d8e11ba873c2f11161202b945"),
    (canonicalText (manifestJson [("main.py", "sha256:" ++ mainDigest)]),
      "39e065d1a0d6eb171b59c8d9c9d3959fd4e3268768ca5b355879829a6f5ab470"),
    (canonicalText (manifestJson [(".pytest_cache/CACHEDIR.TAG", "sha256:" ++ tagDigest),
        ("main.py", "sha256:" ++ mainDigest)]),
      "5d00042af618d42ddfd7f99428cddc35f1dd7111b44df4634d182b6e208ba2b5"),
    (canonicalText (.list [(observe 1 ⟨0, some "All checks passed!", some ""⟩).1,
        (observe 2 ⟨0, some "1 passed", some ""⟩).1]),
      "8006186b9e2d8416ac64801193d41f62554695cc0999f46669da386e2d8c97d9")]

/-- Test commands that pass; pytest leaves its cache in the workspace. -/
def caching : IsolatedRepositorySandbox :=
  sample digestTable (fun command cwd t =>
    (.ok ⟨0, some (outputs command), some ""⟩,
      if command = ["python", "-m", "pytest", "-q"] then
        (t.put (".pytest_cache" :: cwd) .dir).put ("CACHEDIR.TAG" :: ".pytest_cache" :: cwd)
          (.file tagText.toUTF8)
      else t)) fun _ _ _ _ => []

/-- Test commands that pass and write nothing. -/
def quiet : IsolatedRepositorySandbox :=
  sample digestTable (fun command _ t => (.ok ⟨0, some (outputs command), some ""⟩, t))
    fun _ _ _ _ => []

def sampleFiles : FileTree ByteArray :=
  ((FileTree.empty.put ["src"] .dir).put ["main.py", "src"] (.file mainText.toUTF8)).put
    ["sandbox"] .dir

/-- A workspace that has just been prepared. -/
def prepared (self : IsolatedRepositorySandbox) : Sandbox :=
  (self.prepare "m" sampleId ⟨sampleFiles, ∅⟩).2

lemma eq_of_outcome {α β γ : Type} {x : α × β × γ} {a : α} (h : x.1 = a) :
    x = (a, x.2.1, x.2.2) := by
  rw [← h]

/-- After a snapshot of the prepared workspace. -/
def snapshotted (self : IsolatedRepositorySandbox) : Sandbox :=
  (self.snapshot sampleWorkspace (prepared self)).2

/-- Tests that pass and leave a cache behind are no tests of the candidate. -/
theorem not_tested_caching : ¬∀ (self : IsolatedRepositorySandbox)
    (workspace : RepositoryWorkspace) (s s₁ s₂ : Sandbox) (candidate : CandidateSnapshot)
    (evidence : TestEvidence) (started : List (FileTree ByteArray)) (state : WorkspaceState),
    self.snapshot workspace s = (.ok candidate, s₁) →
    self.runTests workspace s₁ = (.ok evidence, s₂, started) → evidence.passed = true →
    stateFor s workspace = .ok state →
      self.Tested state candidate.contentDigest.1 started s₂.files := by
  intro h
  obtain ⟨candidate, hcandidate⟩ := isSome_toOption.mp
    (by decide +kernel : (caching.snapshot sampleWorkspace (prepared caching)).1.toOption.isSome)
  have hpassed : ((caching.runTests sampleWorkspace (snapshotted caching)).1.toOption.any
      fun evidence => evidence.passed) = true := by
    decide +kernel
  obtain ⟨evidence, hevidence⟩ := isSome_toOption.mp (Option.isSome_of_any hpassed)
  rw [hevidence] at hpassed
  have hchanged : ((stateFor (prepared caching) sampleWorkspace).toOption.any fun state =>
      caching.workspaceDigest
          (caching.runTests sampleWorkspace (snapshotted caching)).2.1.files state.path ≠
        caching.workspaceDigest (prepared caching).files state.path) = true := by
    decide +kernel
  obtain ⟨state, hstate⟩ := isSome_toOption.mp (Option.isSome_of_any hchanged)
  simp only [hstate, Except.toOption, Option.any_some, decide_eq_true_eq] at hchanged
  have hsnapshot : caching.snapshot sampleWorkspace (prepared caching) =
      (.ok candidate, snapshotted caching) := Prod.ext hcandidate rfl
  have htested := h caching sampleWorkspace _ _ _ candidate evidence _ state hsnapshot
    (eq_of_outcome hevidence) hpassed hstate
  obtain ⟨state', hstate', -, hdigest, -⟩ := snapshot_eq_ok hsnapshot
  rw [hstate] at hstate'
  obtain rfl := Except.ok.inj hstate'
  exact hchanged (htested.left.trans hdigest)

/-- Commands that write nothing test the candidate. -/
theorem tested_quiet : ∃ candidate evidence s₂ started state,
    quiet.snapshot sampleWorkspace (prepared quiet) = (.ok candidate, snapshotted quiet) ∧
    quiet.runTests sampleWorkspace (snapshotted quiet) = (.ok evidence, s₂, started) ∧
    evidence.passed = true ∧ quiet.Tested state candidate.contentDigest.1 started s₂.files := by
  obtain ⟨candidate, hcandidate⟩ := isSome_toOption.mp
    (by decide +kernel : (quiet.snapshot sampleWorkspace (prepared quiet)).1.toOption.isSome)
  have hpassed : ((quiet.runTests sampleWorkspace (snapshotted quiet)).1.toOption.any
      fun evidence => evidence.passed) = true := by
    decide +kernel
  obtain ⟨evidence, hevidence⟩ := isSome_toOption.mp (Option.isSome_of_any hpassed)
  rw [hevidence] at hpassed
  have hsnapshot : quiet.snapshot sampleWorkspace (prepared quiet) =
      (.ok candidate, snapshotted quiet) := Prod.ext hcandidate rfl
  have hrun := eq_of_outcome hevidence
  obtain ⟨state, hstate, hiff⟩ := quiet.tested_iff hsnapshot hrun hpassed
  refine ⟨candidate, evidence, _, _, state, hsnapshot, hrun, hpassed, hiff.mpr ?_⟩
  have hpreserving : ∀ cwd commands t, quiet.Preserving cwd commands t := by
    intro cwd commands
    induction commands with
    | nil => exact fun t => trivial
    | cons command commands ih => exact fun t => ⟨rfl, ih _⟩
  exact hpreserving _ _ _

end IsolatedRepositorySandbox
end AiHq
