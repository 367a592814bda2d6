import AiHq.Delivery.RepositorySandbox

/-!
# The production source policy

Production changes code in copies of trusted sources only. The policy checks where the configured
directories stand to each other and to the live deployments.
-/

namespace AiHq

open FileSystem

namespace SourcePolicy

/-! ### Ancestry -/

/-- `path.parents` -/
def parents (p : Path) : List Path := p.tails.tail

/-- `_contains` -/
def Contains (root candidate : Path) : Prop := candidate = root ∨ root ∈ parents candidate

/-- `_overlaps` -/
def Overlaps (first second : Path) : Prop :=
  first = second ∨ first ∈ parents second ∨ second ∈ parents first

instance (root candidate : Path) : Decidable (Contains root candidate) :=
  inferInstanceAs (Decidable (_ ∨ _))

instance (first second : Path) : Decidable (Overlaps first second) :=
  inferInstanceAs (Decidable (_ ∨ _ ∨ _))

variable {p q r : Path}

lemma mem_parents : p ∈ parents q ↔ p <:+ q ∧ p ≠ q := by
  cases q with
  | nil => simp [parents, List.suffix_nil]
  | cons c q =>
    rw [parents, List.tails_cons, List.tail_cons, List.mem_tails, List.suffix_cons_iff]
    constructor
    · intro h
      refine ⟨.inr h, ?_⟩
      rintro rfl
      have hlength := h.length_le
      simp at hlength
    · rintro ⟨rfl | h, hne⟩
      · exact absurd rfl hne
      · exact h

lemma contains_iff : Contains p q ↔ p <:+ q := by
  rw [Contains, mem_parents]
  constructor
  · rintro (rfl | h)
    · exact List.suffix_rfl
    · exact h.1
  · intro h
    by_cases heq : q = p
    · exact .inl heq
    · exact .inr ⟨h, fun hpq => heq hpq.symm⟩

lemma overlaps_iff : Overlaps p q ↔ p <:+ q ∨ q <:+ p := by
  rw [← contains_iff, ← contains_iff, Overlaps, Contains, Contains, eq_comm (a := q)]
  tauto

lemma Overlaps.symm (h : Overlaps p q) : Overlaps q p := by
  rw [overlaps_iff] at *
  exact h.symm

/-- What overlaps a path overlaps every path above it. -/
lemma Overlaps.of_contains (hpq : Contains p q) (h : Overlaps q r) : Overlaps p r := by
  rw [contains_iff] at hpq
  rw [overlaps_iff] at *
  obtain h | h := h
  · exact .inl (hpq.trans h)
  · exact List.suffix_or_suffix_of_suffix hpq h

/-! ### The policy -/

/-- `_LIVE_DEPLOYMENT_ROOTS` -/
def liveDeploymentRoots : List Path :=
  [["app", "ai-hq", "opt"], ["current", "ai-hq", "opt"], ["releases", "ai-hq", "opt"],
    ["app", "dripvid", "opt"], ["current", "dripvid", "opt"], ["releases", "dripvid", "opt"]]

/-- `_resolved` of an absolute path -/
def resolved (t : FileTree ByteArray) : Option Path → Except PyError (Option Path)
  | none => return none
  | some value => return some (← resolvePath t value)

/-- The checks of one source. -/
def validateSource (t : FileTree ByteArray) (mirror : Path) (repositoryName : String)
    (source : Path) : Except PyError Unit := do
  raiseIf (source = mirror ∨ ¬Contains mirror source) (.valueError (repositoryName ++
    " repository source must be beneath the trusted repository mirror"))
  liveDeploymentRoots.forM fun liveRoot => do
    let live ← resolvePath t liveRoot
    raiseIf (Contains live source) (.valueError (repositoryName ++
      " repository source must not use a live deployment path"))

def validateProductionRepositoryPaths (t : FileTree ByteArray) (isProduction : Bool)
    (mirrorRoot sandboxRoot aiHqSource dripvidSource : Option Path) : Except PyError Unit := do
  if isProduction = false then return
  let mirror ← resolved t mirrorRoot
  let sandbox ← resolved t sandboxRoot
  let aiHq ← resolved t aiHqSource
  let dripvid ← resolved t dripvidSource
  match mirror, sandbox, aiHq, dripvid with
  | none, none, none, none => return
  | some mirror, some sandbox, some aiHq, some dripvid =>
    raiseIf (Overlaps mirror sandbox)
      (.valueError "repository sandbox must not overlap the trusted repository mirror")
    validateSource t mirror "AI HQ" aiHq
    validateSource t mirror "DripVid" dripvid
  | _, _, _, _ => throw (.valueError ("production code changes require a trusted repository " ++
    "mirror, repository sandbox, AI HQ source, and DripVid source"))

/-! ### What it establishes -/

variable {t : FileTree ByteArray} {mirror sandbox source : Path} {name : String} {u : Unit}

/-- A loop of checks succeeds when every check does. -/
lemma forM_eq_ok {α : Type} {f : α → Except PyError Unit} {xs : List α} :
    xs.forM f = .ok u ↔ ∀ x ∈ xs, f x = .ok () := by
  induction xs with
  | nil => simp [pure, Except.pure]
  | cons x xs ih =>
    rw [List.forM, bind_eq_ok, List.forall_mem_cons]
    constructor
    · rintro ⟨⟨⟩, hx, hxs⟩
      exact ⟨hx, ih.mp hxs⟩
    · rintro ⟨hx, hxs⟩
      exact ⟨(), hx, ih.mpr hxs⟩

lemma validateSource_eq_ok : validateSource t mirror name source = .ok u ↔
    source ≠ mirror ∧ Contains mirror source ∧ ∀ root ∈ liveDeploymentRoots,
      ∃ live, resolvePath t root = .ok live ∧ ¬Contains live source := by
  rw [validateSource, bind_eq_ok]
  simp only [raiseIf_eq_ok, forM_eq_ok, bind_eq_ok, not_or, not_not, exists_const, and_assoc]

lemma resolved_eq_ok {value : Option Path} :
    resolved t (some p) = .ok value ↔ ∃ q, resolvePath t p = .ok q ∧ some q = value := by
  rw [resolved, bind_eq_ok]
  simp [pure, Except.pure]

variable {mirrorRoot sandboxRoot aiHqSource dripvidSource : Path}

lemma validate_eq_ok (h : validateProductionRepositoryPaths t true (some mirrorRoot)
      (some sandboxRoot) (some aiHqSource) (some dripvidSource) = .ok ()) :
    ∃ mirror sandbox aiHq dripvid, resolvePath t mirrorRoot = .ok mirror ∧
      resolvePath t sandboxRoot = .ok sandbox ∧ resolvePath t aiHqSource = .ok aiHq ∧
      resolvePath t dripvidSource = .ok dripvid ∧ ¬Overlaps mirror sandbox ∧
      validateSource t mirror "AI HQ" aiHq = .ok () ∧
      validateSource t mirror "DripVid" dripvid = .ok () := by
  rw [validateProductionRepositoryPaths] at h
  simp only [Bool.true_eq_false, if_false, bind_eq_ok, resolved_eq_ok] at h
  obtain ⟨_, ⟨mirror, hmirror, rfl⟩, _, ⟨sandbox, hsandbox, rfl⟩, _, ⟨aiHq, haiHq, rfl⟩,
    _, ⟨dripvid, hdripvid, rfl⟩, h⟩ := h
  obtain ⟨_, hoverlap, _, haiHqSource, hdripvidSource⟩ := by simpa only [bind_eq_ok] using h
  exact ⟨mirror, sandbox, aiHq, dripvid, hmirror, hsandbox, haiHq, hdripvid,
    raiseIf_eq_ok.mp hoverlap, haiHqSource, hdripvidSource⟩

/-- How the directories of code changes stand apart from each other and from what is live. -/
structure Separated (t : FileTree ByteArray) (mirror sandbox : Path) (sources : List Path) :
    Prop where
  sandbox_mirror : ¬Overlaps sandbox mirror
  sandbox_source : ∀ source ∈ sources, ¬Overlaps sandbox source
  beneath : ∀ source ∈ sources, mirror ∈ parents source
  source_live : ∀ source ∈ sources, ∀ root ∈ liveDeploymentRoots, ∀ live,
    resolvePath t root = .ok live → ¬Overlaps source live

/-- A source beneath the mirror is as far from the sandbox as the mirror is. -/
lemma not_overlaps_source (hmirror : ¬Overlaps mirror sandbox) (hsource : Contains mirror source) :
    ¬Overlaps sandbox source := by
  intro h
  exact hmirror (h.symm.of_contains hsource)

/-- All that is left open of the separation is whether a source contains a live deployment. -/
lemma separated_of_checks {sources : List Path} (hmirror : ¬Overlaps mirror sandbox)
    (hsources : ∀ source ∈ sources, ∃ name, validateSource t mirror name source = .ok ())
    (hlive : ∀ source ∈ sources, ∀ root ∈ liveDeploymentRoots, ∀ live,
      resolvePath t root = .ok live → source ∉ parents live) :
    Separated t mirror sandbox sources where
  sandbox_mirror h := hmirror h.symm
  sandbox_source source hsource := by
    obtain ⟨name, hchecks⟩ := hsources source hsource
    exact not_overlaps_source hmirror (validateSource_eq_ok.mp hchecks).2.1
  beneath source hsource := by
    obtain ⟨name, hchecks⟩ := hsources source hsource
    obtain ⟨hne, hcontains, -⟩ := validateSource_eq_ok.mp hchecks
    exact hcontains.resolve_left hne
  source_live source hsource root hroot live hresolve := by
    obtain ⟨name, hchecks⟩ := hsources source hsource
    obtain ⟨-, -, hroots⟩ := validateSource_eq_ok.mp hchecks
    obtain ⟨live', hresolve', hcontains⟩ := hroots root hroot
    obtain rfl : live = live' := Except.ok.inj (hresolve.symm.trans hresolve')
    rintro (rfl | hparent | hparent)
    · exact hcontains (.inl rfl)
    · exact hlive source hsource root hroot live hresolve hparent
    · exact hcontains (.inr hparent)

/-- Accepted directories are separated exactly when no live deployment is beneath a source. -/
theorem separated_iff (haccepted : validateProductionRepositoryPaths t true (some mirrorRoot)
      (some sandboxRoot) (some aiHqSource) (some dripvidSource) = .ok ()) :
    ∃ mirror sandbox aiHq dripvid, resolvePath t mirrorRoot = .ok mirror ∧
      resolvePath t sandboxRoot = .ok sandbox ∧ resolvePath t aiHqSource = .ok aiHq ∧
      resolvePath t dripvidSource = .ok dripvid ∧
      (Separated t mirror sandbox [aiHq, dripvid] ↔
        ∀ source ∈ [aiHq, dripvid], ∀ root ∈ liveDeploymentRoots, ∀ live,
          resolvePath t root = .ok live → source ∉ parents live) := by
  obtain ⟨mirror, sandbox, aiHq, dripvid, hmirror, hsandbox, haiHq, hdripvid, hoverlap,
    haiHqSource, hdripvidSource⟩ := validate_eq_ok haccepted
  refine ⟨mirror, sandbox, aiHq, dripvid, hmirror, hsandbox, haiHq, hdripvid, ?_, ?_⟩
  · intro h source hsource root hroot live hresolve hparent
    exact h.source_live source hsource root hroot live hresolve (.inr (.inl hparent))
  · refine separated_of_checks hoverlap ?_
    simp only [List.forall_mem_cons, List.not_mem_nil, false_implies, implies_true, and_true]
    exact ⟨⟨_, haiHqSource⟩, ⟨_, hdripvidSource⟩⟩

/-- `/opt/ai-hq` is accepted beside `/opt/mirrors/dripvid` as a source beneath the mirror `/opt`,
and the live deployment `/opt/ai-hq/app` is a part of it. -/
theorem live_deployment_beneath_source :
    validateProductionRepositoryPaths .empty true (some ["opt"]) (some ["sandboxes", "srv"])
        (some ["ai-hq", "opt"]) (some ["dripvid", "mirrors", "opt"]) = .ok () ∧
      resolvePath .empty ["ai-hq", "opt"] = .ok ["ai-hq", "opt"] ∧
      resolvePath .empty ["app", "ai-hq", "opt"] = .ok ["app", "ai-hq", "opt"] ∧
      ¬Separated .empty ["opt"] ["sandboxes", "srv"]
        [["ai-hq", "opt"], ["dripvid", "mirrors", "opt"]] := by
  have hlive : resolvePath .empty ["app", "ai-hq", "opt"] = .ok ["app", "ai-hq", "opt"] := by
    decide
  refine ⟨by decide, by decide, hlive, fun h => ?_⟩
  exact h.source_live ["ai-hq", "opt"] (by simp) ["app", "ai-hq", "opt"] (by decide) _ hlive
    (by decide)

/-- Sources in a directory of their own. -/
theorem separated_mirrors : ∃ mirror sandbox aiHq dripvid,
    resolvePath .empty ["mirrors", "srv"] = .ok mirror ∧
      resolvePath .empty ["sandboxes", "srv"] = .ok sandbox ∧
      resolvePath .empty ["ai-hq", "mirrors", "srv"] = .ok aiHq ∧
      resolvePath .empty ["dripvid", "mirrors", "srv"] = .ok dripvid ∧
      (Separated .empty mirror sandbox [aiHq, dripvid] ↔
        ∀ source ∈ [aiHq, dripvid], ∀ root ∈ liveDeploymentRoots, ∀ live,
          resolvePath .empty root = .ok live → source ∉ parents live) :=
  separated_iff (by decide)

end SourcePolicy
end AiHq
