import AiHq.CodeChanges.Actions
import AiHq.Missions.LeaseExclusion

/-!
# Fencing of stale workers

Workers run code-change cycles: each claims a mission and processes it, and renews its lease on
the way. What becomes of a mission that another worker has taken over depends on what the cycle
of the first worker still does.
-/

namespace AiHq

open Concurrent Relational

namespace Fencing

/-- A code-change cycle of a worker. -/
structure Call where
  workerId : String
  leaseSeconds : ℤ

abbrev CyclePool := Pool Call PyError Event World (Option CodeChangeResult)
abbrev CycleLabel := Label Call Event

/-- The clock does not go back, the dead stay dead, and nobody else hands out leases. -/
def system (service : CodeChangeService) :
    System Call PyError Event World (Option CodeChangeResult) where
  code c := CodeChangeQueueRunner.runOnce ⟨service, c.workerId, c.leaseSeconds⟩
  env w w' := w.now ≤ w'.now ∧ (∀ A, w.down A = true → w'.down A = true) ∧
    ∀ m row', w'.db.missions.get? m = some row' → row'.leaseOwner = none ∨
      ∃ row, w.db.missions.get? m = some row ∧ row'.leaseOwner = row.leaseOwner

/-! ### The property -/

/-- The workers are those of `W`; each runs one cycle after another until its process dies. -/
def Workers (W : Set String) (p : CyclePool) : CycleLabel → Prop
  | .spawn c => c.workerId ∈ W ∧ p.state.down c.workerId = false ∧
      ∀ th ∈ p.threads, th.call.workerId = c.workerId → th.prog.outcome.isSome
  | .act _ c _ => p.state.down c.workerId = false
  | .env => True

/-- The step is no claim of the mission by `A`. -/
def NoClaimBy (A m : String) (l : CycleLabel) : Prop :=
  ∀ t c X, l = .act t c (.leaseClaimed X m) → c.workerId ≠ A

/-- The worker's lease on the mission has expired. -/
def Expired (A m : String) (w : World) : Prop :=
  ∃ row expiresAt, w.db.missions.get? m = some row ∧ row.leaseOwner = some A ∧
    row.leaseExpiresAt = some expiresAt ∧ expiresAt < w.now

/-- In the runs of the workers `W` whose steps meet `ok`: once `A`'s lease on a mission has
expired and another worker has claimed the mission, no step of `A` changes the status of the
mission or its delivery, until `A` claims it again. -/
def Fenced (service : CodeChangeService) (W : Set String)
    (ok : CyclePool → CycleLabel → CyclePool → Prop) : Prop :=
  ∀ {w₀ : World} {p q r r' : CyclePool} {A m X : String} {t t' : ℕ} {c c' : Call} {e : Event},
    Pool.Run (system service) (fun p l q => Workers W p l ∧ ok p l q) (Pool.init w₀) p →
    Expired A m p.state →
    Pool.Step (system service) p (.act t c (.leaseClaimed X m)) q → c.workerId ≠ A →
    Workers W p (.act t c (.leaseClaimed X m)) → ok p (.act t c (.leaseClaimed X m)) q →
    Pool.Run (system service) (fun p l q => (Workers W p l ∧ ok p l q) ∧ NoClaimBy A m l) q r →
    Pool.Step (system service) r (.act t' c' e) r' → c'.workerId = A →
    Workers W r (.act t' c' e) → ok r (.act t' c' e) r' → NoClaimBy A m (.act t' c' e) →
    Same m r.state r'.state

/-- A mission is claimed only if no other worker has renewed its lease on it in a cycle that is
under way: each such worker has ended its cycle, or its process has died. -/
def Retired (p : CyclePool) (l : CycleLabel) (_ : CyclePool) : Prop :=
  ∀ t c X m, l = .act t c (.leaseClaimed X m) → ∀ th ∈ p.threads,
    .leaseRenewed th.call.workerId m ∈ th.history →
    th.prog.outcome.isSome ∨ p.state.down th.call.workerId = true

/-! ### A cycle -/

variable {A m : String} {w : World} {e : Event} {α : Type}

/-- A cycle writes a mission only by claiming it, or after it has renewed its lease on it. -/
def contract (c : Call) : Contract Event World where
  rely _ _ := True
  guar h w e w' := Action c.workerId
    (fun m => e = .leaseClaimed (strip c.workerId) m ∨ .leaseRenewed c.workerId m ∈ h) w e w'
  rely_refl _ := trivial
  rely_trans _ _ _ _ _ := trivial

variable {c : Call} {h : List Event}

/-- What leaves all other missions alone may run once the lease has been renewed. -/
lemma safe_of_every {p : Py α} (hp : Every (Action c.workerId (· = m)) p)
    (hrenewed : .leaseRenewed c.workerId m ∈ h) :
    Safe (contract c) p h w fun _ _ _ => True := by
  have hany : Yields (fun _ _ _ => True) p fun _ => True := .of_forall p fun _ => trivial
  refine (hp.safe_yields (H := fun h => .leaseRenewed c.workerId m ∈ h) (F := fun _ _ => True)
    (N := fun _ => True) hany ?_ (fun _ _ _ => trivial) (fun _ _ _ _ _ => trivial) h w
    hrenewed).mono fun _ _ _ _ => trivial
  intro h w e w' hrenewed _ _ haction
  refine ⟨haction.mono ?_, trivial, trivial, trivial, trivial, List.mem_append_left _ hrenewed⟩
  rintro k rfl
  exact .inr hrenewed

/-- What leaves all missions alone may run at any time. -/
lemma safe_of_none {p : Py α} (hp : Every (Action c.workerId fun _ => False) p) :
    Safe (contract c) p h w fun _ _ _ => True := by
  refine (hp.safe (F := fun _ _ => True) (N := fun _ => True) ?_ (fun _ _ _ => trivial)
    (fun _ _ _ _ _ => trivial) h w).mono fun _ _ _ _ => trivial
  intro h w e w' _ _ haction
  exact ⟨haction.mono fun _ hfalse => hfalse.elim, trivial, trivial, trivial⟩

/-- A renewal that returns `True` has shown that it has succeeded. -/
lemma safe_renew (leaseSeconds : ℤ) :
    Safe (contract c) (MissionService.renewCodeChangeLease m c.workerId leaseSeconds) h w
      fun h' r _ => r = .ok true → .leaseRenewed c.workerId m ∈ h' := by
  apply Py.safe_lift_bind
  · intro _ _
    apply Py.safe_clock_bind
    intro v _ _ _
    constructor
    · apply Action.read
      constructor <;> simp
    · rw [Py.session]
      apply Py.safe_transaction
      · intro v renewed db _ _ hf _
        have haction {P : String → Prop} := action_renewTx (P := P) (Except.ok.inj hf)
        cases renewed with
        | false =>
          refine ⟨haction, trivial, fun _ _ _ hfalse => ?_⟩
          cases hfalse
        | true =>
          refine ⟨haction, trivial, fun _ _ _ _ => ?_⟩
          simp
      · intro v error _ _ hf _
        cases hf
  · intro error _
    apply Safe.raise
    intro _ _ _ he
    cases he

/-- The lease has been renewed when the start returns. -/
lemma safe_start (service : CodeChangeService) (mission : Mission) (leaseSeconds : ℤ) :
    Safe (contract c) (service.start mission (some c.workerId) leaseSeconds) h w
      fun h' r _ => ∀ u, r = .ok u → .leaseRenewed c.workerId mission.id ∈ h' := by
  have hraise {h : List Event} {w : World} (error : PyError) :
      Safe (contract c) (.raise error : Py Unit) h w
        fun h' r _ => ∀ u, r = .ok u → .leaseRenewed c.workerId mission.id ∈ h' := by
    apply Safe.raise
    intro _ _ _ u hu
    cases hu
  unfold CodeChangeService.start
  split
  · exact hraise _
  · next heq => cases heq
  · next heq => cases heq
  · next heq =>
    cases heq
    apply Py.safe_lift_bind
    · intro _ _
      apply (safe_renew leaseSeconds).bind
      · intro h' renewed w' hrenewed
        cases renewed with
        | false => exact hraise _
        | true =>
          apply Safe.ret
          intro _ _ _ u _
          exact hrenewed rfl
      · intro h' error w' _ u hu
        cases hu
    · intro error _
      exact hraise error
  · exact hraise _

lemma safe_processQueuedCandidate (service : CodeChangeService) (missionId : String)
    (leaseSeconds : ℤ) :
    Safe (contract c) (service.processQueuedCandidate missionId (some c.workerId) leaseSeconds) h w
      fun _ _ _ => True := by
  apply (safe_of_none (every_getMission missionId)).bind
  · intro h' mission w' _
    apply Py.safe_lift_bind
    · intro repository _
      split_ifs
      · exact safe_of_none ((every_getDelivery _).bind fun _ => .ret _)
      · apply (safe_start service mission leaseSeconds).bind
        · intro h' u w' hrenewed
          apply safe_of_every _ (hrenewed u rfl)
          apply Every.tryCatch
          · exact cycleFrame.prepare service repository leaseSeconds
          · exact cycleFrame.failPreparation service
        · intro _ _ _ _
          trivial
    · intro error _
      exact Safe.raise fun _ _ _ => trivial
  · intro _ _ _ _
    trivial

lemma safe_code (service : CodeChangeService) (c : Call) :
    Safe (contract c) ((system service).code c) [] w fun _ _ _ => True := by
  apply Safe.bind (P := fun _ _ _ => True)
  · refine ((every_claim c.leaseSeconds).safe (F := fun _ _ => True) (N := fun _ => True) ?_
      (fun _ _ _ => trivial) (fun _ _ _ _ _ => trivial) [] w).mono fun _ _ _ _ => trivial
    intro h w e w' _ _ haction
    exact ⟨haction.mono fun _ he => .inl he, trivial, trivial, trivial⟩
  · intro h claimed w' _
    cases claimed with
    | none => exact Safe.ret fun _ _ _ => trivial
    | some mission =>
      apply (safe_processQueuedCandidate service mission.id c.leaseSeconds).bind
      · intro _ _ _ _
        exact Safe.ret fun _ _ _ => trivial
      · intro _ _ _ _
        trivial
  · intro _ _ _ _
    trivial

/-! ### Runs -/

variable {service : CodeChangeService} {W : Set String} {p q r : CyclePool} {l : CycleLabel}
  {ok : CyclePool → CycleLabel → CyclePool → Prop} {t : ℕ}

lemma compatible (service : CodeChangeService) :
    Pool.Compatible (system service) (fun _ _ _ => True) (fun _ => True) contract
      fun _ _ _ _ => True where
  inv_iff _ _ := Iff.rfl
  env _ _ _ _ _ := ⟨trivial, fun _ => trivial⟩
  act _ _ _ _ _ _ _ _ _ := trivial
  cond _ _ _ _ _ _ _ _ _ := trivial
  code _ c _ _ _ := safe_code service c

/-- Every cycle of a pool is under way as its code runs. -/
abbrev UnderWay (p : CyclePool) : Prop :=
  Pool.AllSafe (fun _ => True) contract (fun _ _ _ _ => True) p

/-- The cycles of a pool are those of the workers `W`. -/
def CyclesOf (W : Set String) (p : CyclePool) : Prop := ∀ th ∈ p.threads, th.call.workerId ∈ W

lemma UnderWay.step (hp : UnderWay p) (hs : Pool.Step (system service) p l q) : UnderWay q :=
  Pool.AllSafe.step (compatible service) hp hs trivial

lemma CyclesOf.step (hp : CyclesOf W p) (hs : Pool.Step (system service) p l q)
    (hok : Workers W p l) : CyclesOf W q := by
  cases hs with
  | spawn c =>
    intro th hth
    rcases List.mem_append.mp hth with hth | hth
    · exact hp th hth
    · obtain rfl := List.mem_singleton.mp hth
      exact hok.1
  | act t ht =>
    intro th hth
    rcases List.mem_or_eq_of_mem_set hth with hth | rfl
    · exact hp th hth
    · have hmem := hp _ (List.mem_of_getElem? ht)
      exact hmem
  | env _ => exact hp

/-- `A` does not hold the mission, and no cycle of `A` that can still act has renewed its lease
on it. -/
structure Lost (A m : String) (p : CyclePool) : Prop where
  owner : ∀ row, p.state.db.missions.get? m = some row → row.leaseOwner ≠ some A
  ended : ∀ th ∈ p.threads, th.call.workerId = A → .leaseRenewed A m ∈ th.history →
    th.prog.outcome.isSome ∨ p.state.down A = true

/-- The action of a cycle, with the cycle as it was. -/
lemma UnderWay.action (hp : UnderWay p) (hs : Pool.Step (system service) p (.act t c e) q) :
    ∃ h prog, p.threads[t]? = some ⟨c, h, prog⟩ ∧ prog.outcome = none ∧
      (contract c).guar h p.state e q.state ∧
      ∀ th ∈ q.threads, th ∈ p.threads ∨ th.call = c ∧ th.history = h ++ [e] := by
  obtain ⟨h, prog, ht, -, hg⟩ := Pool.AllSafe.guar (compatible service) hp hs trivial
  refine ⟨h, prog, ht, ?_, hg, ?_⟩
  · cases hs with
    | act _ ht' =>
      cases ht.symm.trans ht'
      rfl
  · intro th hth
    cases hs with
    | act _ ht' =>
      cases ht.symm.trans ht'
      rcases List.mem_or_eq_of_mem_set hth with hth | rfl
      · exact .inl hth
      · exact .inr ⟨rfl, rfl⟩

/-- A claim by another worker, when the cycles of `A` are retired. -/
lemma lost_of_claim {X : String} (hW : Lease.Distinct W) (hA : A ∈ W) (hp : UnderWay p)
    (hcycles : CyclesOf W p) (hs : Pool.Step (system service) p (.act t c (.leaseClaimed X m)) q)
    (hne : c.workerId ≠ A) (hretired : Retired p (.act t c (.leaseClaimed X m)) q) :
    Lost A m q := by
  obtain ⟨h, prog, ht, -, hg, hthreads⟩ := hp.action hs
  obtain ⟨rfl, hid, hclaimed⟩ := hg.claimed X m rfl
  constructor
  · intro row hrow howner
    have hstrip : strip c.workerId = A := by
      rw [hclaimed row hrow, Option.some.injEq] at howner
      exact howner
    have hworker := hcycles _ (List.mem_of_getElem? ht)
    exact hne (hW c.workerId hworker A hA hstrip (hstrip ▸ hid))
  · rintro th hth rfl hmem
    rcases hthreads th hth with hth | ⟨hcall, -⟩
    · rw [hg.down]
      exact hretired t c _ m rfl th hth hmem
    · rw [hcall] at hne
      exact absurd rfl hne

/-- What `A` has lost stays lost until `A` claims it. -/
lemma Lost.step (hW : Lease.Distinct W) (hA : A ∈ W) (hp : UnderWay p) (hcycles : CyclesOf W p)
    (hlost : Lost A m p) (hs : Pool.Step (system service) p l q) (hok : Workers W p l)
    (hclaim : NoClaimBy A m l) : Lost A m q := by
  cases l with
  | spawn c =>
    cases hs with
    | spawn =>
      refine ⟨hlost.owner, fun th hth hA hmem => ?_⟩
      rcases List.mem_append.mp hth with hth | hth
      · exact hlost.ended th hth hA hmem
      · obtain rfl := List.mem_singleton.mp hth
        cases hmem
  | env =>
    cases hs with
    | env henv =>
      obtain ⟨-, hdown, howner⟩ := henv
      constructor
      · intro row' hrow' hA
        rcases howner m row' hrow' with hnone | ⟨row, hrow, heq⟩
        · rw [hnone] at hA
          cases hA
        · exact hlost.owner row hrow (heq.symm.trans hA)
      · intro th hth hA hmem
        exact (hlost.ended th hth hA hmem).imp_right (hdown A)
  | act t c e =>
    obtain ⟨h, prog, ht, hout, hg, hthreads⟩ := hp.action hs
    constructor
    · intro row' hrow' hrowA
      rcases hg.owner m row' hrow' with hnone | ⟨row, hrow, heq⟩ | rfl
      · rw [hnone] at hrowA
        cases hrowA
      · exact hlost.owner row hrow (heq.symm.trans hrowA)
      · obtain ⟨-, hid, hclaimed⟩ := hg.claimed _ m rfl
        rw [hclaimed row' hrow', Option.some.injEq] at hrowA
        have hworker := hcycles _ (List.mem_of_getElem? ht)
        exact hclaim t c _ rfl (hW c.workerId hworker A hA hrowA (hrowA ▸ hid))
    · rintro th hth rfl hmem
      rcases hthreads th hth with hth | ⟨rfl, hhistory⟩
      · rw [hg.down]
        exact hlost.ended th hth rfl hmem
      · -- the cycle that acts is no retired one, and the mission is not its own to renew
        rw [hhistory, List.mem_append, List.mem_singleton] at hmem
        rcases hmem with hmem | rfl
        · rcases hlost.ended _ (List.mem_of_getElem? ht) rfl hmem with hended | hdown
          · rw [hout] at hended
            cases hended
          · rw [show p.state.down th.call.workerId = false from hok] at hdown
            cases hdown
        · obtain ⟨-, row, hrow, howner⟩ := hg.renewed _ m rfl
          exact absurd howner (hlost.owner row hrow)

/-- No action of `A` changes a mission that it has lost. -/
lemma Lost.same (hp : UnderWay p) (hlost : Lost A m p)
    (hs : Pool.Step (system service) p (.act t c e) q) (hA : c.workerId = A)
    (hok : Workers W p (.act t c e)) (hclaim : NoClaimBy A m (.act t c e)) :
    Same m p.state q.state := by
  subst hA
  obtain ⟨h, prog, ht, hout, hg, -⟩ := hp.action hs
  apply hg.same
  rintro (rfl | hmem)
  · exact hclaim t c _ rfl rfl
  · rcases hlost.ended _ (List.mem_of_getElem? ht) rfl hmem with hended | hdown
    · rw [hout] at hended
      cases hended
    · rw [show p.state.down c.workerId = false from hok] at hdown
      cases hdown

/-- Where no worker's identifier is that of another with spaces around it, stale workers are
fenced in the runs in which missions are taken over from retired cycles only. -/
theorem fenced (service : CodeChangeService) (hW : Lease.Distinct W) :
    Fenced service W Retired := by
  intro w₀ p q r r' A m X t t' c c' e hr _ hs hne hworkers hretired hr' hs' hA hworkers' _ hclaim
  have hinit : UnderWay (Pool.init w₀) ∧ CyclesOf W (Pool.init w₀) := by
    constructor
    · exact Pool.allSafe_init trivial
    · simp [CyclesOf, Pool.init]
  have hp := hr.invariant (P := fun p => UnderWay p ∧ CyclesOf W p) hinit
    fun p l q hp hs hok => ⟨hp.1.step hs, hp.2.step hs hok.1⟩
  have hq : UnderWay q ∧ CyclesOf W q := ⟨hp.1.step hs, hp.2.step hs hworkers⟩
  have hr'' := hr'.invariant (P := fun p => UnderWay p ∧ CyclesOf W p) hq
    fun p l q hp hs hok => ⟨hp.1.step hs, hp.2.step hs hok.1.1⟩
  have hmem : A ∈ W := by
    obtain ⟨h, prog, ht, -⟩ := hr''.1.action hs'
    rw [← hA]
    exact hr''.2 _ (List.mem_of_getElem? ht)
  have hlost := hr'.invariant (P := fun p => UnderWay p ∧ CyclesOf W p ∧ Lost A m p)
    ⟨hq.1, hq.2, lost_of_claim hW hmem hp.1 hp.2 hs hne hretired⟩
    fun p l q hp hs hok => ⟨hp.1.step hs, hp.2.1.step hs hok.1.1,
      hp.2.2.step hW hmem hp.1 hp.2.1 hs hok.1.1 hok.2⟩
  exact hlost.2.2.same hlost.1 hs' hA hworkers' hclaim

/-! ### Two workers and one code change -/

def twoWorkers : Set String := {"worker-one", "worker-two"}

def codeChanges : CodeChangeService where
  missions := ⟨true⟩
  delivery := ⟨⟨id⟩⟩
  runner := { delivery := ⟨⟨id⟩⟩, candidateVerifier := true, workspaceService := true }
  repositoryDescriptions := []

/-- A code change in the queue, and a developer who does not answer in the end. -/
def queuedWorld : World where
  db :=
    { missions := ⟨[
        { id := "change", title := "Code change: ai-hq", description := "fix",
          ownerAgent := "developer", source := "hq_chat_code_change",
          objectives := [.str "ai-hq", .str "fix"], createdAt := 0 }], by simp⟩ }
  work := fun
    | .developerExecute => .error (.other "APITimeoutError")
    | _ => .ok .null

def cycle (workerId : String) : Call := ⟨workerId, 900⟩

def later (w : World) : World := { w with now := w.now + seconds 901 }

/-- The first worker takes `n` actions, and then its lease expires; the second worker is about to
claim the mission. -/
def expiring (n : ℕ) : List (Pool.Move Call World) :=
  .spawn (cycle "worker-one") :: List.replicate n (.act 0) ++
    [.env later, .spawn (cycle "worker-two"), .act 1, .act 1]

def expired (n : ℕ) : CyclePool :=
  Pool.play (system codeChanges) (Pool.init queuedWorld) (expiring n)

/-- The pool after one more move. -/
def onward (p : CyclePool) (t : ℕ) : CyclePool := Pool.move (system codeChanges) p (.act t)

/-- A test for steps of the two workers; a claim must meet no renewal. -/
def calm (p : CyclePool) : CycleLabel → Bool
  | .spawn c => ["worker-one", "worker-two"].contains c.workerId && !p.state.down c.workerId &&
      p.threads.all fun th => th.call.workerId != c.workerId
  | .act _ c e => !p.state.down c.workerId && (match e with
    | .leaseClaimed _ _ => p.threads.all fun th => th.history.all fun
      | .leaseRenewed _ _ => false
      | _ => true
    | _ => true)
  | .env => true

/-- A test for actions other than claims. -/
def noClaim : CycleLabel → Bool
  | .act _ _ (.leaseClaimed _ _) => false
  | _ => true

lemma workers_of_calm (h : calm p l = true) : Workers twoWorkers p l := by
  cases l with
  | spawn c =>
    simp only [calm, Bool.and_eq_true, List.contains_iff_mem, List.mem_cons, List.not_mem_nil,
      or_false, Bool.not_eq_true', List.all_eq_true, bne_iff_ne, ne_eq] at h
    exact ⟨by simpa [twoWorkers] using h.1.1, h.1.2, fun th hth hc => absurd hc (h.2 th hth)⟩
  | act t c e =>
    simp only [calm, Bool.and_eq_true, Bool.not_eq_true'] at h
    exact h.1
  | env => trivial

lemma retired_of_calm (h : calm p l = true) : Retired p l q := by
  rintro t c X m rfl th hth hmem
  simp only [calm, Bool.and_eq_true, List.all_eq_true] at h
  exact absurd (h.2 th hth _ hmem) (by simp)

lemma noClaimBy_of_noClaim (h : noClaim l = true) : NoClaimBy A m l := by
  rintro t c X rfl
  cases h

lemma run_expiring (n : ℕ) (h : Pool.admits (system codeChanges) calm (Pool.init queuedWorld) (expiring n) = true) :
    Pool.Run (system codeChanges) (fun p l q => Workers twoWorkers p l ∧ Retired p l q)
      (Pool.init queuedWorld) (expired n) := by
  apply Pool.run_play
  refine Pool.admissible_of_admits (T := calm) (fun p l q htest => ?_) (fun f hf s => ?_) h
  · exact ⟨workers_of_calm htest, retired_of_calm htest⟩
  · obtain rfl : f = later := by simpa [expiring] using hf
    refine ⟨?_, fun A hA => hA, fun m row' hrow' => .inr ⟨row', hrow', rfl⟩⟩
    simp [later, seconds]

lemma step_onward (hl : (Pool.Move.act t : Pool.Move Call World).label? p = some l) :
    Pool.Step (system codeChanges) p l (onward p t) := Pool.step_move hl

/-- A worker that has outlived its lease fails the mission that another worker is processing. -/
theorem not_fenced_expired_handler :
    ¬Fenced codeChanges twoWorkers fun _ _ _ => True := by
  intro hfenced
  have hr : Pool.Run (system codeChanges) (fun p l _ => Workers twoWorkers p l ∧ True)
      (Pool.init queuedWorld) (expired 12) :=
    (run_expiring 12 rfl).mono fun _ _ _ hok => ⟨hok.1, trivial⟩
  have hexpired : Expired "worker-one" "change" (expired 12).state :=
    ⟨_, _, rfl, rfl, rfl, by decide⟩
  have hclaim : Pool.Step (system codeChanges) (expired 12)
      (.act 1 (cycle "worker-two") (.leaseClaimed "worker-two" "change")) (onward (expired 12) 1) :=
    step_onward rfl
  -- the developer raises, and the handler reads that the mission is RUNNING
  have hraise : Pool.Step (system codeChanges) (onward (expired 12) 1)
      (.act 0 (cycle "worker-one") .silent) (onward (onward (expired 12) 1) 0) := step_onward rfl
  have hread : Pool.Step (system codeChanges) (onward (onward (expired 12) 1) 0)
      (.act 0 (cycle "worker-one") .silent) (onward (onward (onward (expired 12) 1) 0) 0) :=
    step_onward rfl
  have hfail : Pool.Step (system codeChanges) (onward (onward (onward (expired 12) 1) 0) 0)
      (.act 0 (cycle "worker-one") (.missionTransition "change" .failed))
      (onward (onward (onward (onward (expired 12) 1) 0) 0) 0) := step_onward rfl
  have hstart : Pool.Run (system codeChanges)
      (fun p l _ => (Workers twoWorkers p l ∧ True) ∧ NoClaimBy "worker-one" "change" l)
      (onward (expired 12) 1) (onward (expired 12) 1) := .refl _
  have hr' := (hstart.tail hraise ⟨⟨rfl, trivial⟩, noClaimBy_of_noClaim rfl⟩).tail hread
    ⟨⟨rfl, trivial⟩, noClaimBy_of_noClaim rfl⟩
  have hsame := hfenced hr hexpired hclaim (by decide) rfl trivial hr' hfail rfl rfl trivial
    (noClaimBy_of_noClaim rfl)
  have hstatus : some MissionStatus.failed = some MissionStatus.running := hsame.1
  cases hstatus

/-- A worker whose lease is taken over before it has renewed it leaves the mission alone. -/
theorem fenced_before_renewal :
    Same "change" (onward (expired 4) 1).state (onward (onward (expired 4) 1) 0).state := by
  have hexpired : Expired "worker-one" "change" (expired 4).state :=
    ⟨_, _, rfl, rfl, rfl, by decide⟩
  have hdistinct : Lease.Distinct twoWorkers := by
    rintro a (rfl | rfl) b (rfl | rfl) hstrip _
    · rfl
    · exact absurd hstrip (by decide)
    · exact absurd hstrip (by decide)
    · rfl
  have hclaim : Pool.Step (system codeChanges) (expired 4)
      (.act 1 (cycle "worker-two") (.leaseClaimed "worker-two" "change")) (onward (expired 4) 1) :=
    step_onward rfl
  have hread : Pool.Step (system codeChanges) (onward (expired 4) 1)
      (.act 0 (cycle "worker-one") .silent) (onward (onward (expired 4) 1) 0) := step_onward rfl
  exact fenced codeChanges hdistinct (run_expiring 4 rfl) hexpired hclaim (by decide) rfl
    (retired_of_calm rfl) (.refl _) hread rfl rfl (retired_of_calm rfl) (noClaimBy_of_noClaim rfl)

end Fencing
end AiHq
