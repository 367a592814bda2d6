import AiHq.Missions.Service

/-!
# Mutual exclusion of leases

Workers claim, renew and release leases on code changes. Each call reads the clock and the
candidates first and writes by a conditional UPDATE later, so the calls of all workers
interleave with each other and with the passing of time.
-/

namespace AiHq

open Concurrent Relational MissionService

namespace Lease

inductive Call where
  | claim (workerId : String) (leaseSeconds : ℤ)
  | renew (missionId workerId : String) (leaseSeconds : ℤ)
  | release (missionId workerId : String)

/-- The worker that makes the call. -/
def Call.worker : Call → String
  | claim workerId _ => workerId
  | renew _ workerId _ => workerId
  | release _ workerId => workerId

def Call.code : Call → Py (Option Mission ⊕ Bool)
  | claim workerId leaseSeconds => .inl <$> claimOldestCodeChange workerId leaseSeconds
  | renew missionId workerId leaseSeconds =>
    .inr <$> renewCodeChangeLease missionId workerId leaseSeconds
  | release missionId workerId => .inr <$> releaseCodeChangeLease missionId workerId

/-- The clock is shared and does not go back, and nothing but the calls writes the row of a
mission. -/
def system : System Call PyError Event World (Option Mission ⊕ Bool) where
  code := Call.code
  env w w' := w.now ≤ w'.now ∧
    ∀ id row, w.db.missions.get? id = some row → w'.db.missions.get? id = some row

abbrev LeasePool := Pool Call PyError Event World (Option Mission ⊕ Bool)
abbrev LeaseLabel := Label Call Event

/-! ### The property -/

/-- The workers whose calls arrive are those of `W`. -/
def Among (W : Set String) (_ : LeasePool) (l : LeaseLabel) (_ : LeasePool) : Prop :=
  ∀ c, l = .spawn c → c.worker ∈ W

/-- The lease of the mission has not expired. -/
def Unexpired (m : String) (w : World) : Prop :=
  ∃ row expiresAt, w.db.missions.get? m = some row ∧ row.leaseExpiresAt = some expiresAt ∧
    w.now ≤ expiresAt

/-- A step after which the lease has not expired, and which is no release of it by `A`. -/
def Holding (W : Set String) (A m : String) (p : LeasePool) (l : LeaseLabel) (q : LeasePool) :
    Prop :=
  Among W p l q ∧ Unexpired m q.state ∧
    ∀ t c e, l = .act t c e → c.worker = A → ∀ X, e ≠ .leaseReleased X m

/-- A step that is no claim of the mission by `A`. -/
def NotReclaimed (W : Set String) (A m : String) (p : LeasePool) (l : LeaseLabel)
    (q : LeasePool) : Prop :=
  Among W p l q ∧ ∀ t c e, l = .act t c e → c.worker = A → ∀ X, e ≠ .leaseClaimed X m

/-- Mutual exclusion among the workers `W`. -/
structure LeaseExclusion (W : Set String) : Prop where
  /-- From a claim by `A` until its lease expires or `A` releases it, no other worker's claim or
  renewal succeeds. -/
  exclusive : ∀ {w₀ : World} {p q r r' : LeasePool} {A m X : String} {L : ℤ} {t t' : ℕ} {c e},
    Pool.Run system (Among W) (Pool.init w₀) p →
    Pool.Step system p (.act t (.claim A L) (.leaseClaimed X m)) q → Unexpired m q.state →
    Pool.Run system (Holding W A m) q r → Pool.Step system r (.act t' c e) r' →
    c.worker ≠ A → ∀ Y, e ≠ .leaseClaimed Y m ∧ e ≠ .leaseRenewed Y m
  /-- From a claim by `B` until `A` claims the mission, every renewal or release by `A` leaves the
  row as it is and returns `False`. -/
  fenced : ∀ {w₀ : World} {p q r r' : LeasePool} {A B m X : String} {L : ℤ} {t t' : ℕ} {c e},
    Pool.Run system (Among W) (Pool.init w₀) p →
    Pool.Step system p (.act t (.claim B L) (.leaseClaimed X m)) q → A ≠ B →
    Pool.Run system (NotReclaimed W A m) q r → Pool.Step system r (.act t' c e) r' →
    ((∃ L', c = .renew m A L') ∨ c = .release m A) →
    r'.state.db.missions.get? m = r.state.db.missions.get? m ∧
      ∀ th res, r'.threads[t']? = some th → th.prog.outcome = some res → res = .ok (.inr false)

/-! ### What the calls do -/

/-- The effect of one action of a call on the rows of missions. -/
inductive LeaseAction (w w' : World) : Call → Event → Prop where
  | claimed {workerId : String} {leaseSeconds : ℤ} {now expiresAt : Datetime} {row : Mission}
      (hrow : w.db.missions.get? row.id = some row) (hnow : now ≤ w.now)
      (hclaimable : claimable now row = true) (hid : strip workerId ≠ "")
      (hset : w'.db.missions = w.db.missions.set { row with
        status := .running
        leaseOwner := some (strip workerId)
        leaseExpiresAt := some expiresAt
        attemptCount := row.attemptCount + 1 }) :
      LeaseAction w w' (.claim workerId leaseSeconds) (.leaseClaimed (strip workerId) row.id)
  | renewed {workerId : String} {leaseSeconds : ℤ} {expiresAt : Datetime} {row : Mission}
      (hrow : w.db.missions.get? row.id = some row) (howner : row.leaseOwner = some workerId)
      (hstatus : row.status = .running)
      (hset : w'.db.missions = w.db.missions.set { row with leaseExpiresAt := some expiresAt }) :
      LeaseAction w w' (.renew row.id workerId leaseSeconds) (.leaseRenewed workerId row.id)
  | released {workerId : String} {row : Mission}
      (hrow : w.db.missions.get? row.id = some row) (howner : row.leaseOwner = some workerId)
      (hset : w'.db.missions = w.db.missions.set { row with
        leaseOwner := none
        leaseExpiresAt := none }) :
      LeaseAction w w' (.release row.id workerId) (.leaseReleased workerId row.id)
  | nothing {c : Call} {e : Event} (hsame : w'.db.missions = w.db.missions)
      (hclaim : ∀ X m, e ≠ .leaseClaimed X m) (hrenew : ∀ X m, e ≠ .leaseRenewed X m)
      (hrelease : ∀ X m, e ≠ .leaseReleased X m) : LeaseAction w w' c e

def contract (c : Call) : Contract Event World where
  rely w w' := w.now ≤ w'.now
  guar _ w e w' := w'.now = w.now ∧ LeaseAction w w' c e
  rely_refl _ := le_refl _
  rely_trans _ _ _ := le_trans

/-- What a call has shown when it ends: a renewal or release that returns `True` has shown its
success last. -/
def Ends (c : Call) (h : List Event) (r : Except PyError (Option Mission ⊕ Bool)) : Prop :=
  match c with
  | .claim _ _ => True
  | .renew m A _ => h ≠ [] → ∃ b, r = .ok (.inr b) ∧
      (b = true → h.getLast? = some (.leaseRenewed A m))
  | .release m A => h ≠ [] → ∃ b, r = .ok (.inr b) ∧
      (b = true → h.getLast? = some (.leaseReleased A m))

variable {c : Call} {h : List Event} {w : World} {α : Type}

lemma guar_read {e : Event} (hclaim : ∀ X m, e ≠ .leaseClaimed X m := by simp)
    (hrenew : ∀ X m, e ≠ .leaseRenewed X m := by simp)
    (hrelease : ∀ X m, e ≠ .leaseReleased X m := by simp) :
    (contract c).guar h w e w := ⟨rfl, .nothing rfl hclaim hrenew hrelease⟩

lemma safe_claimFirst {A : String} {L : ℤ} {now expiresAt : Datetime} (hid : strip A ≠ "")
    (ids : List String) (hnow : now ≤ w.now) :
    Safe (contract (.claim A L)) (claimFirst (strip A) now expiresAt ids) h w
      fun _ _ _ => True := by
  induction ids generalizing h w with
  | nil => exact Safe.ret fun _ _ _ => trivial
  | cons m ids ih =>
    refine Py.safe_transaction_bind (fun v claimed db hR _ hf _ => ?_) fun v e _ _ hf _ => ?_
    · cases claimed with
      | false =>
        obtain rfl := claimTx_false (Except.ok.inj hf)
        exact ⟨guar_read, trivial, ih (le_trans hnow hR)⟩
      | true =>
        obtain ⟨row, hrow, -, hclaimable, rfl⟩ := claimTx_true (Except.ok.inj hf)
        obtain rfl : row.id = m := Table.key_of_get? hrow
        refine ⟨⟨rfl, .claimed hrow (le_trans hnow hR) hclaimable hid rfl⟩, trivial, ?_⟩
        refine Py.safe_query_bind (fun u a _ _ _ _ => ⟨guar_read, ?_⟩) fun u e _ _ he _ => ?_
        · cases a with
          | none => exact Safe.raise fun _ _ _ => trivial
          | some row => exact Safe.ret fun _ _ _ => trivial
        · cases he
    · cases hf

lemma safe_claim (A : String) (L : ℤ) (w : World) :
    Safe (contract (.claim A L)) (claimOldestCodeChange A L) [] w fun _ _ _ => True := by
  unfold claimOldestCodeChange
  refine Py.safe_lift_bind (fun _ hid => ?_) fun _ _ => Safe.raise fun _ _ _ => trivial
  refine Py.safe_lift_bind (fun _ _ => ?_) fun _ _ => Safe.raise fun _ _ _ => trivial
  refine Py.safe_clock_bind fun v _ _ _ => ⟨guar_read, ?_⟩
  refine Py.safe_query_bind (fun u ids hR _ _ _ => ⟨guar_read, ?_⟩) fun u e _ _ he _ => ?_
  · exact safe_claimFirst (raiseIf_eq_ok.mp hid) ids hR
  · cases he

lemma safe_renew (m A : String) (L : ℤ) (w : World) :
    Safe (contract (.renew m A L)) (renewCodeChangeLease m A L) [] w fun h r _ =>
      h ≠ [] → ∃ b, r = .ok b ∧ (b = true → h.getLast? = some (.leaseRenewed A m)) := by
  unfold renewCodeChangeLease
  refine Py.safe_lift_bind (fun _ _ => ?_) fun _ _ => Safe.raise fun _ _ _ h => absurd rfl h
  refine Py.safe_clock_bind fun v _ _ _ => ⟨guar_read, ?_⟩
  refine Py.safe_transaction (fun u renewed db _ _ hf _ => ?_) fun u e _ _ hf _ => ?_
  · cases renewed with
    | false =>
      obtain rfl := renewTx_false (Except.ok.inj hf)
      exact ⟨guar_read, trivial, fun _ _ _ _ => ⟨false, rfl, by simp⟩⟩
    | true =>
      obtain ⟨row, hrow, -, hstatus, howner, -, rfl⟩ := renewTx_true (Except.ok.inj hf)
      obtain rfl : row.id = m := Table.key_of_get? hrow
      exact ⟨⟨rfl, .renewed hrow howner hstatus rfl⟩, trivial,
        fun _ _ _ _ => ⟨true, rfl, by simp⟩⟩
  · cases hf

lemma safe_release (m A : String) (w : World) :
    Safe (contract (.release m A)) (releaseCodeChangeLease m A) [] w fun h r _ =>
      h ≠ [] → ∃ b, r = .ok b ∧ (b = true → h.getLast? = some (.leaseReleased A m)) := by
  unfold releaseCodeChangeLease Py.session
  refine Py.safe_transaction (fun u released db _ _ hf _ => ?_) fun u e _ _ hf _ => ?_
  · cases released with
    | false =>
      obtain rfl := releaseTx_false (Except.ok.inj hf)
      exact ⟨guar_read, trivial, fun _ _ _ _ => ⟨false, rfl, by simp⟩⟩
    | true =>
      obtain ⟨row, hrow, howner, rfl⟩ := releaseTx_true (Except.ok.inj hf)
      obtain rfl : row.id = m := Table.key_of_get? hrow
      exact ⟨⟨rfl, .released hrow howner rfl⟩, trivial, fun _ _ _ _ => ⟨true, rfl, by simp⟩⟩
  · cases hf

lemma safe_code (c : Call) (w : World) :
    Safe (contract c) c.code [] w fun h r _ => Ends c h r := by
  cases c with
  | claim A L =>
    exact (safe_claim A L w).bind (fun _ _ _ _ => Safe.ret fun _ _ _ => trivial)
      fun _ _ _ _ => trivial
  | renew m A L =>
    refine (safe_renew m A L w).bind (fun h b w' hP => Safe.ret fun _ _ _ hne => ?_)
      fun h e w' hP hne => ?_
    · obtain ⟨b', hb, hlast⟩ := hP hne
      cases hb
      exact ⟨b, rfl, hlast⟩
    · obtain ⟨b', hb, -⟩ := hP hne
      cases hb
  | release m A =>
    refine (safe_release m A w).bind (fun h b w' hP => Safe.ret fun _ _ _ hne => ?_)
      fun h e w' hP hne => ?_
    · obtain ⟨b', hb, hlast⟩ := hP hne
      cases hb
      exact ⟨b, rfl, hlast⟩
    · obtain ⟨b', hb, -⟩ := hP hne
      cases hb

variable {ok : LeasePool → LeaseLabel → LeasePool → Prop} {p q r : LeasePool}

lemma compatible : Pool.Compatible system (fun _ _ _ => True) (fun _ => True) contract
    fun c h r _ => Ends c h r where
  inv_iff _ _ := Iff.rfl
  env _ _ _ henv _ := ⟨trivial, fun _ => henv.1⟩
  act _ _ _ _ _ _ _ _ hg := hg.1.ge
  cond _ _ _ _ _ _ _ _ _ := trivial
  code p c _ _ _ := safe_code c p.state

/-- Every call of a pool is under way as its code runs. -/
abbrev UnderWay (p : LeasePool) : Prop :=
  Pool.AllSafe (fun _ => True) contract (fun c h r _ => Ends c h r) p

lemma underWay_of_run {w₀ : World} (hr : Pool.Run system ok (Pool.init w₀) p) : UnderWay p :=
  (hr.mono fun _ _ _ _ => trivial).safe compatible (Pool.allSafe_init trivial)

lemma UnderWay.action (hp : UnderWay p) {t : ℕ} {c : Call} {e : Event}
    (hs : Pool.Step system p (.act t c e) q) : LeaseAction p.state q.state c e := by
  obtain ⟨h, prog, -, -, hg⟩ := Pool.AllSafe.guar compatible hp hs trivial
  exact hg.2

/-! ### Exclusion -/

/-- No identifier of a worker is that of another with spaces around it. -/
def Distinct (W : Set String) : Prop :=
  ∀ a ∈ W, ∀ b ∈ W, strip a = b → b ≠ "" → a = b

/-- The row is running under the lease that `A` has taken, which has not expired. -/
structure HeldBy (A m : String) (w : World) : Prop where
  owner : ∃ row, w.db.missions.get? m = some row ∧ row.status = .running ∧
    row.leaseOwner = some (strip A) ∧ strip A ≠ ""
  unexpired : Unexpired m w

variable {W : Set String} {A m X : String} {w' : World} {e : Event}

/-- No claim meets a running mission whose lease has not expired. -/
lemma HeldBy.no_claim (hw : HeldBy A m w) (ha : LeaseAction w w' c e) : e ≠ .leaseClaimed X m := by
  rintro rfl
  cases ha with
  | @claimed _ _ now _ row' hrow hnow hclaimable hid hset =>
    obtain ⟨row, hrow', hrunning, -, -⟩ := hw.owner
    obtain ⟨row'', expiresAt, hrow'', hexp, hle⟩ := hw.unexpired
    cases hrow.symm.trans hrow'
    cases hrow.symm.trans hrow''
    simp only [claimable, hrunning, hexp, Bool.or_eq_true, Bool.and_eq_true, decide_eq_true_eq,
      Option.any_some, reduceCtorEq, true_and, false_or] at hclaimable
    exact absurd (hclaimable.trans_le (hnow.trans hle)) (lt_irrefl _)
  | nothing _ hclaim => exact hclaim X m rfl

/-- Only `A` renews or releases the lease that `A` has taken. -/
lemma HeldBy.worker_eq (hW : Distinct W) (hA : A ∈ W) (hc : c.worker ∈ W) (hw : HeldBy A m w)
    (ha : LeaseAction w w' c e) (he : e = .leaseRenewed X m ∨ e = .leaseReleased X m) :
    c.worker = A := by
  obtain ⟨row, hrow, -, howner, hne⟩ := hw.owner
  have hworker : ∀ B ∈ W, row.leaseOwner = some B → B = A := by
    intro B hB hrowB
    obtain rfl : strip A = B := Option.some.inj (howner.symm.trans hrowB)
    exact (hW A hA _ hB rfl hne).symm
  cases ha with
  | claimed => simp at he
  | renewed hrow' howner' =>
    obtain ⟨rfl, rfl⟩ : _ = X ∧ _ = m := by simpa using he
    cases hrow.symm.trans hrow'
    exact hworker _ hc howner'
  | released hrow' howner' =>
    obtain ⟨rfl, rfl⟩ : _ = X ∧ _ = m := by simpa using he
    cases hrow.symm.trans hrow'
    exact hworker _ hc howner'
  | nothing _ _ hrenew hrelease => exact he.elim (absurd · (hrenew X m)) (absurd · (hrelease X m))

/-- While `A` holds the mission, actions other than its release leave the mission with `A`. -/
lemma HeldBy.action (hW : Distinct W) (hA : A ∈ W) (hc : c.worker ∈ W) (hw : HeldBy A m w)
    (ha : LeaseAction w w' c e) (hkeep : c.worker = A → ∀ X, e ≠ .leaseReleased X m)
    (hexp : Unexpired m w') : HeldBy A m w' := by
  refine ⟨?_, hexp⟩
  have hworker := fun X => hw.worker_eq hW hA hc ha (X := X)
  have hclaim := fun X => hw.no_claim ha (X := X)
  obtain ⟨row, hrow, hrunning, howner, hne⟩ := hw.owner
  cases ha with
  | @claimed B _ _ _ row' _ _ _ _ hset =>
    have hm : m ≠ row'.id := by
      rintro rfl
      exact hclaim (strip B) rfl
    rw [hset, Table.get?_set_ne hm]
    exact ⟨row, hrow, hrunning, howner, hne⟩
  | @renewed B _ expiresAt row' hrow' _ hstatus hset =>
    rw [hset]
    by_cases hm : m = row'.id
    · subst hm
      cases hrow.symm.trans hrow'
      refine ⟨_, Table.get?_set_self (r := { row with leaseExpiresAt := some expiresAt }) hrow, ?_⟩
      exact ⟨hrunning, howner, hne⟩
    · rw [Table.get?_set_ne hm]
      exact ⟨row, hrow, hrunning, howner, hne⟩
  | @released B row' _ _ hset =>
    have hm : m ≠ row'.id := by
      rintro rfl
      exact hkeep (hworker B (.inr rfl)) B rfl
    rw [hset, Table.get?_set_ne hm]
    exact ⟨row, hrow, hrunning, howner, hne⟩
  | nothing hsame =>
    rw [hsame]
    exact ⟨row, hrow, hrunning, howner, hne⟩

/-- The lease of the mission is not `A`'s. -/
def NotOwnedBy (A m : String) (w : World) : Prop :=
  ∃ row, w.db.missions.get? m = some row ∧ row.leaseOwner ≠ some A

/-- Only a claim by `A` makes the lease `A`'s. -/
lemma NotOwnedBy.action (hW : Distinct W) (hA : A ∈ W) (hc : c.worker ∈ W)
    (hw : NotOwnedBy A m w) (ha : LeaseAction w w' c e)
    (hkeep : c.worker = A → ∀ X, e ≠ .leaseClaimed X m) : NotOwnedBy A m w' := by
  obtain ⟨row, hrow, howner⟩ := hw
  cases ha with
  | @claimed B _ _ expiresAt row' hrow' _ _ hid hset =>
    rw [NotOwnedBy, hset]
    by_cases hm : m = row'.id
    · subst hm
      refine ⟨_, Table.get?_set_self (r := { row' with
        status := .running
        leaseOwner := some (strip B)
        leaseExpiresAt := some expiresAt
        attemptCount := row'.attemptCount + 1 }) hrow', fun heq => ?_⟩
      have hstrip : strip B = A := Option.some.inj heq
      exact hkeep (hW B hc A hA hstrip (hstrip ▸ hid)) (strip B) rfl
    · rw [Table.get?_set_ne hm]
      exact ⟨row, hrow, howner⟩
  | @renewed B _ expiresAt row' hrow' _ _ hset =>
    rw [NotOwnedBy, hset]
    by_cases hm : m = row'.id
    · subst hm
      cases hrow.symm.trans hrow'
      refine ⟨_, Table.get?_set_self (r := { row with leaseExpiresAt := some expiresAt }) hrow, ?_⟩
      exact howner
    · rw [Table.get?_set_ne hm]
      exact ⟨row, hrow, howner⟩
  | @released B row' hrow' _ hset =>
    rw [NotOwnedBy, hset]
    by_cases hm : m = row'.id
    · subst hm
      exact ⟨_, Table.get?_set_self (r := { row' with
        leaseOwner := none
        leaseExpiresAt := none }) hrow', by simp⟩
    · rw [Table.get?_set_ne hm]
      exact ⟨row, hrow, howner⟩
  | nothing hsame =>
    rw [NotOwnedBy, hsame]
    exact ⟨row, hrow, howner⟩

/-! ### Runs -/

/-- The calls of a pool are those of the workers `W`. -/
def CallsAmong (W : Set String) (p : LeasePool) : Prop := ∀ th ∈ p.threads, th.call.worker ∈ W

lemma CallsAmong.step {l : LeaseLabel} (hp : CallsAmong W p) (hs : Pool.Step system p l q)
    (hok : Among W p l q) : CallsAmong W q := by
  cases hs with
  | spawn c =>
    intro th hth
    rcases List.mem_append.mp hth with hth | hth
    · exact hp th hth
    · obtain rfl := List.mem_singleton.mp hth
      exact hok c rfl
  | act t ht =>
    intro th hth
    rcases List.mem_or_eq_of_mem_set hth with hth | rfl
    · exact hp th hth
    · have := hp _ (List.mem_of_getElem? ht)
      exact this
  | env _ => exact hp

lemma CallsAmong.worker {t : ℕ} (hp : CallsAmong W p)
    (hs : Pool.Step system p (.act t c e) q) : c.worker ∈ W := by
  cases hs with
  | act _ ht => exact hp _ (List.mem_of_getElem? ht)

lemma callsAmong_of_run {w₀ : World} (hr : Pool.Run system (Among W) (Pool.init w₀) p) :
    CallsAmong W p :=
  hr.invariant (by simp [CallsAmong, Pool.init]) fun _ _ _ hp hs hok => hp.step hs hok

/-- A property of the row of a mission is kept while the row stays. -/
lemma env_row {w w' : World} {id : String} {row : Mission} (henv : system.env w w')
    (hrow : w.db.missions.get? id = some row) : w'.db.missions.get? id = some row :=
  henv.2 id row hrow

lemma heldBy_run (hW : Distinct W) (hA : A ∈ W) (hq : UnderWay q) (hcalls : CallsAmong W q)
    (hheld : HeldBy A m q.state) (hr : Pool.Run system (Holding W A m) q r) :
    UnderWay r ∧ CallsAmong W r ∧ HeldBy A m r.state := by
  refine hr.invariant (P := fun p => UnderWay p ∧ CallsAmong W p ∧ HeldBy A m p.state)
    ⟨hq, hcalls, hheld⟩ ?_
  rintro p l p' ⟨hu, hc, hw⟩ hs ⟨hamong, hexp, hkeep⟩
  refine ⟨hu.step compatible hs trivial, hc.step hs hamong, ?_⟩
  cases l with
  | act t c e =>
    exact hw.action hW hA (hc.worker hs) (hu.action hs) (fun h X => hkeep t c e rfl h X) hexp
  | spawn c =>
    cases hs
    exact hw
  | env =>
    cases hs with
    | env henv =>
      obtain ⟨row, hrow, hrest⟩ := hw.owner
      exact ⟨⟨row, env_row henv hrow, hrest⟩, hexp⟩

lemma notOwnedBy_run (hW : Distinct W) (hA : A ∈ W) (hq : UnderWay q) (hcalls : CallsAmong W q)
    (hnot : NotOwnedBy A m q.state) (hr : Pool.Run system (NotReclaimed W A m) q r) :
    UnderWay r ∧ CallsAmong W r ∧ NotOwnedBy A m r.state := by
  refine hr.invariant (P := fun p => UnderWay p ∧ CallsAmong W p ∧ NotOwnedBy A m p.state)
    ⟨hq, hcalls, hnot⟩ ?_
  rintro p l p' ⟨hu, hc, hw⟩ hs ⟨hamong, hkeep⟩
  refine ⟨hu.step compatible hs trivial, hc.step hs hamong, ?_⟩
  cases l with
  | act t c e =>
    exact hw.action hW hA (hc.worker hs) (hu.action hs) fun h X => hkeep t c e rfl h X
  | spawn c =>
    cases hs
    exact hw
  | env =>
    cases hs with
    | env henv =>
      obtain ⟨row, hrow, hrest⟩ := hw
      exact ⟨row, env_row henv hrow, hrest⟩

/-- A claim of the mission by `A` makes the row `A`'s. -/
lemma claimed_row {L : ℤ} (ha : LeaseAction w w' (.claim A L) (.leaseClaimed X m)) :
    strip A ≠ "" ∧ ∃ row, w'.db.missions.get? m = some row ∧ row.status = .running ∧
      row.leaseOwner = some (strip A) := by
  cases ha with
  | @claimed _ _ _ expiresAt row hrow _ _ hid hset =>
    rw [hset]
    refine ⟨hid, _, Table.get?_set_self (r := { row with
      status := .running
      leaseOwner := some (strip A)
      leaseExpiresAt := some expiresAt
      attemptCount := row.attemptCount + 1 }) hrow, rfl, rfl⟩
  | nothing _ hclaim => exact absurd rfl (hclaim X m)

/-- A renewal or release by a worker that does not own the lease changes no row and shows no
success. -/
lemma NotOwnedBy.shut_out (hw : NotOwnedBy A m w) (ha : LeaseAction w w' c e)
    (hc : (∃ L, c = .renew m A L) ∨ c = .release m A) :
    w'.db.missions = w.db.missions ∧ e ≠ .leaseRenewed A m ∧ e ≠ .leaseReleased A m := by
  obtain ⟨row, hrow, howner⟩ := hw
  cases ha with
  | claimed => simp at hc
  | renewed hrow' howner' =>
    obtain ⟨rfl, rfl⟩ : _ = m ∧ _ = A := by simpa using hc
    cases hrow.symm.trans hrow'
    exact absurd howner' howner
  | released hrow' howner' =>
    obtain ⟨rfl, rfl⟩ : _ = m ∧ _ = A := by simpa using hc
    cases hrow.symm.trans hrow'
    exact absurd howner' howner
  | nothing hsame _ hrenew hrelease => exact ⟨hsame, hrenew A m, hrelease A m⟩

/-- A renewal or release that ends by an action other than its success returns `False`. -/
lemma Ends.returns_false {r : Except PyError (Option Mission ⊕ Bool)} (hends : Ends c (h ++ [e]) r)
    (hc : (∃ L, c = .renew m A L) ∨ c = .release m A)
    (he : e ≠ .leaseRenewed A m ∧ e ≠ .leaseReleased A m) : r = .ok (.inr false) := by
  have hfalse : ∀ e', e ≠ e' → (∃ b, r = .ok (.inr b) ∧
      (b = true → (h ++ [e]).getLast? = some e')) → r = .ok (.inr false) := by
    rintro e' hne ⟨b, rfl, hlast⟩
    cases b with
    | false => rfl
    | true => exact absurd (by simpa using hlast rfl) hne
  rcases hc with ⟨L, rfl⟩ | rfl
  · exact hfalse _ he.1 (hends (by simp))
  · exact hfalse _ he.2 (hends (by simp))

/-- Where no worker's identifier is another's with spaces around it, leases exclude. -/
theorem leaseExclusion_of_distinct (hW : Distinct W) : LeaseExclusion W where
  exclusive := by
    intro w₀ p q r r' A m X L t t' c e hp hs hexp hr hs' hne Y
    have hcalls := callsAmong_of_run hp
    have hA : A ∈ W := hcalls.worker hs
    have hu := underWay_of_run hp
    obtain ⟨hid, row, hrow, hrunning, howner⟩ := claimed_row (hu.action hs)
    obtain ⟨hur, hcr, hheld⟩ := heldBy_run hW hA (hu.step compatible hs
      trivial) (hcalls.step hs (by simp [Among])) ⟨⟨row, hrow, hrunning, howner, hid⟩, hexp⟩ hr
    have ha := hur.action hs'
    exact ⟨hheld.no_claim ha, fun he =>
      hne (hheld.worker_eq hW hA (hcr.worker hs') ha (.inl he))⟩
  fenced := by
    intro w₀ p q r r' A B m X L t t' c e hp hs hne hr hs' hc
    have hcalls := callsAmong_of_run hp
    have hB : B ∈ W := hcalls.worker hs
    have hu := underWay_of_run hp
    obtain ⟨hid, row, hrow, -, howner⟩ := claimed_row (hu.action hs)
    have hA : A ∈ W := by
      have hqr : Pool.Run system (Among W) q r := hr.mono fun _ _ _ h => h.1
      have hw := (callsAmong_of_run ((hp.tail hs (by simp [Among])).trans hqr)).worker hs'
      rcases hc with ⟨L', rfl⟩ | rfl <;> exact hw
    have hnot : NotOwnedBy A m q.state := by
      refine ⟨row, hrow, fun heq => hne ?_⟩
      obtain hstrip : strip B = A := Option.some.inj (howner.symm.trans heq)
      exact (hW B hB A hA hstrip (hstrip ▸ hid)).symm
    obtain ⟨hur, hcr, hnot'⟩ := notOwnedBy_run hW hA (hu.step compatible
      hs trivial) (hcalls.step hs (by simp [Among])) hnot hr
    obtain ⟨hsame, he⟩ := hnot'.shut_out (hur.action hs') hc
    refine ⟨by rw [hsame], fun th res hth hres => ?_⟩
    have hur' : UnderWay r' := hur.step compatible hs' trivial
    have hends := Pool.AllSafe.post compatible hur'
      (List.mem_of_getElem? hth) hres
    cases hs' with
    | @act _ _ h ev _ _ ht =>
      rw [List.getElem?_set_self (List.getElem?_eq_some_iff.mp ht).1] at hth
      cases hth
      exact hends.returns_false hc he

/-! ### Intrusion

A claim strips the identifier of its worker; renewals and releases take it as it is. -/

/-- One code change, queued. -/
def queuedWorld : World where
  db :=
    { missions := ⟨[
        { id := "change", title := "Code change: ai-hq", description := "fix",
          ownerAgent := "developer", source := "hq_chat_code_change", createdAt := 0 }],
        List.nodup_singleton _⟩ }

/-- A claim from the point where it reads the clock. -/
def claimAs (workerId : String) : Py (Option Mission ⊕ Bool) :=
  .inl <$> (do
    let now ← .clock
    let candidateIds ← .query fun _ db => .ok (claimCandidates now db)
    claimFirst workerId now (now + seconds 900) candidateIds)

lemma claim_code {a b : String} (hstrip : strip a = b) (hb : b ≠ "") :
    (Call.claim a 900).code = claimAs b := by
  simp only [Call.code, claimOldestCodeChange, hstrip, raiseIf, if_neg hb]
  rfl

/-- The call of the claim after `n` actions on its own. -/
def claimThread (a b : String) (n : ℕ) : Thread Call PyError Event World (Option Mission ⊕ Bool) :=
  ⟨.claim a 900, (Prog.advance n (claimAs b, [], queuedWorld)).2.1,
    (Prog.advance n (claimAs b, [], queuedWorld)).1⟩

def claimedWorld (b : String) : World := (Prog.advance 3 (claimAs b, [], queuedWorld)).2.2

/-- The call of a renewal by `b` after `n` actions, begun when the claim had updated the row. -/
def renewThread (b : String) (n : ℕ) : Thread Call PyError Event World (Option Mission ⊕ Bool) :=
  ⟨.renew "change" b 900,
    (Prog.advance n ((Call.renew "change" b 900).code, [], claimedWorld b)).2.1,
    (Prog.advance n ((Call.renew "change" b 900).code, [], claimedWorld b)).1⟩

lemma unexpired_claimedWorld (b : String) : Unexpired "change" (claimedWorld b) :=
  ⟨_, seconds 900, rfl, rfl, show (0 : ℤ) ≤ seconds 900 by decide⟩

lemma event_renewed (b : String) {renewed : Bool} (h : renewed = true) :
    (match (Except.ok renewed : Except PyError Bool) with
      | .ok true => .leaseRenewed b "change"
      | _ => .silent) = Event.leaseRenewed b "change" := by
  rw [h]

/-- A worker `b` whose identifier another has with spaces around it renews the other's lease. -/
theorem not_leaseExclusion {a b : String} (ha : a ∈ W) (hb : b ∈ W) (hstrip : strip a = b)
    (hne : b ≠ "") (hab : a ≠ b) : ¬LeaseExclusion W := by
  intro h
  have hclaiming : Pool.Run system (Among W) (Pool.init queuedWorld)
      ⟨queuedWorld, [claimThread a b 2]⟩ := by
    have hspawn : Pool.Run system (Among W) (Pool.init queuedWorld)
        ⟨queuedWorld, [⟨.claim a 900, [], claimAs b⟩]⟩ := by
      rw [← claim_code hstrip hne]
      refine .tail (.refl _) (.spawn (Pool.init queuedWorld) (Call.claim a 900)) fun c hc => ?_
      cases hc
      exact ha
    exact hspawn.trans (Pool.run_advance (by simp [Among]) 2 (t := 0) rfl rfl)
  have hclaimed : Pool.Step system ⟨queuedWorld, [claimThread a b 2]⟩
      (.act 0 (.claim a 900) (.leaseClaimed b "change"))
      ⟨claimedWorld b, [claimThread a b 3]⟩ :=
    .act ⟨queuedWorld, [claimThread a b 2]⟩ 0 rfl
  have hrenewing : Pool.Run system (Holding W a "change")
      ⟨claimedWorld b, [claimThread a b 3]⟩
      ⟨claimedWorld b, [claimThread a b 3, renewThread b 1]⟩ := by
    have hspawn : Pool.Run system (Holding W a "change") ⟨claimedWorld b, [claimThread a b 3]⟩
        ⟨claimedWorld b, [claimThread a b 3, renewThread b 0]⟩ :=
      .tail (.refl _)
        (.spawn ⟨claimedWorld b, [claimThread a b 3]⟩ (Call.renew "change" b 900))
        ⟨fun c hc => by cases hc; exact hb, unexpired_claimedWorld b, by simp⟩
    refine hspawn.tail
      (.act ⟨claimedWorld b, [claimThread a b 3, renewThread b 0]⟩ 1 rfl)
      ⟨by simp [Among], unexpired_claimedWorld b, ?_⟩
    rintro t c e ⟨⟩ _ X ⟨⟩
  have hrenewed : (renewTx "change" b 900 0 (claimedWorld b).db).1 = true := by
    have hrow : (claimedWorld b).db.missions.get? "change" = some
        { id := "change", title := "Code change: ai-hq", description := "fix",
          ownerAgent := "developer", source := "hq_chat_code_change", status := .running,
          leaseOwner := some b, leaseExpiresAt := some (seconds 900), attemptCount := 1,
          createdAt := 0 } := rfl
    simp [renewTx, hrow, isCodeChange, seconds]
  have hevent := event_renewed b hrenewed
  exact (h.exclusive hclaiming hclaimed (unexpired_claimedWorld b) hrenewing
    (.act ⟨claimedWorld b, [claimThread a b 3, renewThread b 1]⟩ 1 rfl) (Ne.symm hab) b).2 hevent

/-- Leases exclude among the workers `W` exactly when no identifier in `W` is another one with
spaces around it. -/
theorem leaseExclusion_iff (W : Set String) : LeaseExclusion W ↔ Distinct W :=
  ⟨fun h _ ha _ hb hstrip hne =>
    by_contra fun hab => not_leaseExclusion ha hb hstrip hne hab h, leaseExclusion_of_distinct⟩

theorem not_leaseExclusion_trailing_space :
    ¬LeaseExclusion {"worker-one", "worker-one "} :=
  not_leaseExclusion (a := "worker-one ") (b := "worker-one") (by simp) (by simp) (by decide)
    (by decide) (by decide)

end Lease
end AiHq
