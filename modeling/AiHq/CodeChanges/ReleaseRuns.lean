import AiHq.CodeChanges.Custody

/-!
# The custody of a release

Whatever else happens to deliveries and approvals in between, a collaborator is only asked to
publish, deploy or roll back what QA has passed and a human has approved, as the delivery records
it; and what a delivery records has been reported to the call that recorded it.
-/

namespace AiHq

open Concurrent Relational DeliveryService

namespace Custody

variable {db db' : Database} {d d' : Delivery} {id missionId changeRef : String}

/-! ### What the calls do -/

/-- What the store has verified for the delivery. -/
def Verified (store : Option CandidateStore) (id : String) (d : Delivery)
    (candidate : PersistedCandidate) : Prop :=
  candidate.changeRef = d.changeRef ∧ ∃ s, store = some s ∧ ∃ files,
    s.loadVerified files id d.changeRef d.changedFiles d.developerEvidence = .ok candidate

lemma Verified.continues {store : Option CandidateStore} {candidate : PersistedCandidate}
    (h : Verified store id d candidate) (hc : Continues d d') :
    Verified store id d' candidate := by
  unfold Verified
  rw [hc.changeRef_eq, hc.changedFiles_eq, hc.evidence_eq]
  exact h

/-- A collaborator is asked for what the delivery records and a human has granted, and what it
reports is shown. -/
def InCustody (store : Option CandidateStore) (w : ReleaseWorld) : ReleaseEvent → Prop
  | .silent => True
  | .publish id candidate report => report = w.publish candidate ∧
      ∃ d, w.world.db.deliveries.get? id = some d ∧ Granted w.world.db d ∧
        Verified store id d candidate
  | .deploy id candidate report => report = w.deploy candidate ∧
      ∃ d, w.world.db.deliveries.get? id = some d ∧ Granted w.world.db d ∧
        candidate.changeRef = d.changeRef ∧
        d.publishedBranch.map strip = some candidate.branchName ∧
        d.publishedCommit = some candidate.commitSha ∧ d.publishedTree = some candidate.treeSha ∧
        ∃ loaded, Verified store id d loaded ∧ candidate.repository = loaded.repository ∧
          candidate.baseCommit = loaded.baseCommit
  | .rollback id target release report => report = w.rollback target release ∧
      ∃ d, w.world.db.deliveries.get? id = some d ∧ Granted w.world.db d ∧
        target.changeRef = d.changeRef ∧ d.publishedBranch ≠ none ∧
        d.deploymentReleaseId ≠ none ∧ d.deploymentPriorReleaseId = some release

/-- What a call relies on, and what each of its actions owes after its own events so far. -/
def contract (store : Option CandidateStore) : Contract ReleaseEvent ReleaseWorld where
  rely w w' := Lasts w.world.db w'.world.db
  guar h w e w' := Goes (· ∈ h) w.world.db w'.world.db ∧ InCustody store w e
  rely_refl w := (Goes.refl w.world.db : Goes (fun _ => False) w.world.db w.world.db).lasts
  rely_trans _ _ _ := Lasts.trans

/-- The delivery that a call has found granted. -/
def Decided (db : Database) (missionId changeRef : String) (decided : Delivery) : Prop :=
  decided.changeRef = changeRef ∧
    ∃ d, db.deliveries.get? missionId = some d ∧ Granted db d ∧ Continues decided d

lemma Decided.lasts {decided : Delivery} (h : Decided db missionId changeRef decided)
    (hlasts : Lasts db db') : Decided db' missionId changeRef decided := by
  obtain ⟨hchange, d, hd, hgranted, hcontinues⟩ := h
  obtain ⟨d', hd', hcontinues', hgranted'⟩ := hlasts missionId d hd
  exact ⟨hchange, d', hd', hgranted' hgranted, hcontinues.trans hcontinues'⟩

section Calls

variable {α β : Type} {store : Option CandidateStore} {h : List ReleaseEvent} {w : ReleaseWorld}
  {n : ℕ} {f : Moment → Database → Except PyError (α × Database)}
  {g : Moment → Database → Except PyError α} {ev : Except PyError α → Event} {k : α → Rel β}
  {P : β → ReleaseWorld → Prop}

/-- What a call ends in, if it returns. -/
def Returns (P : β → ReleaseWorld → Prop) (_ : List ReleaseEvent) (r : Except PyError β)
    (w : ReleaseWorld) : Prop :=
  ∀ b, r = .ok b → P b w

lemma returns_raise {e : PyError} :
    Safe (contract store) (.raise e : Rel β) h w (Returns P) := by
  refine .raise fun v _ _ b hb => ?_
  cases hb

lemma onDatabase_transaction :
    Rel.onDatabase (Py.transaction n f ev) = .atomic (fun _ => .silent) fun w =>
      (f w.world.moment w.world.db).map fun r =>
        (r.1, { w with world := w.world.commit n r.2 }) := by
  simp only [Rel.onDatabase, Py.transaction, Prog.atomic, Prog.relabel, Prog.within]
  congr 1
  · funext w
    cases f w.world.moment w.world.db <;> rfl
  · funext w
    cases f w.world.moment w.world.db <;> rfl

lemma onDatabase_bind {p : Py α} {k : α → Py β} :
    Rel.onDatabase (p >>= k) = Rel.onDatabase p >>= fun a => Rel.onDatabase (k a) := by
  rw [Rel.onDatabase, Prog.relabel_bind, Prog.within_bind]
  rfl

/-- A transaction, and the rest on what it returns. -/
lemma safe_transaction_bind
    (hok : ∀ (v : ReleaseWorld) a db, Lasts w.world.db v.world.db →
      f v.world.moment v.world.db = .ok (a, db) → Goes (· ∈ h) v.world.db db ∧
        ∀ v' : ReleaseWorld, v'.world.db = db →
          Safe (contract store) (k a) (h ++ [.silent]) v' (Returns P)) :
    Safe (contract store) (Rel.onDatabase (Py.transaction n f ev) >>= k) h w (Returns P) := by
  rw [onDatabase_transaction]
  refine Safe.atomic_bind (fun v a t hR _ hf _ => ?_) fun v e _ _ _ _ => ?_
  · obtain ⟨⟨b, db⟩, hfv, hb⟩ := Py.map_eq_ok.mp hf
    cases hb
    obtain ⟨hgoes, hk⟩ := hok v b db hR hfv
    exact ⟨⟨hgoes, trivial⟩, trivial, hk _ rfl⟩
  · exact ⟨⟨.refl _, trivial⟩, returns_raise⟩

/-- A read, and the rest on what it finds. -/
lemma safe_query_bind
    (hok : ∀ (v : ReleaseWorld) a, Lasts w.world.db v.world.db →
      g v.world.moment v.world.db = .ok a →
        Safe (contract store) (k a) (h ++ [.silent]) v (Returns P)) :
    Safe (contract store) (Rel.onDatabase (Py.query g ev) >>= k) h w (Returns P) := by
  rw [Py.query, Py.session, onDatabase_transaction]
  refine Safe.atomic_bind (fun v a t hR _ hf _ => ?_) fun v e _ _ _ _ => ?_
  · obtain ⟨⟨b, db⟩, hfv, hb⟩ := Py.map_eq_ok.mp hf
    obtain ⟨b', hg, hb'⟩ := Py.map_eq_ok.mp hfv
    cases hb'
    cases hb
    exact ⟨⟨.refl _, trivial⟩, trivial, hok v _ hR hg⟩
  · exact ⟨⟨.refl _, trivial⟩, returns_raise⟩

lemma safe_lift_bind {x : Except PyError α}
    (hok : ∀ a, x = .ok a → Safe (contract store) (k a) h w (Returns P)) :
    Safe (contract store) (Rel.lift x >>= k) h w (Returns P) := by
  cases x with
  | ok a => exact hok a rfl
  | error e => exact returns_raise

/-- What is checked before a transaction. -/
lemma safe_guard_bind {γ : Type} {x : Except PyError γ} {p : Py α}
    (hok : Safe (contract store) (Rel.onDatabase p >>= k) h w (Returns P)) :
    Safe (contract store) (Rel.onDatabase (Py.lift x >>= fun _ => p) >>= k) h w (Returns P) := by
  cases x with
  | ok a => exact hok
  | error e => exact returns_raise

lemma safe_ask_bind {report : Except PyError α → ReleaseEvent}
    {reply : ReleaseWorld → Except PyError α}
    (hcustody : ∀ v : ReleaseWorld, Lasts w.world.db v.world.db →
      InCustody store v (report (reply v)))
    (hok : ∀ (v : ReleaseWorld) a, Lasts w.world.db v.world.db → reply v = .ok a →
      Safe (contract store) (k a) (h ++ [report (.ok a)]) v (Returns P)) :
    Safe (contract store) (Rel.ask report reply >>= k) h w (Returns P) := by
  rw [Rel.ask]
  refine Safe.atomic_bind (fun v a t hR _ hf _ => ?_) fun v e hR _ hf _ => ?_
  · obtain ⟨a', hreply, hb⟩ := Py.map_eq_ok.mp hf
    cases hb
    exact ⟨⟨.refl _, hreply ▸ hcustody v hR⟩, trivial, hok v _ hR hreply⟩
  · exact ⟨⟨.refl _, Py.map_eq_error.mp hf ▸ hcustody v hR⟩, returns_raise⟩

/-- What is decided in favour of a delivery that goes on waiting is granted. -/
lemma decided_of_applyHumanDecision {reference : String} {m : Moment}
    (h : applyHumanDecisionTx missionId reference changeRef m db = .ok (d, db'))
    (hstage : d.stage = .waitingApproval) (hqa : d.qaResult = some .passed) :
    Decided db' missionId changeRef d := by
  simp only [applyHumanDecisionTx, bind_eq_ok] at h
  obtain ⟨⟨mission, old, approval⟩, hdecision, h⟩ := h
  simp only [decisionTx, bind_eq_ok, raiseIf_eq_ok, getDeliveryTx_eq_ok,
    ApprovalService.getRequestTx_eq_ok, not_not] at hdecision
  obtain ⟨_, -, _, hd, _, -, _, href, _, hchange, _, happroval, _, hmission, _, htarget, _, -, _, -,
    heq⟩ := hdecision
  cases heq
  simp only at h
  split at h
  · cases h
  · next hstate =>
    cases h
    have hid : d.missionId = missionId := Table.key_of_get? hd
    exact ⟨hchange, d, hd, ⟨hstage, hqa, reference, approval, href, happroval,
      hmission.trans hid.symm, htarget, hstate⟩, .refl d⟩
  · cases h
    cases hstage
  · cases h
    cases hstage

lemma mem_of_trustedRepository {objective : Json} {repository : String}
    (h : CodeChangeService.trustedRepository objective = .ok repository) :
    repository ∈ trustedRepositoryKeys := by
  unfold CodeChangeService.trustedRepository at h
  split at h
  · simp only [bind_eq_ok, raiseIf_eq_ok, not_not] at h
    obtain ⟨_, hmem, h⟩ := h
    cases h
    exact hmem
  · cases h

/-- The checks that come first find a granted delivery, or raise. -/
lemma safe_approvedDelivery {noun reference : String} :
    Safe (contract store)
      (CodeChangeReleases.approvedDelivery noun missionId reference changeRef) h w
      (Returns fun x v => x.1 ∈ trustedRepositoryKeys ∧
        Decided v.world.db missionId changeRef x.2) := by
  refine safe_query_bind fun _ mission _ _ => safe_lift_bind fun _ _ =>
    safe_lift_bind fun repository hrepository => safe_query_bind fun _ _ _ _ =>
    safe_lift_bind fun _ _ => ?_
  have hmem : repository ∈ trustedRepositoryKeys := by
    split at hrepository
    · cases hrepository
    · exact mem_of_trustedRepository hrepository
  rw [applyHumanDecision, Py.session]
  refine safe_transaction_bind fun v decided db _ hdecision =>
    ⟨goes_applyHumanDecision hdecision, fun v' hv' => safe_lift_bind fun _ hchecks => ?_⟩
  simp only [raiseIf_eq_ok, not_or, not_not] at hchecks
  refine .ret fun t hR _ x hx => ?_
  cases hx
  have hdecided := decided_of_applyHumanDecision hdecision hchecks.1 hchecks.2.1
  exact ⟨hmem, (hv' ▸ hdecided).lasts hR⟩

/-- What is loaded for a granted delivery has been verified for it. -/
lemma safe_loadCandidate_bind {s : CandidateStore} {repository : String} {decided : Delivery}
    {k : PersistedCandidate → Rel β} (hdecided : Decided w.world.db missionId changeRef decided)
    (hstore : store = some s)
    (hok : ∀ v candidate h', Decided v.world.db missionId changeRef decided →
      candidate.repository = repository → Verified store missionId decided candidate →
      Safe (contract store) (k candidate) h' v (Returns P)) :
    Safe (contract store)
      (CodeChangeReleases.loadCandidate s missionId changeRef repository decided >>= k) h w
      (Returns P) := by
  rw [CodeChangeReleases.loadCandidate, Prog.bind_assoc]
  refine safe_ask_bind (fun _ _ => trivial) fun v candidate hR hload => ?_
  rw [Prog.bind_assoc]
  refine safe_lift_bind fun _ hchecks => ?_
  simp only [bind_eq_ok, raiseIf_eq_ok, not_not] at hchecks
  obtain ⟨_, hrepository, hchange⟩ := hchecks
  have hchange' : decided.changeRef = changeRef := hdecided.1
  refine hok v candidate _ (hdecided.lasts hR) hrepository
    ⟨hchange.trans hchange'.symm, s, hstore, v.files, ?_⟩
  rw [hchange']
  exact hload

end Calls

/-! ### The three calls -/

inductive ReleaseCall where
  | publish (missionId approvalReference changeRef : String)
  | deploy (missionId approvalReference changeRef : String)
  | rollback (missionId approvalReference changeRef : String)

/-- The calls, beside operations that record no release, decisions and the passing of time; the
files and what the collaborators would report change in any way. -/
def system (self : CodeChangeReleases) :
    System ReleaseCall PyError ReleaseEvent ReleaseWorld CodeChangeResult where
  code
    | .publish missionId reference changeRef =>
      self.publishApprovedCandidate missionId reference changeRef
    | .deploy missionId reference changeRef =>
      self.deployApprovedCandidate missionId reference changeRef
    | .rollback missionId reference changeRef =>
      self.rollbackApprovedDeployment missionId reference changeRef
  env w w' := Elsewhere self.service.delivery w.world w'.world

section Calls

variable {self : CodeChangeReleases} {h : List ReleaseEvent} {w : ReleaseWorld}
  {reference repository : String}

/-- What is returned of the delivery is read. -/
lemma safe_result : Safe (contract self.candidateStore) (self.result missionId repository) h w
    (Returns fun _ _ => True) := by
  rw [CodeChangeReleases.result, CodeChangeService.resultForMission, onDatabase_bind]
  exact safe_query_bind fun _ _ _ _ => .ret fun _ _ _ _ _ => trivial

lemma returns_of {α : Type} {P : α → ReleaseWorld → Prop} {p : Rel α} {k : α → Rel CodeChangeResult}
    (hp : Safe (contract self.candidateStore) p h w (Returns P))
    (hk : ∀ h' a v, P a v →
      Safe (contract self.candidateStore) (k a) h' v (Returns fun _ _ => True)) :
    Safe (contract self.candidateStore) (p >>= k) h w (Returns fun _ _ => True) := by
  refine hp.bind (fun h' a v hP => hk h' a v (hP a rfl)) fun h' e v _ b hb => ?_
  cases hb

lemma recordedPublication_eq_ok {noun branch commit tree : String} {decided : Delivery}
    (h : CodeChangeReleases.recordedPublication noun decided = .ok (branch, commit, tree)) :
    decided.publishedBranch = some branch ∧ decided.publishedCommit = some commit ∧
      decided.publishedTree = some tree := by
  unfold CodeChangeReleases.recordedPublication at h
  split at h
  · next hbranch hcommit htree =>
    cases h
    exact ⟨hbranch, hcommit, htree⟩
  · cases h

lemma priorRelease_eq_ok {prior : String} {decided : Delivery}
    (h : CodeChangeReleases.priorRelease decided = .ok prior) :
    decided.deploymentReleaseId ≠ none ∧ decided.deploymentPriorReleaseId = some prior := by
  unfold CodeChangeReleases.priorRelease at h
  split at h
  · cases h
  · cases h
  · next hrelease hprior =>
    cases h
    exact ⟨by simp [hrelease], hprior⟩

/-- A candidate as published has the identities that it is built from. -/
lemma publishedCandidate_eq_ok {changeRef branch commit tree base : String}
    {published : PublishedCandidate} (hmem : repository ∈ trustedRepositoryKeys)
    (h : PublishedCandidate.postInit repository changeRef branch commit tree base = .ok published) :
    published.repository = repository ∧ published.changeRef = changeRef ∧
      published.branchName = strip branch ∧ published.commitSha = commit ∧
      published.treeSha = tree ∧ published.baseCommit = base := by
  simp only [PublishedCandidate.postInit, bind_eq_ok, required_eq_ok] at h
  obtain ⟨r, hr, b, hb, _, -, _, -, _, -, _, -, h⟩ := h
  cases h
  refine ⟨?_, rfl, hb.symm, rfl, rfl, rfl⟩
  have hstrip : ∀ r ∈ trustedRepositoryKeys, strip r = r := by decide
  exact hr.symm.trans (hstrip repository hmem)

lemma rollbackTarget_eq_ok {changeRef : String} {target : RollbackTarget}
    (h : RollbackTarget.postInit repository changeRef = .ok target) :
    target.changeRef = changeRef := by
  simp only [RollbackTarget.postInit, bind_eq_ok] at h
  obtain ⟨_, -, _, -, h⟩ := h
  cases h
  rfl

/-- What a publisher has reported is recorded. -/
lemma goes_recordPublication {candidate : PersistedCandidate} {report : PublishedCandidate}
    {decided : Delivery} {m : Moment} (hd : Decided db missionId changeRef decided)
    (hreport : .publish missionId candidate (.ok report) ∈ h)
    (hchange : report.changeRef = changeRef)
    (hrec : recordPublicationTx missionId changeRef report.branchName report.commitSha
      report.treeSha m db = .ok (d', db')) : Goes (· ∈ h) db db' := by
  obtain ⟨d, hget, -, ⟨rfl, rfl⟩ | ⟨hnone, rfl, rfl⟩⟩ := recordPublicationTx_eq_ok hrec
  · exact .refl _
  · obtain ⟨hdecided, x, hx, -, hcontinues⟩ := hd
    cases hx.symm.trans hget
    refine .of_set hget rfl rfl (fun _ _ ha _ => ha) ⟨rfl, rfl, rfl, fun hne => absurd hnone hne,
      fun _ => rfl, fun _ => rfl⟩ (fun hg => ⟨hg.stage, hg.passed, hg.approval⟩) ⟨?_, ?_, ?_⟩
    · refine .inr (.inl ⟨candidate, report, hreport, ?_, rfl, rfl, rfl⟩)
      exact hchange.trans (hdecided.symm.trans hcontinues.changeRef_eq.symm)
    · exact .inr (.inr ⟨_, hget, rfl⟩)
    · exact .inr (.inr ⟨_, hget, rfl⟩)

/-- What a deployer has reported is recorded. -/
lemma goes_recordDeployment {candidate : PublishedCandidate} {report : DeployedRelease}
    {decided : Delivery} {m : Moment} (hd : Decided db missionId changeRef decided)
    (hbranch : decided.publishedBranch.map strip = some candidate.branchName)
    (hcommit : decided.publishedCommit = some candidate.commitSha)
    (htree : decided.publishedTree = some candidate.treeSha)
    (hfor : candidate.changeRef = changeRef)
    (hreport : .deploy missionId candidate (.ok report) ∈ h)
    (hchange : report.changeRef = changeRef)
    (hrec : recordDeploymentTx missionId changeRef report.releaseId report.priorReleaseId m db
      = .ok (d', db')) : Goes (· ∈ h) db db' := by
  obtain ⟨d, hget, -, ⟨rfl, rfl⟩ | ⟨-, hnone, -, rfl, rfl⟩⟩ := recordDeploymentTx_eq_ok hrec
  · exact .refl _
  · obtain ⟨hdecided, x, hx, -, hcontinues⟩ := hd
    cases hx.symm.trans hget
    have hsame : changeRef = d.changeRef := hdecided.symm.trans hcontinues.changeRef_eq.symm
    have hpub := hcontinues.publication_eq (by rintro hnone; simp [hnone] at hbranch)
    simp only [Delivery.publication, Prod.mk.injEq] at hpub
    refine .of_set hget rfl rfl (fun _ _ ha _ => ha) ⟨rfl, rfl, rfl, fun _ => rfl,
      fun hne => absurd hnone hne, fun _ => rfl⟩ (fun hg => ⟨hg.stage, hg.passed, hg.approval⟩)
      ⟨?_, ?_, ?_⟩
    · exact .inr (.inr ⟨_, hget, rfl⟩)
    · refine .inr (.inl ⟨candidate, report, hreport, hchange.trans hsame, rfl, rfl,
        hfor.trans hsame, ?_, hpub.2.1.trans hcommit, hpub.2.2.1.trans htree⟩)
      show d.publishedBranch.map strip = _
      rw [hpub.1]
      exact hbranch
    · exact .inr (.inr ⟨_, hget, rfl⟩)

/-- What a rollbacker has reported is recorded. -/
lemma goes_recordRollback {target : RollbackTarget} {report : RolledBackRelease}
    {decided : Delivery} {m : Moment} (hd : Decided db missionId changeRef decided)
    (hfor : target.changeRef = changeRef)
    (hreport : .rollback missionId target report.releaseId (.ok report) ∈ h)
    (hchange : report.changeRef = changeRef)
    (hrec : recordRollbackTx missionId changeRef report.releaseId m db = .ok (d', db')) :
    Goes (· ∈ h) db db' := by
  obtain ⟨d, hget, -, ⟨rfl, rfl⟩ | ⟨hdeployed, hprior, hnone, -, rfl, rfl⟩⟩ :=
    recordRollbackTx_eq_ok hrec
  · exact .refl _
  · obtain ⟨hdecided, x, hx, -, hcontinues⟩ := hd
    cases hx.symm.trans hget
    have hsame : changeRef = d.changeRef := hdecided.symm.trans hcontinues.changeRef_eq.symm
    refine .of_set hget rfl rfl (fun _ _ ha _ => ha) ⟨rfl, rfl, rfl, fun _ => rfl, fun _ => rfl,
      fun hne => absurd hnone hne⟩ (fun hg => ⟨hg.stage, hg.passed, hg.approval⟩) ⟨?_, ?_, ?_⟩
    · exact .inr (.inr ⟨_, hget, rfl⟩)
    · exact .inr (.inr ⟨_, hget, rfl⟩)
    · exact .inr (.inl ⟨target, report, hreport, hchange.trans hsame, hfor.trans hsame, rfl,
        hdeployed, hprior⟩)

/-- The last transaction of a call, and what is returned. -/
lemma safe_record_bind {f : Moment → Database → Except PyError (Delivery × Database)}
    (hrec : ∀ (v : ReleaseWorld) d db, Lasts w.world.db v.world.db →
      f v.world.moment v.world.db = .ok (d, db) → Goes (· ∈ h) v.world.db db) :
    Safe (contract self.candidateStore)
      (Rel.onDatabase (Py.session f) >>= fun _ => self.result missionId repository) h w
      (Returns fun _ _ => True) := by
  rw [Py.session]
  exact safe_transaction_bind fun v d db hR hf => ⟨hrec v d db hR hf, fun _ _ => safe_result⟩

lemma safe_publish : Safe (contract self.candidateStore)
    (self.publishApprovedCandidate missionId reference changeRef) h w
    (Returns fun _ _ => True) := by
  refine returns_of safe_approvedDelivery ?_
  rintro h' ⟨repository, decided⟩ v ⟨-, hdecided⟩
  simp only
  split_ifs
  · exact safe_result
  · refine safe_lift_bind fun _ _ => ?_
    split
    · next s hstore _ =>
      refine safe_loadCandidate_bind hdecided hstore fun v candidate h' hdecided _ hverified => ?_
      refine safe_ask_bind (fun v hR => ?_) fun v published hR hreport => ?_
      · obtain ⟨-, d, hd, hgranted, hcontinues⟩ := hdecided.lasts hR
        exact ⟨rfl, d, hd, hgranted, hverified.continues hcontinues⟩
      · refine safe_lift_bind fun _ hchecks => ?_
        simp only [bind_eq_ok, raiseIf_eq_ok, not_not] at hchecks
        obtain ⟨_, -, _, hchange, -⟩ := hchecks
        refine safe_guard_bind (safe_guard_bind (safe_guard_bind (safe_record_bind ?_)))
        intro u d db hR' hrec
        exact goes_recordPublication ((hdecided.lasts hR).lasts hR') List.mem_concat_self hchange
          hrec
    · exact returns_raise

lemma safe_deploy : Safe (contract self.candidateStore)
    (self.deployApprovedCandidate missionId reference changeRef) h w
    (Returns fun _ _ => True) := by
  refine returns_of safe_approvedDelivery ?_
  rintro h' ⟨repository, decided⟩ v ⟨hmem, hdecided⟩
  refine safe_lift_bind ?_
  rintro ⟨branch, commit, tree⟩ hrecorded
  obtain ⟨hbranch, hcommit, htree⟩ := recordedPublication_eq_ok hrecorded
  simp only
  split_ifs
  · exact safe_result
  · split
    · next s hstore _ =>
      refine safe_loadCandidate_bind hdecided hstore
        fun v candidate h' hdecided hrepository hverified => ?_
      refine safe_lift_bind fun published hpublished => ?_
      obtain ⟨hrepo, hfor, hstrip, rfl, rfl, hbase⟩ := publishedCandidate_eq_ok hmem hpublished
      have hbranch' : decided.publishedBranch.map strip = some published.branchName := by
        rw [hbranch, Option.map_some, hstrip]
      refine safe_ask_bind (fun v hR => ?_) fun v deployed hR hreport => ?_
      · obtain ⟨hdecided', d, hd, hgranted, hcontinues⟩ := hdecided.lasts hR
        have hpub := hcontinues.publication_eq (by rw [hbranch]; simp)
        simp only [Delivery.publication, Prod.mk.injEq] at hpub
        refine ⟨rfl, d, hd, hgranted, ?_, ?_, hpub.2.1.trans hcommit, hpub.2.2.1.trans htree, candidate,
          hverified.continues hcontinues, hrepo.trans hrepository.symm, hbase⟩
        · exact hfor.trans (hdecided'.symm.trans hcontinues.changeRef_eq.symm)
        · rw [hpub.1]
          exact hbranch'
      · refine safe_lift_bind fun _ hchecks => ?_
        simp only [bind_eq_ok, raiseIf_eq_ok, not_not] at hchecks
        obtain ⟨_, -, hchange⟩ := hchecks
        refine safe_guard_bind (safe_guard_bind (safe_record_bind ?_))
        intro u d db hR' hrec
        exact goes_recordDeployment ((hdecided.lasts hR).lasts hR') hbranch' hcommit htree hfor
          List.mem_concat_self hchange hrec
    · exact returns_raise

lemma safe_rollback : Safe (contract self.candidateStore)
    (self.rollbackApprovedDeployment missionId reference changeRef) h w
    (Returns fun _ _ => True) := by
  refine returns_of safe_approvedDelivery ?_
  rintro h' ⟨repository, decided⟩ v ⟨-, hdecided⟩
  refine safe_lift_bind ?_
  rintro ⟨branch, commit, tree⟩ hrecorded
  obtain ⟨hbranch, -, -⟩ := recordedPublication_eq_ok hrecorded
  refine safe_lift_bind fun prior hprior => ?_
  obtain ⟨hdeployed, hprior⟩ := priorRelease_eq_ok hprior
  split
  · exact safe_lift_bind fun _ _ => safe_result
  · refine safe_lift_bind fun _ _ => safe_lift_bind fun target htarget => ?_
    have hfor := rollbackTarget_eq_ok htarget
    refine safe_ask_bind (fun v hR => ?_) fun v rolledBack hR hreport => ?_
    · obtain ⟨hdecided', d, hd, hgranted, hcontinues⟩ := hdecided.lasts hR
      have hpub := hcontinues.publication_eq (by rw [hbranch]; simp)
      have hdep := hcontinues.deployment_eq hdeployed
      simp only [Delivery.publication, Delivery.deployment, Prod.mk.injEq] at hpub hdep
      refine ⟨rfl, d, hd, hgranted, ?_, ?_, ?_, hdep.2.1.trans hprior⟩
      · exact hfor.trans (hdecided'.symm.trans hcontinues.changeRef_eq.symm)
      · rw [hpub.1, hbranch]
        simp
      · rw [hdep.1]
        exact hdeployed
    · refine safe_lift_bind fun _ hchecks => ?_
      simp only [bind_eq_ok, raiseIf_eq_ok, not_not] at hchecks
      obtain ⟨_, -, _, hchange, rfl⟩ := hchecks
      refine safe_guard_bind (safe_record_bind ?_)
      intro u d db hR' hrec
      exact goes_recordRollback ((hdecided.lasts hR).lasts hR') hfor List.mem_concat_self hchange
        hrec

lemma safe_call (c : ReleaseCall) : Safe (contract self.candidateStore) ((system self).code c) h w
    (Returns fun _ _ => True) := by
  cases c with
  | publish missionId reference changeRef => exact safe_publish
  | deploy missionId reference changeRef => exact safe_deploy
  | rollback missionId reference changeRef => exact safe_rollback

end Calls

/-! ### Every run -/

section Runs

variable {self : CodeChangeReleases} {w₀ : ReleaseWorld}
  {p q : Pool ReleaseCall PyError ReleaseEvent ReleaseWorld CodeChangeResult}

lemma compatible : Pool.Compatible (system self) (fun _ _ _ => True) (fun _ => True)
    (fun _ => contract self.candidateStore) fun _ => Returns fun _ _ => True where
  inv_iff _ _ := .rfl
  env p q _ henv _ := by
    have hgoes : Goes (fun _ => False) p.state.world.db q.state.world.db := goes_elsewhere henv
    exact ⟨trivial, fun _ => hgoes.lasts⟩
  act _ _ _ _ _ _ _ _ hguar := hguar.1.lasts
  cond _ _ _ _ _ _ _ _ _ := trivial
  code _ c _ _ _ := safe_call c

end Runs

/-! ### A deployment that is rolled back -/

def deployedRef : String :=
  "sha256:00000000000000000000000000000000000000000000000000000000000000ff"

def releases : CodeChangeReleases where
  service :=
    { missions := ⟨true⟩, delivery := Record.service
      runner := { delivery := Record.service, candidateVerifier := true, workspaceService := true }
      repositoryDescriptions := [] }
  candidateStore := none
  publisher := false
  deployer := false
  rollbacker := true

def proposedWorld : World where
  db :=
    { missions := ⟨[
        { id := "change", title := "Code change: ai-hq", description := "fix",
          ownerAgent := "developer", source := "hq_chat_code_change",
          objectives := [.str "ai-hq", .str "fix"], createdAt := 0 }],
        List.nodup_singleton _⟩ }

def approvedWorld : World :=
  ((ApprovalService.decide "0" .approved).run (Record.perform Record.service proposedWorld
    [.submitDeveloperProposal "change" deployedRef "fix" [] [],
      .recordQaResult "change" deployedRef .passed []])).2

/-- A candidate that is deployed, and a rollbacker that does what it is asked. -/
def deployedWorld : ReleaseWorld where
  world := Record.perform Record.service approvedWorld
    [.recordPublication "change" deployedRef "ai-hq/candidate/change"
        "0123456789abcdef0123456789abcdef01234567" "89abcdef0123456789abcdef0123456789abcdef",
      .recordDeployment "change" deployedRef "release-2" (some "release-1")]
  files := .empty
  publish := fun _ => .error (.runtimeError "not configured")
  deploy := fun _ => .error (.runtimeError "not configured")
  rollback := fun target release => .ok ⟨target.repository, target.changeRef, release⟩

def rollbackCall : ReleaseCall := .rollback "change" "0" deployedRef

/-- The call has made its checks, and asks next. -/
def asking : Pool ReleaseCall PyError ReleaseEvent ReleaseWorld CodeChangeResult :=
  Pool.play (system releases) (.init deployedWorld)
    [.spawn rollbackCall, .act 0, .act 0, .act 0]

def ended : Pool ReleaseCall PyError ReleaseEvent ReleaseWorld CodeChangeResult :=
  Pool.play (system releases) asking [.act 0, .act 0, .act 0]

lemma records : (ended.state.world.db.deliveries.get? "change").any
    (fun d => d.rollbackReleaseId = some "release-1") = true := by
  decide +kernel

end Custody
end AiHq
