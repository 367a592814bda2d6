import AiHq.Delivery.Service

/-!
# The record of a delivery

What a delivery says of its publication, its deployment and its rollback, over every sequence of
operations of the delivery service, decisions on approvals, and the passing of time.
-/

namespace AiHq

open Concurrent Relational DeliveryService

namespace Delivery

variable (d : Delivery)

/-! ### The identities that a delivery records -/

def publication : Option String × Option String × Option String × Option Datetime :=
  (d.publishedBranch, d.publishedCommit, d.publishedTree, d.publishedAt)

def deployment : Option String × Option String × Option Datetime :=
  (d.deploymentReleaseId, d.deploymentPriorReleaseId, d.deployedAt)

def rollback : Option String × Option Datetime := (d.rollbackReleaseId, d.rolledBackAt)

end Delivery

namespace Record

inductive Op where
  | getDelivery (missionId : String)
  | submitDeveloperProposal (missionId changeRef summary : String) (changedFiles : List Json)
      (evidence : Dict)
  | recordQaResult (missionId changeRef : String) (result : QAResult) (evidence : Dict)
  | recordPublication (missionId changeRef branchName commitSha treeSha : String)
  | recordDeployment (missionId changeRef releaseId : String) (priorReleaseId : Option String)
  | recordRollback (missionId changeRef releaseId : String)
  | applyHumanDecision (missionId approvalReference changeRef : String)

def Op.code (self : DeliveryService) : Op → Py Delivery
  | getDelivery missionId => DeliveryService.getDelivery missionId
  | submitDeveloperProposal missionId changeRef summary changedFiles evidence =>
    DeliveryService.submitDeveloperProposal missionId changeRef summary changedFiles evidence
  | recordQaResult missionId changeRef result evidence =>
    self.recordQaResult missionId changeRef result evidence
  | recordPublication missionId changeRef branchName commitSha treeSha =>
    DeliveryService.recordPublication missionId changeRef branchName commitSha treeSha
  | recordDeployment missionId changeRef releaseId priorReleaseId =>
    DeliveryService.recordDeployment missionId changeRef releaseId priorReleaseId
  | recordRollback missionId changeRef releaseId =>
    DeliveryService.recordRollback missionId changeRef releaseId
  | applyHumanDecision missionId approvalReference changeRef =>
    DeliveryService.applyHumanDecision missionId approvalReference changeRef

/-- One operation or decision, or time passes, in which anything but the deliveries and the
approvals may change. -/
inductive Step (self : DeliveryService) (w : World) : World → Prop where
  | op (o : Op) : Step self w ((o.code self).run w).2
  | decide (requestId : String) (decision : ApprovalState) :
      Step self w ((ApprovalService.decide requestId decision).run w).2
  | elapse {w' : World} (hdeliveries : w'.db.deliveries = w.db.deliveries)
      (happrovals : w'.db.approvals = w.db.approvals) : Step self w w'

/-! ### What a record is -/

structure Sound (db : Database) (d : Delivery) : Prop where
  published : d.publication = (none, none, none, none) ∨
    ∃ branch commit tree at_, d.publication = (some branch, some commit, some tree, some at_)
  deployed : d.deployment = (none, none, none) ∨
    ∃ release at_, d.deploymentReleaseId = some release ∧ d.deployedAt = some at_ ∧
      d.publishedBranch ≠ none
  rolledBack : d.rollback = (none, none) ∨
    ∃ release at_, d.rollback = (some release, some at_) ∧ d.deploymentReleaseId ≠ none ∧
      d.deploymentPriorReleaseId = some release
  waiting : d.stage = .waitingApproval → d.qaResult = some .passed ∧
    ∃ reference approval, d.approvalReference = some reference ∧
      db.approvals.get? reference = some approval ∧ approval.missionId = d.missionId ∧
      approval.target = d.changeRef

/-- How a delivery may follow from what it was in the world `w`: each identity stays as it is, or
it was empty and is recorded under an approval in force. -/
structure Follows (w : World) (d d' : Delivery) : Prop where
  published : d'.publication = d.publication ∨
    d.publishedBranch = none ∧ Authorized w.db w.now d
  deployed : d'.deployment = d.deployment ∨
    d.deploymentReleaseId = none ∧ Authorized w.db w.now d
  rolledBack : d'.rollback = d.rollback ∨ d.rollbackReleaseId = none ∧ Authorized w.db w.now d

/-- A delivery on which nothing is recorded. -/
structure Blank (d : Delivery) : Prop where
  published : d.publication = (none, none, none, none)
  deployed : d.deployment = (none, none, none)
  rolledBack : d.rollback = (none, none)

/-- The operation would record an identity that the delivery has. -/
def Replays (d : Delivery) : Op → Prop
  | .recordPublication missionId _ _ _ _ => missionId = d.missionId ∧ d.publishedBranch ≠ none
  | .recordDeployment missionId _ _ _ => missionId = d.missionId ∧ d.deploymentReleaseId ≠ none
  | .recordRollback missionId _ _ => missionId = d.missionId ∧ d.rollbackReleaseId ≠ none
  | _ => False

lemma Follows.refl (w : World) (d : Delivery) : Follows w d d := ⟨.inl rfl, .inl rfl, .inl rfl⟩

/-! ### What a step does -/

/-- The approvals stay, each for its mission and target. -/
def ApprovalsKept (db db' : Database) : Prop :=
  ∀ reference a, db.approvals.get? reference = some a → ∃ a',
    db'.approvals.get? reference = some a' ∧ a'.missionId = a.missionId ∧ a'.target = a.target

/-- The effect of a step on the deliveries. -/
inductive Effect (w w' : World) : Prop where
  | same (hdeliveries : w'.db.deliveries = w.db.deliveries)
      (happrovals : ApprovalsKept w.db w'.db)
  | proposed (d : Delivery) (hblank : Blank d) (hstage : d.stage = .qa)
      (hinsert : w.db.deliveries.insert? d = some w'.db.deliveries)
      (happrovals : ApprovalsKept w.db w'.db)
  | changed (d d' : Delivery) (hset : w'.db.deliveries = w.db.deliveries.set d')
      (hget : w.db.deliveries.get? d.missionId = some d) (hid : d'.missionId = d.missionId)
      (hfollows : Follows w d d') (hsound : Sound w.db d → Sound w'.db d')
      (happrovals : ApprovalsKept w.db w'.db)

variable {self : DeliveryService} {w w' : World} {db : Database} {d d' : Delivery}

lemma ApprovalsKept.of_eq {db db' : Database} (h : db'.approvals = db.approvals) :
    ApprovalsKept db db' := by
  intro reference a ha
  exact ⟨a, h ▸ ha, rfl, rfl⟩

lemma Sound.kept {db' : Database} (hs : Sound db d) (h : ApprovalsKept db db') : Sound db' d := by
  refine ⟨hs.published, hs.deployed, hs.rolledBack, fun hstage => ?_⟩
  obtain ⟨hqa, reference, a, href, ha, hmission, htarget⟩ := hs.waiting hstage
  obtain ⟨a', ha', hmission', htarget'⟩ := h reference a ha
  exact ⟨hqa, reference, a', href, ha', hmission'.trans hmission, htarget'.trans htarget⟩

/-- A delivery that does not wait is sound once its identities are. -/
lemma Sound.of_identities {db' : Database} (hs : Sound db d) (hpub : d'.publication = d.publication)
    (hdep : d'.deployment = d.deployment) (hroll : d'.rollback = d.rollback)
    (hwaiting : d'.stage = .waitingApproval → d'.qaResult = some .passed ∧
      ∃ reference approval, d'.approvalReference = some reference ∧
        db'.approvals.get? reference = some approval ∧ approval.missionId = d'.missionId ∧
        approval.target = d'.changeRef) : Sound db' d' := by
  have hpub' := hpub
  have hdep' := hdep
  have hroll' := hroll
  simp only [Delivery.publication, Delivery.deployment, Delivery.rollback, Prod.mk.injEq] at hpub' hdep' hroll'
  refine ⟨hpub ▸ hs.published, ?_, ?_, hwaiting⟩
  · rw [hdep, hdep'.1, hdep'.2.2, hpub'.1]
    exact hs.deployed
  · rw [hroll, hdep'.1, hdep'.2.1]
    exact hs.rolledBack

lemma effect_refl (w : World) : Effect w w := .same rfl (.of_eq rfl)

lemma effect_transaction {α : Type} {n : ℕ}
    {f : Moment → Database → Except PyError (α × Database)} {ev : Except PyError α → Event}
    (hok : ∀ a db', f w.moment w.db = .ok (a, db') → Effect w (w.commit n db')) :
    Effect w ((Py.transaction n f ev).run w).2 := by
  rw [Py.run_transaction]
  split
  · next a db' hf => exact hok a db' hf
  · exact effect_refl w

/-- What is checked before a transaction changes nothing. -/
lemma effect_guard {α β : Type} {x : Except PyError β} {p : Py α} (hp : Effect w (p.run w).2) :
    Effect w ((Py.lift x >>= fun _ => p).run w).2 := by
  rw [Py.run_lift_bind]
  cases x with
  | ok b => exact hp
  | error e => exact effect_refl w

section Transactions

variable {n : ℕ} {missionId changeRef : String}

lemma get?_of_get? (hget : db.deliveries.get? missionId = some d) :
    db.deliveries.get? d.missionId = some d := by
  have hk : d.missionId = missionId := Table.key_of_get? hget
  rw [hk, hget]

lemma effect_submit {summary : String} {changedFiles : List Json} {evidence : Dict}
    (h : submitDeveloperProposalTx missionId changeRef summary changedFiles evidence w.db
      = .ok (d, db)) : Effect w (w.commit n db) := by
  obtain ⟨mission, deliveries, -, -, rfl, hinsert, rfl⟩ := submitDeveloperProposalTx_eq_ok h
  exact .proposed _ ⟨rfl, rfl, rfl⟩ rfl hinsert (.of_eq rfl)

lemma effect_recordQaResult {result : QAResult} {evidence : Dict}
    (h : self.recordQaResultTx missionId changeRef result evidence w.moment w.db = .ok (d', db)) :
    Effect w (w.commit n db) := by
  obtain ⟨mission, d, hm, hd, -, hcases⟩ := recordQaResultTx_eq_ok h
  have hget := get?_of_get? hd
  rcases hcases with ⟨-, rfl, rfl⟩ | ⟨approval, approvals, -, -, hmission, htarget, hinsert, rfl, rfl⟩
  · refine .changed d _ rfl hget rfl ⟨.inl rfl, .inl rfl, .inl rfl⟩ (fun hs => ?_) (.of_eq rfl)
    exact hs.of_identities rfl rfl rfl (by simp)
  · have hkept : ApprovalsKept w.db { w.db with
        missions := w.db.missions.set { mission with
          status := .waitingApproval
          approvalReferences := mission.approvalReferences ++
            [approvalEntry approval.id d.changeRef] }
        deliveries := w.db.deliveries.set { d with
          qaResult := some .passed, qaEvidence := some evidence, stage := .waitingApproval,
          approvalReference := some approval.id }
        approvals } := fun reference a ha =>
      ⟨a, Table.get?_insert?_of_some hinsert ha, rfl, rfl⟩
    refine .changed d _ rfl hget rfl ⟨.inl rfl, .inl rfl, .inl rfl⟩ (fun hs => ?_) hkept
    refine hs.of_identities rfl rfl rfl fun _ => ⟨rfl, approval.id, approval, rfl, ?_, ?_, htarget⟩
    · exact Table.get?_insert?_self hinsert
    · rw [hmission]
      exact (Table.key_of_get? hm).trans (Table.key_of_get? hd).symm

lemma effect_recordPublication {branchName commitSha treeSha : String}
    (h : recordPublicationTx missionId changeRef branchName commitSha treeSha w.moment w.db
      = .ok (d', db)) : Effect w (w.commit n db) := by
  obtain ⟨d, hd, hauthorized, ⟨rfl, rfl⟩ | ⟨hnone, rfl, rfl⟩⟩ := recordPublicationTx_eq_ok h
  · exact .same rfl (.of_eq rfl)
  · refine .changed d _ rfl (get?_of_get? hd) rfl ⟨.inr ⟨hnone, hauthorized⟩, .inl rfl, .inl rfl⟩
      (fun hs => ⟨.inr ⟨branchName, commitSha, treeSha, _, rfl⟩, ?_, hs.rolledBack, hs.waiting⟩)
      (.of_eq rfl)
    rcases hs.deployed with hdep | ⟨release, at_, hrelease, hat, -⟩
    · exact .inl hdep
    · exact .inr ⟨release, at_, hrelease, hat, by simp⟩

lemma effect_recordDeployment {releaseId : String} {priorReleaseId : Option String}
    (h : recordDeploymentTx missionId changeRef releaseId priorReleaseId w.moment w.db
      = .ok (d', db)) : Effect w (w.commit n db) := by
  obtain ⟨d, hd, hauthorized, ⟨rfl, rfl⟩ | ⟨hpublished, hnone, -, rfl, rfl⟩⟩ :=
    recordDeploymentTx_eq_ok h
  · exact .same rfl (.of_eq rfl)
  · refine .changed d _ rfl (get?_of_get? hd) rfl ⟨.inl rfl, .inr ⟨hnone, hauthorized⟩, .inl rfl⟩
      (fun hs => ⟨hs.published, .inr ⟨releaseId, _, rfl, rfl, hpublished⟩, ?_, hs.waiting⟩)
      (.of_eq rfl)
    rcases hs.rolledBack with hroll | ⟨release, at_, -, hdep, -⟩
    · exact .inl hroll
    · exact absurd hnone hdep

lemma effect_recordRollback {releaseId : String}
    (h : recordRollbackTx missionId changeRef releaseId w.moment w.db = .ok (d', db)) :
    Effect w (w.commit n db) := by
  obtain ⟨d, hd, hauthorized, ⟨rfl, rfl⟩ | ⟨hdeployed, hprior, hnone, -, rfl, rfl⟩⟩ :=
    recordRollbackTx_eq_ok h
  · exact .same rfl (.of_eq rfl)
  · exact .changed d _ rfl (get?_of_get? hd) rfl ⟨.inl rfl, .inl rfl, .inr ⟨hnone, hauthorized⟩⟩
      (fun hs => ⟨hs.published, hs.deployed, .inr ⟨releaseId, _, rfl, hdeployed, hprior⟩,
        hs.waiting⟩) (.of_eq rfl)

lemma effect_applyHumanDecision {approvalReference : String}
    (h : applyHumanDecisionTx missionId approvalReference changeRef w.moment w.db = .ok (d', db)) :
    Effect w (w.commit n db) := by
  rcases applyHumanDecisionTx_eq_ok h with rfl | ⟨mission, d, hrejected, rfl, rfl⟩
  · exact .same rfl (.of_eq rfl)
  · refine .changed d _ rfl (get?_of_get? hrejected.rows.2) rfl ⟨.inl rfl, .inl rfl, .inl rfl⟩
      (fun hs => ?_) (.of_eq rfl)
    exact hs.of_identities rfl rfl rfl (by simp)

end Transactions

lemma effect_op (o : Op) : Effect w ((o.code self).run w).2 := by
  cases o with
  | getDelivery missionId =>
    rw [Op.code, getDelivery, Py.query, Py.session]
    apply effect_transaction
    intro d db h
    obtain ⟨d, -, h⟩ := Py.map_eq_ok.mp h
    cases h
    exact .same rfl (.of_eq rfl)
  | submitDeveloperProposal =>
    exact effect_guard (effect_guard (effect_transaction fun _ _ => effect_submit))
  | recordQaResult =>
    rw [Op.code, recordQaResult]
    exact effect_transaction fun _ _ => effect_recordQaResult
  | recordPublication =>
    exact effect_guard (effect_guard (effect_guard
      (effect_transaction fun _ _ => effect_recordPublication)))
  | recordDeployment =>
    exact effect_guard (effect_guard (effect_transaction fun _ _ => effect_recordDeployment))
  | recordRollback => exact effect_guard (effect_transaction fun _ _ => effect_recordRollback)
  | applyHumanDecision =>
    rw [Op.code, applyHumanDecision, Py.session]
    exact effect_transaction fun _ _ => effect_applyHumanDecision

lemma Step.effect (hs : Step self w w') : Effect w w' := by
  cases hs with
  | op o => exact effect_op o
  | decide requestId decision =>
    rw [ApprovalService.decide, Py.session]
    apply effect_transaction
    intro request db h
    obtain ⟨-, old, hold, -, rfl, rfl⟩ := ApprovalService.decideTx_eq_ok h
    refine .same rfl fun reference a ha => ?_
    obtain rfl : old.id = requestId := Table.key_of_get? hold
    by_cases hk : reference = old.id
    · subst hk
      cases hold.symm.trans ha
      let decided : ApprovalRequest :=
        { old with state := decision, decidedAt := some w.moment.now }
      exact ⟨decided, Table.get?_set_self (r := decided) hold, rfl, rfl⟩
    · exact ⟨a, (Table.get?_set_ne hk).trans ha, rfl, rfl⟩
  | elapse hdeliveries happrovals => exact .same hdeliveries (.of_eq happrovals)

/-! ### Every sequence of steps -/

/-- A step keeps every delivery sound. -/
lemma Effect.sound (he : Effect w w') (hs : ∀ d ∈ w.db.deliveries.rows, Sound w.db d) :
    ∀ d ∈ w'.db.deliveries.rows, Sound w'.db d := by
  intro x hx
  cases he with
  | same hdeliveries happrovals =>
    rw [hdeliveries] at hx
    exact (hs x hx).kept happrovals
  | proposed d hblank hstage hinsert happrovals =>
    rw [(Table.insert?_eq_some hinsert).2, List.mem_append, List.mem_singleton] at hx
    rcases hx with hx | rfl
    · exact (hs x hx).kept happrovals
    · refine ⟨.inl hblank.published, .inl hblank.deployed, .inl hblank.rolledBack, ?_⟩
      simp [hstage]
  | changed d d' hset hget hid hfollows hsound happrovals =>
    rw [hset, Table.mem_set] at hx
    rcases hx with ⟨rfl, -⟩ | ⟨hx, -⟩
    · exact hsound (hs d (Table.mem_of_get? hget))
    · exact (hs x hx).kept happrovals

/-- A delivery is still there after a step, and follows from what it was. -/
lemma Effect.follows (he : Effect w w') {missionId : String}
    (hd : w.db.deliveries.get? missionId = some d) :
    ∃ d', w'.db.deliveries.get? missionId = some d' ∧ Follows w d d' := by
  cases he with
  | same hdeliveries _ => exact ⟨d, hdeliveries ▸ hd, .refl w d⟩
  | proposed _ _ _ hinsert _ => exact ⟨d, Table.get?_insert?_of_some hinsert hd, .refl w d⟩
  | changed e e' hset hget hid hfollows _ _ =>
    rw [hset]
    by_cases hk : missionId = key e'
    · subst hk
      have hget' : w.db.deliveries.get? (key e') = some e := by
        rw [key_delivery, hid, hget]
      cases hget'.symm.trans hd
      exact ⟨e', Table.get?_set_self hget', hfollows⟩
    · exact ⟨d, (Table.get?_set_ne hk).trans hd, .refl w d⟩

/-- A delivery that was not there before a step has nothing recorded. -/
lemma Effect.blank (he : Effect w w') {missionId : String}
    (hnone : w.db.deliveries.get? missionId = none)
    (hd : w'.db.deliveries.get? missionId = some d) : Blank d := by
  cases he with
  | same hdeliveries _ =>
    rw [hdeliveries, hnone] at hd
    cases hd
  | proposed e hblank _ hinsert _ =>
    by_cases hk : missionId = key e
    · subst hk
      cases (Table.get?_insert?_self hinsert).symm.trans hd
      exact hblank
    · rw [Table.get?_insert?_ne hinsert hk, hnone] at hd
      cases hd
  | changed e e' hset hget hid _ _ _ =>
    rw [hset] at hd
    rcases Table.get?_set hd with ⟨rfl, rfl⟩ | ⟨hd, -⟩
    · rw [key_delivery, hid, hget] at hnone
      cases hnone
    · rw [hnone] at hd
      cases hd

/-- A transaction after its checks raises, or has its result. -/
lemma run_guard {α β : Type} {x : Except PyError β} {p : Py α} {P : Except PyError α × World → Prop}
    (herr : ∀ e, P (.error e, w)) (hp : P (p.run w)) :
    P ((Py.lift x >>= fun _ => p).run w) := by
  rw [Py.run_lift_bind]
  cases x with
  | ok b => exact hp
  | error e => exact herr e

lemma run_session {f : Moment → Database → Except PyError (Delivery × Database)}
    (hf : ∀ d' db', f w.moment w.db = .ok (d', db') → d' = d ∧ db' = w.db) :
    (∃ e, (Py.session f).run w = (.error e, w)) ∨ (Py.session f).run w = (.ok d, w) := by
  rw [Py.session, Py.run_transaction]
  cases hr : f w.moment w.db with
  | error e => exact .inl ⟨e, rfl⟩
  | ok r =>
    obtain ⟨d', db'⟩ := r
    obtain ⟨rfl, rfl⟩ := hf d' db' hr
    exact .inr rfl

/-- To record again what is recorded returns the stored delivery or raises, and changes
nothing. -/
lemma run_of_replays {o : Op} (hd : w.db.deliveries.get? d.missionId = some d)
    (ho : Replays d o) :
    (∃ e, (o.code self).run w = (.error e, w)) ∨ (o.code self).run w = (.ok d, w) := by
  have hguard {p : Py Delivery} {β : Type} {x : Except PyError β}
      (hp : (∃ e, p.run w = (.error e, w)) ∨ p.run w = (.ok d, w)) :=
    run_guard (x := x) (P := fun r => (∃ e, r = (.error e, w)) ∨ r = (.ok d, w))
      (fun e => .inl ⟨e, rfl⟩) hp
  cases o with
  | recordPublication missionId changeRef branchName commitSha treeSha =>
    obtain ⟨rfl, hset⟩ := ho
    refine hguard (hguard (hguard (run_session fun d' db' h => ?_)))
    obtain ⟨old, hold, -, hcases⟩ := recordPublicationTx_eq_ok h
    cases hd.symm.trans hold
    exact hcases.elim id fun h => absurd h.1 hset
  | recordDeployment missionId changeRef releaseId priorReleaseId =>
    obtain ⟨rfl, hset⟩ := ho
    refine hguard (hguard (run_session fun d' db' h => ?_))
    obtain ⟨old, hold, -, hcases⟩ := recordDeploymentTx_eq_ok h
    cases hd.symm.trans hold
    exact hcases.elim id fun h => absurd h.2.1 hset
  | recordRollback missionId changeRef releaseId =>
    obtain ⟨rfl, hset⟩ := ho
    refine hguard (run_session fun d' db' h => ?_)
    obtain ⟨old, hold, -, hcases⟩ := recordRollbackTx_eq_ok h
    cases hd.symm.trans hold
    exact hcases.elim id fun h => absurd h.2.2.1 hset
  | getDelivery | submitDeveloperProposal | recordQaResult | applyHumanDecision => exact ho.elim

lemma sound_of_run {w₀ : World} (h₀ : w₀.db.deliveries.rows = [])
    (hr : Relation.ReflTransGen (Step self) w₀ w) : ∀ d ∈ w.db.deliveries.rows, Sound w.db d := by
  induction hr with
  | refl => simp [h₀]
  | tail _ hs ih => exact hs.effect.sound ih

/-- The record of a delivery: in every state that operations, decisions and the passing of time
reach from one without deliveries, every delivery is sound; a further step keeps every identity
that is recorded, records one only under an approval in force, and records nothing on a new
delivery; and recording again what is recorded returns the stored delivery or raises. -/
theorem delivery_record {w₀ : World} (h₀ : w₀.db.deliveries.rows = [])
    (hr : Relation.ReflTransGen (Step self) w₀ w) :
    (∀ d ∈ w.db.deliveries.rows, Sound w.db d) ∧
    (∀ w', Step self w w' → ∀ missionId,
      (∀ d, w.db.deliveries.get? missionId = some d →
        ∃ d', w'.db.deliveries.get? missionId = some d' ∧ Follows w d d') ∧
      (∀ d', w.db.deliveries.get? missionId = none →
        w'.db.deliveries.get? missionId = some d' → Blank d')) ∧
    ∀ o d, w.db.deliveries.get? d.missionId = some d → Replays d o →
      (∃ e, (o.code self).run w = (.error e, w)) ∨ (o.code self).run w = (.ok d, w) := by
  have hsound := sound_of_run h₀ hr
  refine ⟨hsound, fun w' hs missionId => ⟨fun d hd => ?_, fun d' hnone hd => ?_⟩, ?_⟩
  · exact hs.effect.follows hd
  · exact hs.effect.blank hnone hd
  · intro o d hd ho
    exact run_of_replays hd ho

/-! ### A change that is released and rolled back -/

/-- The world after operations one after the other. -/
def perform (self : DeliveryService) (w : World) (ops : List Op) : World :=
  ops.foldl (fun w o => ((o.code self).run w).2) w

lemma run_perform (ops : List Op) : Relation.ReflTransGen (Step self) w (perform self w ops) := by
  induction ops generalizing w with
  | nil => exact .refl
  | cons o ops ih => exact .head (.op o) ih

def service : DeliveryService := ⟨⟨id⟩⟩

def proposedWorld : World where
  db :=
    { missions := ⟨[
        { id := "change", title := "Code change: ai-hq", description := "fix",
          ownerAgent := "developer", source := "hq_chat_code_change", createdAt := 0 }], by simp⟩ }

def reviewed : World :=
  perform service proposedWorld
    [.submitDeveloperProposal "change" "change-1" "fix" [] [],
      .recordQaResult "change" "change-1" .passed []]

def approved : World := ((ApprovalService.decide "0" .approved).run reviewed).2

def rolledBack : World :=
  perform service approved
    [.recordPublication "change" "change-1" "ai-hq/candidate/change"
        "0123456789abcdef0123456789abcdef01234567" "89abcdef0123456789abcdef0123456789abcdef",
      .recordDeployment "change" "change-1" "release-2" (some "release-1"),
      .recordRollback "change" "change-1" "release-1"]

theorem delivery_record_rolledBack :
    ∃ d ∈ rolledBack.db.deliveries.rows, d.rollback = (some "release-1", some 0) ∧
      Sound rolledBack.db d := by
  have hr : Relation.ReflTransGen (Step service) proposedWorld rolledBack :=
    ((run_perform _).tail (.decide "0" .approved)).trans (run_perform _)
  obtain ⟨hsound, -⟩ := delivery_record rfl hr
  exact ⟨_, .head [], rfl, hsound _ (.head [])⟩

end Record
end AiHq
