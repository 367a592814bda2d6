import AiHq.CodeChanges.Releases
import AiHq.Delivery.Record

/-!
# What lasts of a delivery

A delivery that waits under a granted approval goes on waiting under it, and the release that it
records stays. While collaborators report to calls, what a delivery comes to record is accounted
for by what they have reported.
-/

namespace AiHq

open Concurrent Relational DeliveryService

namespace Custody

/-! ### What lasts -/

/-- QA has passed the delivery, and it waits under a granted approval of its change. -/
structure Granted (db : Database) (d : Delivery) : Prop where
  stage : d.stage = .waitingApproval
  passed : d.qaResult = some .passed
  approval : ∃ reference a, d.approvalReference = some reference ∧
    db.approvals.get? reference = some a ∧ a.missionId = d.missionId ∧ a.target = d.changeRef ∧
    a.state = .approved

/-- What a delivery keeps, whatever is done next. -/
structure Continues (d d' : Delivery) : Prop where
  changeRef_eq : d'.changeRef = d.changeRef
  changedFiles_eq : d'.changedFiles = d.changedFiles
  evidence_eq : d'.developerEvidence = d.developerEvidence
  publication_eq : d.publishedBranch ≠ none → d'.publication = d.publication
  deployment_eq : d.deploymentReleaseId ≠ none → d'.deployment = d.deployment
  rollback_eq : d.rollbackReleaseId ≠ none → d'.rollback = d.rollback

lemma Continues.refl (d : Delivery) : Continues d d :=
  ⟨rfl, rfl, rfl, fun _ => rfl, fun _ => rfl, fun _ => rfl⟩

lemma Continues.trans {d d' d'' : Delivery} (h : Continues d d') (h' : Continues d' d'') :
    Continues d d'' := by
  refine ⟨h'.changeRef_eq.trans h.changeRef_eq, h'.changedFiles_eq.trans h.changedFiles_eq,
    h'.evidence_eq.trans h.evidence_eq, fun hne => ?_, fun hne => ?_, fun hne => ?_⟩
  · have heq := h.publication_eq hne
    have hfirst : d'.publishedBranch = d.publishedBranch := congrArg Prod.fst heq
    exact (h'.publication_eq (hfirst ▸ hne)).trans heq
  · have heq := h.deployment_eq hne
    have hfirst : d'.deploymentReleaseId = d.deploymentReleaseId := congrArg Prod.fst heq
    exact (h'.deployment_eq (hfirst ▸ hne)).trans heq
  · have heq := h.rollback_eq hne
    have hfirst : d'.rollbackReleaseId = d.rollbackReleaseId := congrArg Prod.fst heq
    exact (h'.rollback_eq (hfirst ▸ hne)).trans heq

/-- Deliveries continue, and those that wait under a granted approval go on waiting under it. -/
def Lasts (db db' : Database) : Prop :=
  Table.Keeps (fun d d' => Continues d d' ∧ (Granted db d → Granted db' d')) db.deliveries
    db'.deliveries

/-- Granted approvals stay as they are. -/
def GrantsKept (db db' : Database) : Prop :=
  ∀ reference a, db.approvals.get? reference = some a → a.state = .approved →
    db'.approvals.get? reference = some a

variable {db db' db'' : Database} {d d' : Delivery} {missionId changeRef : String}

lemma Granted.kept (h : Granted db d) (hgrants : GrantsKept db db') : Granted db' d := by
  obtain ⟨reference, a, href, ha, hmission, htarget, hstate⟩ := h.approval
  exact ⟨h.stage, h.passed, reference, a, href, hgrants reference a ha hstate, hmission, htarget,
    hstate⟩

lemma Lasts.trans (h : Lasts db db') (h' : Lasts db' db'') : Lasts db db'' := by
  intro id d hd
  obtain ⟨d', hd', hcontinues, hgranted⟩ := h id d hd
  obtain ⟨d'', hd'', hcontinues', hgranted'⟩ := h' id d' hd'
  exact ⟨d'', hd'', hcontinues.trans hcontinues', fun hg => hgranted' (hgranted hg)⟩

/-! ### What is recorded -/

/-- The publication that the delivery records has been reported. -/
def PublishedBy (shown : ReleaseEvent → Prop) (id : String) (d : Delivery) : Prop :=
  ∃ candidate report, shown (.publish id candidate (.ok report)) ∧
    report.changeRef = d.changeRef ∧ d.publishedBranch = some report.branchName ∧
    d.publishedCommit = some report.commitSha ∧ d.publishedTree = some report.treeSha

/-- The deployment that the delivery records has been reported, for the publication that it
records. -/
def DeployedBy (shown : ReleaseEvent → Prop) (id : String) (d : Delivery) : Prop :=
  ∃ candidate report, shown (.deploy id candidate (.ok report)) ∧
    report.changeRef = d.changeRef ∧ d.deploymentReleaseId = some report.releaseId ∧
    d.deploymentPriorReleaseId = report.priorReleaseId ∧ candidate.changeRef = d.changeRef ∧
    d.publishedBranch.map strip = some candidate.branchName ∧
    d.publishedCommit = some candidate.commitSha ∧ d.publishedTree = some candidate.treeSha

/-- The rollback that the delivery records has been reported, to the prior release that it
records. -/
def RolledBackBy (shown : ReleaseEvent → Prop) (id : String) (d : Delivery) : Prop :=
  ∃ target report, shown (.rollback id target report.releaseId (.ok report)) ∧
    report.changeRef = d.changeRef ∧ target.changeRef = d.changeRef ∧
    d.rollbackReleaseId = some report.releaseId ∧ d.deploymentReleaseId ≠ none ∧
    d.deploymentPriorReleaseId = some report.releaseId

/-- The identity `f` is empty, or `By` accounts for it, or it is as it was. -/
def From {β : Type} (f : Delivery → Option String × β) (By : Delivery → Prop) (db : Database)
    (id : String) (d' : Delivery) : Prop :=
  (f d').1 = none ∨ By d' ∨ ∃ d, db.deliveries.get? id = some d ∧ f d = f d'

/-- Every identity that a delivery has come to record has been reported by a collaborator. -/
structure Accounted (shown : ReleaseEvent → Prop) (db : Database) (id : String) (d' : Delivery) :
    Prop where
  published : From Delivery.publication (PublishedBy shown id) db id d'
  deployed : From Delivery.deployment (DeployedBy shown id) db id d'
  rolledBack : From Delivery.rollback (RolledBackBy shown id) db id d'

/-- How the deliveries go on while `shown` is shown. -/
structure Goes (shown : ReleaseEvent → Prop) (db db' : Database) : Prop where
  lasts : Lasts db db'
  accounted : ∀ id d', db'.deliveries.get? id = some d' → Accounted shown db id d'

variable {shown shown' : ReleaseEvent → Prop} {id : String}

lemma PublishedBy.mono (h : PublishedBy shown id d) (hshown : ∀ e, shown e → shown' e) :
    PublishedBy shown' id d := by
  obtain ⟨candidate, report, hreport, hrest⟩ := h
  exact ⟨candidate, report, hshown _ hreport, hrest⟩

lemma DeployedBy.mono (h : DeployedBy shown id d) (hshown : ∀ e, shown e → shown' e) :
    DeployedBy shown' id d := by
  obtain ⟨candidate, report, hreport, hrest⟩ := h
  exact ⟨candidate, report, hshown _ hreport, hrest⟩

lemma RolledBackBy.mono (h : RolledBackBy shown id d) (hshown : ∀ e, shown e → shown' e) :
    RolledBackBy shown' id d := by
  obtain ⟨target, report, hreport, hrest⟩ := h
  exact ⟨target, report, hshown _ hreport, hrest⟩

lemma PublishedBy.continues (h : PublishedBy shown id d) (hc : Continues d d') :
    PublishedBy shown id d' := by
  obtain ⟨candidate, report, hreport, hchange, hbranch, hcommit, htree⟩ := h
  have hpub := hc.publication_eq (by rw [hbranch]; simp)
  simp only [Delivery.publication, Prod.mk.injEq] at hpub
  exact ⟨candidate, report, hreport, hchange.trans hc.changeRef_eq.symm, hpub.1.trans hbranch,
    hpub.2.1.trans hcommit, hpub.2.2.1.trans htree⟩

lemma DeployedBy.continues (h : DeployedBy shown id d) (hc : Continues d d') :
    DeployedBy shown id d' := by
  obtain ⟨candidate, report, hreport, hchange, hrelease, hprior, hfor, hbranch, hcommit, htree⟩ := h
  have hdep := hc.deployment_eq (by rw [hrelease]; simp)
  have hpub := hc.publication_eq (by rintro hnone; simp [hnone] at hbranch)
  simp only [Delivery.deployment, Delivery.publication, Prod.mk.injEq] at hdep hpub
  refine ⟨candidate, report, hreport, hchange.trans hc.changeRef_eq.symm, hdep.1.trans hrelease,
    hdep.2.1.trans hprior, hfor.trans hc.changeRef_eq.symm, ?_, hpub.2.1.trans hcommit,
    hpub.2.2.1.trans htree⟩
  rw [hpub.1]
  exact hbranch

lemma RolledBackBy.continues (h : RolledBackBy shown id d) (hc : Continues d d') :
    RolledBackBy shown id d' := by
  obtain ⟨target, report, hreport, hchange, hfor, hrollback, hdeployed, hprior⟩ := h
  have hroll := hc.rollback_eq (by rw [hrollback]; simp)
  have hdep := hc.deployment_eq hdeployed
  simp only [Delivery.rollback, Delivery.deployment, Prod.mk.injEq] at hroll hdep
  exact ⟨target, report, hreport, hchange.trans hc.changeRef_eq.symm,
    hfor.trans hc.changeRef_eq.symm, hroll.1.trans hrollback, hdep.1 ▸ hdeployed,
    hdep.2.1.trans hprior⟩

/-- A delivery that stays as it is. -/
lemma accounted_self (hd : db.deliveries.get? id = some d) : Accounted shown db id d :=
  ⟨.inr (.inr ⟨d, hd, rfl⟩), .inr (.inr ⟨d, hd, rfl⟩), .inr (.inr ⟨d, hd, rfl⟩)⟩

lemma From.mono {β : Type} {f : Delivery → Option String × β} {By By' : Delivery → Prop}
    (h : From f By db id d) (hby : By d → By' d) : From f By' db id d :=
  h.imp_right (.imp_left hby)

/-- What is accounted for on the way is accounted for. -/
lemma From.trans {β : Type} {f : Delivery → Option String × β} {By : Delivery → Prop}
    (h' : From f By db' id d') (h : ∀ d, db'.deliveries.get? id = some d → From f By db id d)
    (hby : ∀ d, db'.deliveries.get? id = some d → By d → By d') : From f By db id d' := by
  obtain hnone | hby' | ⟨d, hd, heq⟩ := h'
  · exact .inl hnone
  · exact .inr (.inl hby')
  · obtain hnone | hd' | ⟨d₀, hd₀, heq₀⟩ := h d hd
    · exact .inl ((congrArg Prod.fst heq).symm.trans hnone)
    · exact .inr (.inl (hby d hd hd'))
    · exact .inr (.inr ⟨d₀, hd₀, heq₀.trans heq⟩)

lemma Accounted.mono (h : Accounted shown db id d) (hshown : ∀ e, shown e → shown' e) :
    Accounted shown' db id d :=
  ⟨h.published.mono (·.mono hshown), h.deployed.mono (·.mono hshown),
    h.rolledBack.mono (·.mono hshown)⟩

lemma Goes.mono (h : Goes shown db db') (hshown : ∀ e, shown e → shown' e) : Goes shown' db db' :=
  ⟨h.lasts, fun id d' hd' => (h.accounted id d' hd').mono hshown⟩

lemma Goes.trans (h : Goes shown db db') (h' : Goes shown db' db'') : Goes shown db db'' := by
  refine ⟨h.lasts.trans h'.lasts, fun id d'' hd'' => ?_⟩
  have hlast := h'.accounted id d'' hd''
  have hcontinues : ∀ d, db'.deliveries.get? id = some d → Continues d d'' := by
    intro d hd
    obtain ⟨x, hx, hcontinues, -⟩ := h'.lasts id d hd
    cases hx.symm.trans hd''
    exact hcontinues
  exact ⟨hlast.published.trans (fun d hd => (h.accounted id d hd).published)
      fun d hd hby => hby.continues (hcontinues d hd),
    hlast.deployed.trans (fun d hd => (h.accounted id d hd).deployed)
      fun d hd hby => hby.continues (hcontinues d hd),
    hlast.rolledBack.trans (fun d hd => (h.accounted id d hd).rolledBack)
      fun d hd hby => hby.continues (hcontinues d hd)⟩

/-- The deliveries stay, and granted approvals do. -/
lemma Goes.of_eq (hdeliveries : db'.deliveries = db.deliveries) (hgrants : GrantsKept db db') :
    Goes shown db db' := by
  refine ⟨fun id d hd => ?_, fun id d' hd' => ?_⟩
  · rw [hdeliveries]
    exact ⟨d, hd, .refl d, fun hg => hg.kept hgrants⟩
  · rw [hdeliveries] at hd'
    exact accounted_self hd'

lemma Goes.refl (db : Database) : Goes shown db db := .of_eq rfl fun _ _ ha _ => ha

/-- One delivery is replaced. -/
lemma Goes.of_set (hd : db.deliveries.get? missionId = some d)
    (hset : db'.deliveries = db.deliveries.set d') (hid : d'.missionId = d.missionId)
    (hgrants : GrantsKept db db') (hcontinues : Continues d d')
    (hgranted : Granted db d → Granted db' d') (haccounted : Accounted shown db missionId d') :
    Goes shown db db' := by
  obtain rfl : d.missionId = missionId := Table.key_of_get? hd
  have hkey : db.deliveries.get? (key d') = some d := by
    show db.deliveries.get? d'.missionId = some d
    rw [hid]
    exact hd
  have hkey' : key d' = d.missionId := hid
  refine ⟨fun id x hx => ?_, fun id x hx => ?_⟩
  · rw [hset]
    by_cases hk : id = key d'
    · subst hk
      rw [hkey] at hx
      cases hx
      exact ⟨d', Table.get?_set_self hkey, hcontinues, hgranted⟩
    · exact ⟨x, (Table.get?_set_ne hk).trans hx, .refl x, fun hg => hg.kept hgrants⟩
  · rw [hset] at hx
    obtain ⟨rfl, rfl⟩ | ⟨hx, -⟩ := Table.get?_set hx
    · rw [hkey']
      exact haccounted
    · exact accounted_self hx

/-- One delivery comes, on which nothing is recorded. -/
lemma Goes.of_insert (hblank : Record.Blank d)
    (hinsert : db.deliveries.insert? d = some db'.deliveries) (hgrants : GrantsKept db db') :
    Goes shown db db' := by
  refine ⟨fun id x hx => ?_, fun id x hx => ?_⟩
  · exact ⟨x, Table.get?_insert?_of_some hinsert hx, .refl x, fun hg => hg.kept hgrants⟩
  · by_cases hk : id = key d
    · subst hk
      rw [Table.get?_insert?_self hinsert] at hx
      cases hx
      exact ⟨.inl (congrArg Prod.fst hblank.published), .inl (congrArg Prod.fst hblank.deployed),
        .inl (congrArg Prod.fst hblank.rolledBack)⟩
    · rw [Table.get?_insert?_ne hinsert hk] at hx
      exact accounted_self hx

/-! ### What others do -/

section Transactions

variable {service : DeliveryService} {m : Moment} {w w' : World}

/-- Nothing that a delivery records changes. -/
lemma accounted_of_set (hd : db.deliveries.get? missionId = some d)
    (hpub : d'.publication = d.publication) (hdep : d'.deployment = d.deployment)
    (hroll : d'.rollback = d.rollback) : Accounted shown db missionId d' :=
  ⟨.inr (.inr ⟨d, hd, hpub.symm⟩), .inr (.inr ⟨d, hd, hdep.symm⟩),
    .inr (.inr ⟨d, hd, hroll.symm⟩)⟩

lemma goes_recordQaResult {qa : QAResult} {evidence : Dict}
    (h : service.recordQaResultTx missionId changeRef qa evidence m db = .ok (d', db')) :
    Goes shown db db' := by
  obtain ⟨mission, d, -, hd, hstage, hcases⟩ := recordQaResultTx_eq_ok h
  have hnot : ¬Granted db d := fun hg => by simp [hg.stage] at hstage
  obtain ⟨-, rfl, rfl⟩ | ⟨approval, approvals, -, -, -, -, hinsert, rfl, rfl⟩ := hcases
  · exact .of_set hd rfl rfl (fun _ _ ha _ => ha)
      ⟨rfl, rfl, rfl, fun _ => rfl, fun _ => rfl, fun _ => rfl⟩ (fun hg => absurd hg hnot)
      (accounted_of_set hd rfl rfl rfl)
  · exact .of_set hd rfl rfl (fun _ _ ha _ => Table.get?_insert?_of_some hinsert ha)
      ⟨rfl, rfl, rfl, fun _ => rfl, fun _ => rfl, fun _ => rfl⟩ (fun hg => absurd hg hnot)
      (accounted_of_set hd rfl rfl rfl)

/-- What is rejected is not granted. -/
lemma not_granted_of_rejected {reference : String} {now : Datetime} {mission : Mission}
    (h : Rejected missionId reference changeRef now db mission d) : ¬Granted db d := by
  intro hg
  obtain ⟨approval, hdecision, hstate⟩ := h
  simp only [decisionTx, bind_eq_ok, raiseIf_eq_ok, getDeliveryTx_eq_ok,
    ApprovalService.getRequestTx_eq_ok, not_not] at hdecision
  obtain ⟨_, -, _, -, _, -, _, href, _, -, _, happroval, _, -, _, -, _, -, _, -, heq⟩ := hdecision
  cases heq
  obtain ⟨reference', a, href', ha, -, -, hgranted⟩ := hg.approval
  rw [href] at href'
  cases href'
  rw [happroval] at ha
  cases ha
  simp [hgranted] at hstate

lemma goes_applyHumanDecision {reference : String}
    (h : applyHumanDecisionTx missionId reference changeRef m db = .ok (d', db')) :
    Goes shown db db' := by
  obtain rfl | ⟨mission, d, hrejected, rfl, rfl⟩ := applyHumanDecisionTx_eq_ok h
  · exact .refl _
  · have hd := hrejected.rows.2
    exact .of_set hd rfl rfl (fun _ _ ha _ => ha)
      ⟨rfl, rfl, rfl, fun _ => rfl, fun _ => rfl, fun _ => rfl⟩
      (fun hg => absurd hg (not_granted_of_rejected hrejected)) (accounted_of_set hd rfl rfl rfl)

lemma goes_submit {summary : String} {changedFiles : List Json} {evidence : Dict}
    (h : submitDeveloperProposalTx missionId changeRef summary changedFiles evidence db
      = .ok (d', db')) : Goes shown db db' := by
  obtain ⟨mission, deliveries, -, -, rfl, hinsert, rfl⟩ := submitDeveloperProposalTx_eq_ok h
  exact .of_insert ⟨rfl, rfl, rfl⟩ hinsert fun _ _ ha _ => ha

lemma goes_transaction {α : Type} {n : ℕ}
    {f : Moment → Database → Except PyError (α × Database)} {ev : Except PyError α → Event}
    (hok : ∀ a db', f w.moment w.db = .ok (a, db') → Goes shown w.db db') :
    Goes shown w.db ((Py.transaction n f ev).run w).2.db := by
  rw [Py.run_transaction]
  split
  · next a db' hf => exact hok a db' hf
  · exact .refl _

lemma goes_guard {α β : Type} {x : Except PyError β} {p : Py α}
    (hp : Goes shown w.db (p.run w).2.db) :
    Goes shown w.db ((Py.lift x >>= fun _ => p).run w).2.db := by
  rw [Py.run_lift_bind]
  cases x with
  | ok b => exact hp
  | error e => exact .refl _

/-- An operation that records a publication, a deployment or a rollback. -/
def Recording : Record.Op → Prop
  | .recordPublication .. | .recordDeployment .. | .recordRollback .. => True
  | _ => False

/-- What happens outside the calls: an operation that records no release, a decision, or time
passes, in which anything but the deliveries and the approvals may change. -/
inductive Elsewhere (service : DeliveryService) (w : World) : World → Prop where
  | op (o : Record.Op) (ho : ¬Recording o) : Elsewhere service w ((o.code service).run w).2
  | decide (requestId : String) (decision : ApprovalState) :
      Elsewhere service w ((ApprovalService.decide requestId decision).run w).2
  | elapse {w' : World} (hdeliveries : w'.db.deliveries = w.db.deliveries)
      (happrovals : w'.db.approvals = w.db.approvals) : Elsewhere service w w'

lemma goes_elsewhere (h : Elsewhere service w w') : Goes shown w.db w'.db := by
  cases h with
  | op o ho =>
    cases o with
    | getDelivery missionId =>
      rw [Record.Op.code, getDelivery, Py.query, Py.session]
      apply goes_transaction
      intro d db h
      obtain ⟨d, -, h⟩ := Py.map_eq_ok.mp h
      cases h
      exact .refl _
    | submitDeveloperProposal =>
      exact goes_guard (goes_guard (goes_transaction fun _ _ => goes_submit))
    | recordQaResult =>
      rw [Record.Op.code, recordQaResult]
      exact goes_transaction fun _ _ => goes_recordQaResult
    | applyHumanDecision =>
      rw [Record.Op.code, applyHumanDecision, Py.session]
      exact goes_transaction fun _ _ => goes_applyHumanDecision
    | recordPublication | recordDeployment | recordRollback => exact absurd trivial ho
  | decide requestId decision =>
    rw [ApprovalService.decide, Py.session]
    apply goes_transaction
    intro request db h
    obtain ⟨-, old, hold, hpending, rfl, rfl⟩ := ApprovalService.decideTx_eq_ok h
    refine .of_eq rfl fun reference a ha hstate => ?_
    obtain rfl : old.id = requestId := Table.key_of_get? hold
    refine (Table.get?_set_ne ?_).trans ha
    -- the request that is decided was pending
    rintro rfl
    cases hold.symm.trans ha
    simp [hpending] at hstate
  | elapse hdeliveries happrovals =>
    refine .of_eq hdeliveries fun _ _ ha _ => ?_
    rw [happrovals]
    exact ha

end Transactions

end Custody
end AiHq
