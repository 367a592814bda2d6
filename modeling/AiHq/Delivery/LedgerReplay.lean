import AiHq.Delivery.Lifecycle
import AiHq.Library.EventLog

/-!
# The ledger and the status of a mission

Whether the events of a mission, folded in sequence order, tell its status, over every sequence
of operations of the mission service and of the delivery service.
-/

namespace AiHq

open Concurrent EventLog Relational

/-- `for_mission` -/
def OperationsLedger.forMissionTx (missionId : String) (db : Database) : List LedgerEvent :=
  db.ledger.filter fun event => event.missionId = missionId

namespace Replay

open Lifecycle OperationsLedger

/-- The status of MISSION_CREATED, and the `to` of MISSION_STATUS_CHANGED. -/
def toldStatus (event : LedgerEvent) : Option Json :=
  match event.eventType with
  | .missionCreated => Dict.get event.eventData "status"
  | .missionStatusChanged => Dict.get event.eventData "to"
  | _ => none

/-- The `from` of MISSION_STATUS_CHANGED. -/
def fromStatus (event : LedgerEvent) : Option (Option Json) :=
  if event.eventType = .missionStatusChanged then some (Dict.get event.eventData "from") else none

/-- The events of each mission tell its status, and each of them agrees with those before it. -/
structure Replayed (db : Database) : Prop where
  status : ∀ m ∈ db.missions.rows,
    replay toldStatus (forMissionTx m.id db) = some (.str m.status.value)
  coherent : ∀ m ∈ db.missions.rows, Coherent toldStatus (forMissionTx m.id db) fromStatus

/-- Every mission service has a ledger, and whoever else writes to it tells no status. -/
def Attached : World × Move × World → Prop
  | (_, .mission self _, _) => self.ledger = true
  | (w, .elapse, w') => ∃ events, w'.db.ledger = w.db.ledger ++ events ∧
      ∀ event ∈ events, event.eventType ≠ .missionCreated ∧
        event.eventType ≠ .missionStatusChanged
  | _ => True

def statusOf (db : Database) (missionId : String) : Option MissionStatus :=
  (db.missions.get? missionId).map Mission.status

/-- The step gives a mission another status and records no event: a claim or a proposal starts
a queued mission, QA passes, or a rejection sends a mission back that is not running. -/
def Unrecorded (w : World) : Move → Prop
  | .mission _ (.claimOldestCodeChange workerId leaseSeconds) =>
    strip workerId ≠ "" ∧ 60 ≤ leaseSeconds ∧
      (MissionService.claimCandidates w.now w.db).head?.bind (statusOf w.db) = some .queued
  | .delivery _ (.submitDeveloperProposal missionId changeRef summary _ _) =>
    strip changeRef ≠ "" ∧ strip summary ≠ "" ∧ w.db.deliveries.get? missionId = none ∧
      statusOf w.db missionId = some .queued
  | .delivery _ (.recordQaResult missionId changeRef .passed _) =>
    statusOf w.db missionId = some .running ∧ w.db.approvals.get? (w.uuids w.drawn) = none ∧
      ∃ delivery, w.db.deliveries.get? missionId = some delivery ∧ delivery.stage = .qa ∧
        delivery.changeRef = changeRef
  | .delivery _ (.applyHumanDecision missionId approvalReference changeRef) =>
    ∃ mission delivery, DeliveryService.Rejected missionId approvalReference changeRef w.now w.db
      mission delivery ∧ mission.status ≠ .running
  | _ => False

/-! ### What a step does -/

/-- What a step does to the statuses and to the ledger; it is unrecorded if `p`. -/
inductive Effect (p : Prop) (w w' : World) : Prop where
  | kept (hp : ¬p) (events : List LedgerEvent) (hledger : w'.db.ledger = w.db.ledger ++ events)
      (hsilent : ∀ event ∈ events, toldStatus event = none ∧ fromStatus event = none)
      (hstatus : ∀ id, statusOf w'.db id = statusOf w.db id)
  | recorded (hp : ¬p) (event : LedgerEvent) (status : MissionStatus)
      (hledger : w'.db.ledger = w.db.ledger ++ [event])
      (htold : toldStatus event = some (.str status.value))
      (hfrom : ∀ value, fromStatus event = some value →
        value = (statusOf w.db event.missionId).map fun s => .str s.value)
      (hstatus : ∀ id, statusOf w'.db id =
        if id = event.missionId then some status else statusOf w.db id)
  | unrecorded (hp : p) (id : String) (status status' : MissionStatus)
      (hledger : w'.db.ledger = w.db.ledger) (hold : statusOf w.db id = some status)
      (hnew : statusOf w'.db id = some status') (hne : status' ≠ status)

variable {w w' : World} {db : Database} {m m' : Mission} {n : ℕ} {p : Prop} {id : String}

lemma value_inj {s t : MissionStatus} (h : s.value = t.value) : s = t := by
  cases s <;> cases t <;> first | rfl | exact absurd h (by decide)

lemma statusOf_of_get? (hm : db.missions.get? id = some m) : statusOf db id = some m.status := by
  rw [statusOf, hm, Option.map_some]

lemma statusOf_set {db' : Database} (hset : db'.missions = db.missions.set m')
    (hm : db.missions.get? m'.id = some m) (k : String) :
    statusOf db' k = if k = m'.id then some m'.status else statusOf db k := by
  rw [statusOf, hset]
  split
  · next hk =>
    rw [hk, ← key_mission, Table.get?_set_self (hm : db.missions.get? (key m') = some m),
      Option.map_some]
  · next hk => rw [Table.get?_set_ne hk, statusOf]

lemma statusOf_insert? {db' : Database} (hinsert : db.missions.insert? m = some db'.missions)
    (k : String) : statusOf db' k = if k = m.id then some m.status else statusOf db k := by
  rw [statusOf]
  split
  · next hk => rw [hk, ← key_mission, Table.get?_insert?_self hinsert, Option.map_some]
  · next hk => rw [Table.get?_insert?_ne hinsert hk, statusOf]

lemma effect_same (hp : ¬p) (hmissions : w'.db.missions = w.db.missions)
    (hledger : w'.db.ledger = w.db.ledger) : Effect p w w' := by
  refine .kept hp [] (by rw [hledger, List.append_nil]) (by simp) fun id => ?_
  rw [statusOf, hmissions, statusOf]

/-- A row that is replaced by one of the same status. -/
lemma effect_set_same (hp : ¬p) (hset : w'.db.missions = w.db.missions.set m')
    (hm : w.db.missions.get? m'.id = some m) (hstatus : m'.status = m.status)
    (hledger : w'.db.ledger = w.db.ledger) : Effect p w w' := by
  refine .kept hp [] (by rw [hledger, List.append_nil]) (by simp) fun id => ?_
  rw [statusOf_set hset hm]
  split
  · next hid => rw [hid, statusOf_of_get? hm, hstatus]
  · rfl

/-- A row that is replaced by one of another status, with no event. -/
lemma effect_set_other (hp : p) (hset : w'.db.missions = w.db.missions.set m')
    (hm : w.db.missions.get? m'.id = some m) (hstatus : m'.status ≠ m.status)
    (hledger : w'.db.ledger = w.db.ledger) : Effect p w w' := by
  refine .unrecorded hp m'.id m.status m'.status hledger (statusOf_of_get? hm) ?_ hstatus
  rw [statusOf_set hset hm, if_pos rfl]

/-- A row that is replaced by one of status `status`, with no event. -/
lemma effect_set {status : MissionStatus} (hset : w'.db.missions = w.db.missions.set m')
    (hm : w.db.missions.get? m'.id = some m) (hm' : m'.status = status)
    (hp : p ↔ m.status ≠ status) (hledger : w'.db.ledger = w.db.ledger) : Effect p w w' := by
  by_cases hstatus : m.status = status
  · exact effect_set_same (fun h => hp.mp h hstatus) hset hm (hm'.trans hstatus.symm) hledger
  · exact effect_set_other (hp.mpr hstatus) hset hm (by rw [hm']; exact Ne.symm hstatus) hledger

lemma effect_transaction {α : Type} {f : Moment → Database → Except PyError (α × Database)}
    {ev : Except PyError α → Event}
    (hok : ∀ a db, f w.moment w.db = .ok (a, db) → Effect p w (w.commit n db))
    (herr : ∀ e, f w.moment w.db = .error e → ¬p) :
    Effect p w ((Py.transaction n f ev).run w).2 := by
  rw [Py.run_transaction]
  split
  · next a db hf => exact hok a db hf
  · next e hf => exact effect_same (herr e hf) rfl rfl

lemma effect_guard {α β : Type} {x : Except PyError β} {code : Py α}
    (hok : ∀ b, x = .ok b → Effect p w (code.run w).2) (herr : ∀ e, x = .error e → ¬p) :
    Effect p w ((Py.lift x >>= fun _ => code).run w).2 := by
  rw [Py.run_lift_bind]
  cases x with
  | ok b => exact hok b rfl
  | error e => exact effect_same (herr e rfl) rfl rfl

lemma effect_raiseIf {β : Type} {c : Prop} [Decidable c] {error : PyError} {code : Py β}
    (hok : ¬c → Effect p w (code.run w).2) (herr : c → ¬p) :
    Effect p w ((Py.lift (raiseIf c error) >>= fun _ => code).run w).2 := by
  apply effect_guard
  · intro _ h
    exact hok (raiseIf_eq_ok.mp h)
  · intro e h hp
    rw [raiseIf, if_neg fun hc => herr hc hp] at h
    cases h

lemma effect_query {α : Type} {g : Moment → Database → Except PyError α}
    {ev : Except PyError α → Event} (hp : ¬p) : Effect p w ((Py.query g ev).run w).2 := by
  rw [Py.run_query]
  exact effect_same hp rfl rfl

section Missions

variable (self : MissionService)

/-- The first candidate is claimed, and it was queued or running. -/
lemma effect_claimFirst (workerId : String) (expiresAt : Datetime) (candidateIds : List String)
    (hclaimable : ∀ id ∈ candidateIds, ∃ m, w.db.missions.get? id = some m ∧
      MissionService.isCodeChange m = true ∧ MissionService.claimable w.now m = true) :
    Effect (candidateIds.head?.bind (statusOf w.db) = some .queued) w
      ((MissionService.claimFirst workerId w.now expiresAt candidateIds).run w).2 := by
  cases candidateIds with
  | nil => exact effect_same (by simp) rfl rfl
  | cons missionId rest =>
    obtain ⟨m, hm, hcode, hclaim⟩ := hclaimable missionId (.head _)
    let claimed : Mission := { m with
      status := .running
      leaseOwner := some workerId
      leaseExpiresAt := some expiresAt
      attemptCount := m.attemptCount + 1 }
    have htx : MissionService.claimTx workerId w.now expiresAt missionId w.db
        = (true, { w.db with missions := w.db.missions.set claimed }) := by
      simp [MissionService.claimTx, hm, hcode, hclaim, claimed]
    have heffect : Effect (statusOf w.db missionId = some .queued) w
        (w.commit 0 { w.db with missions := w.db.missions.set claimed }) := by
      have hid : m.id = missionId := Table.key_of_get? hm
      refine effect_set (rfl : _ = w.db.missions.set claimed) (hid ▸ hm) rfl ?_ rfl
      rw [statusOf_of_get? hm, Option.some.injEq]
      simp only [MissionService.claimable, Bool.or_eq_true, Bool.and_eq_true,
        decide_eq_true_eq] at hclaim
      rcases hclaim with hqueued | ⟨hrunning, -⟩
      · simp [hqueued, claimed]
      · simp [hrunning, claimed]
    rw [MissionService.claimFirst, Py.session, Py.run_transaction_bind, htx]
    show Effect _ w ((Py.query _ >>= _ : Py _).run _).2
    rw [Py.run_query_bind]
    dsimp only
    split <;> exact heffect

lemma claimable_of_mem_claimCandidates {now : Datetime}
    (hid : id ∈ MissionService.claimCandidates now db) :
    ∃ m, db.missions.get? id = some m ∧ MissionService.isCodeChange m = true ∧
      MissionService.claimable now m = true := by
  obtain ⟨m, hm, rfl⟩ := List.mem_map.mp hid
  have hrow := mem_orderBy.mp (List.mem_of_mem_take hm)
  rw [List.mem_filter, Bool.and_eq_true] at hrow
  exact ⟨m, Table.get?_of_mem hrow.1, hrow.2⟩

lemma effect_claimOldestCodeChange (workerId : String) (leaseSeconds : ℤ) :
    Effect (Unrecorded w (.mission self (.claimOldestCodeChange workerId leaseSeconds))) w
      ((MissionService.claimOldestCodeChange workerId leaseSeconds).run w).2 := by
  rw [MissionService.claimOldestCodeChange]
  refine effect_raiseIf (fun hworker => ?_) fun hworker h => h.1 hworker
  refine effect_raiseIf (fun hlease => ?_) fun hlease h => (not_lt.mpr h.2.1) hlease
  rw [Py.clock, Py.run_query_bind]
  dsimp only
  rw [Py.run_query_bind]
  have hiff : Unrecorded w (.mission self (.claimOldestCodeChange workerId leaseSeconds)) ↔
      (MissionService.claimCandidates w.now w.db).head?.bind (statusOf w.db) = some .queued :=
    ⟨fun h => h.2.2, fun h => ⟨hworker, not_lt.mp hlease, h⟩⟩
  rw [hiff]
  exact effect_claimFirst _ _ _ fun id => claimable_of_mem_claimCandidates

lemma effect_mission (hself : self.ledger = true) (o : MissionOp) :
    Effect (Unrecorded w (.mission self o)) w (o.perform self w) := by
  cases o with
  | createMission =>
    rw [MissionOp.perform, MissionService.createMission]
    refine effect_transaction (fun m db h => ?_) fun _ _ => id
    simp only [MissionService.createMissionTx, MissionService.addToLedger, if_pos hself] at h
    split at h
    · cases h
    · next missions hinsert =>
      cases h
      refine .recorded id _ .queued rfl rfl (by simp [fromStatus]) fun k => ?_
      exact statusOf_insert? (hinsert.trans rfl) k
  | createPlan missionId steps toolRegistry =>
    rw [MissionOp.perform, MissionService.createPlan]
    refine effect_guard (fun _ _ => ?_) fun _ _ => id
    have hplan : Effect False w
        ((Py.transaction steps.length (MissionService.createPlanTx missionId steps)).run w).2 := by
      refine effect_transaction (fun planned db h => ?_) fun _ _ => id
      simp only [MissionService.createPlanTx, bind_eq_ok] at h
      obtain ⟨mission, -, _, -, entries, -, h⟩ := h
      split at h
      · cases h
      · cases h
        exact effect_same id rfl rfl
    cases toolRegistry with
    | none => exact hplan
    | some registry => exact effect_guard (fun _ _ => hplan) fun _ _ => id
  | nextPendingStep | listPlanSteps | waitingApprovalStep | getMission | listMissions
    | oldestQueued => exact effect_query id
  | planIsComplete missionId =>
    rw [MissionOp.perform, MissionService.planIsComplete, MissionService.listPlanSteps,
      Py.run_query_bind]
    split <;> exact effect_same id rfl rfl
  | claimNextPendingStep missionId =>
    rw [MissionOp.perform, MissionService.claimNextPendingStep, Py.run_query_bind]
    dsimp only
    split
    · exact effect_same id rfl rfl
    · next stepId _ =>
      rw [Py.session, Py.run_transaction_bind]
      rcases hclaim : MissionService.claimStepTx stepId w.db with ⟨_ | _, db⟩
      · obtain rfl := MissionService.claimStepTx_false hclaim
        exact effect_same id rfl rfl
      · obtain ⟨step, -, -, rfl⟩ := MissionService.claimStepTx_true hclaim
        exact effect_same id rfl rfl
  | transitionStep stepId target result errorState approvalReference =>
    rw [MissionOp.perform, MissionService.transitionStep, Py.session]
    refine effect_transaction (fun step db h => ?_) fun _ _ => id
    obtain ⟨old, -, -, -, rfl⟩ := MissionService.transitionStepTx_eq_ok h
    exact effect_same id rfl rfl
  | claimOldestCodeChange workerId leaseSeconds =>
    exact effect_claimOldestCodeChange self workerId leaseSeconds
  | renewCodeChangeLease missionId workerId leaseSeconds =>
    rw [MissionOp.perform, MissionService.renewCodeChangeLease]
    refine effect_guard (fun _ _ => ?_) fun _ _ => id
    rw [Py.clock, Py.run_query_bind]
    dsimp only
    refine effect_transaction (fun renewed db h => ?_) fun _ _ => id
    cases renewed with
    | false =>
      obtain rfl := MissionService.renewTx_false (Except.ok.inj h)
      exact effect_same id rfl rfl
    | true =>
      obtain ⟨m, hm, -, -, -, -, rfl⟩ := MissionService.renewTx_true (Except.ok.inj h)
      obtain rfl : m.id = missionId := Table.key_of_get? hm
      exact effect_set_same id rfl hm rfl rfl
  | releaseCodeChangeLease missionId workerId =>
    rw [MissionOp.perform, MissionService.releaseCodeChangeLease, Py.session]
    refine effect_transaction (fun released db h => ?_) fun _ _ => id
    cases released with
    | false =>
      obtain rfl := MissionService.releaseTx_false (Except.ok.inj h)
      exact effect_same id rfl rfl
    | true =>
      obtain ⟨m, hm, -, rfl⟩ := MissionService.releaseTx_true (Except.ok.inj h)
      obtain rfl : m.id = missionId := Table.key_of_get? hm
      exact effect_set_same id rfl hm rfl rfl
  | recordResult missionId result =>
    rw [MissionOp.perform, MissionService.recordResult, Py.session]
    refine effect_transaction (fun m' db h => ?_) fun _ _ => id
    simp only [MissionService.recordResultTx, bind_eq_ok, MissionService.getMissionTx_eq_ok] at h
    obtain ⟨m, hm, h⟩ := h
    cases h
    obtain rfl : m.id = missionId := Table.key_of_get? hm
    exact effect_set_same id rfl hm rfl rfl
  | assignOwner missionId ownerAgent =>
    rw [MissionOp.perform, MissionService.assignOwner, Py.session]
    refine effect_transaction (fun m' db h => ?_) fun _ _ => id
    simp only [MissionService.assignOwnerTx, bind_eq_ok, MissionService.getMissionTx_eq_ok] at h
    obtain ⟨m, hm, _, -, h⟩ := h
    cases h
    obtain rfl : m.id = missionId := Table.key_of_get? hm
    exact effect_set_same id rfl hm rfl rfl
  | transition missionId target result errorState =>
    rw [MissionOp.perform, MissionService.transition, Py.session]
    refine effect_transaction (fun m' db h => ?_) fun _ _ => id
    simp only [MissionService.transitionTx, bind_eq_ok, MissionService.getMissionTx_eq_ok,
      MissionService.addToLedger, if_pos hself] at h
    obtain ⟨m, hm, _, -, h⟩ := h
    cases h
    obtain rfl : m.id = missionId := Table.key_of_get? hm
    let moved : Mission := { m with
      status := target
      result := (result.map .obj).or m.result
      errorState := (errorState.map .obj).or m.errorState }
    refine .recorded id _ target rfl rfl (fun value hvalue => ?_) fun k => ?_
    · rw [statusOf_of_get? hm]
      exact (Option.some.inj hvalue).symm
    · have hmoved : w.db.missions.get? moved.id = some m := hm
      exact statusOf_set rfl hmoved k

end Missions

section Deliveries

variable (self : DeliveryService)

/-- When QA may pass a change. -/
lemma recordQaResultTx_passed {missionId changeRef : String} {evidence : Dict} {x : Moment} :
    (∃ r, self.recordQaResultTx missionId changeRef .passed evidence x db = .ok r) ↔
      statusOf db missionId = some .running ∧ db.approvals.get? (x.ids 0) = none ∧
        ∃ delivery, db.deliveries.get? missionId = some delivery ∧ delivery.stage = .qa ∧
          delivery.changeRef = changeRef := by
  constructor
  · rintro ⟨r, h⟩
    simp only [DeliveryService.recordQaResultTx, bind_eq_ok, raiseIf_eq_ok,
      MissionService.getMissionTx_eq_ok, DeliveryService.getDeliveryTx_eq_ok, not_not] at h
    obtain ⟨m, hm, delivery, hd, _, hstage, _, hchange, _, hrunning, ⟨approval, db₁⟩, hcreate, -⟩ :=
      h
    obtain ⟨rfl, approvals, hinsert, -⟩ := ApprovalService.createRequestTx_eq_ok hcreate
    refine ⟨?_, (Table.insert?_eq_some hinsert).1, delivery, hd, hstage, hchange⟩
    rw [statusOf_of_get? hm, hrunning]
  · rintro ⟨hstatus, hnone, delivery, hd, hstage, hchange⟩
    obtain ⟨m, hm, hrunning⟩ := Option.map_eq_some_iff.mp hstatus
    simp only [DeliveryService.recordQaResultTx, MissionService.getMissionTx, hm,
      DeliveryService.getDeliveryTx, hd]
    simp only [raiseIf, bind, Except.bind, hstage, hrunning, hchange, ne_eq, not_true_eq_false,
      if_false]
    split
    · next e hcreate => exact absurd hnone (ApprovalService.createRequestTx_eq_error hcreate)
    · exact ⟨_, rfl⟩

lemma effect_submitDeveloperProposal (missionId changeRef summary : String)
    (changedFiles : List Json) (evidence : Dict) :
    Effect (Unrecorded w
      (.delivery self (.submitDeveloperProposal missionId changeRef summary changedFiles evidence)))
      w ((DeliveryService.submitDeveloperProposal missionId changeRef summary changedFiles
        evidence).run w).2 := by
  rw [DeliveryService.submitDeveloperProposal]
  refine effect_raiseIf (fun hchange => ?_) fun hchange h => h.1 hchange
  refine effect_raiseIf (fun hsummary => ?_) fun hsummary h => h.2.1 hsummary
  refine effect_transaction (fun delivery db h => ?_) fun e h hp => ?_
  · obtain ⟨m, deliveries, hm, hstatus, rfl, hinsert, rfl⟩ :=
      DeliveryService.submitDeveloperProposalTx_eq_ok h
    obtain rfl : m.id = missionId := Table.key_of_get? hm
    let running : Mission := { m with status := .running }
    refine effect_set (rfl : _ = w.db.missions.set running) hm rfl ?_ rfl
    simp only [Unrecorded, statusOf_of_get? hm, Option.some.injEq]
    constructor
    · rintro ⟨-, -, -, hqueued⟩
      simp [hqueued]
    · intro hne
      have hnone := (Table.insert?_eq_some hinsert).1
      exact ⟨hchange, hsummary, hnone, hstatus.resolve_right hne⟩
  · obtain ⟨-, -, hnone, hqueued⟩ := hp
    obtain ⟨m, hm, hstatus⟩ := Option.map_eq_some_iff.mp hqueued
    let delivery : Delivery :=
      { missionId, stage := .qa, changeRef, summary, changedFiles, developerEvidence := evidence }
    have hnew : ∃ deliveries, w.db.deliveries.insert? delivery = some deliveries :=
      Table.exists_insert? hnone
    obtain ⟨deliveries, hinsert⟩ := hnew
    simp only [DeliveryService.submitDeveloperProposalTx, MissionService.getMissionTx, hm, hnone,
      delivery] at h hinsert
    simp [raiseIf, bind, Except.bind, hinsert, pure, Except.pure, hstatus] at h

lemma effect_recordQaResult (missionId changeRef : String) (result : QAResult) (evidence : Dict) :
    Effect (Unrecorded w (.delivery self (.recordQaResult missionId changeRef result evidence))) w
      ((self.recordQaResult missionId changeRef result evidence).run w).2 := by
  rw [DeliveryService.recordQaResult]
  cases result with
  | failed =>
    refine effect_transaction (fun delivery' db h => ?_) fun _ _ => id
    obtain ⟨m, delivery, -, -, -, ⟨-, -, rfl⟩ | ⟨approval, approvals, hresult, -⟩⟩ :=
      DeliveryService.recordQaResultTx_eq_ok h
    · exact effect_same id rfl rfl
    · cases hresult
  | passed =>
    refine effect_transaction (fun delivery' db h => ?_) fun e h hp => ?_
    · have hp := (recordQaResultTx_passed self).mp ⟨_, h⟩
      obtain ⟨m, delivery, hm, -, -, ⟨hresult, -⟩ | ⟨approval, approvals, -, hrunning, -, -, -, -,
        rfl⟩⟩ := DeliveryService.recordQaResultTx_eq_ok h
      · cases hresult
      · obtain rfl : m.id = missionId := Table.key_of_get? hm
        let waiting : Mission := { m with
          status := .waitingApproval
          approvalReferences := m.approvalReferences ++
            [DeliveryService.approvalEntry approval.id delivery.changeRef] }
        refine effect_set_other hp (rfl : _ = w.db.missions.set waiting) hm ?_ rfl
        simp [waiting, hrunning]
    · have hok : ∃ r, self.recordQaResultTx missionId changeRef .passed evidence w.moment w.db = .ok r :=
        (recordQaResultTx_passed self).mpr hp
      obtain ⟨r, hr⟩ := hok
      rw [hr] at h
      cases h

lemma effect_applyHumanDecision (missionId approvalReference changeRef : String) :
    Effect (Unrecorded w
      (.delivery self (.applyHumanDecision missionId approvalReference changeRef))) w
      ((DeliveryService.applyHumanDecision missionId approvalReference changeRef).run w).2 := by
  rw [DeliveryService.applyHumanDecision, Py.session]
  refine effect_transaction (fun delivery db h => ?_) fun e h hp => ?_
  · by_cases hrejected : ∃ m old, DeliveryService.Rejected missionId approvalReference changeRef
      w.now w.db m old
    · obtain ⟨m, old, hrejected⟩ := hrejected
      rw [DeliveryService.applyHumanDecisionTx_rejected (m := w.moment) hrejected] at h
      cases h
      obtain ⟨hm, -⟩ := hrejected.rows
      obtain rfl : m.id = missionId := Table.key_of_get? hm
      let running : Mission := { m with status := .running }
      refine effect_set (rfl : _ = w.db.missions.set running) hm rfl ?_ rfl
      constructor
      · rintro ⟨m', old', hrejected', hne⟩
        rwa [Option.some.inj (hm.symm.trans hrejected'.rows.1)]
      · intro hne
        exact ⟨m, old, hrejected, hne⟩
    · obtain rfl | ⟨m, old, hrejected', -⟩ := DeliveryService.applyHumanDecisionTx_eq_ok h
      · refine effect_same ?_ rfl rfl
        rintro ⟨m, old, hrejected', -⟩
        exact hrejected ⟨m, old, hrejected'⟩
      · exact absurd ⟨m, old, hrejected'⟩ hrejected
  · obtain ⟨m, delivery, hrejected, -⟩ := hp
    rw [DeliveryService.applyHumanDecisionTx_rejected (m := w.moment) hrejected] at h
    cases h

lemma effect_delivery (o : Record.Op) :
    Effect (Unrecorded w (.delivery self o)) w ((o.code self).run w).2 := by
  cases o with
  | applyHumanDecision => exact effect_applyHumanDecision ..
  | getDelivery missionId =>
    rw [Record.Op.code, DeliveryService.getDelivery]
    exact effect_query id
  | submitDeveloperProposal => exact effect_submitDeveloperProposal ..
  | recordQaResult => exact effect_recordQaResult ..
  | recordPublication =>
    refine effect_guard (fun _ _ => effect_guard (fun _ _ => effect_guard (fun _ _ =>
      effect_transaction ?_ fun _ _ => id) fun _ _ => id) fun _ _ => id) fun _ _ => id
    intro delivery db h
    obtain ⟨old, -, -, ⟨-, rfl⟩ | ⟨-, -, rfl⟩⟩ := DeliveryService.recordPublicationTx_eq_ok h
    all_goals exact effect_same id rfl rfl
  | recordDeployment =>
    refine effect_guard (fun _ _ => effect_guard (fun _ _ =>
      effect_transaction ?_ fun _ _ => id) fun _ _ => id) fun _ _ => id
    intro delivery db h
    obtain ⟨old, -, -, ⟨-, rfl⟩ | ⟨-, -, -, -, rfl⟩⟩ := DeliveryService.recordDeploymentTx_eq_ok h
    all_goals exact effect_same id rfl rfl
  | recordRollback =>
    refine effect_guard (fun _ _ => effect_transaction ?_ fun _ _ => id) fun _ _ => id
    intro delivery db h
    obtain ⟨old, -, -, ⟨-, rfl⟩ | ⟨-, -, -, -, -, rfl⟩⟩ := DeliveryService.recordRollbackTx_eq_ok h
    all_goals exact effect_same id rfl rfl

end Deliveries

lemma step_effect {o : Move} (hs : Step w o w') (hattached : Attached (w, o, w')) :
    Effect (Unrecorded w o) w w' := by
  cases hs with
  | mission self o => exact effect_mission self hattached o
  | delivery self o => exact effect_delivery self o
  | decide requestId decision =>
    rw [ApprovalService.decide, Py.session]
    refine effect_transaction (fun request db h => ?_) fun _ _ => id
    obtain ⟨-, old, -, -, -, rfl⟩ := ApprovalService.decideTx_eq_ok h
    exact effect_same id rfl rfl
  | elapse hmissions =>
    obtain ⟨events, hledger, hsilent⟩ := hattached
    refine .kept id events hledger (fun event hmem => ?_) fun k => ?_
    · obtain ⟨hcreated, hchanged⟩ := hsilent event hmem
      refine ⟨?_, if_neg hchanged⟩
      unfold toldStatus
      split <;> simp_all
    · rw [statusOf, hmissions, statusOf]

/-! ### Every sequence of steps -/

/-- The events of every identifier, of a mission or not, tell what its status is. -/
structure Tracks (db : Database) : Prop where
  status : ∀ id, replay toldStatus (forMissionTx id db)
    = (statusOf db id).map fun s => .str s.value
  coherent : ∀ id, Coherent toldStatus (forMissionTx id db) fromStatus

lemma Tracks.replayed (h : Tracks db) : Replayed db := by
  refine ⟨fun m hm => ?_, fun m _ => h.coherent m.id⟩
  have hget : db.missions.get? m.id = some m := Table.get?_of_mem hm
  rw [h.status, statusOf_of_get? hget, Option.map_some]

/-- The ledger has no events but those of missions. -/
def Referenced (db : Database) : Prop :=
  ∀ event ∈ db.ledger, ∃ m, db.missions.get? event.missionId = some m

lemma Replayed.tracks (h : Replayed db) (hreferenced : Referenced db) : Tracks db := by
  have hnone : ∀ id, db.missions.get? id = none → forMissionTx id db = [] := by
    intro id hid
    refine List.filter_eq_nil_iff.mpr fun event hmem => ?_
    obtain ⟨m, hm⟩ := hreferenced event hmem
    simp only [decide_eq_true_eq]
    rintro rfl
    rw [hid] at hm
    cases hm
  constructor
  · intro id
    cases hid : db.missions.get? id with
    | none => rw [hnone id hid, statusOf, hid, replay_nil, Option.map_none, Option.map_none]
    | some m =>
      obtain rfl : m.id = id := Table.key_of_get? hid
      rw [h.status m (Table.mem_of_get? hid), statusOf_of_get? hid, Option.map_some]
  · intro id
    cases hid : db.missions.get? id with
    | none =>
      rw [hnone id hid]
      exact coherent_nil
    | some m =>
      obtain rfl : m.id = id := Table.key_of_get? hid
      exact h.coherent m (Table.mem_of_get? hid)

lemma forMissionTx_append {db' : Database} {events : List LedgerEvent}
    (hledger : db'.ledger = db.ledger ++ events) (id : String) :
    forMissionTx id db' = forMissionTx id db ++ events.filter fun event => event.missionId = id := by
  rw [forMissionTx, hledger, List.filter_append, forMissionTx]

/-- A step that is recorded keeps the ledger on the track of the statuses. -/
lemma Effect.tracks (he : Effect p w w') (hp : ¬p) (h : Tracks w.db) : Tracks w'.db := by
  cases he with
  | kept _ events hledger hsilent hstatus =>
    have hsub : ∀ id, ∀ event ∈ events.filter fun event => event.missionId = id, event ∈ events :=
      fun id event hmem => List.mem_of_mem_filter hmem
    constructor
    · intro id
      rw [forMissionTx_append hledger, hstatus, ← h.status]
      exact replay_append_silent fun event hmem => (hsilent event (hsub id event hmem)).1
    · intro id
      rw [forMissionTx_append hledger]
      exact coherent_append_silent (h.coherent id) fun event hmem =>
        (hsilent event (hsub id event hmem)).2
  | recorded _ event status hledger htold hfrom hstatus =>
    constructor
    · intro id
      rw [forMissionTx_append hledger, hstatus]
      by_cases hid : id = event.missionId
      · subst hid
        rw [List.filter_singleton, decide_eq_true rfl, cond_true, replay_snoc, htold, if_pos rfl]
        rfl
      · rw [List.filter_singleton, decide_eq_false (Ne.symm hid), cond_false, List.append_nil,
          if_neg hid, h.status]
    · intro id
      rw [forMissionTx_append hledger]
      by_cases hid : id = event.missionId
      · subst hid
        rw [List.filter_singleton, decide_eq_true rfl, cond_true]
        refine coherent_snoc (h.coherent _) fun value hvalue => ?_
        rw [h.status]
        exact hfrom value hvalue
      · rw [List.filter_singleton, decide_eq_false (Ne.symm hid), cond_false, List.append_nil]
        exact h.coherent id
  | unrecorded hp' => exact absurd hp' hp

/-- After a step that is not recorded the ledger tells the old status. -/
lemma Effect.not_replayed (he : Effect p w w') (hp : p) (h : Tracks w.db) : ¬Replayed w'.db := by
  cases he with
  | kept hp' => exact absurd hp hp'
  | recorded hp' => exact absurd hp hp'
  | unrecorded _ id status status' hledger hold hnew hne =>
    intro hreplayed
    obtain ⟨m, hm, rfl⟩ := Option.map_eq_some_iff.mp hnew
    obtain rfl : m.id = id := Table.key_of_get? hm
    have htold := hreplayed.status m (Table.mem_of_get? hm)
    have hsame : forMissionTx m.id w'.db = forMissionTx m.id w.db := by
      rw [forMissionTx, hledger, forMissionTx]
    rw [hsame, h.status, hold, Option.map_some, Option.some.injEq, Json.str.injEq] at htold
    exact hne (value_inj htold).symm

lemma tracks_of_run {w₀ : World} {steps : List (World × Move × World)} (hr : Run w₀ steps w)
    (hattached : ∀ s ∈ steps, Attached s) (h₀ : Tracks w₀.db)
    (hrecorded : ∀ s ∈ steps, ¬Unrecorded s.1 s.2.1) : Tracks w.db := by
  induction hr with
  | nil => exact h₀
  | snoc hr hs ih =>
    have hbefore := ih (fun s hmem => hattached s (List.mem_append_left _ hmem))
      fun s hmem => hrecorded s (List.mem_append_left _ hmem)
    simp only [List.forall_mem_append, List.forall_mem_singleton] at hattached hrecorded
    exact (step_effect hs hattached.2).tracks hrecorded.2 hbefore

/-- In a run that starts from a ledger that replays, it replays after every step exactly if no
step is unrecorded. -/
theorem replayed_iff {w₀ : World} {steps : List (World × Move × World)} (hr : Run w₀ steps w)
    (hattached : ∀ s ∈ steps, Attached s) (h₀ : Replayed w₀.db) (href : Referenced w₀.db) :
    (∀ s ∈ steps, Replayed s.2.2.db) ↔ ∀ s ∈ steps, ¬Unrecorded s.1 s.2.1 := by
  have htracks := h₀.tracks href
  induction hr with
  | nil => simp
  | snoc hr hs ih =>
    rename_i steps w w' o
    have hbefore : ∀ s ∈ steps, Attached s := fun s hmem =>
      hattached s (List.mem_append_left _ hmem)
    have heffect := step_effect hs (hattached _ (List.mem_append_right _ (.head _)))
    simp only [List.forall_mem_append, List.forall_mem_singleton, ih hbefore]
    refine and_congr_right fun hrecorded => ?_
    have hw := tracks_of_run hr hbefore htracks hrecorded
    exact ⟨fun h hp => heffect.not_replayed hp hw h, fun hp => (heffect.tracks hp hw).replayed⟩

/-! ### A proposal that starts a queued mission -/

/-- The mission waits for an approval, and the ledger has it as queued. -/
theorem not_replayed_toApproval :
    Run {} (trace {} toApproval) (after {} toApproval) ∧
      (∀ s ∈ trace {} toApproval, Attached s) ∧
      ¬∀ s ∈ trace {} toApproval, Replayed s.2.2.db := by
  refine ⟨Run.nil.trace toApproval, ?_, fun h => ?_⟩
  · simp [trace, toApproval, Attached, missionService]
  · have hreplayed := h _ (.tail _ (.tail _ (.head _)))
    have htold : (replay toldStatus (forMissionTx "0" (after {} toApproval).db))
        = some (.str MissionStatus.waitingApproval.value) := hreplayed.status _ (.head _)
    have hqueued : replay toldStatus (forMissionTx "0" (after {} toApproval).db)
        = some (.str "QUEUED") := rfl
    rw [hqueued, Option.some.injEq, Json.str.injEq] at htold
    exact absurd htold (by decide)

/-- A mission that is done by transitions alone. -/
def toCompletion : List Move :=
  [.mission missionService (.createMission "Check" "disk" "sysadmin" "hq_chat" .normal .green none
      none 0),
    .mission missionService (.transition "0" .running none none),
    .mission missionService (.transition "0" .completed none none)]

/-- A mission that only `transition` moves has its ledger in step. -/
theorem replayed_iff_toCompletion :
    (∀ s ∈ trace {} toCompletion, ¬Unrecorded s.1 s.2.1) ∧
      ∀ s ∈ trace {} toCompletion, Replayed s.2.2.db := by
  have hrecorded : ∀ s ∈ trace {} toCompletion, ¬Unrecorded s.1 s.2.1 := by
    simp [trace, toCompletion, Unrecorded]
  refine ⟨hrecorded, (replayed_iff (Run.nil.trace toCompletion) ?_ ⟨?_, ?_⟩ ?_).mpr hrecorded⟩
  · simp [trace, toCompletion, Attached, missionService]
  · exact fun m hm => absurd hm List.not_mem_nil
  · exact fun m hm => absurd hm List.not_mem_nil
  · exact fun event hmem => absurd hmem List.not_mem_nil

end Replay
end AiHq
