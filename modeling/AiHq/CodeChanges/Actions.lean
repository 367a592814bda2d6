import AiHq.CodeChanges.Frame

/-!
# What a code-change worker writes

Every action of a code-change cycle writes the rows of the one mission that the cycle processes,
and hands out no lease but by a claim.
-/

namespace AiHq

open Concurrent Relational

namespace Fencing

/-- The mission has the same status and the same delivery record. -/
def Same (m : String) (w w' : World) : Prop :=
  (w'.db.missions.get? m).map Mission.status = (w.db.missions.get? m).map Mission.status ∧
    w'.db.deliveries.get? m = w.db.deliveries.get? m

/-! ### What an action of a worker does -/

/-- An action of the worker `A` that leaves all missions but those of `P` as they are. -/
structure Action (A : String) (P : String → Prop) (w : World) (e : Event) (w' : World) : Prop where
  down : w'.down = w.down
  same : ∀ m, ¬P m → Same m w w'
  owner : ∀ m row', w'.db.missions.get? m = some row' → row'.leaseOwner = none ∨
    (∃ row, w.db.missions.get? m = some row ∧ row'.leaseOwner = row.leaseOwner) ∨
    e = .leaseClaimed (strip A) m
  claimed : ∀ X m, e = .leaseClaimed X m → X = strip A ∧ strip A ≠ "" ∧
    ∀ row', w'.db.missions.get? m = some row' → row'.leaseOwner = some (strip A)
  renewed : ∀ X m, e = .leaseRenewed X m → X = A ∧
    ∃ row, w.db.missions.get? m = some row ∧ row.leaseOwner = some A

/-- The event is neither a claim nor a renewal. -/
def Plain (e : Event) : Prop :=
  (∀ X m, e ≠ .leaseClaimed X m) ∧ ∀ X m, e ≠ .leaseRenewed X m

variable {A m : String} {P Q : String → Prop} {w w' : World} {e : Event} {α β : Type}

lemma Same.refl (m : String) (w : World) : Same m w w := ⟨rfl, rfl⟩

lemma Action.mono (h : Action A P w e w') (hPQ : ∀ m, P m → Q m) : Action A Q w e w' :=
  ⟨h.down, fun m hm => h.same m (mt (hPQ m) hm), h.owner, h.claimed, h.renewed⟩

/-- An action that writes the rows of one mission. -/
lemma Action.of_only (hdown : w'.down = w.down)
    (hmissions : ∀ k, k ≠ m → w'.db.missions.get? k = w.db.missions.get? k)
    (hdeliveries : ∀ k, k ≠ m → w'.db.deliveries.get? k = w.db.deliveries.get? k)
    (howner : ∀ row', w'.db.missions.get? m = some row' → row'.leaseOwner = none ∨
      ∃ row, w.db.missions.get? m = some row ∧ row'.leaseOwner = row.leaseOwner)
    (he : Plain e) : Action A (· = m) w e w' where
  down := hdown
  same k hk := by
    constructor
    · rw [hmissions k hk]
    · rw [hdeliveries k hk]
  owner k row' hrow' := by
    by_cases hk : k = m
    · subst hk
      rcases howner row' hrow' with hnone | hsame
      · exact .inl hnone
      · exact .inr (.inl hsame)
    · rw [hmissions k hk] at hrow'
      exact .inr (.inl ⟨row', hrow', rfl⟩)
  claimed X k h := absurd h (he.1 X k)
  renewed X k h := absurd h (he.2 X k)

lemma Action.of_same (he : Plain e) (hdown : w'.down = w.down)
    (hmissions : w'.db.missions = w.db.missions) (hdeliveries : w'.db.deliveries = w.db.deliveries) :
    Action A P w e w' where
  down := hdown
  same k _ := by
    constructor
    · rw [hmissions]
    · rw [hdeliveries]
  owner k row' hrow' := by
    rw [hmissions] at hrow'
    exact .inr (.inl ⟨row', hrow', rfl⟩)
  claimed X k h := absurd h (he.1 X k)
  renewed X k h := absurd h (he.2 X k)

lemma Action.read (he : Plain e) : Action A P w e w := .of_same he rfl rfl rfl

lemma plain_silent : Plain .silent := by
  constructor <;> simp

/-- Replacing the row of a mission, with the lease as it is or given up. -/
lemma Action.of_set {n : ℕ} {row row' : Mission} {db' : Database}
    (hset : db'.missions = w.db.missions.set row') (hget : w.db.missions.get? m = some row)
    (hid : row'.id = row.id) (howner : row'.leaseOwner = none ∨ row'.leaseOwner = row.leaseOwner)
    (hdeliveries : ∀ k, k ≠ m → db'.deliveries.get? k = w.db.deliveries.get? k) (he : Plain e) :
    Action A (· = m) w e (w.commit n db') := by
  obtain rfl : row.id = m := Table.key_of_get? hget
  refine .of_only rfl ?_ hdeliveries ?_ he
  · intro k hk
    rw [World.commit_db, hset]
    apply Table.get?_set_ne
    rwa [key_mission, hid]
  · intro x hx
    rw [World.commit_db, hset] at hx
    rcases Table.get?_set hx with ⟨rfl, -⟩ | ⟨-, hne⟩
    · exact howner.imp_right fun h => ⟨row, hget, h⟩
    · rw [key_mission, hid] at hne
      exact absurd rfl hne

/-! ### What the services do -/

lemma every_query {g : Moment → Database → Except PyError α} {ev : Except PyError α → Event}
    (hev : ∀ r, Plain (ev r)) : Every (Action A P) (Py.query g ev) :=
  Py.every_query fun _ r => .read (hev r)

lemma every_outside (work : Work) : Every (Action A P) (Py.outside work) :=
  Py.every_outside (fun _ => .read plain_silent) work

lemma every_getMission (missionId : String) :
    Every (Action A P) (MissionService.getMission missionId) := every_query fun _ => plain_silent

lemma every_getDelivery (missionId : String) :
    Every (Action A P) (DeliveryService.getDelivery missionId) := every_query fun _ => plain_silent

lemma every_transition (missions : MissionService) (target : MissionStatus)
    (result errorState : Option Dict) :
    Every (Action A (· = m)) (missions.transition m target result errorState) := by
  have hplain : Plain (.missionTransition m target) := by constructor <;> simp
  rw [MissionService.transition, Py.session]
  apply Py.every_transaction
  · intro w row' db hf
    obtain ⟨row, hget, -, rfl, hset, -, hdeliveries, -⟩ := MissionService.transitionTx_eq_ok hf
    exact .of_set hset hget rfl (.inr rfl) (fun k _ => by rw [hdeliveries]) hplain
  · intro w error _
    exact .read hplain

lemma every_recordResult (result : Dict) :
    Every (Action A (· = m)) (MissionService.recordResult m result) := by
  rw [MissionService.recordResult, Py.session]
  apply Py.every_transaction
  · intro w row' db hf
    simp only [MissionService.recordResultTx, bind_eq_ok, MissionService.getMissionTx_eq_ok] at hf
    obtain ⟨row, hget, hf⟩ := hf
    cases hf
    exact .of_set rfl hget rfl (.inr rfl) (fun _ _ => rfl) plain_silent
  · intro w error _
    exact .read plain_silent

lemma every_release : Every (Action A (· = m)) (MissionService.releaseCodeChangeLease m A) := by
  rw [MissionService.releaseCodeChangeLease, Py.session]
  apply Py.every_transaction
  · intro w released db hf
    cases released with
    | false =>
      obtain rfl := MissionService.releaseTx_false (Except.ok.inj hf)
      exact .read plain_silent
    | true =>
      obtain ⟨row, hget, -, rfl⟩ := MissionService.releaseTx_true (Except.ok.inj hf)
      refine .of_set rfl hget rfl (.inl rfl) (fun _ _ => rfl) ?_
      constructor <;> simp
  · intro w error hf
    cases hf

/-- A renewal leaves the status and the deliveries of every mission as they are. -/
lemma action_renewTx {leaseSeconds : ℤ} {now : Datetime} {renewed : Bool} {db : Database}
    (h : MissionService.renewTx m A leaseSeconds now w.db = (renewed, db)) :
    Action A P w (if renewed then .leaseRenewed A m else .silent) (w.commit 0 db) := by
  cases renewed with
  | false =>
    obtain rfl := MissionService.renewTx_false h
    exact .read plain_silent
  | true =>
    obtain ⟨row, hget, -, -, howner, -, rfl⟩ := MissionService.renewTx_true h
    obtain rfl : row.id = m := Table.key_of_get? hget
    let row' : Mission := { row with leaseExpiresAt := some (now + seconds leaseSeconds) }
    have hself : (w.db.missions.set row').get? row.id = some row' := Table.get?_set_self hget
    refine ⟨rfl, fun k _ => ⟨?_, rfl⟩, fun k x hx => ?_, by simp, ?_⟩
    · by_cases hk : k = row.id
      · subst hk
        show ((w.db.missions.set row').get? row.id).map Mission.status = _
        rw [hself, hget]
        rfl
      · show ((w.db.missions.set row').get? k).map Mission.status = _
        rw [Table.get?_set_ne hk]
    · rcases Table.get?_set hx with ⟨rfl, hk⟩ | ⟨hx, -⟩
      · exact .inr (.inl ⟨row, hk ▸ hget, rfl⟩)
      · exact .inr (.inl ⟨x, hx, rfl⟩)
    · intro X k hk
      obtain ⟨rfl, rfl⟩ : A = X ∧ row.id = k := by simpa using hk
      exact ⟨rfl, row, hget, howner⟩

lemma every_renew (leaseSeconds : ℤ) :
    Every (Action A P) (MissionService.renewCodeChangeLease m A leaseSeconds) := by
  apply (Py.every_lift _).bind
  intro _
  apply Every.bind
  · apply Py.every_clock
    intro w
    apply Action.read
    constructor <;> simp
  · intro now
    rw [Py.session]
    apply Py.every_transaction
    · intro w renewed db hf
      have haction := action_renewTx (P := P) (Except.ok.inj hf)
      cases renewed with
      | false => exact haction
      | true => exact haction
    · intro w error hf
      cases hf

lemma every_submit (changeRef summary : String) (changedFiles : List Json) (evidence : Dict) :
    Every (Action A (· = m))
      (DeliveryService.submitDeveloperProposal m changeRef summary changedFiles evidence) := by
  apply (Py.every_lift _).bind
  intro _
  apply (Py.every_lift _).bind
  intro _
  rw [Py.session]
  apply Py.every_transaction
  · intro w delivery db hf
    obtain ⟨row, deliveries, hget, -, rfl, hinsert, rfl⟩ :=
      DeliveryService.submitDeveloperProposalTx_eq_ok hf
    refine .of_set rfl hget rfl (.inr rfl) (fun k hk => ?_) plain_silent
    exact Table.get?_insert?_ne hinsert hk
  · intro w error _
    exact .read plain_silent

lemma every_recordQaResult (delivery : DeliveryService) (changeRef : String) (result : QAResult)
    (evidence : Dict) :
    Every (Action A (· = m)) (delivery.recordQaResult m changeRef result evidence) := by
  rw [DeliveryService.recordQaResult]
  apply Py.every_transaction
  · intro w delivery' db hf
    obtain ⟨row, old, hget, hold, -, hcases⟩ := DeliveryService.recordQaResultTx_eq_ok hf
    obtain rfl : old.missionId = m := Table.key_of_get? hold
    rcases hcases with ⟨-, rfl, rfl⟩ | ⟨approval, approvals, -, -, -, -, -, rfl, rfl⟩
    · refine .of_only rfl (fun _ _ => rfl) (fun k hk => Table.get?_set_ne hk) ?_ plain_silent
      intro row' hrow'
      exact .inr ⟨row', hrow', rfl⟩
    · refine .of_set rfl hget rfl (.inr rfl) (fun k hk => ?_) plain_silent
      exact Table.get?_set_ne hk
  · intro w error _
    exact .read plain_silent

/-- All that a cycle does with its mission leaves the others alone. -/
lemma cycleFrame : CycleFrame (Action A (· = m)) A m where
  silent _ := .read plain_silent
  transition := every_transition
  recordResult := every_recordResult
  renew := every_renew
  release := every_release
  submit := every_submit
  recordQaResult := every_recordQaResult

/-! ### What a claim does -/

/-- A claim changes the status of the mission that it takes, and of no other. -/
lemma every_claimFirst {now expiresAt : Datetime} (hid : strip A ≠ "") (candidateIds : List String) :
    Every (fun w e w' => Action A (fun k => e = .leaseClaimed (strip A) k) w e w')
      (MissionService.claimFirst (strip A) now expiresAt candidateIds) := by
  induction candidateIds with
  | nil => exact .ret _
  | cons k candidateIds ih =>
    apply Every.bind
    · rw [Py.session]
      apply Py.every_transaction
      · intro w claimed db hf
        cases claimed with
        | false =>
          obtain rfl := MissionService.claimTx_false (Except.ok.inj hf)
          exact .read plain_silent
        | true =>
          obtain ⟨row, hget, -, -, rfl⟩ := MissionService.claimTx_true (Except.ok.inj hf)
          obtain rfl : row.id = k := Table.key_of_get? hget
          let row' : Mission :=
            { row with
              status := .running
              leaseOwner := some (strip A)
              leaseExpiresAt := some expiresAt
              attemptCount := row.attemptCount + 1 }
          have hself : (w.db.missions.set row').get? row.id = some row' := Table.get?_set_self hget
          refine ⟨rfl, fun j hj => ⟨?_, rfl⟩, fun j x hx => ?_, ?_, by simp⟩
          · have hne : j ≠ row.id := by
              rintro rfl
              exact hj rfl
            show ((w.db.missions.set row').get? j).map Mission.status = _
            rw [Table.get?_set_ne hne]
          · rcases Table.get?_set hx with ⟨rfl, rfl⟩ | ⟨hx, -⟩
            · exact .inr (.inr rfl)
            · exact .inr (.inl ⟨x, hx, rfl⟩)
          · intro X j hj
            obtain ⟨rfl, rfl⟩ : strip A = X ∧ row.id = j := by simpa using hj
            refine ⟨rfl, hid, fun x hx => ?_⟩
            cases hself.symm.trans hx
            rfl
      · intro w error hf
        cases hf
    · intro claimed
      cases claimed with
      | false => exact ih
      | true =>
        rw [if_pos rfl]
        apply Every.bind (Py.every_query fun _ _ => .read plain_silent)
        intro mission
        cases mission with
        | none => exact .raise _
        | some mission => exact .ret _

lemma every_claim (leaseSeconds : ℤ) :
    Every (fun w e w' => Action A (fun k => e = .leaseClaimed (strip A) k) w e w')
      (MissionService.claimOldestCodeChange A leaseSeconds) := by
  apply Py.every_lift_bind
  intro _ hid
  apply (Py.every_lift _).bind
  intro _
  apply Every.bind
  · apply Py.every_clock
    intro w
    apply Action.read
    constructor <;> simp
  · intro now
    apply Every.bind (Py.every_query fun _ _ => .read plain_silent)
    intro candidateIds
    exact every_claimFirst (raiseIf_eq_ok.mp hid) candidateIds

end Fencing
end AiHq
