import AiHq.CodeChanges.Service

/-!
# Frames of code-change cycles

A code-change cycle processes one mission. Where the database operations that it performs on this
mission are of a kind, so are all its actions.
-/

namespace AiHq

open Concurrent Relational

namespace CodeChangeService

variable {A m : String}

/-! ### Deliveries that are read -/

/-- The delivery of a mission that is read is of that mission. -/
def OfMission (m : String) : Except PyError Delivery → Prop
  | .ok delivery => delivery.missionId = m
  | .error _ => True

lemma yields_getDelivery :
    Yields (fun _ _ _ => True) (DeliveryService.getDelivery m) (OfMission m) := by
  rw [DeliveryService.getDelivery, Py.query, Py.session]
  apply Py.yields_transaction
  · intro w delivery db hf _
    obtain ⟨found, hfound, hf⟩ := Py.map_eq_ok.mp hf
    cases hf
    exact Table.key_of_get? (DeliveryService.getDeliveryTx_eq_ok.mp hfound)
  · intro w error _ _
    trivial

/-- As `OfMission`, where there may be none. -/
def OfMission? (m : String) : Except PyError (Option Delivery) → Prop
  | .ok (some delivery) => delivery.missionId = m
  | _ => True

lemma yields_existingDelivery :
    Yields (fun _ _ _ => True) (CodeChangeService.existingDelivery m) (OfMission? m) := by
  apply Yields.tryCatch (P := OfMission? m)
  · apply yields_getDelivery.bind
    · intro delivery hid
      exact .ret hid
    · intro error _
      trivial
  · intro found hid
    exact hid
  · intro error _
    cases error <;> first | exact .ret trivial | exact .raise trivial

lemma yields_developerDelivery (service : CodeChangeService) (leaseSeconds : ℤ) {existing : Option Delivery}
    (hid : OfMission? m (.ok existing)) :
    Yields (fun _ _ _ => True) (service.developerDelivery m (some A) leaseSeconds existing)
      (OfMission m) := by
  cases existing with
  | some delivery => exact .ret hid
  | none =>
    have hany {γ : Type} (p : Py γ) : Yields (fun _ _ _ => True) p fun _ => True :=
      .of_forall p fun _ => trivial
    apply (hany _).bind
    · intro _ _
      apply (hany _).bind
      · intro _ _
        exact yields_getDelivery
      · intro error _
        trivial
    · intro error _
      trivial

end CodeChangeService

/-! ### The operations of a cycle -/

/-- Reads, and the operations of the worker `A` on the mission `m`, are in `G`. -/
structure CycleFrame (G : World → Event → World → Prop) (A m : String) : Prop where
  silent : ∀ w, G w .silent w
  transition : ∀ (missions : MissionService) target result errorState,
    Every G (missions.transition m target result errorState)
  recordResult : ∀ result, Every G (MissionService.recordResult m result)
  renew : ∀ leaseSeconds, Every G (MissionService.renewCodeChangeLease m A leaseSeconds)
  release : Every G (MissionService.releaseCodeChangeLease m A)
  submit : ∀ changeRef summary changedFiles evidence,
    Every G (DeliveryService.submitDeveloperProposal m changeRef summary changedFiles evidence)
  recordQaResult : ∀ (delivery : DeliveryService) changeRef result evidence,
    Every G (delivery.recordQaResult m changeRef result evidence)

namespace CycleFrame

open CodeChangeService

variable {G : World → Event → World → Prop} {A m : String} (hG : CycleFrame G A m)

include hG

lemma outside (work : Work) : Every G (Py.outside work) := Py.every_outside hG.silent work

lemma getMission : Every G (MissionService.getMission m) := Py.every_query fun w _ => hG.silent w

lemma getDelivery : Every G (DeliveryService.getDelivery m) := Py.every_query fun w _ => hG.silent w

/-! ### The runner -/

lemma prepareWorkspace (runner : DeliveryAgentRunner) : Every G runner.prepareWorkspace := by
  apply (Py.every_lift _).bind
  intro _
  apply (Py.every_lift _).bind
  intro _
  exact (hG.outside _).bind fun _ => .ret _

lemma verify : Every G DeliveryAgentRunner.verify :=
  Py.every_ask hG.silent _

lemma verifyAndPersist (runner : DeliveryAgentRunner) (candidate : Json) :
    Every G (runner.verifyAndPersist m candidate) := by
  apply (Py.every_lift _).bind
  intro _
  apply (hG.outside _).bind
  intro _
  apply (hG.outside _).bind
  intro _
  apply (hG.outside _).bind
  intro _
  apply hG.verify.bind
  intro verified
  refine Every.bind ?_ fun _ => .ret _
  apply (Py.every_lift _).bind
  intro _
  apply (Py.every_lift _).bind
  intro _
  apply (Py.every_lift _).bind
  intro _
  exact hG.submit ..

lemma runDeveloper (runner : DeliveryAgentRunner) : Every G (runner.runDeveloper m) := by
  apply (hG.prepareWorkspace runner).bind
  intro _
  apply (hG.outside _).bind
  intro candidate
  exact (hG.verifyAndPersist runner candidate).bind fun _ => .ret _

lemma runQa (runner : DeliveryAgentRunner) {delivery : Delivery} (hid : delivery.missionId = m) :
    Every G (runner.runQa delivery) := by
  subst hid
  apply (hG.outside _).bind
  intro review
  apply (Py.every_lift _).bind
  rintro ⟨result, evidence⟩
  refine Every.bind ?_ fun _ => .ret _
  apply (Py.every_lift _).bind
  intro _
  apply (Py.every_lift _).bind
  intro _
  exact hG.recordQaResult ..

/-! ### The service -/

lemma renewWorkerLease (leaseSeconds : ℤ) :
    Every G (CodeChangeService.renewWorkerLease m (some A) leaseSeconds) :=
  (hG.renew leaseSeconds).bind fun _ => Py.every_lift _

lemma existingDelivery : Every G (CodeChangeService.existingDelivery m) := by
  apply Every.tryCatch
  · exact hG.getDelivery.bind fun _ => .ret _
  · intro error
    cases error <;> first | exact .ret _ | exact .raise _

lemma developerDelivery (service : CodeChangeService) (leaseSeconds : ℤ) (existing : Option Delivery) :
    Every G (service.developerDelivery m (some A) leaseSeconds existing) := by
  cases existing with
  | some delivery => exact .ret _
  | none =>
    apply (hG.renewWorkerLease leaseSeconds).bind
    intro _
    apply (hG.runDeveloper _).bind
    intro _
    exact hG.getDelivery

lemma qaDelivery (service : CodeChangeService) (leaseSeconds : ℤ) {delivery : Delivery} (hid : delivery.missionId = m) :
    Every G (service.qaDelivery m (some A) leaseSeconds delivery) := by
  unfold CodeChangeService.qaDelivery
  split_ifs
  · apply (hG.renewWorkerLease leaseSeconds).bind
    intro _
    exact (hG.runQa _ hid).bind fun _ => .ret _
  · exact .ret _

lemma resultForMission (service : CodeChangeService) (repository : String) :
    Every G (service.resultForMission m repository) :=
  hG.getDelivery.bind fun _ => .ret _

lemma runExistingMission (service : CodeChangeService) (repository : String) (leaseSeconds : ℤ) :
    Every G
      (service.runExistingMission m repository (some A) leaseSeconds true) := by
  apply (hG.outside _).bind
  intro _
  apply hG.existingDelivery.bind_of_yields yields_existingDelivery
  intro existing hexisting
  apply (hG.developerDelivery service leaseSeconds existing).bind_of_yields
    (yields_developerDelivery service leaseSeconds hexisting)
  intro delivery hid
  apply (hG.qaDelivery service leaseSeconds hid).bind
  intro _
  exact hG.resultForMission service repository

lemma recordOutcome (service : CodeChangeService) (repository : String) (result : CodeChangeResult) :
    Every G (service.recordOutcome m repository result) := by
  apply hG.getMission.bind
  intro current
  generalize (if result.readyForApproval = true then MissionStatus.waitingApproval
    else MissionStatus.completed) = target
  split_ifs
  · exact (hG.recordResult _).bind fun _ => .ret _
  · exact (hG.transition ..).bind fun _ => .ret _
  · exact .raise _

lemma releaseLease :
    Every G (CodeChangeService.releaseLease m (some A)) :=
  hG.release.bind fun _ => .ret _

lemma prepare (service : CodeChangeService) (repository : String) (leaseSeconds : ℤ) :
    Every G (service.prepare m repository (some A) leaseSeconds) := by
  apply (hG.runExistingMission service repository leaseSeconds).bind
  intro result
  apply (hG.recordOutcome service repository result).bind
  intro _
  exact hG.releaseLease.bind fun _ => .ret _

lemma failPreparation (service : CodeChangeService) (error : PyError) :
    Every G (service.failPreparation m (some A) error) := by
  apply hG.getMission.bind
  intro current
  split_ifs
  · apply (hG.transition ..).bind
    intro _
    exact hG.releaseLease.bind fun _ => .raise _
  · exact hG.releaseLease.bind fun _ => .raise _

end CycleFrame
end AiHq
