import AiHq.Recovery.Drill
import AiHq.Recovery.Openings

/-!
# Drills that fail

The incident of a drill is committed before the drill writes and verifies the status, and nothing
takes it back. A drill that fails leaves its incident behind exactly if a statement after the
commit is not answered as the drill requires, and no recovery cycle has closed the incident by then.
-/

namespace AiHq

open Concurrent Relational Recovery

namespace Drills

abbrev DrillPool := Pool DrillSettings PyError DrillEvent DrillWorld DrillResult
abbrev DrillLabel := Label DrillSettings DrillEvent

/-- Whatever happens elsewhere: cycles operate on the incidents, write statuses and make attempts,
time passes, and the database fails and works again. -/
def Cycles (service : RecoveryService) (w w' : DrillWorld) : Prop :=
  Relation.ReflTransGen (Openings.Operates service) w.db.incidents w'.db.incidents

/-- Drills, and recovery cycles in between. -/
def drilling (service : RecoveryService) :
    System DrillSettings PyError DrillEvent DrillWorld DrillResult where
  code := RecoveryDrillService.run
  env := Cycles service

/-! ### The property -/

/-- The incident that a statement has put into the tables. -/
def incidentOf : DrillEvent → Option String
  | .inserted incidentId _ => some incidentId
  | _ => none

/-- The incident that a drill has put into the tables. -/
def insertedBy (history : List DrillEvent) : Option String := history.findSome? incidentOf

/-- The incident is there and is active. -/
def Active (incidentId : String) (w : DrillWorld) : Prop :=
  ∃ incident, w.db.incidents.get? incidentId = some incident ∧ incident.activeKey ≠ none

/-- No drill that has failed has inserted an incident that is still active. -/
def LeavesNothing (p : DrillPool) : Prop :=
  ∀ th ∈ p.threads, ∀ code, th.prog = .ret (.failure code) →
    ∀ incidentId ∈ insertedBy th.history, ¬Active incidentId p.state

/-- The statement is not answered as the drill of the incident requires. -/
def isTrouble (threshold : ℤ) (incidentId : String) : DrillEvent → Bool
  | .answered => false
  | .raised _ => true
  | .inserted _ error => error.isSome
  | .snapshot status => ¬RecoveryDrillService.expected incidentId threshold status
  | .found untouched => !untouched
  | .attempts count => count ≠ 0

/-- From the insertion on, every statement of a drill is answered as the drill requires, or its
incident has been closed. -/
def Untroubled (p : DrillPool) : DrillLabel → DrillPool → Prop
  | .act t settings e, q => ∀ th, p.threads[t]? = some th →
      ∀ incidentId ∈ insertedBy (th.history ++ [e]),
        isTrouble settings.recoveryFailureThreshold incidentId e = false ∨
          ¬Active incidentId q.state
  | _, _ => True

/-! ### What a drill does -/

/-- What a statement does to the incidents. -/
def Writes (e : DrillEvent) (w w' : DrillWorld) : Prop :=
  match incidentOf e with
  | none => w'.db.incidents = w.db.incidents
  | some incidentId => ∃ incident : RecoveryIncident, incident.id = incidentId ∧
      incident.activeKey ≠ none ∧ w.db.incidents.insert? incident = some w'.db.incidents

/-- What is left of a drill, with the incident that it has inserted: there is no trouble, or the
drill fails at once. -/
def Tidy (threshold : ℤ) : Drill DrillResult → Option String → Prop
  | .ret result, inserted => inserted.isSome = true → ∀ code, result ≠ .failure code
  | .raise _, _ => False
  | .act ev upd next, inserted => ∀ w, Writes (ev w) w (upd w) ∧
      (inserted.isSome = true → incidentOf (ev w) = none) ∧
      match inserted.or (incidentOf (ev w)) with
      | none => Tidy threshold (next w) none
      | some incidentId =>
        if isTrouble threshold incidentId (ev w) then ∃ code, next w = .ret (.failure code)
        else Tidy threshold (next w) (some incidentId)

section Tidy

variable {threshold : ℤ} {incidentId : String} {α β : Type}
  {shown : α → Option PyError → DrillEvent} {g : α → DrillEvent}
  {f : DrillWorld → Except PyError (α × DrillWorld)} {k : α → Drill β}
  {handler : PyError → Drill β} {rest : β → Drill DrillResult}

/-- A statement in a `try`, with the statements that follow it there and after it. -/
lemma try_statement :
    (tryCatch (Drill.statement shown f >>= k) handler >>= rest) =
      .act (Drill.shows shown f) (Drill.leaves f) fun w =>
        tryCatch (Prog.ofExcept (Drill.reply f w) >>= k) handler >>= rest := rfl

/-- How a statement can go: it raises, and has taken effect or not, or it is answered. -/
lemma statement_cases (shown : α → Option PyError → DrillEvent)
    (f : DrillWorld → Except PyError (α × DrillWorld)) (w : DrillWorld) :
    (∃ error, Drill.reply f w = .error error ∧ Drill.shows shown f w = .raised error ∧
        Drill.leaves f w = w) ∨
      (∃ a w' error, Drill.reply f w = .error error ∧ f w = .ok (a, w') ∧
        Drill.shows shown f w = shown a (some error) ∧ Drill.leaves f w = w') ∨
      ∃ a w', Drill.reply f w = .ok a ∧ f w = .ok (a, w') ∧
        Drill.shows shown f w = shown a none ∧ Drill.leaves f w = w' := by
  unfold Drill.reply Drill.shows Drill.leaves
  cases w.outage with
  | none =>
    cases f w with
    | error error => exact .inl ⟨error, rfl, rfl, rfl⟩
    | ok r => exact .inr (.inr ⟨r.1, r.2, rfl, rfl, rfl, rfl⟩)
  | some outage =>
    cases outage with
    | refuses error => exact .inl ⟨error, rfl, rfl, rfl⟩
    | losesReply error =>
      cases f w with
      | error _ => exact .inl ⟨error, rfl, rfl, rfl⟩
      | ok r => exact .inr (.inl ⟨r.1, r.2, error, rfl, rfl, rfl, rfl⟩)

/-- A statement before the insertion. -/
lemma tidy_before (hg : ∀ a, incidentOf (g a) = none)
    (hf : ∀ w a w', f w = .ok (a, w') → w'.db.incidents = w.db.incidents)
    (hraise : ∀ error, Tidy threshold (handler error >>= rest) none)
    (hok : ∀ a, Tidy threshold (tryCatch (k a) handler >>= rest) none) :
    Tidy threshold (tryCatch (Drill.statement (fun a error => error.elim (g a) .raised) f >>= k)
      handler >>= rest) none := by
  rw [try_statement]
  intro w
  rcases statement_cases (fun a error => error.elim (g a) .raised) f w with
    ⟨error, hreply, hshows, hleaves⟩ | ⟨a, w', error, hreply, hfw, hshows, hleaves⟩ |
      ⟨a, w', hreply, hfw, hshows, hleaves⟩
  · dsimp only
    rw [hreply, hshows, hleaves]
    exact ⟨rfl, nofun, hraise error⟩
  · dsimp only
    rw [hreply, hshows, hleaves]
    exact ⟨hf w a w' hfw, nofun, hraise error⟩
  · dsimp only
    rw [hreply, hshows, hleaves]
    refine ⟨?_, nofun, ?_⟩
    · simpa [Writes, hg a] using hf w a w' hfw
    · rw [show incidentOf (Option.elim none (g a) DrillEvent.raised) = none from hg a]
      exact hok a

/-- A statement after the insertion. -/
lemma tidy_after (hg : ∀ a, incidentOf (g a) = none)
    (hf : ∀ w a w', f w = .ok (a, w') → w'.db.incidents = w.db.incidents)
    (hraise : ∀ error, ∃ code, (handler error >>= rest) = .ret (.failure code))
    (hok : ∀ a, if isTrouble threshold incidentId (g a)
      then ∃ code, (tryCatch (k a) handler >>= rest) = .ret (.failure code)
      else Tidy threshold (tryCatch (k a) handler >>= rest) (some incidentId)) :
    Tidy threshold (tryCatch (Drill.statement (fun a error => error.elim (g a) .raised) f >>= k)
      handler >>= rest) (some incidentId) := by
  rw [try_statement]
  intro w
  rcases statement_cases (fun a error => error.elim (g a) .raised) f w with
    ⟨error, hreply, hshows, hleaves⟩ | ⟨a, w', error, hreply, hfw, hshows, hleaves⟩ |
      ⟨a, w', hreply, hfw, hshows, hleaves⟩
  · dsimp only
    rw [hreply, hshows, hleaves]
    exact ⟨rfl, fun _ => rfl, hraise error⟩
  · dsimp only
    rw [hreply, hshows, hleaves]
    exact ⟨hf w a w' hfw, fun _ => rfl, hraise error⟩
  · dsimp only
    rw [hreply, hshows, hleaves]
    refine ⟨?_, fun _ => hg a, hok a⟩
    simpa [Writes, hg a] using hf w a w' hfw

/-- What an insertion leaves. -/
lemma insertTx_eq_ok {now : Datetime} {w w' : DrillWorld}
    (h : RecoveryDrillService.insertTx now threshold w = .ok (incidentId, w')) :
    ∃ incident : RecoveryIncident, incident.id = incidentId ∧ incident.activeKey ≠ none ∧
      w.db.incidents.insert? incident = some w'.db.incidents := by
  unfold RecoveryDrillService.insertTx at h
  split at h
  · cases h
  · split at h
    · next incidents hinsert =>
      cases h
      exact ⟨_, rfl, Option.some_ne_none _, hinsert⟩
    · cases h

/-- The insertion. -/
lemma tidy_insert {now : Datetime} {k : String → Drill β}
    (hraise : ∀ error, ∃ code, (handler error >>= rest) = .ret (.failure code))
    (hok : ∀ incidentId, Tidy threshold (tryCatch (k incidentId) handler >>= rest)
      (some incidentId)) :
    Tidy threshold (tryCatch (Drill.statement .inserted
      (RecoveryDrillService.insertTx now threshold) >>= k) handler >>= rest) none := by
  rw [try_statement]
  intro w
  rcases statement_cases .inserted (RecoveryDrillService.insertTx now threshold) w with
    ⟨error, hreply, hshows, hleaves⟩ | ⟨incidentId, w', error, hreply, hfw, hshows, hleaves⟩ |
      ⟨incidentId, w', hreply, hfw, hshows, hleaves⟩
  · dsimp only
    rw [hreply, hshows, hleaves]
    obtain ⟨code, hcode⟩ := hraise error
    refine ⟨rfl, nofun, ?_⟩
    show Tidy threshold (handler error >>= rest) none
    rw [hcode]
    exact nofun
  · dsimp only
    rw [hreply, hshows, hleaves]
    exact ⟨insertTx_eq_ok hfw, nofun, hraise error⟩
  · dsimp only
    rw [hreply, hshows, hleaves]
    exact ⟨insertTx_eq_ok hfw, nofun, hok incidentId⟩

end Tidy

/-! ### The drill -/

section Drill

open RecoveryDrillService

variable {threshold : ℤ} {incidentId : String} {now : Datetime}

/-- A statement that only reads leaves the incidents as they are. -/
lemma incidents_of_map {α : Type} {f : DrillWorld → Except PyError α} (w : DrillWorld) (a : α)
    (w' : DrillWorld) (h : (f w).map (·, w) = .ok (a, w')) :
    w'.db.incidents = w.db.incidents := by
  cases hf : f w with
  | error error =>
    rw [hf] at h
    cases h
  | ok a' =>
    rw [hf] at h
    cases h
    rfl

lemma incidents_of_write {read : Option RecoveryStatus} {row : RecoveryStatus} (w : DrillWorld)
    (u : Unit) (w' : DrillWorld) (h : RecoveryStatusService.write read row w = .ok (u, w')) :
    w'.db.incidents = w.db.incidents := by
  unfold RecoveryStatusService.write at h
  split at h
  · split at h <;> cases h
    rfl
  · split_ifs at h
    · cases h
      rfl
    · split at h <;> cases h
      rfl

lemma tidy_verify : Tidy threshold (do
    if !(← verifyNoMutationArtifacts incidentId) then
      return .failure "status_verification_failed"
    else return .ok incidentId threshold) (some incidentId) := by
  refine tidy_after (fun _ => rfl) incidents_of_map (fun _ => ⟨_, rfl⟩) fun untouched => ?_
  cases untouched with
  | false => exact ⟨_, rfl⟩
  | true =>
    refine tidy_after (fun _ => rfl) incidents_of_map (fun _ => ⟨_, rfl⟩) fun count => ?_
    by_cases hcount : count = 0
    · subst hcount
      exact nofun
    · rw [if_pos (by simpa [isTrouble] using hcount)]
      refine ⟨"status_verification_failed", ?_⟩
      rw [decide_eq_false hcount]
      rfl

lemma tidy_check : Tidy threshold (check now threshold incidentId) (some incidentId) := by
  unfold check RecoveryStatusService.recordSuccessfulCycle
  rw [show ∀ p : Drill RecoveryStatus, some <$> p = p >>= fun snapshot => .ret (some snapshot)
    from fun _ => rfl]
  simp only [Prog.bind_assoc]
  refine tidy_after (fun _ => rfl) incidents_of_map (fun _ => ⟨_, rfl⟩) fun incident => ?_
  refine tidy_after (fun _ => rfl) incidents_of_map (fun _ => ⟨_, rfl⟩) fun read => ?_
  refine tidy_after (fun _ => rfl) incidents_of_write (fun _ => ⟨_, rfl⟩) fun _ => ?_
  refine tidy_after (fun _ => rfl) incidents_of_map (fun _ => ⟨_, rfl⟩) fun snapshot => ?_
  by_cases hexpected : expected incidentId threshold snapshot
  · rw [if_neg (by simpa [isTrouble] using hexpected)]
    show Tidy threshold (if ¬expected incidentId threshold snapshot then _ else _) _
    rw [if_neg (not_not_intro hexpected)]
    exact tidy_verify
  · rw [if_pos (by simpa [isTrouble] using hexpected)]
    refine ⟨"status_verification_failed", ?_⟩
    show (if ¬expected incidentId threshold snapshot then _ else _) = _
    rw [if_pos hexpected]
    rfl

lemma tidy_insertIncident : Tidy threshold (insertIncident now threshold >>= fun
      | .error code => return .failure code
      | .ok incidentId => check now threshold incidentId) none := by
  refine tidy_before (fun _ => rfl) incidents_of_map (fun error => nofun) (fun active => ?_)
  cases active with
  | true => exact nofun
  | false =>
    refine tidy_insert (fun _ => ⟨_, rfl⟩) fun incidentId => ?_
    exact tidy_after (fun _ => rfl) incidents_of_map (fun _ => ⟨_, rfl⟩) fun _ => tidy_check

lemma tidy_fresh {rest : Option String → Drill DrillResult}
    (h : ∀ code, Tidy threshold (rest code) none) :
    Tidy threshold (freshHealthySnapshot now >>= rest) none := by
  unfold freshHealthySnapshot
  rw [Prog.bind_assoc]
  refine tidy_before (fun _ => rfl) incidents_of_map (fun _ => h _) fun snapshot => ?_
  show Tidy threshold ((if _ then _ else _) >>= rest) none
  split_ifs
  · exact h _
  · split
    · exact h _
    · split_ifs <;> exact h _

/-- A drill. -/
lemma tidy_run (settings : DrillSettings) :
    Tidy settings.recoveryFailureThreshold (run settings) none := by
  unfold run
  split_ifs
  · exact nofun
  · exact nofun
  · exact nofun
  · refine tidy_before (fun _ => rfl) incidents_of_map (fun _ => nofun) fun active => ?_
    cases active with
    | true => exact nofun
    | false =>
      intro w
      refine ⟨rfl, nofun, ?_⟩
      refine tidy_fresh fun code => ?_
      cases code with
      | some code => exact nofun
      | none => exact tidy_insertIncident

end Drill

/-! ### Runs -/

section Runs

variable {service : RecoveryService} {w w' : DrillWorld} {p q r : DrillPool} {l : DrillLabel}
  {e : DrillEvent} {history : List DrillEvent} {incidentId : String}

@[simp] lemma insertedBy_concat :
    insertedBy (history ++ [e]) = (insertedBy history).or (incidentOf e) := by
  rw [insertedBy, List.findSome?_append, List.findSome?_singleton, insertedBy]

/-- What has been closed is not opened again. -/
def StaysClosed (old new : RecoveryIncident) : Prop :=
  old.activeKey = none → new.activeKey = none

lemma staysClosed_update {closed : Option String} {now : Datetime} {old new : RecoveryIncident}
    (h : Update service closed now old new) : StaysClosed old new := by
  cases h <;> first | exact id | exact fun _ => rfl

lemma staysClosed_withAttempt (now : Datetime) (incident : RecoveryIncident) (simulated : Bool) :
    StaysClosed incident (withAttempt incident simulated now) := by
  unfold withAttempt
  split_ifs <;> exact id

lemma staysClosed_operates {t t' : Table RecoveryIncident}
    (h : Relation.ReflTransGen (Openings.Operates service) t t') :
    Table.Keeps StaysClosed t t' := by
  induction h with
  | refl => exact .refl (fun _ => id) _
  | tail _ hstep ih =>
    obtain ⟨closed, now, db, db', heffect, rfl, rfl⟩ := hstep
    refine ih.trans (fun _ _ _ h h' hnone => h' (h hnone)) ?_
    exact Incidents.keeps_effect (fun _ => id) (fun _ _ => staysClosed_update)
      (staysClosed_withAttempt now) heffect

/-- The incident is in the tables. -/
def Present (incidentId : String) (w : DrillWorld) : Prop :=
  ∃ incident, w.db.incidents.get? incidentId = some incident

lemma Present.cycles (h : Present incidentId w) (hc : Cycles service w w') :
    Present incidentId w' := by
  obtain ⟨incident, hget⟩ := h
  obtain ⟨incident', hget', -⟩ := staysClosed_operates hc _ _ hget
  exact ⟨incident', hget'⟩

lemma not_active_cycles (h : Present incidentId w) (hclosed : ¬Active incidentId w)
    (hc : Cycles service w w') : ¬Active incidentId w' := by
  obtain ⟨incident, hget⟩ := h
  obtain ⟨incident', hget', hstays⟩ := staysClosed_operates hc _ _ hget
  rintro ⟨incident'', hget'', hactive⟩
  obtain rfl := Option.some.inj (hget'.symm.trans hget'')
  exact hactive (hstays (by_contra fun h => hclosed ⟨incident, hget, h⟩))

/-- A drill leaves the incidents that are there as they are. -/
lemma get?_of_writes {incident : RecoveryIncident} (h : Writes e w w')
    (hget : w.db.incidents.get? incidentId = some incident) :
    w'.db.incidents.get? incidentId = some incident := by
  unfold Writes at h
  split at h
  · rw [h, hget]
  · obtain ⟨_, -, -, hinsert⟩ := h
    exact Table.get?_insert?_of_some hinsert hget

lemma present_of_writes (h : Writes e w w') (hid : incidentOf e = some incidentId) :
    Present incidentId w' := by
  unfold Writes at h
  rw [hid] at h
  obtain ⟨incident, rfl, -, hinsert⟩ := h
  exact ⟨incident, Table.get?_insert?_self hinsert⟩

/-- What is known of the drills of a pool. -/
def Tracked (p : DrillPool) : Prop :=
  ∀ th ∈ p.threads,
    (Tidy th.call.recoveryFailureThreshold th.prog (insertedBy th.history) ∨
      ∃ code, th.prog = .ret (.failure code)) ∧
    ∀ incidentId ∈ insertedBy th.history, Present incidentId p.state

lemma tracked_spawn (h : Tracked p) (settings : DrillSettings) :
    Tracked ⟨p.state, p.threads ++ [⟨settings, [], RecoveryDrillService.run settings⟩]⟩ := by
  intro th hth
  rcases List.mem_append.mp hth with hth | hth
  · exact h th hth
  · obtain rfl := List.mem_singleton.mp hth
    exact ⟨.inl (tidy_run settings), nofun⟩

lemma tracked_cycles (h : Tracked p) (hc : Cycles service p.state w) :
    Tracked ⟨w, p.threads⟩ :=
  fun th hth => ⟨(h th hth).1, fun id hid => ((h th hth).2 id hid).cycles hc⟩

/-- What an action of a drill leads to. -/
lemma tracked_act {t : ℕ} {settings : DrillSettings} {prog : Drill DrillResult} (h : Tracked p)
    (hwrites : Writes e p.state w')
    (hpresent : ∀ incidentId ∈ insertedBy history, Present incidentId p.state)
    (hprog : Tidy settings.recoveryFailureThreshold prog (insertedBy (history ++ [e])) ∨
      ∃ code, prog = .ret (.failure code)) :
    Tracked ⟨w', p.threads.set t ⟨settings, history ++ [e], prog⟩⟩ := by
  have hkept {incidentId : String} (hid : Present incidentId p.state) : Present incidentId w' :=
    ⟨hid.choose, get?_of_writes hwrites hid.choose_spec⟩
  intro th hth
  rcases List.mem_or_eq_of_mem_set hth with hth | rfl
  · exact ⟨(h th hth).1, fun id hid => hkept ((h th hth).2 id hid)⟩
  · refine ⟨hprog, fun id hid => ?_⟩
    rw [insertedBy_concat, Option.mem_def, Option.or_eq_some_iff] at hid
    rcases hid with hid | ⟨-, hid⟩
    · exact hkept (hpresent id hid)
    · exact present_of_writes hwrites hid

/-- An action of a drill does not open the incidents of others. -/
lemma leavesNothing_set_iff {t : ℕ} {th th' : Thread DrillSettings PyError DrillEvent DrillWorld
    DrillResult} (hp : Tracked p) (hleaves : LeavesNothing p) (hwrites : Writes e p.state w')
    (ht : p.threads[t]? = some th) :
    LeavesNothing ⟨w', p.threads.set t th'⟩ ↔ ∀ code, th'.prog = .ret (.failure code) →
      ∀ incidentId ∈ insertedBy th'.history, ¬Active incidentId w' := by
  constructor
  · intro h
    exact h th' (List.mem_set (List.getElem?_eq_some_iff.mp ht).1 _)
  · intro h th'' hth code hcode id hid hactive
    rcases List.mem_or_eq_of_mem_set hth with hth | rfl
    · obtain ⟨incident, hget⟩ := (hp th'' hth).2 id hid
      obtain ⟨incident', hget', hopen⟩ := hactive
      obtain rfl := Option.some.inj ((get?_of_writes hwrites hget).symm.trans hget')
      exact hleaves th'' hth code hcode id hid ⟨incident, hget, hopen⟩
    · exact h code hcode id hid hactive

/-- A step keeps track of the drills, and leaves nothing behind exactly if it is no trouble. -/
lemma step_iff (hp : Tracked p) (hleaves : LeavesNothing p)
    (hs : Pool.Step (drilling service) p l q) :
    Tracked q ∧ (LeavesNothing q ↔ Untroubled p l q) := by
  cases hs with
  | spawn settings =>
    refine ⟨tracked_spawn hp settings, fun _ => trivial, fun _ th hth code hcode id hid => ?_⟩
    rcases List.mem_append.mp hth with hth | hth
    · exact hleaves th hth code hcode id hid
    · obtain rfl := List.mem_singleton.mp hth
      cases hid
  | env hc =>
    refine ⟨tracked_cycles hp hc, fun _ => trivial, fun _ th hth code hcode id hid => ?_⟩
    exact not_active_cycles ((hp th hth).2 id hid) (hleaves th hth code hcode id hid) hc
  | @act t settings history ev upd next ht =>
    obtain ⟨htidy | ⟨code, hcode⟩, hpresent⟩ := hp _ (List.mem_of_getElem? ht)
    swap
    · cases hcode
    obtain ⟨hwrites, -, hnext⟩ := htidy p.state
    rw [← insertedBy_concat] at hnext
    rw [leavesNothing_set_iff hp hleaves hwrites ht]
    have huntroubled : Untroubled p (.act t settings (ev p.state))
        ⟨upd p.state, p.threads.set t ⟨settings, history ++ [ev p.state], next p.state⟩⟩ ↔
          ∀ id ∈ insertedBy (history ++ [ev p.state]),
            isTrouble settings.recoveryFailureThreshold id (ev p.state) = false ∨
              ¬Active id (upd p.state) := by
      refine ⟨fun h => h _ ht, fun h th hth => ?_⟩
      obtain rfl := Option.some.inj (ht.symm.trans hth)
      exact h
    rw [huntroubled]
    cases hid : insertedBy (history ++ [ev p.state]) with
    | none =>
      rw [hid] at hnext
      refine ⟨tracked_act hp hwrites hpresent (.inl (by rwa [hid])), fun _ => nofun, ?_⟩
      intro _ code _ id hmem
      cases hmem
    | some incidentId =>
      rw [hid] at hnext
      by_cases htrouble :
          isTrouble settings.recoveryFailureThreshold incidentId (ev p.state) = true
      · obtain ⟨code, hcode⟩ := (if_pos htrouble).mp hnext
        refine ⟨tracked_act hp hwrites hpresent (.inr ⟨code, hcode⟩), fun h id hmem => ?_, ?_⟩
        · cases hmem
          exact .inr (h code hcode incidentId rfl)
        · intro h _ _ id hmem
          cases hmem
          exact (h incidentId rfl).resolve_left (by rw [htrouble]; nofun)
      · have htidy := (if_neg htrouble).mp hnext
        refine ⟨tracked_act hp hwrites hpresent (.inl (by rwa [hid])), fun _ id hmem => ?_, ?_⟩
        · cases hmem
          exact .inl (Bool.eq_false_iff.mpr htrouble)
        · intro _ code hcode
          rw [show next p.state = .ret (.failure code) from hcode] at htidy
          exact absurd rfl (htidy rfl code)

variable (service)

/-- The runs in all of whose states nothing is left behind are those without trouble. -/
theorem leavesNothing_iff (ok : DrillPool → DrillLabel → DrillPool → Prop) (w : DrillWorld)
    (p : DrillPool) :
    Pool.Run (drilling service) (fun q l r => ok q l r ∧ LeavesNothing r) (Pool.init w) p ↔
      Pool.Run (drilling service) (fun q l r => ok q l r ∧ Untroubled q l r) (Pool.init w) p := by
  have hinit : Tracked (Pool.init w) ∧ LeavesNothing (Pool.init w) := ⟨nofun, nofun⟩
  constructor
  · intro h
    refine (?_ : Pool.Run _ _ _ _ ∧ Tracked p ∧ LeavesNothing p).1
    induction h with
    | refl => exact ⟨.refl _, hinit⟩
    | tail _ hs hok ih =>
      obtain ⟨hrun, htracked, hleaves⟩ := ih
      obtain ⟨htracked', hiff⟩ := step_iff htracked hleaves hs
      exact ⟨hrun.tail hs ⟨hok.1, hiff.mp hok.2⟩, htracked', hok.2⟩
  · intro h
    refine (?_ : Pool.Run _ _ _ _ ∧ Tracked p ∧ LeavesNothing p).1
    induction h with
    | refl => exact ⟨.refl _, hinit⟩
    | tail _ hs hok ih =>
      obtain ⟨hrun, htracked, hleaves⟩ := ih
      obtain ⟨htracked', hiff⟩ := step_iff htracked hleaves hs
      exact ⟨hrun.tail hs ⟨hok.1, hiff.mpr hok.2⟩, htracked', hiff.mpr hok.2⟩

end Runs

/-! ### A drill that fails -/

def healthyStatus : RecoveryStatus where
  target := "dripvid"
  lastProbeAt := some 0
  lastResult := .healthy
  reachable := some true
  statusCode := some 200
  ready := some true

/-- A target that has just been found healthy. -/
def healthyTarget : DrillWorld where
  statuses := ⟨[healthyStatus], List.nodup_singleton _⟩

def drillSettings : DrillSettings := ⟨true, true, .safe, 3⟩

/-- The database goes away when the incident has been committed. -/
def outageAfterInsert : List (Pool.Move DrillSettings DrillWorld) :=
  .spawn drillSettings :: List.replicate 6 (.act 0) ++
    [.env fun w => { w with outage := some (.refuses (.other "OperationalError")) }, .act 0]

theorem not_leavesNothing : ¬∀ (service : RecoveryService) (p : DrillPool),
    Pool.Run (drilling service) (fun _ _ _ => True) (Pool.init healthyTarget) p →
      LeavesNothing p := by
  intro h
  have hrun : Pool.Run (drilling {}) (fun _ _ _ => True) (Pool.init healthyTarget)
      (Pool.play (drilling {}) (Pool.init healthyTarget) outageAfterInsert) := by
    refine Pool.run_play (Pool.admissible_of_env (fun _ _ _ => trivial) fun f hf w => ?_)
    simp only [outageAfterInsert, List.cons_append, List.mem_cons, List.mem_append,
      List.mem_replicate, List.not_mem_nil, or_false] at hf
    obtain hf | ⟨-, hf⟩ | hf | hf := hf <;> cases hf
    exact .refl
  refine h {} _ hrun _ (List.getElem_mem (n := 0) (by decide)) "drill_failed" rfl "0" rfl ?_
  exact ⟨RecoveryDrillService.drillIncident "0" 0 3, rfl, Option.some_ne_none _⟩

end Drills
end AiHq
