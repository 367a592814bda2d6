import AiHq.Approvals.Service
import AiHq.Library.Pool

/-!
# Decisions that race

`decide` reads the request and writes its decision with separate statements, between which other
sessions may commit. Whether the first decision is final depends on what the later ones meet.
-/

namespace AiHq

open Concurrent Relational

/-! ### `decide`, statement by statement -/

namespace Stepwise

/-- The UPDATE of the columns that `decide` has set; it raises where the row is gone. -/
def commitDecision (requestId : String) (decision : ApprovalState) (now : Datetime) (db : Database) :
    Except PyError (Unit × Database) :=
  match db.approvals.get? requestId with
  | none => .error (.other "StaleDataError")
  | some request =>
    let request := { request with state := decision, decidedAt := some now }
    .ok ((), { db with approvals := db.approvals.set request })

def refreshRequest (requestId : String) (db : Database) : Except PyError ApprovalRequest :=
  match db.approvals.get? requestId with
  | none => .error (.other "InvalidRequestError")
  | some request => .ok request

/-- What `decide` checks in the row that it has read. -/
def checkPending (requestId : String) (db : Database) : Except PyError Unit := do
  let request ← ApprovalService.getRequestTx requestId db
  raiseIf (request.state ≠ .pending) (.valueError "approval request already decided")

def decide (requestId : String) (decision : ApprovalState) : Py ApprovalRequest := do
  raiseIf (decision = .pending) (.valueError "approval decision cannot return to pending")
  .query fun _ => checkPending requestId
  let now ← .clock
  .session (fun _ => commitDecision requestId decision now) fun
    | .ok _ => .decided requestId
    | .error _ => .silent
  .query fun _ => refreshRequest requestId

/-- With nothing in between, the statements make up the transaction. -/
theorem run_decide (requestId : String) (decision : ApprovalState) (w : World) :
    (decide requestId decision).run w = (ApprovalService.decide requestId decision).run w := by
  rw [ApprovalService.decide, Py.session, Py.run_transaction, decide, Py.liftM_def,
    Py.run_lift_bind]
  by_cases hp : decision = .pending
  · simp [ApprovalService.decideTx, raiseIf, hp, bind, Except.bind]
  rw [show raiseIf (decision = .pending) (.valueError "approval decision cannot return to pending")
    = .ok () from if_neg hp]
  simp only [Py.run_query_bind, Py.run_clock_bind, Py.session, Py.run_transaction_bind, Py.run_query]
  cases hget : w.db.approvals.get? requestId with
  | none =>
    have hread : ApprovalService.getRequestTx requestId w.db =
        .error (.keyError ("approval request not found: " ++ requestId)) := by
      rw [ApprovalService.getRequestTx, hget]
    simp [ApprovalService.decideTx, checkPending, raiseIf, hp, bind, Except.bind, hread]
  | some request =>
    have hread := ApprovalService.getRequestTx_eq_ok.mpr hget
    by_cases hst : request.state = .pending
    · have hself : (w.db.approvals.set
          { request with state := decision, decidedAt := some w.now }).get? requestId =
          some { request with state := decision, decidedAt := some w.now } := by
        obtain rfl : request.id = requestId := Table.key_of_get? hget
        exact Table.get?_set_self hget
      simp [ApprovalService.decideTx, checkPending, raiseIf, hp, bind, Except.bind, hread, hst,
        commitDecision, refreshRequest, hget, hself, pure, Except.pure]
    · simp [ApprovalService.decideTx, checkPending, raiseIf, hp, bind, Except.bind, hread, hst]

end Stepwise

/-! ### Races -/

namespace Decisions

/-- A call of `decide`. -/
structure Call where
  requestId : String
  decision : ApprovalState

abbrev DecisionPool := Pool Call PyError Event World ApprovalRequest
abbrev DecisionLabel := Label Call Event

/-- Requests stay, with the decision that they have. -/
def DecisionsKept (w w' : World) : Prop :=
  ∀ id request, w.db.approvals.get? id = some request → ∃ request',
    w'.db.approvals.get? id = some request' ∧ request'.state = request.state ∧
      request'.decidedAt = request.decidedAt

/-- Nothing but `decide` decides. -/
def system : System Call PyError Event World ApprovalRequest where
  code c := Stepwise.decide c.requestId c.decision
  env := DecisionsKept

/-! ### The property -/

/-- The decision of the request, if it is there. -/
def decisionOf (id : String) (w : World) : Option (ApprovalState × Option Datetime) :=
  (w.db.approvals.get? id).map fun request => (request.state, request.decidedAt)

/-- In all runs whose steps meet `ok`: the first committed decision on a request stays, and every
other call of `decide` on the request that has ended has raised. -/
def Final (ok : DecisionPool → DecisionLabel → DecisionPool → Prop) : Prop :=
  ∀ {w₀ : World} {p q r : DecisionPool} {t : ℕ} {c : Call} {id : String},
    Pool.Run system ok (Pool.init w₀) p → ¬p.Shown (.decided id) →
    Pool.Step system p (.act t c (.decided id)) q → ok p (.act t c (.decided id)) q →
    Pool.Run system ok q r →
    decisionOf id r.state = decisionOf id q.state ∧
      ∀ t' th result, r.threads[t']? = some th → t' ≠ t → th.call.requestId = id →
        th.prog.outcome = some result → ∃ error, result = .error error

/-- A decision is committed only on a request that is PENDING still. -/
def OnPending (p : DecisionPool) (l : DecisionLabel) (_ : DecisionPool) : Prop :=
  ∀ t c id, l = .act t c (.decided id) →
    ∃ request, p.state.db.approvals.get? id = some request ∧ request.state = .pending

/-! ### One call -/

variable {w w' w'' : World} {e : Event} {c : Call} {h : List Event} {id : String}

lemma DecisionsKept.refl (w : World) : DecisionsKept w w := fun _ request hr => ⟨request, hr, rfl, rfl⟩

lemma DecisionsKept.trans (h : DecisionsKept w w') (h' : DecisionsKept w' w'') :
    DecisionsKept w w'' := by
  intro id request hr
  obtain ⟨request', hr', hstate, hat⟩ := h id request hr
  obtain ⟨request'', hr'', hstate', hat'⟩ := h' id request' hr'
  exact ⟨request'', hr'', hstate'.trans hstate, hat'.trans hat⟩

/-- A call writes the request that it is about, when it commits its decision. -/
structure Guarantee (c : Call) (w : World) (e : Event) (w' : World) : Prop where
  kept : ∀ id request, e ≠ .decided id → w.db.approvals.get? id = some request → ∃ request',
    w'.db.approvals.get? id = some request' ∧ request'.state = request.state ∧
      request'.decidedAt = request.decidedAt
  decided : ∀ id, e = .decided id → c.requestId = id ∧
    ∃ request', w'.db.approvals.get? id = some request' ∧ request'.state ≠ .pending

def contract (c : Call) : Contract Event World where
  rely _ _ := True
  guar _ := Guarantee c
  rely_refl _ := trivial
  rely_trans _ _ _ _ _ := trivial

lemma guarantee_read (he : ∀ id, e ≠ .decided id) : Guarantee c w e w where
  kept _ request _ hr := ⟨request, hr, rfl, rfl⟩
  decided id h := absurd h (he id)

/-- A call that returns has committed its decision. -/
lemma safe_code (c : Call) : Safe (contract c) (system.code c) [] w
    fun h r _ => ∀ request, r = .ok request → .decided c.requestId ∈ h := by
  have hraise {h : List Event} {w : World} (error : PyError) :
      Safe (contract c) (.raise error : Py ApprovalRequest) h w
        fun h r _ => ∀ request, r = .ok request → .decided c.requestId ∈ h := by
    apply Safe.raise
    rintro _ _ _ _ ⟨⟩
  have hread {h : List Event} {w : World} {e : Event} (he : ∀ id, e ≠ .decided id) :
      (contract c).guar h w e w := guarantee_read he
  apply Py.safe_lift_bind
  · intro _ hdecision
    apply Py.safe_query_bind
    · intro _ _ _ _ _ _
      refine ⟨hread (by simp), ?_⟩
      apply Py.safe_clock_bind
      intro v _ _ _
      refine ⟨hread (by simp), ?_⟩
      rw [Py.session]
      apply Py.safe_transaction_bind
      · intro u _ db _ _ hf _
        unfold Stepwise.commitDecision at hf
        split at hf
        · cases hf
        · next request hget =>
          obtain rfl : db = _ := (Prod.mk.inj (Except.ok.inj hf)).2.symm
          obtain hid : request.id = c.requestId := Table.key_of_get? hget
          refine ⟨⟨fun id other hne hother => ?_, ?_⟩, trivial, ?_⟩
          · refine ⟨other, (Table.get?_set_ne ?_).trans hother, rfl, rfl⟩
            rintro rfl
            exact hne (by rw [← hid]; rfl)
          · rintro id ⟨⟩
            refine ⟨rfl, { request with state := c.decision, decidedAt := some v.now }, ?_, ?_⟩
            · rw [← hid] at hget ⊢
              exact Table.get?_set_self hget
            · exact raiseIf_eq_ok.mp hdecision
          · apply Py.safe_query
            · intro _ _ _ _ _ _
              refine ⟨hread (by simp), ?_⟩
              intro _ _ _ _ _
              simp
            · intro _ _ _ _ _ _
              refine ⟨hread (by simp), ?_⟩
              rintro _ _ _ _ ⟨⟩
      · intro _ _ _ _ _ _
        exact ⟨hread (by simp), hraise _⟩
    · intro _ _ _ _ _ _
      exact ⟨hread (by simp), hraise _⟩
  · intro error _
    exact hraise error

/-! ### Runs -/

variable {ok : DecisionPool → DecisionLabel → DecisionPool → Prop} {p q r : DecisionPool}
  {l : DecisionLabel} {t : ℕ}

/-- A call that has returned has committed its decision. -/
def Committed (c : Call) (h : List Event) (r : Except PyError ApprovalRequest) (_ : World) : Prop :=
  ∀ request, r = .ok request → .decided c.requestId ∈ h

lemma compatible : Pool.Compatible system (fun _ _ _ => True) (fun _ => True) contract Committed where
  inv_iff _ _ := Iff.rfl
  env _ _ _ _ _ := ⟨trivial, fun _ => trivial⟩
  act _ _ _ _ _ _ _ _ _ := trivial
  cond _ _ _ _ _ _ _ _ _ := trivial
  code _ c _ _ _ := safe_code c

/-- Every call is under way as its code runs. -/
abbrev UnderWay (p : DecisionPool) : Prop := Pool.AllSafe (fun _ => True) contract Committed p

lemma underWay (hr : Pool.Run system ok (Pool.init w) p) : UnderWay p :=
  (hr.mono fun _ _ _ _ => trivial).safe compatible (Pool.allSafe_init trivial)

/-- The request has been decided, and no call but the `t`-th has committed a decision on it. -/
structure Settled (t : ℕ) (id : String) (p : DecisionPool) : Prop where
  decided : ∃ request, p.state.db.approvals.get? id = some request ∧ request.state ≠ .pending
  alone : ∀ t' th, p.threads[t']? = some th → t' ≠ t → .decided id ∉ th.history

lemma settled_of_decided {c : Call} (hp : UnderWay p) (hnone : ¬p.Shown (.decided id))
    (hs : Pool.Step system p (.act t c (.decided id)) q) : Settled t id q := by
  obtain ⟨h, prog, -, -, hg⟩ := hp.guar compatible hs trivial
  refine ⟨(hg.decided id rfl).2, fun t' th ht hne hmem => ?_⟩
  rcases hs.mem_history ht hmem with ⟨th', ht', hmem'⟩ | ⟨c', hl⟩
  · exact hnone ⟨th', List.mem_of_getElem? ht', hmem'⟩
  · cases hl
    exact hne rfl

/-- What a step does to a request, unless it is a decision on it. -/
lemma decision_kept (hp : UnderWay p) (hs : Pool.Step system p l q)
    (hl : ∀ t c, l ≠ .act t c (.decided id)) {request : ApprovalRequest}
    (hr : p.state.db.approvals.get? id = some request) : ∃ request',
      q.state.db.approvals.get? id = some request' ∧ request'.state = request.state ∧
        request'.decidedAt = request.decidedAt := by
  cases l with
  | spawn c =>
    cases hs
    exact ⟨request, hr, rfl, rfl⟩
  | env =>
    cases hs with
    | env hkept => exact hkept id request hr
  | act t c e =>
    obtain ⟨h, prog, -, -, hg⟩ := hp.guar compatible hs trivial
    refine hg.kept id request ?_ hr
    rintro rfl
    exact hl t c rfl

/-- A decision that is committed on PENDING requests only stays. -/
lemma Settled.step (hp : UnderWay p) (hsettled : Settled t id p) (hs : Pool.Step system p l q)
    (hok : OnPending p l q) :
    Settled t id q ∧ decisionOf id q.state = decisionOf id p.state := by
  obtain ⟨request, hget, hstate⟩ := hsettled.decided
  have hl : ∀ t c, l ≠ .act t c (.decided id) := by
    rintro t c rfl
    obtain ⟨request', hget', hpending⟩ := hok t c id rfl
    cases hget.symm.trans hget'
    exact hstate hpending
  obtain ⟨request', hget', hstate', hat⟩ := decision_kept hp hs hl hget
  refine ⟨⟨⟨request', hget', by rwa [hstate']⟩, fun t' th ht hne hmem => ?_⟩, ?_⟩
  · rcases hs.mem_history ht hmem with ⟨th', ht', hmem'⟩ | ⟨c, rfl⟩
    · exact hsettled.alone t' th' ht' hne hmem'
    · exact hl t' c rfl
  · rw [decisionOf, decisionOf, hget, hget', Option.map_some, Option.map_some, hstate', hat]

/-- The first decision is final in the runs in which decisions are committed on PENDING requests
only. -/
theorem final {w₀ : World} {p q r : DecisionPool} {t : ℕ} {c : Call} {id : String}
    (hr : Pool.Run system OnPending (Pool.init w₀) p) (hnone : ¬p.Shown (.decided id))
    (hs : Pool.Step system p (.act t c (.decided id)) q)
    (_ : OnPending p (.act t c (.decided id)) q) (hr' : Pool.Run system OnPending q r) :
    decisionOf id r.state = decisionOf id q.state ∧
      ∀ t' th result, r.threads[t']? = some th → t' ≠ t → th.call.requestId = id →
        th.prog.outcome = some result → ∃ error, result = .error error := by
  have hsettled := settled_of_decided (underWay hr) hnone hs
  have hinv := hr'.invariant (P := fun r => UnderWay r ∧ Settled t id r ∧
    decisionOf id r.state = decisionOf id q.state) ⟨(underWay hr).step compatible hs trivial,
      hsettled, rfl⟩ (fun p l q hp hs hok => ?_)
  · refine ⟨hinv.2.2, fun t' th result ht hne hid hout => ?_⟩
    cases result with
    | error error => exact ⟨error, rfl⟩
    | ok request =>
      have hmem := hinv.1.post compatible (List.mem_of_getElem? ht) hout request rfl
      rw [hid] at hmem
      exact absurd hmem (hinv.2.1.alone t' th ht hne)
  · obtain ⟨hsettled', hsame⟩ := hp.2.1.step hp.1 hs hok
    exact ⟨hp.1.step compatible hs trivial, hsettled', hsame.trans hp.2.2⟩

/-! ### Two deciders -/

/-- A request that has not been decided. -/
def pendingWorld : World where
  db :=
    { approvals := ⟨[
        { id := "request", missionId := "mission", requesterAgent := "sysadmin", action := "deploy",
          target := "ai-hq", risk := .amber, actionPlan := [], actionFingerprint := "",
          expiresAt := seconds 3600 }], by decide⟩ }

def deny : Call := ⟨"request", .denied⟩

def approve : Call := ⟨"request", .approved⟩

/-- The two calls have arrived, and have taken the given actions. -/
def played (ts : List ℕ) : DecisionPool :=
  Pool.play system (Pool.init pendingWorld) (.spawn deny :: .spawn approve :: ts.map .act)

/-- A test for steps that commit no decision but on a PENDING request. -/
def meetsPending (p : DecisionPool) : DecisionLabel → Bool
  | .act _ _ (.decided id) =>
    (p.state.db.approvals.get? id).any fun request => request.state = .pending
  | _ => true

lemma onPending_of_meetsPending (h : meetsPending p l = true) : OnPending p l q := by
  rintro t c id rfl
  simpa [meetsPending, Option.any_eq_true] using h

lemma run_played {ts : List ℕ}
    (h : Pool.admits system meetsPending (Pool.init pendingWorld)
      (.spawn deny :: .spawn approve :: ts.map .act) = true) :
    Pool.Run system OnPending (Pool.init pendingWorld) (played ts) := by
  apply Pool.run_play
  refine Pool.admissible_of_admits (T := meetsPending) (fun p l q => onPending_of_meetsPending) ?_ h
  intro f hf
  simp at hf

lemma step_played {ts : List ℕ}
    (hl : (Pool.Move.act t : Pool.Move Call World).label? (played ts) = some l) :
    Pool.Step system (played ts) l (played (ts ++ [t])) := by
  have hplay : played (ts ++ [t]) = Pool.move system (played ts) (.act t) := by
    rw [played, List.map_append, ← List.cons_append, ← List.cons_append]
    exact Pool.play_concat ..
  rw [hplay]
  exact Pool.step_move hl

lemma not_shown (h : (p.threads.all fun th => th.history.all fun
    | .decided _ => false
    | _ => true) = true) : ¬p.Shown (.decided id) := by
  rintro ⟨th, hth, he⟩
  have hall := List.all_eq_true.mp (List.all_eq_true.mp h th hth) _ he
  cases hall

/-- An approval overwrites the denial that has been committed since it read the request. -/
theorem not_final_late_approval : ¬Final fun _ _ _ => True := by
  intro hfinal
  have hr : Pool.Run system (fun _ _ _ => True) (Pool.init pendingWorld) (played [0, 1, 0, 1]) :=
    (run_played rfl).mono fun _ _ _ _ => trivial
  have hdeny : Pool.Step system (played [0, 1, 0, 1]) (.act 0 deny (.decided "request"))
      (played [0, 1, 0, 1, 0]) := step_played rfl
  have happrove : Pool.Step system (played [0, 1, 0, 1, 0]) (.act 1 approve (.decided "request"))
      (played [0, 1, 0, 1, 0, 1]) := step_played rfl
  have hdecision := (hfinal hr (not_shown rfl) hdeny trivial ((Pool.Run.refl _).tail happrove trivial)).1
  have hstate : some (ApprovalState.approved, some (0 : Datetime)) = some (.denied, some 0) :=
    hdecision
  cases hstate

/-- An approval that reads the request after the denial raises. -/
theorem final_later_approval :
    decisionOf "request" (played [0, 0, 0, 1]).state = some (.denied, some 0) ∧
      ∃ th, (played [0, 0, 0, 1]).threads[1]? = some th ∧
        ∃ error, th.prog.outcome = some (.error error) := by
  have hdeny : Pool.Step system (played [0, 0]) (.act 0 deny (.decided "request"))
      (played [0, 0, 0]) := step_played rfl
  have hread : Pool.Step system (played [0, 0, 0]) (.act 1 approve .silent)
      (played [0, 0, 0, 1]) := step_played rfl
  have hfinal := final (run_played rfl) (not_shown rfl) hdeny (onPending_of_meetsPending rfl)
    ((Pool.Run.refl _).tail hread (onPending_of_meetsPending rfl))
  refine ⟨hfinal.1.trans rfl, _, rfl, ?_⟩
  obtain ⟨error, herror⟩ := hfinal.2 1 _ _ rfl (by decide) rfl rfl
  exact ⟨error, congrArg some herror⟩

end Decisions
end AiHq
