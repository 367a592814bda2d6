import AiHq.HostHelper.Contracts
import AiHq.Library.Pool
import AiHq.ToolGateway.Contracts

/-!
# Sessions and the ledger

A service method is a program over the database and what the process reads from outside it:
the clock, fresh identifiers, and the replies of adapters, agents and sandboxes. Each
`with self.session_factory() as db` block is one transaction, which an exception rolls back.
-/

namespace AiHq

open Concurrent Relational

/-- The work outside the database that the processing of a code change waits for. -/
inductive Work where
  | runnerFactory | prepareWorkspace | developerExecute | applyChanges | reviewDiff | runTests
  | verifyCandidate | qaReview
  deriving DecidableEq, Repr

/-- What `CandidateVerifier.verify` returns. -/
structure VerifiedCandidate where
  changeRef : String
  summary : String
  changedFiles : List String
  evidence : Dict

/-- The database, and what a process reads from outside it. -/
structure World where
  db : Database := {}
  now : Datetime := 0
  /-- the identifiers that `uuid4` yields, and how many of them have been drawn -/
  uuids : ℕ → String := fun n => toString n
  drawn : ℕ := 0
  /-- the order in which a SELECT without ORDER BY meets the rows, as a rank of their keys -/
  scan : String → ℕ := fun _ => 0
  adapter : ToolRequest → Except PyError Json := fun _ => .ok (.obj [])
  helper : HelperRequest → Except PyError HelperResponse := fun request =>
    .ok ⟨true, request.capability, request.target, [], none⟩
  /-- how a recovery cycle ends, and how its handling of a result does -/
  recovery : Except PyError Bool := .ok false
  recoveryHandled : Except PyError Unit := .ok ()
  work : Work → Except PyError Json := fun _ => .ok .null
  verified : VerifiedCandidate := ⟨"", "", [], []⟩
  /-- the workers whose processes have died -/
  down : String → Bool := fun _ => false

/-- What a transaction reads besides the tables: the clock, identifiers for the rows that it
inserts, and the order of its unordered SELECTs. -/
structure Moment where
  now : Datetime
  ids : ℕ → String
  scan : String → ℕ

namespace World

def moment (w : World) : Moment where
  now := w.now
  ids := fun i => w.uuids (w.drawn + i)
  scan := w.scan

/-- The world after a transaction that leaves the tables `db` and has inserted `n` rows. -/
def commit (w : World) (n : ℕ) (db : Database) : World :=
  { w with db := db, drawn := w.drawn + n }

variable (w : World) (n : ℕ) (db : Database)

@[simp] lemma moment_now : w.moment.now = w.now := rfl
@[simp] lemma moment_scan : w.moment.scan = w.scan := rfl

@[simp] lemma commit_db : (w.commit n db).db = db := rfl
@[simp] lemma commit_now : (w.commit n db).now = w.now := rfl
@[simp] lemma commit_down : (w.commit n db).down = w.down := rfl
@[simp] lemma commit_adapter : (w.commit n db).adapter = w.adapter := rfl
@[simp] lemma commit_self : w.commit 0 w.db = w := rfl

end World

/-! ### Events -/

/-- The parts of a worker iteration. -/
inductive Stage where
  | recovery | autonomous | codeChange | department
  deriving DecidableEq, Repr

/-- What an action shows. -/
inductive Event where
  | silent
  | clockRead (now : Datetime)
  | ruleConsumed (rule : String)
  | ruleRefused (rule : String)
  | adapterCall (request : ToolRequest) (rule : Option String)
  | gatewayRequest (step : String)
  | stepClaimed (step : String)
  | stepAt (step : String) (status : MissionStepStatus)
  | stepRefused (step : String) (status : MissionStepStatus)
  | missionTransition (mission : String) (target : MissionStatus)
  | leaseClaimed (worker mission : String)
  | leaseRenewed (worker mission : String)
  | leaseReleased (worker mission : String)
  | oldestQueued (mission : Option String)
  | decided (request : String)
  | staged (stage : Stage) (e : Event)

/-! ### Service methods -/

/-- A service method. -/
abbrev Py (α : Type) := Prog PyError Event World α

namespace Py

/-- Run what can raise outside any transaction. -/
def lift {α : Type} : Except PyError α → Py α
  | .ok a => .ret a
  | .error e => .raise e

instance : MonadLift (Except PyError) Py := ⟨lift⟩

lemma liftM_def {α : Type} (x : Except PyError α) : (liftM x : Py α) = lift x := rfl

/-- A transaction on the tables that inserts at most `n` rows. -/
def transaction {α : Type} (n : ℕ) (f : Moment → Database → Except PyError (α × Database))
    (ev : Except PyError α → Event := fun _ => .silent) : Py α :=
  .atomic ev fun w => (f w.moment w.db).map fun r => (r.1, w.commit n r.2)

/-- A transaction that inserts nothing. -/
def session {α : Type} (f : Moment → Database → Except PyError (α × Database))
    (ev : Except PyError α → Event := fun _ => .silent) : Py α := transaction 0 f ev

/-- A session that only reads. -/
def query {α : Type} (f : Moment → Database → Except PyError α)
    (ev : Except PyError α → Event := fun _ => .silent) : Py α :=
  session (fun m db => (f m db).map fun a => (a, db)) ev

/-- `datetime.now(UTC)`. -/
def clock : Py Datetime := query (fun m _ => .ok m.now) fun
  | .ok now => .clockRead now
  | .error _ => .silent

/-- Wait for what comes from outside the database: it may raise, and it may take any time. -/
def ask {α : Type} (reply : World → Except PyError α) : Py α :=
  .atomic (fun _ => .silent) fun w => (reply w).map (·, w)

def outside (work : Work) : Py Json := .ask fun w => w.work work

/-- `try: body finally: cleanup` -/
def finally_ {α : Type} (body : Py α) (cleanup : Py Unit) : Py α := do
  let result ← tryCatch (Except.ok <$> body) fun error => return .error error
  cleanup
  lift result

/-- An action that is only shown. -/
def show_ (e : Event) : Py Unit := query (fun _ _ => .ok ()) fun _ => e

end Py

/-! ### The operations ledger -/

namespace OperationsLedger

def addToSession (event : LedgerEvent) (db : Database) : Database :=
  { db with ledger := db.ledger ++ [event] }

def record (event : LedgerEvent) : Py LedgerEvent :=
  .session fun _ db => .ok (event, addToSession event db)

end OperationsLedger

/-! ### Rules -/

namespace Py

lemma map_eq_ok {ε α β : Type} {f : α → β} {x : Except ε α} {b : β} :
    x.map f = .ok b ↔ ∃ a, x = .ok a ∧ f a = b := by
  cases x <;> simp [Except.map]

lemma map_eq_error {ε α β : Type} {f : α → β} {x : Except ε α} {e : ε} :
    x.map f = .error e ↔ x = .error e := by
  cases x <;> simp [Except.map]

section Rules

variable {α β : Type} {C : Contract Event World} {k : α → Py β} {h : List Event} {w : World}
  {n : ℕ} {f : Moment → Database → Except PyError (α × Database)}
  {g : Moment → Database → Except PyError α} {ev : Except PyError α → Event}
  {Q : List Event → Except PyError β → World → Prop}

lemma run_transaction_bind (n : ℕ) (f : Moment → Database → Except PyError (α × Database))
    (ev : Except PyError α → Event) (k : α → Py β) (w : World) :
    (transaction n f ev >>= k).run w = match f w.moment w.db with
      | .ok (a, db) => (k a).run (w.commit n db)
      | .error e => (.error e, w) := by
  rw [Prog.run_bind, transaction, Prog.run_atomic]
  cases f w.moment w.db <;> rfl

lemma run_transaction (n : ℕ) (f : Moment → Database → Except PyError (α × Database))
    (ev : Except PyError α → Event) (w : World) :
    (transaction n f ev).run w = match f w.moment w.db with
      | .ok (a, db) => (.ok a, w.commit n db)
      | .error e => (.error e, w) := by
  rw [transaction, Prog.run_atomic]
  cases f w.moment w.db <;> rfl

lemma run_query_bind (g : Moment → Database → Except PyError α) (ev : Except PyError α → Event)
    (k : α → Py β) (w : World) :
    (query g ev >>= k).run w = match g w.moment w.db with
      | .ok a => (k a).run w
      | .error e => (.error e, w) := by
  rw [query, session, run_transaction_bind]
  cases g w.moment w.db <;> rfl

lemma run_query (g : Moment → Database → Except PyError α) (ev : Except PyError α → Event)
    (w : World) : (query g ev).run w = (g w.moment w.db, w) := by
  rw [query, session, run_transaction]
  cases g w.moment w.db <;> rfl

lemma run_clock_bind (k : Datetime → Py β) (w : World) : (clock >>= k).run w = (k w.now).run w := by
  rw [clock, run_query_bind]
  rfl

lemma run_lift_bind (x : Except PyError α) (k : α → Py β) (w : World) :
    (lift x >>= k).run w = match x with
      | .ok a => (k a).run w
      | .error e => (.error e, w) := by
  cases x <;> rfl

lemma safe_transaction_bind
    (hok : ∀ v a db, C.rely w v → C.inv v → f v.moment v.db = .ok (a, db) →
      C.cond h v (ev (.ok a)) (v.commit n db) →
      C.guar h v (ev (.ok a)) (v.commit n db) ∧ C.inv (v.commit n db) ∧
        Safe C (k a) (h ++ [ev (.ok a)]) (v.commit n db) Q)
    (herr : ∀ v e, C.rely w v → C.inv v → f v.moment v.db = .error e →
      C.cond h v (ev (.error e)) v →
      C.guar h v (ev (.error e)) v ∧
        Safe C (.raise e : Py β) (h ++ [ev (.error e)]) v Q) :
    Safe C (transaction n f ev >>= k) h w Q := by
  refine Safe.atomic_bind (fun v a t hR hI hf hc => ?_) fun v e hR hI hf hc => ?_
  · obtain ⟨⟨b, db⟩, hfv, hb⟩ := map_eq_ok.mp hf
    cases hb
    exact hok v b db hR hI hfv hc
  · exact herr v e hR hI (map_eq_error.mp hf) hc

lemma safe_query_bind
    (hok : ∀ v a, C.rely w v → C.inv v → g v.moment v.db = .ok a →
      C.cond h v (ev (.ok a)) v →
      C.guar h v (ev (.ok a)) v ∧ Safe C (k a) (h ++ [ev (.ok a)]) v Q)
    (herr : ∀ v e, C.rely w v → C.inv v → g v.moment v.db = .error e →
      C.cond h v (ev (.error e)) v →
      C.guar h v (ev (.error e)) v ∧
        Safe C (.raise e : Py β) (h ++ [ev (.error e)]) v Q) :
    Safe C (query g ev >>= k) h w Q := by
  unfold query session
  refine safe_transaction_bind (fun v a db hR hI hf hc => ?_) fun v e hR hI hf hc => ?_
  · obtain ⟨b, hg, hb⟩ := map_eq_ok.mp hf
    cases hb
    obtain ⟨hgu, hn⟩ := hok v a hR hI hg hc
    exact ⟨hgu, hI, hn⟩
  · exact herr v e hR hI (map_eq_error.mp hf) hc

lemma safe_transaction {Q : List Event → Except PyError α → World → Prop}
    (hok : ∀ v a db, C.rely w v → C.inv v → f v.moment v.db = .ok (a, db) →
      C.cond h v (ev (.ok a)) (v.commit n db) →
      C.guar h v (ev (.ok a)) (v.commit n db) ∧ C.inv (v.commit n db) ∧
        ∀ t, C.rely (v.commit n db) t → C.inv t → Q (h ++ [ev (.ok a)]) (.ok a) t)
    (herr : ∀ v e, C.rely w v → C.inv v → f v.moment v.db = .error e →
      C.cond h v (ev (.error e)) v →
      C.guar h v (ev (.error e)) v ∧
        ∀ t, C.rely v t → C.inv t → Q (h ++ [ev (.error e)]) (.error e) t) :
    Safe C (transaction n f ev) h w Q := by
  rw [← Prog.bind_ret (transaction n f ev)]
  refine safe_transaction_bind (fun v a db hR hI hf hc => ?_) fun v e hR hI hf hc => ?_
  · obtain ⟨hg, hI', hQ⟩ := hok v a db hR hI hf hc
    exact ⟨hg, hI', .ret hQ⟩
  · exact (herr v e hR hI hf hc).imp_right .raise

lemma safe_query {Q : List Event → Except PyError α → World → Prop}
    (hok : ∀ v a, C.rely w v → C.inv v → g v.moment v.db = .ok a → C.cond h v (ev (.ok a)) v →
      C.guar h v (ev (.ok a)) v ∧
        ∀ t, C.rely v t → C.inv t → Q (h ++ [ev (.ok a)]) (.ok a) t)
    (herr : ∀ v e, C.rely w v → C.inv v → g v.moment v.db = .error e →
      C.cond h v (ev (.error e)) v →
      C.guar h v (ev (.error e)) v ∧
        ∀ t, C.rely v t → C.inv t → Q (h ++ [ev (.error e)]) (.error e) t) :
    Safe C (query g ev) h w Q := by
  rw [← Prog.bind_ret (query g ev)]
  exact safe_query_bind (fun v a hR hI hf hc => (hok v a hR hI hf hc).imp_right .ret)
    fun v e hR hI hf hc => (herr v e hR hI hf hc).imp_right .raise

lemma safe_clock_bind {k : Datetime → Py β}
    (hok : ∀ v, C.rely w v → C.inv v → C.cond h v (.clockRead v.now) v →
      C.guar h v (.clockRead v.now) v ∧ Safe C (k v.now) (h ++ [.clockRead v.now]) v Q) :
    Safe C (clock >>= k) h w Q := by
  refine safe_query_bind (fun v a hR hI ha hc => ?_) fun v e _ _ he => ?_
  · cases ha
    exact hok v hR hI hc
  · cases he

lemma safe_lift_bind {x : Except PyError α} (hok : ∀ a, x = .ok a → Safe C (k a) h w Q)
    (herr : ∀ e, x = .error e → Safe C (.raise e : Py β) h w Q) :
    Safe C (lift x >>= k) h w Q := by
  cases x with
  | ok a => exact hok a rfl
  | error e => exact herr e rfl

lemma every_transaction {G : World → Event → World → Prop}
    (hok : ∀ v a db, f v.moment v.db = .ok (a, db) → G v (ev (.ok a)) (v.commit n db))
    (herr : ∀ v e, f v.moment v.db = .error e → G v (ev (.error e)) v) :
    Every G (transaction n f ev) := by
  refine Every.atomic (fun v a t hf => ?_) fun v e hf => ?_
  · obtain ⟨⟨b, db⟩, hfv, hb⟩ := map_eq_ok.mp hf
    cases hb
    exact hok v b db hfv
  · exact herr v e (map_eq_error.mp hf)

/-- A read changes nothing, whatever it finds. -/
lemma every_query {G : World → Event → World → Prop} (hG : ∀ v r, G v (ev r) v) :
    Every G (query g ev) := by
  unfold query session
  refine every_transaction (fun v a db hf => ?_) fun v e _ => hG v (.error e)
  obtain ⟨b, -, hb⟩ := map_eq_ok.mp hf
  cases hb
  exact hG v (.ok a)

/-- What comes from outside the database changes nothing in it. -/
lemma every_ask {G : World → Event → World → Prop} (hG : ∀ v, G v .silent v)
    (reply : World → Except PyError α) : Every G (ask reply) := by
  refine Every.atomic (fun v a t hf => ?_) fun v _ _ => hG v
  obtain ⟨b, -, hb⟩ := map_eq_ok.mp hf
  cases hb
  exact hG v

lemma every_outside {G : World → Event → World → Prop} (hG : ∀ v, G v .silent v) (work : Work) :
    Every G (outside work) := every_ask hG _

lemma every_lift {G : World → Event → World → Prop} (x : Except PyError α) :
    Every G (lift x) := by
  cases x with
  | ok a => exact .ret a
  | error e => exact .raise e

lemma every_lift_bind {G : World → Event → World → Prop} {x : Except PyError α}
    (hk : ∀ a, x = .ok a → Every G (k a)) : Every G (lift x >>= k) := by
  cases x with
  | ok a => exact hk a rfl
  | error e => exact .raise e

lemma every_finally {G : World → Event → World → Prop} {p : Py α} {cleanup : Py Unit}
    (hp : Every G p) (hcleanup : Every G cleanup) : Every G (finally_ p cleanup) := by
  apply Every.bind
  · apply Every.tryCatch
    · exact hp.bind fun _ => .ret _
    · exact fun _ => .ret _
  · intro result
    exact hcleanup.bind fun _ => every_lift result

lemma every_clock {G : World → Event → World → Prop} (hG : ∀ v, G v (.clockRead v.now) v) :
    Every G clock := by
  unfold clock query session
  refine every_transaction (fun v a db hf => ?_) fun v e he => ?_
  · cases hf
    exact hG v
  · cases he

variable {K : World → Event → World → Prop} {P : Except PyError α → Prop} {E : PyError → Prop}

lemma yields_transaction
    (hok : ∀ v a db, f v.moment v.db = .ok (a, db) → K v (ev (.ok a)) (v.commit n db) → P (.ok a))
    (herr : ∀ v e, f v.moment v.db = .error e → K v (ev (.error e)) v → P (.error e)) :
    Yields K (transaction n f ev) P := by
  refine Yields.atomic (fun v a t hf hK => ?_) fun v e hf hK => ?_
  · obtain ⟨⟨b, db⟩, hfv, hb⟩ := map_eq_ok.mp hf
    cases hb
    exact hok v b db hfv hK
  · exact herr v e (map_eq_error.mp hf) hK

/-- The exception, if there is one, is in `E`. -/
def RaisesOnly (E : PyError → Prop) (r : Except PyError α) : Prop := ∀ e, r = .error e → E e

lemma raisesOnly_ok (a : α) : RaisesOnly E (.ok a) := by
  intro e he
  cases he

lemma raisesOnly_error {e : PyError} (he : E e) : RaisesOnly E (.error e : Except PyError α) := by
  intro e' he'
  cases he'
  exact he

lemma yields_ret (a : α) : Yields K (.ret a : Py α) (RaisesOnly E) := .ret (raisesOnly_ok a)

lemma yields_bind {p : Py α} (hp : Yields K p (RaisesOnly E))
    (hk : ∀ a, Yields K (k a) (RaisesOnly E)) : Yields K (p >>= k) (RaisesOnly E) := by
  apply hp.bind
  · intro a _
    exact hk a
  · intro e he
    exact raisesOnly_error (he e rfl)

/-- A read that cannot fail raises nothing. -/
lemma yields_query {g : Moment → Database → α} {ev : Except PyError α → Event} :
    Yields K (query (fun m db => .ok (g m db)) ev) (RaisesOnly E) := by
  rw [query, session]
  apply yields_transaction
  · intro v a db _ _
    exact raisesOnly_ok a
  · intro v e he
    cases he

lemma yields_clock : Yields K clock (RaisesOnly E) := yields_query

end Rules

end Py
end AiHq
