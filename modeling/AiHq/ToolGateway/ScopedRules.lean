import AiHq.ToolGateway.Authorization

/-!
# The ceiling of a scoped rule

A rule is matched in one transaction and consumed in another, so any number of calls may match
its last use; the conditional UPDATE keeps the count within the ceiling, and no call reaches
its adapter without having consumed the rule that it has matched.
-/

namespace AiHq

open Concurrent Relational ToolGateway

namespace ScopedRules

/-- What goes on concurrently: gateway calls and the creation of rules. -/
inductive Call where
  | execute (gateway : ToolGateway) (request : ToolRequest)
  | createScopedRule (action target : String) (risk : MissionRisk) (conditions : Dict)
      (expiresAt : Datetime) (maxExecutionCount : Option ℤ)

def Call.code : Call → Py (Option ToolOutcome)
  | execute gateway request => some <$> gateway.execute request
  | createScopedRule action target risk conditions expiresAt maxExecutionCount => do
    let _ ← ApprovalService.createScopedRule action target risk conditions expiresAt
      maxExecutionCount
    return none

/-- Anything else may happen, except to the rules. -/
def system : System Call PyError Event World (Option ToolOutcome) where
  code := Call.code
  env w w' := w'.db.rules = w.db.rules

abbrev RulePool := Pool Call PyError Event World (Option ToolOutcome)

/-! ### What is counted -/

def consumes (id : String) : Event → Bool
  | .ruleConsumed id' => id' = id
  | _ => false

/-- A mutating adapter call made after matching the rule. -/
def callsUnder (id : String) : Event → Bool
  | .adapterCall request (some id') => request.mutatesExternalState && id' = id
  | _ => false

/-- The count of a rule is within its ceiling, if that is not negative. -/
def WithinCeiling (rule : ScopedApprovalRule) : Prop :=
  0 ≤ rule.executionCount ∧
    ∀ limit, rule.maxExecutionCount = some limit → 0 ≤ limit → rule.executionCount ≤ limit

/-- A call makes a mutating adapter call only after it has consumed the rule, and none after a
rule has been refused to it. -/
structure InOrder (h : List Event) : Prop where
  consumed : ∀ id, h.countP (callsUnder id) ≤ h.countP (consumes id)
  refused : ∀ id, .ruleRefused id ∈ h → adapterCalls h = 0

/-- How an action changes the rules: by a conditional UPDATE, by a new rule, or not at all. -/
def RuleAction (w : World) (e : Event) (w' : World) : Prop :=
  (∃ id now rule, e = .ruleConsumed id ∧
    ApprovalService.consumeRuleTx id now w.db = .ok (rule, w'.db)) ∨
  ((∀ id, e ≠ .ruleConsumed id) ∧
    (w'.db.rules = w.db.rules ∨
      ∃ rule, rule.executionCount = 0 ∧ w.db.rules.insert? rule = some w'.db.rules))

/-- Others may do anything; every action of a call keeps its history in order. -/
def contract : Contract Event World where
  rely _ _ := True
  guar h w e w' := (InOrder h → InOrder (h ++ [e])) ∧ RuleAction w e w'
  rely_refl _ := trivial
  rely_trans _ _ _ _ _ := trivial

/-! ### The histories of calls -/

variable {h : List Event} {w : World} {α β : Type}

lemma inOrder_of_safety (hh : ∀ e ∈ h, OfSafety e) : InOrder h := by
  refine ⟨fun id => ?_, fun id hid => (hh _ hid).elim⟩
  rw [List.countP_eq_zero.mpr]
  · exact Nat.zero_le _
  · intro e he
    cases e with
    | adapterCall _ _ => exact (hh _ he).elim
    | _ => simp [callsUnder]

/-- Events of the safety service keep a history in order. -/
lemma InOrder.append_safety {e : Event} (hh : InOrder h) (he : OfSafety e) :
    InOrder (h ++ [e]) := by
  cases e with
  | silent | clockRead _ =>
    refine ⟨fun id => ?_, fun id hid => ?_⟩
    · simpa [List.countP_append, callsUnder, consumes] using hh.consumed id
    · have := hh.refused id (by simpa using hid)
      simpa [adapterCalls, Event.isAdapterCall] using this
  | _ => exact he.elim

lemma ruleAction_of_safety {e : Event} {w' : World} (hs : SafetyAction w e w') :
    RuleAction w e w' := .inr ⟨hs.event.gateway.2, .inl hs.rules⟩

/-- The safety service adds only its own events. -/
lemma safe_safety {p : Py α} (hp : Every SafetyAction p) (h : List Event) (w : World) :
    Safe contract p h w fun h' _ _ => ∃ l, h' = h ++ l ∧ ∀ e ∈ l, OfSafety e :=
  (hp.safe (C := contract) (F := fun _ _ => True) (N := OfSafety)
    (fun _ _ _ _ _ _ hs =>
      ⟨⟨fun hh => hh.append_safety hs.event, ruleAction_of_safety hs⟩, trivial, trivial, hs.event⟩)
    (fun _ _ _ => trivial) (fun _ _ _ _ _ => trivial) h w).mono fun _ _ _ hP => hP.2

lemma safe_done {p : Py α} (hp : Every SafetyAction p) (h : List Event) (w : World) :
    Safe contract p h w fun _ _ _ => True :=
  (safe_safety hp h w).mono fun _ _ _ _ => trivial

lemma InOrder.append_consumed {id : String} (hh : InOrder h) :
    InOrder (h ++ [.ruleConsumed id]) := by
  refine ⟨fun id' => ?_, fun id' hid => ?_⟩
  · have := hh.consumed id'
    simp only [List.countP_append, List.countP_singleton, callsUnder]
    simp only [Bool.false_eq_true, if_false]
    omega
  · have := hh.refused id' (by simpa using hid)
    simpa [adapterCalls, Event.isAdapterCall] using this

lemma InOrder.append_refused {id : String} (hh : InOrder h) (hno : adapterCalls h = 0) :
    InOrder (h ++ [.ruleRefused id]) := by
  refine ⟨fun id' => ?_, fun _ _ => ?_⟩
  · simpa [List.countP_append, callsUnder, consumes] using hh.consumed id'
  · simpa [adapterCalls, Event.isAdapterCall] using hno

/-- Where `consumeRule` returns, its last action has consumed the rule. -/
lemma safe_consumeRule (id : String) (hh : ∀ e ∈ h, OfSafety e) :
    Safe contract (ApprovalService.consumeRule id) h w fun h' r _ =>
      ∀ rule, r = .ok rule → ∃ now, h' = h ++ [.clockRead now, .ruleConsumed id] := by
  have hread : ∀ v : World, RuleAction v (.clockRead v.now) v :=
    fun v => .inr ⟨fun _ => Event.noConfusion, .inl rfl⟩
  refine Py.safe_clock_bind fun v _ _ _ => ⟨⟨fun hh => hh.append_safety trivial, hread v⟩, ?_⟩
  have hno : adapterCalls (h ++ [.clockRead v.now]) = 0 := by
    simpa [adapterCalls, Event.isAdapterCall] using adapterCalls_of_safety hh
  refine Py.safe_transaction
    (fun u rule d _ _ hf _ => ⟨⟨fun hh => hh.append_consumed, ?_⟩, trivial, ?_⟩)
    fun u e _ _ hf _ => ⟨⟨fun hh => hh.append_refused hno, ?_⟩, ?_⟩
  · exact .inl ⟨id, v.now, rule, rfl, hf⟩
  · exact fun t _ _ _ _ => ⟨v.now, by simp⟩
  · exact .inr ⟨fun _ => Event.noConfusion, .inl rfl⟩
  · exact fun t _ _ _ hr => by cases hr

lemma safe_tryConsume (id : String) (hh : ∀ e ∈ h, OfSafety e) :
    Safe contract (tryConsume id) h w fun h' r _ =>
      r = .ok true → ∃ now, h' = h ++ [.clockRead now, .ruleConsumed id] := by
  refine Safe.tryCatch (P := fun h' r _ =>
      r = .ok true → ∃ now, h' = h ++ [.clockRead now, .ruleConsumed id]) ?_
    (fun _ _ _ hP => hP) fun h' e w' _ => ?_
  · exact (safe_consumeRule id hh).bind
      (fun h' rule w' hP => Safe.ret fun _ _ _ _ => hP rule rfl) (by simp)
  · cases e <;> first
      | exact Safe.ret fun _ _ _ => by simp
      | exact Safe.raise fun _ _ _ => by simp

/-- The adapter may be called wherever the call keeps the history in order. -/
lemma safe_callAdapter {request : ToolRequest} {rule : Option String}
    (hcall : InOrder h → InOrder (h ++ [.adapterCall request rule])) :
    Safe contract (callAdapter request rule) h w fun _ _ _ => True := by
  have hguar : ∀ v, contract.guar h v (.adapterCall request rule) v :=
    fun v => ⟨hcall, .inr ⟨fun _ => Event.noConfusion, .inl rfl⟩⟩
  have hadapter : Safe contract (adapterExecute request rule) h w fun _ _ _ => True := by
    refine Safe.atomic (fun v _ _ _ _ hf _ => ?_)
      fun v _ _ _ _ _ => ⟨hguar v, fun _ _ _ => trivial⟩
    obtain ⟨_, -, hv⟩ := Py.map_eq_ok.mp hf
    cases hv
    exact ⟨hguar v, trivial, fun _ _ _ => trivial⟩
  refine (Safe.tryCatch (P := fun _ _ _ => True) (Q := fun _ _ _ => True) ?_ (by simp)
    fun h' e w' _ => ?_).bind (fun h₁ reply w₁ _ => ?_) (by simp)
  · exact hadapter.bind (fun _ _ _ _ => Safe.ret fun _ _ _ => trivial) (by simp)
  · cases e <;> first
      | exact Safe.ret fun _ _ _ => trivial
      | exact Safe.raise fun _ _ _ => trivial
  · cases reply with
    | none => exact safe_done ((every_record _).bind fun _ => .ret _) h₁ w₁
    | some result =>
      exact safe_done ((every_record _).bind fun _ => (every_record _).bind fun _ => .ret _) h₁ w₁

/-- A call that is not a mutating one under a rule, after nothing but the decision. -/
lemma inOrder_unruled {request : ToolRequest} {rule : Option String}
    (hh : ∀ e ∈ h, OfSafety e)
    (hno : ∀ id, request.mutatesExternalState = true → rule = some id → False) :
    InOrder (h ++ [.adapterCall request rule]) := by
  refine ⟨fun id => ?_, fun id hid => ?_⟩
  · have hnot : callsUnder id (.adapterCall request rule) = false := by
      cases rule with
      | none => rfl
      | some id' =>
        have : ¬request.mutatesExternalState = true := fun hm => hno id' hm rfl
        simp [callsUnder, this]
    have := (inOrder_of_safety hh).consumed id
    simp only [List.countP_append, List.countP_singleton, hnot]
    simp only [Bool.false_eq_true, if_false]
    omega
  · rcases List.mem_append.mp hid with hid | hid
    · exact (hh _ hid).elim
    · cases List.mem_singleton.mp hid

/-- A call under a rule, after the rule has been consumed. -/
lemma inOrder_consumed {request : ToolRequest} {id : String} {now : Datetime}
    (hh : ∀ e ∈ h, OfSafety e) :
    InOrder (h ++ [.clockRead now, .ruleConsumed id] ++ [.adapterCall request (some id)]) := by
  refine ⟨fun id' => ?_, fun id' hid => ?_⟩
  · have := (inOrder_of_safety hh).consumed id'
    by_cases hid : id = id'
    · simp [List.countP_append, List.countP_cons, callsUnder, consumes, hid] at this ⊢
      split_ifs <;> omega
    · simp [List.countP_append, callsUnder, consumes, hid] at this ⊢
      omega
  · rcases List.mem_append.mp hid with hid | hid
    · rcases List.mem_append.mp hid with hid | hid
      · exact (hh _ hid).elim
      · simp at hid
    · simp at hid

/-- A gateway call keeps its contract. -/
theorem safe_execute (gateway : ToolGateway) (request : ToolRequest) (w : World) :
    Safe contract (gateway.execute request) [] w fun _ _ _ => True := by
  unfold execute
  split_ifs with hresolves
  · exact Safe.ret fun _ _ _ => trivial
  · refine (safe_safety (every_query _) [] w).bind (fun h₁ authorized w₁ hP => ?_) (by simp)
    obtain ⟨l₁, rfl, hl₁⟩ := hP
    refine (safe_safety (every_evaluate ..) _ w₁).bind (fun h₂ s w₂ hP => ?_) (by simp)
    obtain ⟨l₂, rfl, hl₂⟩ := hP
    split
    · exact Safe.ret fun _ _ _ => trivial
    · exact Safe.ret fun _ _ _ => trivial
    · refine (safe_done (every_record _) _ w₂).bind (fun _ _ _ _ => ?_) (by simp)
      exact Safe.ret fun _ _ _ => trivial
    · have hl : ∀ e ∈ h₁ ++ l₂, OfSafety e := List.forall_mem_append.mpr ⟨hl₁, hl₂⟩
      split
      · next id hm hid =>
        refine (safe_tryConsume id hl).bind (fun h₃ consumed w₃ hP => ?_) (by simp)
        cases consumed with
        | true =>
          obtain ⟨now, rfl⟩ := hP rfl
          exact safe_callAdapter fun _ => inOrder_consumed hl
        | false => exact safe_done ((every_record _).bind fun _ => .ret _) _ _
      · next hno => exact safe_callAdapter fun _ => inOrder_unruled hl hno

lemma safe_createScopedRule (action target : String) (risk : MissionRisk) (conditions : Dict)
    (expiresAt : Datetime) (maxExecutionCount : Option ℤ) (w : World) :
    Safe contract (ApprovalService.createScopedRule action target risk conditions expiresAt
      maxExecutionCount) [] w fun _ _ _ => True := by
  refine Py.safe_transaction
    (fun v rule d _ _ hf _ => ⟨⟨fun hh => hh.append_safety trivial, ?_⟩, trivial, by simp⟩)
    fun v e _ _ _ _ => ⟨⟨fun hh => hh.append_safety trivial, ?_⟩, by simp⟩
  · obtain ⟨hzero, rules, hins, rfl⟩ := ApprovalService.createScopedRuleTx_eq_ok hf
    exact .inr ⟨fun _ => Event.noConfusion, .inr ⟨rule, hzero, hins⟩⟩
  · exact .inr ⟨fun _ => Event.noConfusion, .inl rfl⟩

lemma safe_code (c : Call) (w : World) : Safe contract c.code [] w fun _ _ _ => True := by
  cases c with
  | execute gateway request =>
    exact (safe_execute gateway request w).bind
      (fun _ _ _ _ => Safe.ret fun _ _ _ => trivial) (by simp)
  | createScopedRule action target risk conditions expiresAt maxExecutionCount =>
    exact (safe_createScopedRule ..).bind
      (fun _ _ _ _ => Safe.ret fun _ _ _ => trivial) (by simp)

/-! ### The counts of rules -/

/-- Every rule is within its ceiling and has counted the `n` uses made of it; an identifier
that no rule has yet has been used by nobody. -/
structure Counted (rules : Table ScopedApprovalRule) (n : String → ℕ) : Prop where
  ceiling : ∀ r ∈ rules.rows, WithinCeiling r
  counted : ∀ r ∈ rules.rows, (n r.id : ℤ) ≤ r.executionCount
  unused : ∀ id, rules.get? id = none → n id = 0

lemma withinCeiling_consume {r : ScopedApprovalRule} (hr : WithinCeiling r)
    (hex : r.exhausted = false) :
    WithinCeiling { r with executionCount := r.executionCount + 1 } := by
  refine ⟨by have := hr.1; simp only; omega, fun limit hlimit _ => ?_⟩
  simp only at hlimit
  simp only [ScopedApprovalRule.exhausted, hlimit, decide_eq_false_iff_not] at hex
  simp only
  omega

/-- The conditional UPDATE counts the use that it stands for. -/
lemma Counted.consume {db db' : Database} {n n' : String → ℕ} {id : String} {now : Datetime}
    {rule : ScopedApprovalRule} (hc : Counted db.rules n)
    (h : ApprovalService.consumeRuleTx id now db = .ok (rule, db'))
    (hn : ∀ id', n' id' = n id' + if id = id' then 1 else 0) : Counted db'.rules n' := by
  obtain ⟨old, hold, hex, -, rfl, rfl⟩ := ApprovalService.consumeRuleTx_eq_ok h
  have hmem := Table.mem_of_get? hold
  obtain rfl : old.id = id := Table.key_of_get? hold
  refine ⟨fun r hr => ?_, fun r hr => ?_, fun id' hid' => ?_⟩
  · rcases Table.mem_set.mp hr with ⟨rfl, -⟩ | ⟨hr, -⟩
    · exact withinCeiling_consume (hc.ceiling old hmem) hex
    · exact hc.ceiling r hr
  · rcases Table.mem_set.mp hr with ⟨rfl, -⟩ | ⟨hr, hne⟩
    · have := hc.counted old hmem
      simp only [hn, if_true]
      omega
    · have hne' : old.id ≠ r.id := Ne.symm hne
      have := hc.counted r hr
      rw [hn, if_neg hne']
      omega
  · set new : ScopedApprovalRule := { old with executionCount := old.executionCount + 1 }
    have hself : (db.rules.set new).get? old.id = some new := Table.get?_set_self (r := new) hold
    have hne : id' ≠ old.id := by
      rintro rfl
      cases hself.symm.trans hid'
    have hold' : db.rules.get? id' = none := (Table.get?_set_ne (r := new) hne).symm.trans hid'
    rw [hn, if_neg (Ne.symm hne), hc.unused id' hold']

/-- A new rule has not been used. -/
lemma Counted.insert {rules rules' : Table ScopedApprovalRule} {n : String → ℕ}
    {rule : ScopedApprovalRule} (hc : Counted rules n) (hzero : rule.executionCount = 0)
    (h : rules.insert? rule = some rules') : Counted rules' n := by
  obtain ⟨hnew, hrows⟩ := Table.insert?_eq_some h
  refine ⟨fun r hr => ?_, fun r hr => ?_, fun id hid => ?_⟩
  · rw [hrows, List.mem_append, List.mem_singleton] at hr
    rcases hr with hr | rfl
    · exact hc.ceiling r hr
    · exact ⟨hzero.ge, fun limit _ hl => hzero.trans_le hl⟩
  · rw [hrows, List.mem_append, List.mem_singleton] at hr
    rcases hr with hr | rfl
    · exact hc.counted r hr
    · rw [hc.unused r.id hnew, hzero]
      rfl
  · refine hc.unused id ?_
    cases hget : rules.get? id with
    | none => rfl
    | some r => rw [Table.get?_insert?_of_some h hget] at hid; cases hid

/-! ### Runs -/

/-- The mutating adapter calls that all gateway calls together have made under a rule. -/
def ruleCalls (p : RulePool) (id : String) : ℕ := p.count (callsUnder id)

structure Inv (p : RulePool) : Prop where
  histories : ∀ th ∈ p.threads, InOrder th.history
  counts : Counted p.state.db.rules fun id => p.count (consumes id)

lemma compatible : Pool.Compatible system (fun _ _ _ => True) (fun _ => True) (fun _ => contract)
    fun _ _ _ _ => True where
  inv_iff _ _ := Iff.rfl
  env _ _ _ _ _ := ⟨trivial, fun _ => trivial⟩
  act _ _ _ _ _ _ _ _ _ := trivial
  cond _ _ _ _ _ _ _ _ _ := trivial
  code p c _ _ _ := safe_code c p.state

lemma eq_of_consumes {id : String} {e : Event} (h : consumes id e = true) :
    e = .ruleConsumed id := by
  cases e with
  | ruleConsumed id' => exact congrArg Event.ruleConsumed (of_decide_eq_true h)
  | _ => cases h

/-- An action of a call keeps the counts. -/
lemma Inv.act {p q : RulePool} {t : ℕ} {c : Call} {e : Event} {h : List Event}
    {prog : Py (Option ToolOutcome)} (hp : Inv p) (hs : Pool.Step system p (.act t c e) q)
    (ht : p.threads[t]? = some ⟨c, h, prog⟩) (hg : contract.guar h p.state e q.state) :
    Inv q := by
  refine ⟨?_, ?_⟩
  · cases hs with
    | act _ ht' =>
      cases ht.symm.trans ht'
      intro th hth
      rcases List.mem_or_eq_of_mem_set hth with hth | rfl
      · exact hp.histories th hth
      · exact hg.1 (hp.histories _ (List.mem_of_getElem? ht))
  · have hcount : ∀ id, q.count (consumes id) = p.count (consumes id) +
        if consumes id e then 1 else 0 := fun id => hs.count
    rcases hg.2 with ⟨id, now, rule, rfl, hconsume⟩ | ⟨hno, hsame | ⟨rule, hzero, hins⟩⟩
    · refine hp.counts.consume hconsume fun id' => ?_
      rw [hcount]
      simp [consumes]
    all_goals
      have hn : (fun id => q.count (consumes id)) = fun id => p.count (consumes id) := by
        funext id
        rw [hcount, if_neg fun hc => hno id (eq_of_consumes hc), Nat.add_zero]
      rw [hn]
    · exact hsame ▸ hp.counts
    · exact hp.counts.insert hzero hins

/-- In every run the counts and the histories are in order. -/
lemma inv_of_run {w₀ : World} {p : RulePool} (h₀ : ∀ r ∈ w₀.db.rules.rows, WithinCeiling r)
    (hr : Pool.Run system (fun _ _ _ => True) (Pool.init w₀) p) : Inv p := by
  refine hr.safe_invariant compatible (Pool.allSafe_init trivial) ?_ ?_ ?_ ?_
  · refine ⟨by simp [Pool.init], h₀, fun r hr => ?_, fun _ _ => rfl⟩
    simpa using (h₀ r hr).1
  · intro p c q hp hs _
    have hn : (fun id => q.count (consumes id)) = fun id => p.count (consumes id) :=
      funext fun id => hs.count
    cases hs
    refine ⟨fun th hth => ?_, hn ▸ hp.counts⟩
    rcases List.mem_append.mp hth with hth | hth
    · exact hp.histories th hth
    · obtain rfl := List.mem_singleton.mp hth
      exact inOrder_of_safety (by simp)
  · intro p q hp hs _
    have hn : (fun id => q.count (consumes id)) = fun id => p.count (consumes id) :=
      funext fun id => hs.count
    cases hs with
    | env henv =>
      refine ⟨hp.histories, ?_⟩
      rw [hn, show _ = p.state.db.rules from henv]
      exact hp.counts
  · exact fun p t c e q h prog hp _ hs ht _ hg => hp.act hs ht hg

/-- The ceiling of scoped rules under concurrency: at every point of every run, a rule with a
ceiling that is not negative has been counted at most so often, and so has the number of
mutating adapter calls made after matching it, which is never more than its count; and a call
to which a rule has been refused has reached no adapter. -/
theorem scoped_rule_ceiling {w₀ : World} {p : RulePool}
    (h₀ : ∀ r ∈ w₀.db.rules.rows, WithinCeiling r)
    (hr : Pool.Run system (fun _ _ _ => True) (Pool.init w₀) p) :
    (∀ r ∈ p.state.db.rules.rows, ∀ limit, r.maxExecutionCount = some limit → 0 ≤ limit →
      r.executionCount ≤ limit ∧ (ruleCalls p r.id : ℤ) ≤ limit ∧
        (ruleCalls p r.id : ℤ) ≤ r.executionCount) ∧
    ∀ th ∈ p.threads, ∀ id, .ruleRefused id ∈ th.history → adapterCalls th.history = 0 := by
  have hp := inv_of_run h₀ hr
  refine ⟨fun r hr limit hlimit hpos => ?_, fun th hth id => (hp.histories th hth).refused id⟩
  have hceiling := (hp.counts.ceiling r hr).2 limit hlimit hpos
  have hcalls : ruleCalls p r.id ≤ p.count (consumes r.id) :=
    Pool.count_le_count fun th hth => (hp.histories th hth).consumed r.id
  have hcounted := hp.counts.counted r hr
  omega

/-- Two calls both match the last use of a rule before either consumes it. -/
def race : RulePool :=
  Pool.play system (Pool.init recoverWorld)
    (List.replicate 2 (.spawn (.execute recoverGateway recoverRequest)) ++
      List.replicate 9 (.act 0) ++ List.replicate 9 (.act 1) ++ List.replicate 5 (.act 0) ++
      List.replicate 3 (.act 1))

theorem scoped_rule_ceiling_race :
    (ruleCalls race "restart" : ℤ) ≤ 1 ∧
      ∃ th ∈ race.threads, .ruleRefused "restart" ∈ th.history ∧ adapterCalls th.history = 0 := by
  have h₀ : ∀ r ∈ recoverWorld.db.rules.rows, WithinCeiling r := by
    simp [recoverWorld, WithinCeiling]
  have hr : Pool.Run system (fun _ _ _ => True) (Pool.init recoverWorld) race :=
    Pool.run_play (Pool.admissible_of_env (fun _ _ _ => trivial) (by simp))
  obtain ⟨hceiling, hrefused⟩ := scoped_rule_ceiling h₀ hr
  refine ⟨(hceiling
    { id := "restart", action := "service.recover", target := "dripvid", risk := .blue,
      conditions := [], expiresAt := hours 1, maxExecutionCount := some 1, executionCount := 1 }
    (.head []) 1 rfl (by decide)).2.1, ?_⟩
  obtain ⟨th, hth, hev⟩ : ∃ th, race.threads[1]? = some th ∧
      th.history[10]? = some (.ruleRefused "restart") := ⟨_, rfl, rfl⟩
  have hmem := List.mem_of_getElem? hth
  have hin := List.mem_of_getElem? hev
  exact ⟨th, hmem, hin, hrefused th hmem "restart" hin⟩

end ScopedRules
end AiHq
