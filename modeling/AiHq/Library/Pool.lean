import AiHq.Library.Program

/-!
# Pools of interleaved calls

A pool is a shared state and the calls under way on it. Calls arrive at any time, each runs
its program, and the actions of all of them interleave in any order with moves of the
environment. `Run.safe` is the rely-guarantee rule: calls that keep their contracts one by
one keep them in every run of the pool.
-/

namespace Concurrent

universe u v w x y

variable {κ : Type u} {η : Type v} {ε : Type w} {σ : Type x} {α : Type y}

/-- The code that each kind of call runs, and what else may happen to the state. -/
structure System (κ : Type u) (η : Type v) (ε : Type w) (σ : Type x) (α : Type y) where
  code : κ → Prog η ε σ α
  env : σ → σ → Prop

/-- A call under way, with the events of its own actions so far. -/
structure Thread (κ : Type u) (η : Type v) (ε : Type w) (σ : Type x) (α : Type y) where
  call : κ
  history : List ε
  prog : Prog η ε σ α

structure Pool (κ : Type u) (η : Type v) (ε : Type w) (σ : Type x) (α : Type y) where
  state : σ
  threads : List (Thread κ η ε σ α)

/-- What a step of a pool shows. -/
inductive Label (κ : Type u) (ε : Type w) where
  | spawn (c : κ)
  | act (t : ℕ) (c : κ) (e : ε)
  | env

namespace Pool

/-- A pool in which no call has begun. -/
def init (s : σ) : Pool κ η ε σ α := ⟨s, []⟩

inductive Step (S : System κ η ε σ α) : Pool κ η ε σ α → Label κ ε → Pool κ η ε σ α → Prop where
  | spawn (p : Pool κ η ε σ α) (c : κ) :
      Step S p (.spawn c) ⟨p.state, p.threads ++ [⟨c, [], S.code c⟩]⟩
  | act (p : Pool κ η ε σ α) (t : ℕ) {c : κ} {h : List ε} {ev : σ → ε} {upd : σ → σ}
      {next : σ → Prog η ε σ α} (ht : p.threads[t]? = some ⟨c, h, .act ev upd next⟩) :
      Step S p (.act t c (ev p.state))
        ⟨upd p.state, p.threads.set t ⟨c, h ++ [ev p.state], next p.state⟩⟩
  | env (p : Pool κ η ε σ α) {s : σ} (hs : S.env p.state s) : Step S p .env ⟨s, p.threads⟩

/-- A run of steps that all meet the condition `ok`. -/
inductive Run (S : System κ η ε σ α)
    (ok : Pool κ η ε σ α → Label κ ε → Pool κ η ε σ α → Prop) :
    Pool κ η ε σ α → Pool κ η ε σ α → Prop where
  | refl (p) : Run S ok p p
  | tail {p q r l} (hr : Run S ok p q) (hs : Step S q l r) (hok : ok q l r) : Run S ok p r

variable {S : System κ η ε σ α} {ok ok' : Pool κ η ε σ α → Label κ ε → Pool κ η ε σ α → Prop}
  {p q r : Pool κ η ε σ α}

lemma Run.trans (h₁ : Run S ok p q) (h₂ : Run S ok q r) : Run S ok p r := by
  induction h₂ with
  | refl => exact h₁
  | tail _ hs hok ih => exact ih.tail hs hok

lemma Run.mono (h : Run S ok p q) (hok : ∀ p l q, ok p l q → ok' p l q) : Run S ok' p q := by
  induction h with
  | refl => exact .refl _
  | tail _ hs hq ih => exact ih.tail hs (hok _ _ _ hq)

/-- What holds at the start and is kept by every admissible step holds throughout. -/
lemma Run.invariant {P : Pool κ η ε σ α → Prop} (h : Run S ok p q) (hp : P p)
    (hstep : ∀ q l r, P q → Step S q l r → ok q l r → P r) : P q := by
  induction h with
  | refl => exact hp
  | tail _ hs hok ih => exact hstep _ _ _ ih hs hok

/-- A reflexive and transitive relation that every admissible step respects relates the ends
of a run. -/
lemma Run.related {F : σ → σ → Prop} (h : Run S ok p q) (hrefl : ∀ s, F s s)
    (htrans : ∀ s t u, F s t → F t u → F s u)
    (hstep : ∀ q l r, Step S q l r → ok q l r → F q.state r.state) : F p.state q.state := by
  induction h with
  | refl => exact hrefl _
  | tail _ hs hok ih => exact htrans _ _ _ ih (hstep _ _ _ hs hok)

/-! ### The rely-guarantee rule -/

/-- Contracts, one for each kind of call, over one invariant `I`, that fit together: what the
environment does and what any call guarantees is within what every call relies on. -/
structure Compatible (S : System κ η ε σ α)
    (ok : Pool κ η ε σ α → Label κ ε → Pool κ η ε σ α → Prop)
    (I : σ → Prop) (C : κ → Contract ε σ)
    (Q : κ → List ε → Except η α → σ → Prop) : Prop where
  inv_iff : ∀ c s, (C c).inv s ↔ I s
  env : ∀ p q, ok p .env q → S.env p.state q.state → I p.state →
    I q.state ∧ ∀ c, (C c).rely p.state q.state
  act : ∀ c d h s e s', I s → (C c).cond h s e s' → (C c).guar h s e s' → (C d).rely s s'
  cond : ∀ p t c e q h prog, ok p (.act t c e) q → p.threads[t]? = some ⟨c, h, prog⟩ →
    (C c).cond h p.state e q.state
  code : ∀ p c q, ok p (.spawn c) q → I p.state → Safe (C c) (S.code c) [] p.state (Q c)

/-- Every call of the pool is safe from here on. -/
def AllSafe (I : σ → Prop) (C : κ → Contract ε σ) (Q : κ → List ε → Except η α → σ → Prop)
    (p : Pool κ η ε σ α) : Prop :=
  I p.state ∧ ∀ th ∈ p.threads, Safe (C th.call) th.prog th.history p.state (Q th.call)

variable {I : σ → Prop} {C : κ → Contract ε σ} {Q : κ → List ε → Except η α → σ → Prop}

lemma allSafe_init {s : σ} (hs : I s) : AllSafe I C Q (init s : Pool κ η ε σ α) :=
  ⟨hs, by simp [init]⟩

/-- One admissible step keeps every call safe, and an action of a call keeps its guarantee. -/
lemma AllSafe.step (hC : Compatible S ok I C Q) (hp : AllSafe I C Q p) {l : Label κ ε}
    (hs : Step S p l q) (hok : ok p l q) : AllSafe I C Q q := by
  obtain ⟨hI, hth⟩ := hp
  cases hs with
  | spawn c =>
    refine ⟨hI, fun th hmem => ?_⟩
    rcases List.mem_append.mp hmem with hmem | hmem
    · exact hth th hmem
    · obtain rfl := List.mem_singleton.mp hmem
      exact hC.code p _ _ hok hI
  | @act t c h ev upd next ht =>
    have hc := hC.cond _ _ _ _ _ _ _ hok ht
    have hsafe := hth _ (List.mem_of_getElem? ht)
    obtain ⟨hg, hI', hn⟩ := hsafe.act ((hC.inv_iff c _).mpr hI) hc
    refine ⟨(hC.inv_iff c _).mp hI', fun th hmem => ?_⟩
    rcases List.mem_or_eq_of_mem_set hmem with hmem | rfl
    · exact (hth th hmem).rely (hC.act c th.call h _ _ _ hI hc hg)
    · exact hn
  | env henv =>
    obtain ⟨hI', hR⟩ := hC.env _ _ hok henv hI
    exact ⟨hI', fun th hmem => (hth th hmem).rely (hR th.call)⟩

/-- The rely-guarantee rule. -/
theorem Run.safe (hC : Compatible S ok I C Q) (hr : Run S ok p q) (hp : AllSafe I C Q p) :
    AllSafe I C Q q :=
  hr.invariant hp fun _ _ _ hq hs hok => hq.step hC hs hok

/-- Where all calls are safe, the next action of a call keeps its guarantee. -/
lemma AllSafe.guar (hC : Compatible S ok I C Q) (hp : AllSafe I C Q p) {t : ℕ} {c : κ} {e : ε}
    (hs : Step S p (.act t c e) q) (hok : ok p (.act t c e) q) :
    ∃ h prog, p.threads[t]? = some ⟨c, h, prog⟩ ∧
      (C c).cond h p.state e q.state ∧ (C c).guar h p.state e q.state := by
  cases hs with
  | @act _ _ h ev upd next ht =>
    have hc := hC.cond _ _ _ _ _ _ _ hok ht
    have hsafe := hp.2 _ (List.mem_of_getElem? ht)
    exact ⟨h, _, ht, hc, hsafe.guar ((hC.inv_iff c _).mpr hp.1) hc⟩

/-- Where all calls are safe, a call that has ended has ended as specified. -/
lemma AllSafe.post (hC : Compatible S ok I C Q) (hp : AllSafe I C Q p)
    {th : Thread κ η ε σ α} (hth : th ∈ p.threads) {r : Except η α}
    (hr : th.prog.outcome = some r) : Q th.call th.history r p.state :=
  (hp.2 th hth).post ((hC.inv_iff _ _).mpr hp.1) hr

/-- A step that acts keeps the guarantee of the call that acts; every property of pools that
follows from that holds throughout. -/
theorem Run.safe_invariant {J : Pool κ η ε σ α → Prop} (hC : Compatible S ok I C Q)
    (hr : Run S ok p q) (hp : AllSafe I C Q p) (hJ : J p)
    (hspawn : ∀ p c q, J p → Step S p (.spawn c) q → ok p (.spawn c) q → J q)
    (henv : ∀ p q, J p → Step S p .env q → ok p .env q → J q)
    (hact : ∀ p t c e q h prog, J p → I p.state → Step S p (.act t c e) q →
      p.threads[t]? = some ⟨c, h, prog⟩ → (C c).cond h p.state e q.state →
      (C c).guar h p.state e q.state → J q) : J q := by
  refine (hr.invariant (P := fun p => AllSafe I C Q p ∧ J p) ⟨hp, hJ⟩ ?_).2
  intro p l q hp hs hok
  refine ⟨hp.1.step hC hs hok, ?_⟩
  cases l with
  | spawn c => exact hspawn p c q hp.2 hs hok
  | env => exact henv p q hp.2 hs hok
  | act t c e =>
    obtain ⟨h, prog, ht, hc, hg⟩ := hp.1.guar hC hs hok
    exact hact p t c e q h prog hp.2 hp.1.1 hs ht hc hg

/-! ### Calls that have not begun -/

/-- A call without events has all of its code before it. -/
lemma Run.code_of_history_nil {s : σ} (h : Run S ok (init s) p) :
    ∀ th ∈ p.threads, th.history = [] → th.prog = S.code th.call := by
  refine h.invariant (P := fun p => ∀ th ∈ p.threads, th.history = [] → th.prog = S.code th.call)
    (by simp [init]) ?_
  intro q l r hq hs _ th hth hnil
  cases hs with
  | spawn c =>
    rcases List.mem_append.mp hth with hth | hth
    · exact hq th hth hnil
    · obtain rfl := List.mem_singleton.mp hth
      rfl
  | act t ht =>
    rcases List.mem_or_eq_of_mem_set hth with hth | rfl
    · exact hq th hth hnil
    · simp at hnil
  | env _ => exact hq th hth hnil

/-! ### Counting events -/

/-- How many events of a kind the calls of the pool have shown. -/
def count (P : ε → Bool) (p : Pool κ η ε σ α) : ℕ :=
  (p.threads.map fun th => th.history.countP P).sum

@[simp] lemma count_init (P : ε → Bool) (s : σ) : count P (init s : Pool κ η ε σ α) = 0 := rfl

lemma sum_map_set {β : Type*} (f : β → ℕ) {l : List β} {t : ℕ} {a : β} (b : β)
    (ht : l[t]? = some a) : ((l.set t b).map f).sum + f a = (l.map f).sum + f b := by
  induction l generalizing t with
  | nil => simp at ht
  | cons c l ih =>
    cases t with
    | zero =>
      obtain rfl : c = a := by simpa using ht
      simp only [List.set_cons_zero, List.map_cons, List.sum_cons]
      omega
    | succ t =>
      have := ih (t := t) (by simpa using ht)
      simp only [List.set_cons_succ, List.map_cons, List.sum_cons]
      omega

lemma countP_set {β : Type*} (f : β → Bool) {l : List β} {t : ℕ} {a : β} (b : β)
    (ht : l[t]? = some a) :
    (l.set t b).countP f + (if f a then 1 else 0) = l.countP f + (if f b then 1 else 0) := by
  have hcount : ∀ l : List β, l.countP f = (l.map fun x => if f x then 1 else 0).sum := by
    intro l
    induction l with
    | nil => rfl
    | cons x l ih => rw [List.countP_cons, ih, List.map_cons, List.sum_cons, Nat.add_comm]
  rw [hcount, hcount]
  exact sum_map_set (fun x => if f x then 1 else 0) b ht

lemma countP_set_same {β : Type*} {f : β → Bool} {l : List β} {t : ℕ} {a b : β}
    (ht : l[t]? = some a) (h : f b = f a) : (l.set t b).countP f = l.countP f := by
  have hset := countP_set f b ht
  rw [h] at hset
  exact Nat.add_right_cancel hset

lemma countP_set_new {β : Type*} {f : β → Bool} {l : List β} {t : ℕ} {a b : β}
    (ht : l[t]? = some a) (ha : f a = false) (hb : f b = true) :
    (l.set t b).countP f = l.countP f + 1 := by
  have hset := countP_set f b ht
  simpa [ha, hb] using hset

/-- Only the action of a call adds to the count, and only if its event is of the kind. -/
lemma Step.count {P : ε → Bool} {l : Label κ ε} (hs : Step S p l q) :
    q.count P = p.count P + match l with
      | .act _ _ e => if P e then 1 else 0
      | _ => 0 := by
  cases hs with
  | spawn c => simp [Pool.count]
  | env _ => rfl
  | @act t c h ev upd next ht =>
    have hsum := sum_map_set (fun th : Thread κ η ε σ α => th.history.countP P)
      ⟨c, h ++ [ev p.state], next p.state⟩ ht
    simp only [List.countP_append, List.countP_singleton] at hsum
    simp only [Pool.count]
    split_ifs at hsum ⊢ <;> omega

/-- A run of admissible steps of which `n` are of the kind `E`. -/
inductive RunCount (S : System κ η ε σ α)
    (ok E : Pool κ η ε σ α → Label κ ε → Pool κ η ε σ α → Prop) :
    Pool κ η ε σ α → Pool κ η ε σ α → ℕ → Prop where
  | refl (p : Pool κ η ε σ α) : RunCount S ok E p p 0
  | other {p q r : Pool κ η ε σ α} {l : Label κ ε} {n : ℕ} (hr : RunCount S ok E p q n)
      (hs : Step S q l r) (hok : ok q l r) (hE : ¬E q l r) : RunCount S ok E p r n
  | kind {p q r : Pool κ η ε σ α} {l : Label κ ε} {n : ℕ} (hr : RunCount S ok E p q n)
      (hs : Step S q l r) (hok : ok q l r) (hE : E q l r) : RunCount S ok E p r (n + 1)

variable {E : Pool κ η ε σ α → Label κ ε → Pool κ η ε σ α → Prop} {n : ℕ}

lemma RunCount.run (h : RunCount S ok E p q n) : Run S ok p q := by
  induction h with
  | refl => exact .refl _
  | other _ hs hok _ ih => exact ih.tail hs hok
  | kind _ hs hok _ ih => exact ih.tail hs hok

lemma RunCount.trans {n' : ℕ} (h₁ : RunCount S ok E p q n) (h₂ : RunCount S ok E q r n') :
    RunCount S ok E p r (n + n') := by
  induction h₂ with
  | refl => exact h₁
  | other _ hs hok hE ih => exact ih.other hs hok hE
  | kind _ hs hok hE ih => exact ih.kind hs hok hE

/-- What grows by one at most, and in steps of the kind only, is bounded by their number. -/
lemma RunCount.le {f : Pool κ η ε σ α → ℕ} (h : RunCount S ok E p q n)
    (hother : ∀ q l r, Run S ok p q → Step S q l r → ok q l r → ¬E q l r → f r ≤ f q)
    (hkind : ∀ q l r, Run S ok p q → Step S q l r → ok q l r → E q l r → f r ≤ f q + 1) :
    f q ≤ f p + n := by
  induction h with
  | refl => exact le_refl _
  | other hr hs hok hE ih => exact (hother _ _ _ hr.run hs hok hE).trans ih
  | kind hr hs hok hE ih =>
    have hnext := hkind _ _ _ hr.run hs hok hE
    omega

/-- A bound on the histories one by one is a bound on their sum. -/
lemma count_le_count {P P' : ε → Bool}
    (h : ∀ th ∈ p.threads, th.history.countP P ≤ th.history.countP P') :
    p.count P ≤ p.count P' :=
  List.sum_le_sum h

/-! ### Events shown -/

/-- A call of the pool has shown the event. -/
def Shown (e : ε) (p : Pool κ η ε σ α) : Prop := ∃ th ∈ p.threads, e ∈ th.history

@[simp] lemma not_shown_init (e : ε) (s : σ) : ¬Shown e (init s : Pool κ η ε σ α) := by
  simp [Shown, init]

/-- Only the action of a call shows an event, and it shows its own. -/
lemma Step.shown {l : Label κ ε} {e : ε} (hs : Step S p l q) :
    q.Shown e ↔ p.Shown e ∨ ∃ t c, l = .act t c e := by
  cases hs with
  | spawn c => simp [Shown]
  | env _ => simp [Shown]
  | @act t c h ev upd next ht =>
    have hlt : t < p.threads.length := (List.getElem?_eq_some_iff.mp ht).1
    constructor
    · rintro ⟨th, hth, he⟩
      rcases List.mem_or_eq_of_mem_set hth with hth | rfl
      · exact .inl ⟨th, hth, he⟩
      · rcases List.mem_append.mp he with he | he
        · exact .inl ⟨_, List.mem_of_getElem? ht, he⟩
        · exact .inr ⟨t, c, by rw [List.mem_singleton.mp he]⟩
    · have hnew : (⟨c, h ++ [ev p.state], next p.state⟩ : Thread κ η ε σ α) ∈
          p.threads.set t ⟨c, h ++ [ev p.state], next p.state⟩ := List.mem_set hlt _
      rintro (⟨th, hth, he⟩ | ⟨t', c', hl⟩)
      · obtain ⟨i, hi⟩ := List.getElem?_of_mem hth
        by_cases hit : i = t
        · subst hit
          cases ht.symm.trans hi
          exact ⟨_, hnew, List.mem_append_left _ he⟩
        · refine ⟨th, List.mem_of_getElem? (i := i) ?_, he⟩
          rw [List.getElem?_set_ne (Ne.symm hit), hi]
      · cases hl
        exact ⟨_, hnew, by simp⟩

/-- An event in the history of a call was there before the step, or the call has just shown it. -/
lemma Step.mem_history {l : Label κ ε} {e : ε} {t : ℕ} {th : Thread κ η ε σ α} (hs : Step S p l q)
    (ht : q.threads[t]? = some th) (he : e ∈ th.history) :
    (∃ th', p.threads[t]? = some th' ∧ e ∈ th'.history) ∨ ∃ c, l = .act t c e := by
  cases hs with
  | spawn c =>
    by_cases hlt : t < p.threads.length
    · rw [List.getElem?_append_left hlt] at ht
      exact .inl ⟨th, ht, he⟩
    · rw [List.getElem?_append_right (not_lt.mp hlt)] at ht
      obtain rfl := List.mem_singleton.mp (List.mem_of_getElem? ht)
      cases he
  | env _ => exact .inl ⟨th, ht, he⟩
  | @act t' c h ev upd next ht' =>
    by_cases htt : t = t'
    · subst htt
      have hlt : t < p.threads.length := (List.getElem?_eq_some_iff.mp ht').1
      rw [List.getElem?_set_self hlt] at ht
      cases ht
      rcases List.mem_append.mp he with he | he
      · exact .inl ⟨_, ht', he⟩
      · exact .inr ⟨c, by rw [List.mem_singleton.mp he]⟩
    · rw [List.getElem?_set_ne (Ne.symm htt)] at ht
      exact .inl ⟨th, ht, he⟩

/-! ### One call at a time -/

/-- The call has acted, and has not ended. -/
def UnderWay (p : Pool κ η ε σ α) (t : ℕ) : Prop :=
  ∃ th, p.threads[t]? = some th ∧ th.history ≠ [] ∧ th.prog.outcome = none

/-- No two calls are under way. -/
def Alone (p : Pool κ η ε σ α) : Prop := ∀ t t', p.UnderWay t → p.UnderWay t' → t = t'

/-- Whether the first action of a program leaves the state as it is. -/
def ReadsFirst : Prog η ε σ α → Prop
  | .act _ upd _ => ∀ s, upd s = s
  | _ => True

/-- Calls that may be verified as if they ran one after the other: each keeps the contract `C`
when it begins in `K`, and ends in `K`. -/
structure Sequential (S : System κ η ε σ α) (C : Contract ε σ) (K : σ → Prop) : Prop where
  env : ∀ s s', C.inv s → S.env s s' → C.inv s' ∧ C.rely s s'
  stable : ∀ s s', K s → C.rely s s' → K s'
  cond : ∀ h s e s', C.cond h s e s'
  reads : ∀ c, ReadsFirst (S.code c)
  code : ∀ c s, C.inv s → K s → Safe C (S.code c) [] s fun _ _ => K

/-- What holds of a pool whose calls run in turn. -/
structure InTurn (S : System κ η ε σ α) (C : Contract ε σ) (K : σ → Prop)
    (p : Pool κ η ε σ α) : Prop where
  inv : C.inv p.state
  alone : Alone p
  waiting : ∀ th ∈ p.threads, th.history = [] → th.prog = S.code th.call
  resting : (∀ t, ¬p.UnderWay t) → K p.state
  safe : ∀ (t : ℕ) (th : Thread κ η ε σ α), p.threads[t]? = some th → th.history ≠ [] →
    th.prog.outcome = none → Safe C th.prog th.history p.state fun _ _ => K

section Sequential

variable {C : Contract ε σ} {K : σ → Prop}

lemma inTurn_init {s : σ} (hI : C.inv s) (hK : K s) :
    InTurn S C K (init s : Pool κ η ε σ α) := by
  have hnone : ∀ t, ¬(init s : Pool κ η ε σ α).UnderWay t := by
    rintro t ⟨th, ht, -⟩
    simp [init] at ht
  exact ⟨hI, fun t _ h => absurd h (hnone t), by simp [init], fun _ => hK, by simp [init]⟩

/-- A call that no other is under way with takes an action of its own. -/
lemma InTurn.act {t : ℕ} {c : κ} {h : List ε} {ev : σ → ε} {upd : σ → σ}
    {next : σ → Prog η ε σ α} (hS : Sequential S C K) (hp : InTurn S C K p)
    (ht : p.threads[t]? = some ⟨c, h, .act ev upd next⟩)
    (hothers : ∀ t', t' ≠ t → ¬p.UnderWay t')
    (hsafe : Safe C (.act ev upd next) h p.state fun _ _ => K)
    (hq : Alone ⟨upd p.state, p.threads.set t ⟨c, h ++ [ev p.state], next p.state⟩⟩) :
    InTurn S C K ⟨upd p.state, p.threads.set t ⟨c, h ++ [ev p.state], next p.state⟩⟩ ∧
      C.guar h p.state (ev p.state) (upd p.state) := by
  obtain ⟨hg, hI, hn⟩ := hsafe.act hp.inv (hS.cond _ _ _ _)
  have hlt : t < p.threads.length := (List.getElem?_eq_some_iff.mp ht).1
  refine ⟨⟨hI, hq, fun th hth hnil => ?_, fun hnone => ?_, fun t' th ht' hne hout => ?_⟩, hg⟩
  · rcases List.mem_or_eq_of_mem_set hth with hth | rfl
    · exact hp.waiting th hth hnil
    · simp at hnil
  · cases hout : (next p.state).outcome with
    | none => exact absurd ⟨_, List.getElem?_set_self hlt, by simp, hout⟩ (hnone t)
    | some r => exact hn.post hI hout
  · by_cases htt : t' = t
    · rw [htt, List.getElem?_set_self hlt] at ht'
      obtain rfl := Option.some.inj ht'
      exact hn
    · rw [List.getElem?_set_ne (Ne.symm htt)] at ht'
      exact absurd ⟨th, ht', hne, hout⟩ (hothers t' htt)

/-- While no two calls are under way, calls run in turn; a step leaves the state as it is, or it
is one of the environment, or it is guaranteed by a call. -/
lemma InTurn.step {l : Label κ ε} (hS : Sequential S C K) (hp : InTurn S C K p)
    (hs : Step S p l q) (hq : Alone q) : InTurn S C K q ∧
      (q.state = p.state ∨ S.env p.state q.state ∨ ∃ h e, C.guar h p.state e q.state) := by
  cases hs with
  | spawn c =>
    have hkept {t : ℕ} {th : Thread κ η ε σ α} (ht : (p.threads ++ [⟨c, [], S.code c⟩])[t]? = some th)
        (hne : th.history ≠ []) : p.threads[t]? = some th := by
      by_cases hlt : t < p.threads.length
      · rwa [List.getElem?_append_left hlt] at ht
      · rw [List.getElem?_append_right (not_lt.mp hlt)] at ht
        obtain rfl := List.mem_singleton.mp (List.mem_of_getElem? ht)
        exact absurd rfl hne
    refine ⟨⟨hp.inv, hq, fun th hth hnil => ?_, fun hnone => hp.resting fun t hunder => ?_,
      fun t th ht hne hout => hp.safe t th (hkept ht hne) hne hout⟩, .inl rfl⟩
    · rcases List.mem_append.mp hth with hth | hth
      · exact hp.waiting th hth hnil
      · obtain rfl := List.mem_singleton.mp hth
        rfl
    · obtain ⟨th, ht, hrest⟩ := hunder
      have hlt : t < p.threads.length := (List.getElem?_eq_some_iff.mp ht).1
      exact hnone t ⟨th, (List.getElem?_append_left hlt).trans ht, hrest⟩
  | env henv =>
    obtain ⟨hI, hR⟩ := hS.env _ _ hp.inv henv
    exact ⟨⟨hI, hq, hp.waiting, fun hnone => hS.stable _ _ (hp.resting hnone) hR,
      fun t th ht hne hout => (hp.safe t th ht hne hout).rely hR⟩, .inr (.inl henv)⟩
  | @act t c h ev upd next ht =>
    have hlt : t < p.threads.length := (List.getElem?_eq_some_iff.mp ht).1
    by_cases hbegin : h = []
    · subst hbegin
      have hcode := hp.waiting _ (List.mem_of_getElem? ht) rfl
      have hread : upd p.state = p.state := by
        have hreads := hS.reads c
        rw [← hcode] at hreads
        exact hreads p.state
      have hnot : ¬p.UnderWay t := by
        rintro ⟨th, ht', hne, -⟩
        cases ht.symm.trans ht'
        exact hne rfl
      by_cases hother : ∃ t', p.UnderWay t'
      · -- the call has begun beside another one, so it has ended at once
        obtain ⟨t', th', ht', hrest⟩ := hother
        have hne : t' ≠ t := fun h => hnot (h ▸ ⟨th', ht', hrest⟩)
        have hunder : Pool.UnderWay (⟨upd p.state, p.threads.set t
            ⟨c, [] ++ [ev p.state], next p.state⟩⟩ : Pool κ η ε σ α) t' :=
          ⟨th', (List.getElem?_set_ne (Ne.symm hne)).trans ht', hrest⟩
        refine ⟨⟨by rw [hread]; exact hp.inv, hq, fun th hth hnil => ?_,
          fun hnone => absurd hunder (hnone t'), fun t₁ th ht₁ hne₁ hout => ?_⟩, .inl hread⟩
        · rcases List.mem_or_eq_of_mem_set hth with hth | rfl
          · exact hp.waiting th hth hnil
          · simp at hnil
        · obtain rfl := hq t₁ t' ⟨th, ht₁, hne₁, hout⟩ hunder
          rw [List.getElem?_set_ne (Ne.symm hne)] at ht₁
          rw [hread]
          exact hp.safe t₁ th ht₁ hne₁ hout
      · have hnone := not_exists.mp hother
        have hsafe := hS.code c _ hp.inv (hp.resting hnone)
        rw [← hcode] at hsafe
        obtain ⟨hturn, hg⟩ := hp.act hS ht (fun t' _ => hnone t') hsafe hq
        exact ⟨hturn, .inr (.inr ⟨_, _, hg⟩)⟩
    · have hunder : p.UnderWay t := ⟨_, ht, hbegin, rfl⟩
      obtain ⟨hturn, hg⟩ := hp.act hS ht (fun t' hne h => hne (hp.alone t' t h hunder))
        (hp.safe t _ ht hbegin rfl) hq
      exact ⟨hturn, .inr (.inr ⟨_, _, hg⟩)⟩

/-- Calls that run one at a time, as their code tells when nothing else is under way. -/
theorem Run.inTurn (hS : Sequential S C K) (hr : Run S (fun _ _ q => Alone q) p q)
    (hp : InTurn S C K p) : InTurn S C K q :=
  hr.invariant hp fun _ _ _ hq hs hok => (hq.step hS hs hok).1

end Sequential

/-! ### Schedules -/

/-- One move of a schedule: a call arrives, the `t`-th call acts, or the environment sets the
state. -/
inductive Move (κ : Type u) (σ : Type x) where
  | spawn (c : κ)
  | act (t : ℕ)
  | env (f : σ → σ)

/-- Play one move; a call that has ended, or is not there, has no action to take. -/
def move (S : System κ η ε σ α) (p : Pool κ η ε σ α) : Move κ σ → Pool κ η ε σ α
  | .spawn c => ⟨p.state, p.threads ++ [⟨c, [], S.code c⟩]⟩
  | .act t => match p.threads[t]? with
    | some ⟨c, h, .act ev upd next⟩ =>
      ⟨upd p.state, p.threads.set t ⟨c, h ++ [ev p.state], next p.state⟩⟩
    | _ => p
  | .env f => ⟨f p.state, p.threads⟩

def play (S : System κ η ε σ α) (p : Pool κ η ε σ α) : List (Move κ σ) → Pool κ η ε σ α
  | [] => p
  | m :: ms => play S (move S p m) ms

lemma play_concat (S : System κ η ε σ α) (p : Pool κ η ε σ α) (ms : List (Move κ σ))
    (m : Move κ σ) : play S p (ms ++ [m]) = move S (play S p ms) m := by
  induction ms generalizing p with
  | nil => rfl
  | cons m' ms ih => exact ih (move S p m')

/-- The label of a move that is a step. -/
def Move.label? (p : Pool κ η ε σ α) : Move κ σ → Option (Label κ ε)
  | .spawn c => some (.spawn c)
  | .act t => match p.threads[t]? with
    | some ⟨c, _, .act ev _ _⟩ => some (.act t c (ev p.state))
    | _ => none
  | .env _ => some .env

/-- The moves of a schedule are admissible one after the other. -/
def Admissible (S : System κ η ε σ α) (ok : Pool κ η ε σ α → Label κ ε → Pool κ η ε σ α → Prop)
    (p : Pool κ η ε σ α) : List (Move κ σ) → Prop
  | [] => True
  | m :: ms => (∀ f, m = .env f → S.env p.state (f p.state)) ∧
      (∀ l, m.label? p = some l → ok p l (move S p m)) ∧ Admissible S ok (move S p m) ms

/-- A move is an admissible step, or it leaves the pool as it is. -/
lemma move_cases {m : Move κ σ} (henv : ∀ f, m = .env f → S.env p.state (f p.state))
    (hok : ∀ l, m.label? p = some l → ok p l (move S p m)) :
    (∃ l, Step S p l (move S p m) ∧ ok p l (move S p m)) ∨ move S p m = p := by
  cases m with
  | spawn c => exact .inl ⟨_, .spawn p c, hok _ rfl⟩
  | env f => exact .inl ⟨_, .env p (henv f rfl), hok _ rfl⟩
  | act t =>
    simp only [move, Move.label?] at hok ⊢
    split at hok
    · next ht => exact .inl ⟨_, .act p t ht, hok _ rfl⟩
    · exact .inr rfl

lemma run_move {m : Move κ σ} (henv : ∀ f, m = .env f → S.env p.state (f p.state))
    (hok : ∀ l, m.label? p = some l → ok p l (move S p m)) : Run S ok p (move S p m) := by
  rcases move_cases henv hok with ⟨l, hs, hl⟩ | hstay
  · exact .tail (.refl p) hs hl
  · rw [hstay]
    exact .refl p

/-- An action that a call has to take is a step. -/
lemma step_move {t : ℕ} {l : Label κ ε} (hl : (Move.act t : Move κ σ).label? p = some l) :
    Step S p l (move S p (.act t)) := by
  simp only [move, Move.label?] at hl ⊢
  split at hl
  · next ht =>
    cases hl
    exact .act p t ht
  · cases hl

lemma admissible_of_env {ms : List (Move κ σ)} (hok : ∀ p l q, ok p l q)
    (henv : ∀ f, .env f ∈ ms → ∀ s, S.env s (f s)) : Admissible S ok p ms := by
  induction ms generalizing p with
  | nil => trivial
  | cons m ms ih =>
    refine ⟨?_, fun l _ => hok _ _ _, ih fun f hf => henv f (.tail m hf)⟩
    rintro f rfl
    exact henv f (.head ms) p.state

/-- Whether all moves of a schedule meet a test on the steps that they are. -/
def admits (S : System κ η ε σ α) (T : Pool κ η ε σ α → Label κ ε → Bool)
    (p : Pool κ η ε σ α) : List (Move κ σ) → Bool
  | [] => true
  | m :: ms => ((m.label? p).all fun l => T p l) && admits S T (move S p m) ms

lemma admissible_of_admits {T : Pool κ η ε σ α → Label κ ε → Bool} {ms : List (Move κ σ)}
    (hok : ∀ p l q, T p l = true → ok p l q) (henv : ∀ f, .env f ∈ ms → ∀ s, S.env s (f s))
    (h : admits S T p ms = true) : Admissible S ok p ms := by
  induction ms generalizing p with
  | nil => trivial
  | cons m ms ih =>
    simp only [admits, Bool.and_eq_true] at h
    refine ⟨?_, fun l hl => ?_, ih (fun f hf => henv f (.tail m hf)) h.2⟩
    · rintro f rfl
      exact henv f (.head ms) p.state
    · have htest := h.1
      rw [hl] at htest
      exact hok p l _ htest

/-- Whether every pool that a schedule leads through meets a test. -/
def passes (S : System κ η ε σ α) (T : Pool κ η ε σ α → Bool) (p : Pool κ η ε σ α) :
    List (Move κ σ) → Bool
  | [] => true
  | m :: ms => T (move S p m) && passes S T (move S p m) ms

lemma admissible_of_passes {T : Pool κ η ε σ α → Bool} {P : Pool κ η ε σ α → Prop}
    {ms : List (Move κ σ)} (hP : ∀ q, T q = true → P q)
    (henv : ∀ f, .env f ∈ ms → ∀ s, S.env s (f s)) (h : passes S T p ms = true) :
    Admissible S (fun _ _ q => P q) p ms := by
  induction ms generalizing p with
  | nil => trivial
  | cons m ms ih =>
    simp only [passes, Bool.and_eq_true] at h
    refine ⟨?_, fun _ _ => hP _ h.1, ih (fun f hf => henv f (.tail m hf)) h.2⟩
    rintro f rfl
    exact henv f (.head ms) p.state

/-- Whether the call is under way. -/
def isUnderWay (p : Pool κ η ε σ α) (t : ℕ) : Bool :=
  p.threads[t]?.any fun th => !th.history.isEmpty && th.prog.outcome.isNone

/-- Whether no two calls are under way. -/
def isAlone (p : Pool κ η ε σ α) : Bool :=
  (List.range p.threads.length).all fun t => (List.range p.threads.length).all fun t' =>
    !(p.isUnderWay t && p.isUnderWay t') || t = t'

lemma alone_of_isAlone (h : isAlone p = true) : Alone p := by
  have hunder {t : ℕ} (ht : p.UnderWay t) :
      t ∈ List.range p.threads.length ∧ p.isUnderWay t = true := by
    obtain ⟨th, hget, hne, hout⟩ := ht
    refine ⟨List.mem_range.mpr (List.getElem?_eq_some_iff.mp hget).1, ?_⟩
    rw [isUnderWay, hget, Option.any_some]
    simp [hne, hout]
  intro t t' ht ht'
  obtain ⟨hmem, hbusy⟩ := hunder ht
  obtain ⟨hmem', hbusy'⟩ := hunder ht'
  have hpair := List.all_eq_true.mp (List.all_eq_true.mp h t hmem) t' hmem'
  simpa [hbusy, hbusy'] using hpair

/-- An admissible schedule plays a run. -/
lemma run_play {ms : List (Move κ σ)} (h : Admissible S ok p ms) : Run S ok p (play S p ms) := by
  induction ms generalizing p with
  | nil => exact .refl p
  | cons m ms ih => exact (run_move h.1 h.2.1).trans (ih h.2.2)

/-- How often a schedule makes `B` true. -/
def rises (S : System κ η ε σ α) (B : Pool κ η ε σ α → Bool) (p : Pool κ η ε σ α) :
    List (Move κ σ) → ℕ
  | [] => 0
  | m :: ms => (if !B p && B (move S p m) then 1 else 0) + rises S B (move S p m) ms

lemma runCount_play {B : Pool κ η ε σ α → Bool} {ms : List (Move κ σ)}
    (h : Admissible S ok p ms) :
    RunCount S ok (fun p _ q => B p = false ∧ B q = true) p (play S p ms) (rises S B p ms) := by
  induction ms generalizing p with
  | nil => exact .refl p
  | cons m ms ih =>
    refine RunCount.trans ?_ (ih h.2.2)
    rcases move_cases h.1 h.2.1 with ⟨l, hs, hok⟩ | hstay
    · by_cases hrise : B p = false ∧ B (move S p m) = true
      · rw [if_pos (by simp [hrise])]
        exact .kind (.refl p) hs hok hrise
      · rw [if_neg (by simpa using hrise)]
        exact .other (.refl p) hs hok hrise
    · rw [hstay, if_neg (by simp)]
      exact .refl p

/-- One call acts alone for a while. -/
lemma run_advance {t : ℕ} {c : κ} (hok : ∀ p e q, ok p (.act t c e) q) (n : ℕ) {s s' : σ}
    {T : List (Thread κ η ε σ α)} {h h' : List ε} {prog prog' : Prog η ε σ α}
    (ht : T[t]? = some ⟨c, h, prog⟩) (ha : Prog.advance n (prog, h, s) = (prog', h', s')) :
    Run S ok ⟨s, T⟩ ⟨s', T.set t ⟨c, h', prog'⟩⟩ := by
  have hlt : t < T.length := (List.getElem?_eq_some_iff.mp ht).1
  have hstay : Run S ok ⟨s, T⟩ ⟨s, T.set t ⟨c, h, prog⟩⟩ := by
    have hget : T[t] = ⟨c, h, prog⟩ := (List.getElem?_eq_some_iff.mp ht).2
    rw [← hget, List.set_getElem_self]
    exact .refl _
  induction n generalizing s T h prog with
  | zero => cases ha; exact hstay
  | succ n ih =>
    cases prog with
    | ret a => cases ha; exact hstay
    | raise e => cases ha; exact hstay
    | act ev upd next =>
      have hstep : Run S ok ⟨s, T⟩ ⟨upd s, T.set t ⟨c, h ++ [ev s], next s⟩⟩ :=
        .tail (.refl _) (.act ⟨s, T⟩ t ht) (hok _ _ _)
      have hrest := ih (T := T.set t ⟨c, h ++ [ev s], next s⟩)
        (by rw [List.getElem?_set_self hlt]) ha (by simpa using hlt)
        (by rw [List.set_set]; exact .refl _)
      rw [List.set_set] at hrest
      exact hstep.trans hrest

/-! ### Traces -/

/-- A run with the labels of its steps. -/
inductive Traced (S : System κ η ε σ α) (p : Pool κ η ε σ α) :
    List (Label κ ε) → Pool κ η ε σ α → Prop where
  | nil : Traced S p [] p
  | snoc {ls : List (Label κ ε)} {q r : Pool κ η ε σ α} {l : Label κ ε} (h : Traced S p ls q)
      (hs : Step S q l r) : Traced S p (ls ++ [l]) r

lemma Traced.cons {ls : List (Label κ ε)} {l : Label κ ε} (hs : Step S p l q)
    (h : Traced S q ls r) : Traced S p (l :: ls) r := by
  induction h with
  | nil => exact .snoc .nil hs
  | snoc _ hs' ih => exact .snoc ih hs'

/-- The labels of the moves of a schedule that are steps. -/
def labels (S : System κ η ε σ α) (p : Pool κ η ε σ α) : List (Move κ σ) → List (Label κ ε)
  | [] => []
  | m :: ms => (m.label? p).toList ++ labels S (move S p m) ms

/-- A schedule without moves of the environment plays a trace. -/
lemma traced_play {ms : List (Move κ σ)} (henv : ∀ f, .env f ∉ ms) :
    Traced S p (labels S p ms) (play S p ms) := by
  induction ms generalizing p with
  | nil => exact .nil
  | cons m ms ih =>
    have hrest := ih (p := move S p m) fun f hf => henv f (.tail m hf)
    cases m with
    | spawn c => exact hrest.cons (.spawn p c)
    | env f => exact absurd (.head ms) (henv f)
    | act t =>
      cases hl : (Move.act t : Move κ σ).label? p with
      | none =>
        have hstay : move S p (.act t) = p := by
          simp only [move, Move.label?] at hl ⊢
          split at hl
          · cases hl
          · rfl
        rw [labels, hl, play, hstay]
        rw [hstay] at hrest
        exact hrest
      | some l =>
        rw [labels, hl]
        exact hrest.cons (step_move hl)

/-- Whether a step is an action of the `t`-th call. -/
def Label.isBy (t : ℕ) : Label κ ε → Bool
  | .act u _ _ => u = t
  | _ => false

/-- The steps since the last action of the `t`-th call. -/
def since (t : ℕ) (ls : List (Label κ ε)) : List (Label κ ε) :=
  ls.rtakeWhile fun l => !Label.isBy t l

lemma since_concat_of_isBy {t : ℕ} {ls : List (Label κ ε)} {l : Label κ ε}
    (h : Label.isBy t l = true) : since t (ls ++ [l]) = [] :=
  List.rtakeWhile_concat_neg _ _ _ (by simp [h])

lemma since_concat {t : ℕ} {ls : List (Label κ ε)} {l : Label κ ε} (h : Label.isBy t l = false) :
    since t (ls ++ [l]) = since t ls ++ [l] :=
  List.rtakeWhile_concat_pos _ _ _ (by simp [h])

end Pool

end Concurrent
