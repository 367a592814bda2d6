import Mathlib

/-!
# Programs over a shared state

A program is a tree of atomic actions. Between two of its actions anything else may act on
the shared state: `Exec` runs a program under such interference, and `Safe` is the judgement
by which a program is verified against it. A `Contract` says what a program may rely on and
what each of its actions guarantees in return.
-/

namespace Concurrent

universe u v w x

variable {η : Type u} {ε : Type v} {σ : Type w} {α β : Type x}

/-- A program over the shared state `σ`: it returns, it raises an exception of type `η`, or it
performs an atomic action, which shows the event `ev s` and replaces the state `s` by `upd s`. -/
inductive Prog (η : Type u) (ε : Type v) (σ : Type w) (α : Type x) : Type (max u v w x) where
  | ret (a : α)
  | raise (e : η)
  | act (ev : σ → ε) (upd : σ → σ) (next : σ → Prog η ε σ α)

namespace Prog

def bind : Prog η ε σ α → (α → Prog η ε σ β) → Prog η ε σ β
  | ret a, k => k a
  | raise e, _ => raise e
  | act ev upd next, k => act ev upd fun s => (next s).bind k

def tryCatch : Prog η ε σ α → (η → Prog η ε σ α) → Prog η ε σ α
  | ret a, _ => ret a
  | raise e, handler => handler e
  | act ev upd next, handler => act ev upd fun s => (next s).tryCatch handler

/-- The same program with its events renamed. -/
def mapEvent (f : ε → ε) : Prog η ε σ α → Prog η ε σ α
  | ret a => ret a
  | raise e => raise e
  | act ev upd next => act (fun s => f (ev s)) upd fun s => (next s).mapEvent f

instance : Monad (Prog η ε σ) where
  pure := ret
  bind := bind

instance : MonadExceptOf η (Prog η ε σ) where
  throw := raise
  tryCatch := tryCatch

@[simp] lemma pure_def (a : α) : (pure a : Prog η ε σ α) = ret a := rfl

@[simp] lemma throw_def (e : η) : (throw e : Prog η ε σ α) = raise e := rfl

@[simp] lemma ret_bind (a : α) (k : α → Prog η ε σ β) : (ret a >>= k) = k a := rfl

@[simp] lemma raise_bind (e : η) (k : α → Prog η ε σ β) : (raise e >>= k) = raise e := rfl

@[simp] lemma act_bind (ev : σ → ε) (upd : σ → σ) (next : σ → Prog η ε σ α)
    (k : α → Prog η ε σ β) :
    (act ev upd next >>= k) = act ev upd fun s => next s >>= k := rfl

/-- A transaction: one atomic action, which leaves the state as it was when `f` raises. The
event may depend on the outcome. -/
def atomic (ev : Except η α → ε) (f : σ → Except η (α × σ)) : Prog η ε σ α :=
  act (fun s => ev ((f s).map Prod.fst))
    (fun s => match f s with
      | .ok (_, s') => s'
      | .error _ => s)
    (fun s => match f s with
      | .ok (a, _) => ret a
      | .error e => raise e)

/-- What can raise without acting on the state. -/
def ofExcept : Except η α → Prog η ε σ α
  | .ok a => ret a
  | .error e => raise e

/-- The same program showing its events under another name. -/
def relabel {ε' : Type*} (g : ε → ε') : Prog η ε σ α → Prog η ε' σ α
  | ret a => ret a
  | raise e => raise e
  | act ev upd next => act (fun s => g (ev s)) upd fun s => (next s).relabel g

/-- The same program on a part of a larger state. -/
def within {τ : Type*} (get : τ → σ) (put : τ → σ → τ) : Prog η ε σ α → Prog η ε τ α
  | ret a => ret a
  | raise e => raise e
  | act ev upd next => act (fun t => ev (get t)) (fun t => put t (upd (get t))) fun t =>
      (next (get t)).within get put

/-- The outcome of a program that has ended. -/
def outcome : Prog η ε σ α → Option (Except η α)
  | ret a => some (.ok a)
  | raise e => some (.error e)
  | act _ _ _ => none

/-- What the next action of a program shows in the state `s`. -/
def nextEvent : Prog η ε σ α → σ → Option ε
  | act ev _ _, s => some (ev s)
  | _, _ => none

/-- In some state that it may come to, the program shows an event of `P`. -/
def CanShow (P : ε → Prop) : Prog η ε σ α → Prop
  | ret _ => False
  | raise _ => False
  | act ev _ next => ∃ s, P (ev s) ∨ (next s).CanShow P

/-- Run a program to its end with nothing acting in between. -/
def run : Prog η ε σ α → σ → Except η α × σ
  | ret a, s => (.ok a, s)
  | raise e, s => (.error e, s)
  | act _ upd next, s => (next s).run (upd s)

@[simp] lemma run_ret (a : α) (s : σ) : (ret a : Prog η ε σ α).run s = (.ok a, s) := rfl

@[simp] lemma run_raise (e : η) (s : σ) : (raise e : Prog η ε σ α).run s = (.error e, s) := rfl

lemma run_bind (p : Prog η ε σ α) (k : α → Prog η ε σ β) (s : σ) :
    (p >>= k).run s = match p.run s with
      | (.ok a, s') => (k a).run s'
      | (.error e, s') => (.error e, s') := by
  induction p generalizing s with
  | ret a => rfl
  | raise e => rfl
  | act ev upd next ih => exact ih s (upd s)

lemma run_tryCatch (p : Prog η ε σ α) (handler : η → Prog η ε σ α) (s : σ) :
    (MonadExcept.tryCatch p handler : Prog η ε σ α).run s = match p.run s with
      | (.ok a, s') => (.ok a, s')
      | (.error e, s') => (handler e).run s' := by
  induction p generalizing s with
  | ret a => rfl
  | raise e => rfl
  | act ev upd next ih => exact ih s (upd s)

/-- Programs that run alike may be exchanged in front of ones that do. -/
lemma run_bind_congr {p p' : Prog η ε σ α} {k k' : α → Prog η ε σ β} {s : σ}
    (hp : p.run s = p'.run s) (hk : ∀ a t, (k a).run t = (k' a).run t) :
    (p >>= k).run s = (p' >>= k').run s := by
  rw [run_bind, run_bind, hp]
  split
  · exact hk _ _
  · rfl

lemma bind_assoc {γ : Type x} (p : Prog η ε σ α) (k : α → Prog η ε σ β) (k' : β → Prog η ε σ γ) :
    (p >>= k >>= k') = p >>= fun a => k a >>= k' := by
  induction p with
  | ret a => rfl
  | raise e => rfl
  | act ev upd next ih => exact congrArg (act ev upd) (funext ih)

@[simp] lemma bind_ret (p : Prog η ε σ α) : (p >>= ret) = p := by
  induction p with
  | ret a => rfl
  | raise e => rfl
  | act ev upd next ih => exact congrArg (act ev upd) (funext ih)

lemma relabel_bind {ε' : Type*} (g : ε → ε') (p : Prog η ε σ α) (k : α → Prog η ε σ β) :
    (p >>= k).relabel g = p.relabel g >>= fun a => (k a).relabel g := by
  induction p with
  | ret a => rfl
  | raise e => rfl
  | act ev upd next ih => exact congrArg (act _ upd) (funext ih)

lemma within_bind {τ : Type*} (get : τ → σ) (put : τ → σ → τ) (p : Prog η ε σ α)
    (k : α → Prog η ε σ β) :
    (p >>= k).within get put = p.within get put >>= fun a => (k a).within get put := by
  induction p with
  | ret a => rfl
  | raise e => rfl
  | act ev upd next ih => exact congrArg (act _ _) (funext fun t => ih (get t))

lemma run_atomic (ev : Except η α → ε) (f : σ → Except η (α × σ)) (s : σ) :
    (atomic ev f).run s = match f s with
      | .ok (a, s') => (.ok a, s')
      | .error e => (.error e, s) := by
  simp only [atomic, run]
  cases f s <;> rfl

/-- What a program shows, run to its end with nothing acting in between. -/
def trace : Prog η ε σ α → σ → List ε
  | ret _, _ => []
  | raise _, _ => []
  | act ev upd next, s => ev s :: (next s).trace (upd s)

lemma trace_bind (p : Prog η ε σ α) (k : α → Prog η ε σ β) (s : σ) :
    (p >>= k).trace s = p.trace s ++ match p.run s with
      | (.ok a, s') => (k a).trace s'
      | (.error _, _) => [] := by
  induction p generalizing s with
  | ret a => rfl
  | raise e => rfl
  | act ev upd next ih => exact congrArg (ev s :: ·) (ih s (upd s))

lemma trace_atomic (ev : Except η α → ε) (f : σ → Except η (α × σ)) (s : σ) :
    (atomic ev f).trace s = [ev ((f s).map Prod.fst)] := by
  simp only [atomic, trace]
  cases f s <;> rfl

/-- What the first part shows is shown. -/
lemma mem_trace_bind {p : Prog η ε σ α} {s : σ} {e : ε} (h : e ∈ p.trace s)
    (k : α → Prog η ε σ β) : e ∈ (p >>= k).trace s := by
  rw [trace_bind]
  exact List.mem_append_left _ h

lemma mem_trace_tryCatch {p : Prog η ε σ α} {s : σ} {e : ε} (h : e ∈ p.trace s)
    (handler : η → Prog η ε σ α) : e ∈ (MonadExcept.tryCatch p handler : Prog η ε σ α).trace s := by
  induction p generalizing s with
  | ret a => cases h
  | raise e => cases h
  | act ev upd next ih =>
    rcases List.mem_cons.mp h with rfl | h
    · exact .head _
    · exact .tail _ (ih s h)

/-! ### Execution under interference -/

/-- `Exec R p₀ h₀ s₀ p h s`: from the program `p₀` with history `h₀` in state `s₀`, its own
actions and moves of `R` in between lead to `p`, `h` and `s`. -/
inductive Exec (R : σ → σ → Prop) (p₀ : Prog η ε σ α) (h₀ : List ε) (s₀ : σ) :
    Prog η ε σ α → List ε → σ → Prop where
  | refl : Exec R p₀ h₀ s₀ p₀ h₀ s₀
  | env {p h s s'} (hx : Exec R p₀ h₀ s₀ p h s) (hR : R s s') : Exec R p₀ h₀ s₀ p h s'
  | act {ev upd next h s} (hx : Exec R p₀ h₀ s₀ (act ev upd next) h s) :
      Exec R p₀ h₀ s₀ (next s) (h ++ [ev s]) (upd s)

/-- Perform up to `n` actions without interference. -/
def advance : ℕ → Prog η ε σ α × List ε × σ → Prog η ε σ α × List ε × σ
  | n + 1, (act ev upd next, h, s) => advance n (next s, h ++ [ev s], upd s)
  | _, c => c

lemma Exec.trans {R : σ → σ → Prop} {p₀ p₁ p₂ : Prog η ε σ α} {h₀ h₁ h₂ : List ε} {s₀ s₁ s₂ : σ}
    (hx : Exec R p₀ h₀ s₀ p₁ h₁ s₁) (hy : Exec R p₁ h₁ s₁ p₂ h₂ s₂) :
    Exec R p₀ h₀ s₀ p₂ h₂ s₂ := by
  induction hy with
  | refl => exact hx
  | env _ hR ih => exact .env ih hR
  | act _ ih => exact .act ih

lemma exec_advance (R : σ → σ → Prop) (n : ℕ) (p : Prog η ε σ α) (h : List ε) (s : σ) :
    Exec R p h s (advance n (p, h, s)).1 (advance n (p, h, s)).2.1 (advance n (p, h, s)).2.2 := by
  induction n generalizing p h s with
  | zero => exact .refl
  | succ n ih =>
    cases p with
    | ret a => exact .refl
    | raise e => exact .refl
    | act ev upd next => exact (Exec.act .refl).trans (ih (next s) (h ++ [ev s]) (upd s))

end Prog

/-! ### Contracts -/

/-- What a program may count on and what it owes. `inv` holds whenever one of its actions
begins, `rely` is what others may do in between, `cond` is assumed of its own actions, and
`guar` is what each of them, after the program's own events so far, guarantees. -/
structure Contract (ε : Type v) (σ : Type w) where
  inv : σ → Prop := fun _ => True
  rely : σ → σ → Prop
  cond : List ε → σ → ε → σ → Prop := fun _ _ _ _ => True
  guar : List ε → σ → ε → σ → Prop
  rely_refl : ∀ s, rely s s
  rely_trans : ∀ s t u, rely s t → rely t u → rely s u

/-- `Safe C p h s Q`: run from `s` under the contract `C`, with the own events `h` behind it,
every action of `p` keeps the guarantee and the invariant, and if `p` ends then `Q` holds. -/
def Safe (C : Contract ε σ) : Prog η ε σ α → List ε → σ →
    (List ε → Except η α → σ → Prop) → Prop
  | .ret a, h, s, Q => ∀ s', C.rely s s' → C.inv s' → Q h (.ok a) s'
  | .raise e, h, s, Q => ∀ s', C.rely s s' → C.inv s' → Q h (.error e) s'
  | .act ev upd next, h, s, Q => ∀ s', C.rely s s' → C.inv s' → C.cond h s' (ev s') (upd s') →
      C.guar h s' (ev s') (upd s') ∧ C.inv (upd s') ∧ Safe C (next s') (h ++ [ev s']) (upd s') Q

namespace Safe

variable {C : Contract ε σ} {p : Prog η ε σ α} {k : α → Prog η ε σ β} {h : List ε} {s t : σ}

lemma rely {Q : List ε → Except η α → σ → Prop} (hp : Safe C p h s Q) (hR : C.rely s t) :
    Safe C p h t Q := by
  cases p with
  | ret a => exact fun s' hs' => hp s' (C.rely_trans _ _ _ hR hs')
  | raise e => exact fun s' hs' => hp s' (C.rely_trans _ _ _ hR hs')
  | act ev upd next => exact fun s' hs' => hp s' (C.rely_trans _ _ _ hR hs')

/-- Interference may come first. -/
lemma of_rely {Q : List ε → Except η α → σ → Prop}
    (hp : ∀ s', C.rely s s' → C.inv s' → Safe C p h s' Q) : Safe C p h s Q := by
  cases p with
  | ret a => exact fun s' hR hI => hp s' hR hI s' (C.rely_refl s') hI
  | raise e => exact fun s' hR hI => hp s' hR hI s' (C.rely_refl s') hI
  | act ev upd next => exact fun s' hR hI => hp s' hR hI s' (C.rely_refl s') hI

lemma mono {P Q : List ε → Except η α → σ → Prop} (hp : Safe C p h s P)
    (hPQ : ∀ h' r s', P h' r s' → Q h' r s') : Safe C p h s Q := by
  induction p generalizing h s with
  | ret a => exact fun s' hR hI => hPQ _ _ _ (hp s' hR hI)
  | raise e => exact fun s' hR hI => hPQ _ _ _ (hp s' hR hI)
  | act ev upd next ih =>
    intro s' hR hI hc
    obtain ⟨hg, hI', hn⟩ := hp s' hR hI hc
    exact ⟨hg, hI', ih s' hn⟩

lemma ret {Q : List ε → Except η α → σ → Prop} {a : α}
    (hQ : ∀ s', C.rely s s' → C.inv s' → Q h (.ok a) s') :
    Safe C (Prog.ret a : Prog η ε σ α) h s Q := hQ

lemma raise {Q : List ε → Except η α → σ → Prop} {e : η}
    (hQ : ∀ s', C.rely s s' → C.inv s' → Q h (.error e) s') :
    Safe C (Prog.raise e : Prog η ε σ α) h s Q := hQ

/-- Sequencing: the rest of the program runs on what the first part ensures. -/
lemma bind {P : List ε → Except η α → σ → Prop} {Q : List ε → Except η β → σ → Prop}
    (hp : Safe C p h s P)
    (hok : ∀ h' a s', P h' (.ok a) s' → Safe C (k a) h' s' Q)
    (herr : ∀ h' e s', P h' (.error e) s' → Q h' (.error e) s') :
    Safe C (p >>= k) h s Q := by
  induction p generalizing h s with
  | ret a => exact of_rely fun s' hR hI => hok h a s' (hp s' hR hI)
  | raise e => exact fun s' hR hI => herr _ _ _ (hp s' hR hI)
  | act ev upd next ih =>
    intro s' hR hI hc
    obtain ⟨hg, hI', hn⟩ := hp s' hR hI hc
    exact ⟨hg, hI', ih s' hn⟩

/-- Exception handling: the handler runs where the body raises. -/
lemma tryCatch {handler : η → Prog η ε σ α} {P Q : List ε → Except η α → σ → Prop}
    (hp : Safe C p h s P)
    (hok : ∀ h' a s', P h' (.ok a) s' → Q h' (.ok a) s')
    (herr : ∀ h' e s', P h' (.error e) s' → Safe C (handler e) h' s' Q) :
    Safe C (MonadExcept.tryCatch p handler) h s Q := by
  induction p generalizing h s with
  | ret a => exact fun s' hR hI => hok _ _ _ (hp s' hR hI)
  | raise e => exact of_rely fun s' hR hI => herr h e s' (hp s' hR hI)
  | act ev upd next ih =>
    intro s' hR hI hc
    obtain ⟨hg, hI', hn⟩ := hp s' hR hI hc
    exact ⟨hg, hI', ih s' hn⟩

/-- A transaction is verified by its two outcomes. -/
lemma atomic {ev : Except η α → ε} {f : σ → Except η (α × σ)}
    {Q : List ε → Except η α → σ → Prop}
    (hok : ∀ s' a t, C.rely s s' → C.inv s' → f s' = .ok (a, t) →
      C.cond h s' (ev (.ok a)) t →
      C.guar h s' (ev (.ok a)) t ∧ C.inv t ∧
        ∀ t', C.rely t t' → C.inv t' → Q (h ++ [ev (.ok a)]) (.ok a) t')
    (herr : ∀ s' e, C.rely s s' → C.inv s' → f s' = .error e →
      C.cond h s' (ev (.error e)) s' →
      C.guar h s' (ev (.error e)) s' ∧
        ∀ t', C.rely s' t' → C.inv t' → Q (h ++ [ev (.error e)]) (.error e) t') :
    Safe C (Prog.atomic ev f) h s Q := by
  intro s' hR hI
  cases hf : f s' with
  | ok r =>
    obtain ⟨a, t⟩ := r
    intro hc
    simp only [hf, Except.map] at hc ⊢
    exact hok s' a t hR hI hf hc
  | error e =>
    intro hc
    simp only [hf, Except.map] at hc ⊢
    obtain ⟨hg, hQ⟩ := herr s' e hR hI hf hc
    exact ⟨hg, hI, hQ⟩

/-- A transaction followed by the rest of the program, which runs on its result. -/
lemma atomic_bind {ev : Except η α → ε} {f : σ → Except η (α × σ)}
    {Q : List ε → Except η β → σ → Prop}
    (hok : ∀ s' a t, C.rely s s' → C.inv s' → f s' = .ok (a, t) →
      C.cond h s' (ev (.ok a)) t →
      C.guar h s' (ev (.ok a)) t ∧ C.inv t ∧ Safe C (k a) (h ++ [ev (.ok a)]) t Q)
    (herr : ∀ s' e, C.rely s s' → C.inv s' → f s' = .error e →
      C.cond h s' (ev (.error e)) s' →
      C.guar h s' (ev (.error e)) s' ∧
        Safe C (Prog.raise e : Prog η ε σ β) (h ++ [ev (.error e)]) s' Q) :
    Safe C (Prog.atomic ev f >>= k) h s Q := by
  intro s' hR hI
  cases hf : f s' with
  | ok r =>
    obtain ⟨a, t⟩ := r
    intro hc
    simp only [hf, Except.map] at hc ⊢
    exact hok s' a t hR hI hf hc
  | error e =>
    intro hc
    simp only [hf, Except.map] at hc ⊢
    obtain ⟨hg, hn⟩ := herr s' e hR hI hf hc
    exact ⟨hg, hI, hn⟩

/-- A program that is safe stays so under other names of its events, if what it owes under them
is what it keeps. -/
lemma mapEvent {D : Contract ε σ} {f : ε → ε} {h₀ : List ε} {P : List ε → Except η α → σ → Prop}
    (hp : Safe C p h s P) (hrely : ∀ s s', D.rely s s' → C.rely s s')
    (hinv : ∀ s, D.inv s ↔ C.inv s)
    (hcond : ∀ h s e s', D.cond (h₀ ++ h.map f) s (f e) s' → C.cond h s e s')
    (hguar : ∀ h s e s', C.guar h s e s' → D.guar (h₀ ++ h.map f) s (f e) s') :
    Safe D (p.mapEvent f) (h₀ ++ h.map f) s
      fun h' r s' => ∃ h, h' = h₀ ++ h.map f ∧ P h r s' := by
  induction p generalizing h s with
  | ret a => exact fun s' hR hI => ⟨h, rfl, hp s' (hrely _ _ hR) ((hinv s').mp hI)⟩
  | raise e => exact fun s' hR hI => ⟨h, rfl, hp s' (hrely _ _ hR) ((hinv s').mp hI)⟩
  | act ev upd next ih =>
    intro s' hR hI hc
    obtain ⟨hg, hI', hn⟩ := hp s' (hrely _ _ hR) ((hinv s').mp hI) (hcond _ _ _ _ hc)
    have hnext := ih s' hn
    rw [List.map_append, ← List.append_assoc] at hnext
    exact ⟨hguar _ _ _ _ hg, (hinv _).mpr hI', hnext⟩

/-- A run with nothing in between is one of the executions that the judgement is about. -/
lemma run {Q : List ε → Except η α → σ → Prop} (hp : Safe C p h s Q) (hI : C.inv s)
    (hcond : ∀ h s e s', C.cond h s e s') :
    ∃ h', Q h' (p.run s).1 (p.run s).2 ∧ C.inv (p.run s).2 := by
  induction p generalizing h s with
  | ret a => exact ⟨h, hp s (C.rely_refl s) hI, hI⟩
  | raise e => exact ⟨h, hp s (C.rely_refl s) hI, hI⟩
  | act ev upd next ih =>
    obtain ⟨-, hI', hn⟩ := hp s (C.rely_refl s) hI (hcond _ _ _ _)
    exact ih s hn hI'

/-- Along every execution under the interference relied upon, the judgement is kept. -/
lemma exec {R : σ → σ → Prop} {p₀ p : Prog η ε σ α} {h₀ h : List ε} {s₀ s : σ}
    {Q : List ε → Except η α → σ → Prop}
    (hR : ∀ s s', C.inv s → R s s' → C.rely s s' ∧ C.inv s')
    (hcond : ∀ h s e s', C.cond h s e s')
    (hp : Safe C p₀ h₀ s₀ Q) (hI : C.inv s₀) (hx : Prog.Exec R p₀ h₀ s₀ p h s) :
    Safe C p h s Q ∧ C.inv s := by
  induction hx with
  | refl => exact ⟨hp, hI⟩
  | env _ hs ih => exact ⟨ih.1.rely (hR _ _ ih.2 hs).1, (hR _ _ ih.2 hs).2⟩
  | act _ ih =>
    obtain ⟨-, hI', hn⟩ := ih.1 _ (C.rely_refl _) ih.2 (hcond _ _ _ _)
    exact ⟨hn, hI'⟩

/-- The postcondition holds of a program that has ended. -/
lemma post {Q : List ε → Except η α → σ → Prop} {r : Except η α} (hp : Safe C p h s Q)
    (hI : C.inv s) (hr : p.outcome = some r) : Q h r s := by
  cases p with
  | ret a => cases hr; exact hp s (C.rely_refl s) hI
  | raise e => cases hr; exact hp s (C.rely_refl s) hI
  | act ev upd next => cases hr

/-- The guarantee holds of the action that comes next. -/
lemma guar {Q : List ε → Except η α → σ → Prop} {ev : σ → ε} {upd : σ → σ}
    {next : σ → Prog η ε σ α} (hp : Safe C (.act ev upd next) h s Q) (hI : C.inv s)
    (hc : C.cond h s (ev s) (upd s)) : C.guar h s (ev s) (upd s) :=
  (hp s (C.rely_refl s) hI hc).1

lemma guar_nextEvent {Q : List ε → Except η α → σ → Prop} {e : ε} (hp : Safe C p h s Q)
    (hI : C.inv s) (hcond : ∀ h s e s', C.cond h s e s') (he : p.nextEvent s = some e) :
    ∃ s', C.guar h s e s' := by
  cases p with
  | ret a => cases he
  | raise e => cases he
  | act ev upd next =>
    cases he
    exact ⟨_, hp.guar hI (hcond _ _ _ _)⟩

lemma act {Q : List ε → Except η α → σ → Prop} {ev : σ → ε} {upd : σ → σ}
    {next : σ → Prog η ε σ α} (hp : Safe C (.act ev upd next) h s Q) (hI : C.inv s)
    (hc : C.cond h s (ev s) (upd s)) :
    C.guar h s (ev s) (upd s) ∧ C.inv (upd s) ∧ Safe C (next s) (h ++ [ev s]) (upd s) Q :=
  hp s (C.rely_refl s) hI hc

end Safe

/-! ### Frames -/

/-- Every action of the program, from whatever state it is taken, is in `G`. -/
def Every (G : σ → ε → σ → Prop) : Prog η ε σ α → Prop
  | .ret _ => True
  | .raise _ => True
  | .act ev upd next => ∀ s, G s (ev s) (upd s) ∧ Every G (next s)

namespace Every

variable {G : σ → ε → σ → Prop} {p : Prog η ε σ α} {k : α → Prog η ε σ β}

lemma ret (a : α) : Every G (Prog.ret a : Prog η ε σ α) := trivial

lemma raise (e : η) : Every G (Prog.raise e : Prog η ε σ α) := trivial

lemma act {ev : σ → ε} {upd : σ → σ} {next : σ → Prog η ε σ α}
    (h : ∀ s, G s (ev s) (upd s) ∧ Every G (next s)) : Every G (.act ev upd next) := h

lemma mono {G' : σ → ε → σ → Prop} (hp : Every G p) (hG : ∀ s e s', G s e s' → G' s e s') :
    Every G' p := by
  induction p with
  | ret a => trivial
  | raise e => trivial
  | act ev upd next ih => exact fun s => ⟨hG _ _ _ (hp s).1, ih s (hp s).2⟩

lemma bind (hp : Every G p) (hk : ∀ a, Every G (k a)) : Every G (p >>= k) := by
  induction p with
  | ret a => exact hk a
  | raise e => trivial
  | act ev upd next ih => exact fun s => ⟨(hp s).1, ih s (hp s).2⟩

lemma tryCatch {handler : η → Prog η ε σ α} (hp : Every G p) (hh : ∀ e, Every G (handler e)) :
    Every G (MonadExcept.tryCatch p handler) := by
  induction p with
  | ret a => trivial
  | raise e => exact hh e
  | act ev upd next ih => exact fun s => ⟨(hp s).1, ih s (hp s).2⟩

lemma atomic {ev : Except η α → ε} {f : σ → Except η (α × σ)}
    (hok : ∀ s a t, f s = .ok (a, t) → G s (ev (.ok a)) t)
    (herr : ∀ s e, f s = .error e → G s (ev (.error e)) s) : Every G (Prog.atomic ev f) := by
  intro s
  cases hf : f s with
  | ok r =>
    obtain ⟨a, t⟩ := r
    simpa only [hf, Except.map] using ⟨hok s a t hf, Every.ret a⟩
  | error e => simpa only [hf, Except.map] using ⟨herr s e hf, Every.raise e⟩

end Every

/-! ### Outcomes -/

/-- However the program ends, if all its actions meet `K`, its outcome is in `Q`. -/
def Yields (K : σ → ε → σ → Prop) : Prog η ε σ α → (Except η α → Prop) → Prop
  | .ret a, Q => Q (.ok a)
  | .raise e, Q => Q (.error e)
  | .act ev upd next, Q => ∀ s, K s (ev s) (upd s) → Yields K (next s) Q

namespace Yields

variable {K : σ → ε → σ → Prop} {p : Prog η ε σ α} {k : α → Prog η ε σ β}
  {P Q : Except η α → Prop} {R : Except η β → Prop}

lemma ret {a : α} (hQ : Q (.ok a)) : Yields K (Prog.ret a : Prog η ε σ α) Q := hQ

lemma raise {e : η} (hQ : Q (.error e)) : Yields K (Prog.raise e : Prog η ε σ α) Q := hQ

lemma mono (hp : Yields K p P) (hPQ : ∀ r, P r → Q r) : Yields K p Q := by
  induction p with
  | ret a => exact hPQ _ hp
  | raise e => exact hPQ _ hp
  | act ev upd next ih => exact fun s hK => ih s (hp s hK)

lemma mono_cond {K' : σ → ε → σ → Prop} (hp : Yields K p Q) (hK : ∀ s e s', K' s e s' → K s e s') :
    Yields K' p Q := by
  induction p with
  | ret a => exact hp
  | raise e => exact hp
  | act ev upd next ih => exact fun s hs => ih s (hp s (hK _ _ _ hs))

lemma of_forall (p : Prog η ε σ α) (hQ : ∀ r, Q r) : Yields K p Q := by
  induction p with
  | ret a => exact hQ _
  | raise e => exact hQ _
  | act ev upd next ih => exact fun s _ => ih s

lemma bind (hp : Yields K p P) (hok : ∀ a, P (.ok a) → Yields K (k a) R)
    (herr : ∀ e, P (.error e) → R (.error e)) : Yields K (p >>= k) R := by
  induction p with
  | ret a => exact hok a hp
  | raise e => exact herr e hp
  | act ev upd next ih => exact fun s hK => ih s (hp s hK)

lemma tryCatch {handler : η → Prog η ε σ α} (hp : Yields K p P) (hok : ∀ a, P (.ok a) → Q (.ok a))
    (herr : ∀ e, P (.error e) → Yields K (handler e) Q) :
    Yields K (MonadExcept.tryCatch p handler) Q := by
  induction p with
  | ret a => exact hok a hp
  | raise e => exact herr e hp
  | act ev upd next ih => exact fun s hK => ih s (hp s hK)

lemma atomic {ev : Except η α → ε} {f : σ → Except η (α × σ)}
    (hok : ∀ s a t, f s = .ok (a, t) → K s (ev (.ok a)) t → Q (.ok a))
    (herr : ∀ s e, f s = .error e → K s (ev (.error e)) s → Q (.error e)) :
    Yields K (Prog.atomic ev f) Q := by
  intro s
  cases hf : f s with
  | ok r =>
    obtain ⟨a, t⟩ := r
    intro hK
    simp only [hf, Except.map] at hK ⊢
    exact hok s a t hf hK
  | error e =>
    intro hK
    simp only [hf, Except.map] at hK ⊢
    exact herr s e hf hK

end Yields

namespace Every

variable {G : σ → ε → σ → Prop} {p : Prog η ε σ α}

/-- The rest of a program needs to be in `G` only for what the first part can return. -/
lemma bind_of_yields {k : α → Prog η ε σ β} {Q : Except η α → Prop} (hp : Every G p)
    (hy : Yields (fun _ _ _ => True) p Q) (hk : ∀ a, Q (.ok a) → Every G (k a)) :
    Every G (p >>= k) := by
  induction p with
  | ret a => exact hk a hy
  | raise e => trivial
  | act ev upd next ih => exact fun s => ⟨(hp s).1, ih s (hp s).2 (hy s trivial)⟩

/-- A program all of whose actions are in `G` keeps every contract that `G` implies. At its
end it stands, in any preorder that `G` and the interference respect, to where it began, its
events are all of the kind `N` that `G` allows, and its outcome is one that `K` leaves. The
history may be of any kind `H` that its events keep. -/
lemma safe_yields {C : Contract ε σ} {F : σ → σ → Prop} {N : ε → Prop} {K : σ → ε → σ → Prop}
    {H : List ε → Prop} {Q : Except η α → Prop} (hp : Every G p) (hy : Yields K p Q)
    (hG : ∀ h s e s', H h → C.inv s → C.cond h s e s' → G s e s' →
      C.guar h s e s' ∧ C.inv s' ∧ F s s' ∧ N e ∧ K s e s' ∧ H (h ++ [e]))
    (hF : ∀ s s', C.rely s s' → F s s') (htrans : ∀ s t u, F s t → F t u → F s u)
    (h : List ε) (s : σ) (hH : H h) :
    Safe C p h s fun h' r s' => F s s' ∧ (∃ l, h' = h ++ l ∧ ∀ e ∈ l, N e) ∧ Q r := by
  induction p generalizing h s with
  | ret a => exact fun s' hR _ => ⟨hF s s' hR, ⟨[], by simp⟩, hy⟩
  | raise e => exact fun s' hR _ => ⟨hF s s' hR, ⟨[], by simp⟩, hy⟩
  | act ev upd next ih =>
    intro s' hR hI hc
    obtain ⟨hg, hI', hFs, hN, hK, hH'⟩ := hG h s' (ev s') (upd s') hH hI hc (hp s').1
    refine ⟨hg, hI', (ih s' (hp s').2 (hy s' hK) (h ++ [ev s']) (upd s') hH').mono ?_⟩
    rintro h' r t ⟨ht, ⟨l, rfl, hl⟩, hQ⟩
    refine ⟨htrans _ _ _ (htrans _ _ _ (hF s s' hR) hFs) ht, ⟨ev s' :: l, by simp, ?_⟩, hQ⟩
    exact List.forall_mem_cons.mpr ⟨hN, hl⟩

lemma safe {C : Contract ε σ} {F : σ → σ → Prop} {N : ε → Prop} (hp : Every G p)
    (hG : ∀ h s e s', C.inv s → C.cond h s e s' → G s e s' →
      C.guar h s e s' ∧ C.inv s' ∧ F s s' ∧ N e)
    (hF : ∀ s s', C.rely s s' → F s s') (htrans : ∀ s t u, F s t → F t u → F s u)
    (h : List ε) (s : σ) :
    Safe C p h s fun h' _ s' => F s s' ∧ ∃ l, h' = h ++ l ∧ ∀ e ∈ l, N e := by
  have hy : Yields (fun _ _ _ => True) p fun _ => True := Yields.of_forall p fun _ => trivial
  have hsafe := hp.safe_yields (H := fun _ => True) hy
    (fun h s e s' _ hI hc hg => by
      obtain ⟨hguar, hI', hFs, hN⟩ := hG h s e s' hI hc hg
      exact ⟨hguar, hI', hFs, hN, trivial, trivial⟩) hF htrans h s trivial
  exact hsafe.mono fun _ _ _ hP => ⟨hP.1, hP.2.1⟩

/-- A program that starts where `J` holds keeps a contract, if its actions and the interference
keep `J` and every action from `J` is within the contract. -/
lemma safe_within {C : Contract ε σ} {J : List ε → σ → Prop} (hp : Every G p)
    (hG : ∀ h s e s', J h s → C.inv s → C.cond h s e s' → G s e s' →
      C.guar h s e s' ∧ C.inv s' ∧ J (h ++ [e]) s')
    (hJ : ∀ h s s', J h s → C.rely s s' → J h s') {h : List ε} {s : σ} (hs : J h s) :
    Safe C p h s fun h' _ s' => J h' s' := by
  induction p generalizing h s with
  | ret a => exact fun s' hR _ => hJ h s s' hs hR
  | raise e => exact fun s' hR _ => hJ h s s' hs hR
  | act ev upd next ih =>
    intro s' hR hI hc
    obtain ⟨hg, hI', hJ'⟩ := hG h s' _ _ (hJ h s s' hs hR) hI hc (hp s').1
    exact ⟨hg, hI', ih s' (hp s').2 hJ'⟩

/-- A run with nothing in between stays in any preorder that `G` respects. -/
lemma run {F : σ → σ → Prop} (hp : Every G p) (hG : ∀ s e s', G s e s' → F s s')
    (hrefl : ∀ s, F s s) (htrans : ∀ s t u, F s t → F t u → F s u) (s : σ) :
    F s (p.run s).2 := by
  induction p generalizing s with
  | ret a => exact hrefl s
  | raise e => exact hrefl s
  | act ev upd next ih =>
    exact htrans _ _ _ (hG _ _ _ (hp s).1) (ih s (hp s).2 (upd s))

end Every

/-! ### Runs without interference -/

/-- Run from `s` with nothing in between, the program ends in `Q`. -/
def Ends (p : Prog η ε σ α) (s : σ) (Q : Except η α → σ → Prop) : Prop := Q (p.run s).1 (p.run s).2

namespace Ends

variable {p : Prog η ε σ α} {k : α → Prog η ε σ β} {s : σ} {P Q : Except η α → σ → Prop}
  {R : Except η β → σ → Prop}

lemma ret {a : α} (hQ : Q (.ok a) s) : Ends (Prog.ret a : Prog η ε σ α) s Q := hQ

lemma raise {e : η} (hQ : Q (.error e) s) : Ends (Prog.raise e : Prog η ε σ α) s Q := hQ

lemma mono (hp : Ends p s P) (hPQ : ∀ r t, P r t → Q r t) : Ends p s Q := hPQ _ _ hp

lemma and (hp : Ends p s P) (hq : Ends p s Q) : Ends p s fun r t => P r t ∧ Q r t := ⟨hp, hq⟩

lemma bind (hp : Ends p s P) (hok : ∀ a t, P (.ok a) t → Ends (k a) t R)
    (herr : ∀ e t, P (.error e) t → R (.error e) t) : Ends (p >>= k) s R := by
  unfold Ends at hp ⊢
  rw [Prog.run_bind]
  cases hrun : p.run s with
  | mk r t =>
    rw [hrun] at hp
    cases r with
    | ok a => exact hok a t hp
    | error e => exact herr e t hp

lemma map {f : α → β} (hp : Ends p s P) (hok : ∀ a t, P (.ok a) t → R (.ok (f a)) t)
    (herr : ∀ e t, P (.error e) t → R (.error e) t) : Ends (f <$> p) s R :=
  bind (k := fun a => Prog.ret (f a)) hp hok herr

lemma tryCatch {handler : η → Prog η ε σ α} (hp : Ends p s P)
    (hok : ∀ a t, P (.ok a) t → Q (.ok a) t) (herr : ∀ e t, P (.error e) t → Ends (handler e) t Q) :
    Ends (MonadExcept.tryCatch p handler) s Q := by
  unfold Ends at hp ⊢
  rw [Prog.run_tryCatch]
  cases hrun : p.run s with
  | mk r t =>
    rw [hrun] at hp
    cases r with
    | ok a => exact hok a t hp
    | error e => exact herr e t hp

end Ends

/-- Run from `s` with nothing in between, the program shows events, and ends, as `Q` has it. -/
def Traces (p : Prog η ε σ α) (s : σ) (Q : List ε → Except η α → σ → Prop) : Prop :=
  Q (p.trace s) (p.run s).1 (p.run s).2

namespace Traces

variable {p : Prog η ε σ α} {k : α → Prog η ε σ β} {s : σ}
  {P Q : List ε → Except η α → σ → Prop} {R : List ε → Except η β → σ → Prop}

lemma ret {a : α} (hQ : Q [] (.ok a) s) : Traces (Prog.ret a : Prog η ε σ α) s Q := hQ

lemma raise {e : η} (hQ : Q [] (.error e) s) : Traces (Prog.raise e : Prog η ε σ α) s Q := hQ

lemma mono (hp : Traces p s P) (hPQ : ∀ l r t, P l r t → Q l r t) : Traces p s Q := hPQ _ _ _ hp

/-- What is shown in sequence is shown one after the other, up to the first exception. -/
lemma bind (hp : Traces p s P)
    (hok : ∀ l a t, P l (.ok a) t → Traces (k a) t fun l' r u => R (l ++ l') r u)
    (herr : ∀ l e t, P l (.error e) t → R l (.error e) t) : Traces (p >>= k) s R := by
  unfold Traces at hp ⊢
  rw [Prog.run_bind, Prog.trace_bind]
  cases hrun : p.run s with
  | mk r t =>
    rw [hrun] at hp
    cases r with
    | ok a => exact hok _ a t hp
    | error e =>
      rw [List.append_nil]
      exact herr _ e t hp

lemma ofExcept {x : Except η α} (hok : ∀ a, x = .ok a → Q [] (.ok a) s)
    (herr : ∀ e, x = .error e → Q [] (.error e) s) :
    Traces (Prog.ofExcept x : Prog η ε σ α) s Q := by
  cases x with
  | ok a => exact ret (hok a rfl)
  | error e => exact raise (herr e rfl)

/-- What can raise without acting shows nothing. -/
lemma ofExcept_bind {x : Except η α} (hok : ∀ a, x = .ok a → Traces (k a) s R)
    (herr : ∀ e, x = .error e → R [] (.error e) s) :
    Traces ((Prog.ofExcept x : Prog η ε σ α) >>= k) s R := by
  cases x with
  | ok a => exact hok a rfl
  | error e => exact raise (herr e rfl)

lemma atomic {ev : Except η α → ε} {f : σ → Except η (α × σ)}
    (hok : ∀ a t, f s = .ok (a, t) → Q [ev (.ok a)] (.ok a) t)
    (herr : ∀ e, f s = .error e → Q [ev (.error e)] (.error e) s) :
    Traces (Prog.atomic ev f) s Q := by
  unfold Traces
  rw [Prog.run_atomic, Prog.trace_atomic]
  cases hf : f s with
  | ok r =>
    obtain ⟨a, t⟩ := r
    exact hok a t hf
  | error e => exact herr e hf

end Traces

attribute [irreducible] Safe Every Yields

end Concurrent
