import AiHq.Knowledge.Service

/-!
# Integrity of the memories

What every stored memory satisfies, and which memories an operation may change.
-/

namespace AiHq

open Concurrent Relational

namespace KnowledgeService

/-- What holds of a memory between any two operations. -/
structure WellFormed (service : KnowledgeService) (memory : KnowledgeMemory) : Prop where
  inference : service.isInference memory.provenance = true → memory.verificationState ≠ .confirmed
  verified : memory.verificationState = .confirmed ↔ memory.verifiedAt ≠ none
  expiry : memory.temporary = true → memory.expiresAt ≠ none
  sensitivity : memory.sensitivity ≠ .secret
  confidence : memory.confidence.InUnit
  content : strip memory.content ≠ ""

variable {self : KnowledgeService} {m : Moment} {t : Table KnowledgeMemory}
  {memory : KnowledgeMemory}

/-! ### Checks -/

lemma validateValues_eq_ok {content : String} {provenance : Dict} {confidence : PyFloat}
    {verification : VerificationState} {sensitivity : MemorySensitivity} {temporary : Bool}
    {expiresAt : Option Datetime} {u : Unit} :
    self.validateValues content provenance confidence verification sensitivity temporary
        expiresAt = .ok u ↔
      strip content ≠ "" ∧ confidence.InUnit ∧ ¬(temporary = true ∧ expiresAt = none) ∧
        sensitivity ≠ .secret ∧
        ¬(self.isInference provenance = true ∧ verification = .confirmed) := by
  simp only [validateValues, bind_eq_ok, raiseIf_eq_ok, exists_const, not_not, ne_eq]

lemma verifiedAt_ne_none {state : VerificationState} :
    verifiedAt m state ≠ none ↔ state = .confirmed := by
  unfold verifiedAt
  split_ifs with h <;> simp [h]

/-- The values that are checked are those of the memory. -/
lemma wellFormed_of_validate {content : String} {u : Unit}
    (hvalidate : self.validateValues content memory.provenance memory.confidence
      memory.verificationState memory.sensitivity memory.temporary memory.expiresAt = .ok u)
    (hcontent : strip memory.content = strip content)
    (hverified : memory.verifiedAt = verifiedAt m memory.verificationState) :
    self.WellFormed memory := by
  obtain ⟨hstrip, hconfidence, htemporary, hsensitivity, hinference⟩ :=
    validateValues_eq_ok.mp hvalidate
  refine ⟨?_, ?_, ?_, hsensitivity, hconfidence, ?_⟩
  · exact fun h hconfirmed => hinference ⟨h, hconfirmed⟩
  · rw [hverified, verifiedAt_ne_none]
  · exact fun h hnone => htemporary ⟨h, hnone⟩
  · rwa [hcontent]

lemma wellFormed_newMemory {a : Creation} (h : self.newMemory a m = .ok memory) :
    self.WellFormed memory := by
  obtain ⟨category, -, h⟩ := bind_eq_ok.mp h
  obtain ⟨sensitivity, -, h⟩ := bind_eq_ok.mp h
  obtain ⟨visibility, -, h⟩ := bind_eq_ok.mp h
  obtain ⟨verification, -, h⟩ := bind_eq_ok.mp h
  obtain ⟨u, hvalidate, h⟩ := bind_eq_ok.mp h
  obtain rfl := Except.ok.inj h
  exact wellFormed_of_validate hvalidate (strip_strip _) rfl

lemma present_eq_ok {id : String} (h : present id t = .ok memory) :
    t.get? id = some memory ∧ memory.deletedAt = none := by
  unfold present at h
  cases hget : t.get? id with
  | none => rw [hget] at h; cases h
  | some found =>
    rw [hget] at h
    dsimp only at h
    split_ifs at h with hdeleted
    obtain rfl := Except.ok.inj h
    exact ⟨rfl, hdeleted⟩

/-! ### What an operation does -/

/-- A change of the table `t`. Only `set_lock` may change a memory that is locked. -/
inductive Effect (self : KnowledgeService) (setsLock : Prop) (t : Table KnowledgeMemory) :
    Table KnowledgeMemory → Prop
  | created {new : KnowledgeMemory} {t' : Table KnowledgeMemory}
      (hinsert : t.insert? new = some t') (hwf : self.WellFormed new) : Effect self setsLock t t'
  | changed {old new : KnowledgeMemory} (hget : t.get? new.id = some old)
      (hdeleted : old.deletedAt = none) (hlocked : old.locked = true → setsLock)
      (hwf : self.WellFormed old → self.WellFormed new) : Effect self setsLock t (t.set new)

/-- An operation leaves the table as it is, or it succeeds and changes it. -/
def Outcome (self : KnowledgeService) (setsLock : Prop) (t : Table KnowledgeMemory) {α : Type}
    (r : Except PyError α × Table KnowledgeMemory) : Prop :=
  r.2 = t ∨ (∃ a, r.1 = .ok a) ∧ Effect self setsLock t r.2

section Outcome

variable {α β : Type} {setsLock : Prop} {k : α → Memories β}
  {f : Table KnowledgeMemory → Except PyError (α × Table KnowledgeMemory)}

lemma outcome_session (h : ∀ a t', f t = .ok (a, t') → Effect self setsLock t t') :
    Outcome self setsLock t ((session f).run t) := by
  rw [session, Prog.run_atomic]
  cases hf : f t with
  | error e => exact .inl rfl
  | ok r => exact .inr ⟨⟨r.1, rfl⟩, h r.1 r.2 hf⟩

lemma outcome_liftM_bind {x : Except PyError α}
    (h : ∀ a, x = .ok a → Outcome self setsLock t ((k a).run t)) :
    Outcome self setsLock t ((liftM x >>= k).run t) := by
  cases x with
  | error e => exact .inl rfl
  | ok a => exact h a rfl

/-- A memory that is not deleted is replaced. -/
lemma effect_set {memoryId : String} {old : KnowledgeMemory}
    (hpresent : present memoryId t = .ok old) (hid : memory.id = old.id)
    (hlocked : old.locked = true → setsLock)
    (hwf : self.WellFormed old → self.WellFormed memory) :
    Effect self setsLock t (t.set memory) := by
  obtain ⟨hget, hdeleted⟩ := present_eq_ok hpresent
  have hkey : old.id = memoryId := Table.key_of_get? hget
  exact .changed (by rwa [hid, hkey]) hdeleted hlocked hwf

/-- Reading changes nothing. -/
lemma run_session_of_read (h : ∀ a t', f t = .ok (a, t') → t' = t) :
    ((session f).run t).2 = t := by
  rw [session, Prog.run_atomic]
  cases hf : f t with
  | error e => rfl
  | ok r => exact h r.1 r.2 hf

end Outcome

lemma run_getMemory (memoryId : String) (includeDeleted : Bool) :
    ((getMemory memoryId includeDeleted).run t).2 = t := by
  refine run_session_of_read fun a t' h => ?_
  split at h
  · split_ifs at h
    exact (Prod.mk.inj (Except.ok.inj h)).2.symm
  · cases h

variable {setsLock : Prop}

lemma outcome_createMemory (a : Creation) :
    Outcome self setsLock t ((self.createMemory a m).run t) := by
  refine outcome_liftM_bind fun memory hmemory => outcome_session fun result t' h => ?_
  obtain ⟨-, -, h⟩ := bind_eq_ok.mp h
  split at h
  next hinsert =>
    obtain ⟨rfl, rfl⟩ := Prod.mk.inj (Except.ok.inj h)
    exact .created hinsert (wellFormed_newMemory hmemory)
  next => cases h

lemma outcome_recordContradiction (memoryId content : String) (provenance : Dict)
    (confidence : PyFloat) : Outcome self setsLock t
      ((self.recordContradiction memoryId content provenance confidence m).run t) := by
  rw [recordContradiction, Prog.run_bind]
  have hsame := run_getMemory (t := t) memoryId false
  split
  next original t' hrun =>
    rw [hrun] at hsame
    obtain rfl : t' = t := hsame
    exact outcome_createMemory _
  next e t' hrun =>
    rw [hrun] at hsame
    obtain rfl : t' = t := hsame
    exact .inl rfl

lemma outcome_updateMemory (memoryId : String) (a : Update) :
    Outcome self setsLock t ((self.updateMemory memoryId a m).run t) := by
  refine outcome_session fun result t' h => ?_
  obtain ⟨old, hpresent, h⟩ := bind_eq_ok.mp h
  obtain ⟨_, hlocked, h⟩ := bind_eq_ok.mp h
  obtain ⟨sensitivity, -, h⟩ := bind_eq_ok.mp h
  obtain ⟨verification, -, h⟩ := bind_eq_ok.mp h
  obtain ⟨u, hvalidate, h⟩ := bind_eq_ok.mp h
  obtain ⟨visibility, -, h⟩ := bind_eq_ok.mp h
  obtain ⟨rfl, rfl⟩ := Prod.mk.inj (Except.ok.inj h)
  refine effect_set hpresent rfl (fun h => absurd h (raiseIf_eq_ok.mp hlocked)) fun _ => ?_
  exact wellFormed_of_validate hvalidate rfl rfl

lemma outcome_setLock (memoryId : String) (locked : Bool) :
    Outcome self True t ((setLock memoryId locked).run t) := by
  refine outcome_session fun result t' h => ?_
  obtain ⟨old, hpresent, h⟩ := bind_eq_ok.mp h
  obtain ⟨rfl, rfl⟩ := Prod.mk.inj (Except.ok.inj h)
  exact effect_set hpresent rfl (fun _ => trivial) fun hwf =>
    ⟨hwf.inference, hwf.verified, hwf.expiry, hwf.sensitivity, hwf.confidence, hwf.content⟩

lemma outcome_setVerification (memoryId state : String) :
    Outcome self setsLock t ((self.setVerification memoryId state m).run t) := by
  refine outcome_liftM_bind fun verification _ => outcome_session fun result t' h => ?_
  obtain ⟨old, hpresent, h⟩ := bind_eq_ok.mp h
  obtain ⟨_, hlocked, h⟩ := bind_eq_ok.mp h
  obtain ⟨_, hinference, h⟩ := bind_eq_ok.mp h
  obtain ⟨rfl, rfl⟩ := Prod.mk.inj (Except.ok.inj h)
  refine effect_set hpresent rfl (fun h => absurd h (raiseIf_eq_ok.mp hlocked)) fun hwf => ?_
  refine ⟨?_, verifiedAt_ne_none.symm, hwf.expiry, hwf.sensitivity, hwf.confidence, hwf.content⟩
  exact fun h hconfirmed => raiseIf_eq_ok.mp hinference ⟨h, hconfirmed⟩

lemma outcome_deleteMemory (memoryId : String) :
    Outcome self setsLock t ((deleteMemory memoryId m).run t) := by
  refine outcome_session fun result t' h => ?_
  obtain ⟨old, hpresent, h⟩ := bind_eq_ok.mp h
  obtain ⟨_, hlocked, h⟩ := bind_eq_ok.mp h
  obtain ⟨rfl, rfl⟩ := Prod.mk.inj (Except.ok.inj h)
  exact effect_set hpresent rfl (fun h => absurd h (raiseIf_eq_ok.mp hlocked)) fun hwf =>
    ⟨hwf.inference, hwf.verified, hwf.expiry, hwf.sensitivity, hwf.confidence, hwf.content⟩

/-! ### Runs -/

inductive Operation where
  | createMemory (a : Creation)
  | getMemory (memoryId : String) (includeDeleted : Bool)
  | search (query : String) (agentKey category : Option String)
  | listContradictions (memoryId : String)
  | updateMemory (memoryId : String) (a : Update)
  | setLock (memoryId : String) (locked : Bool)
  | setVerification (memoryId state : String)
  | deleteMemory (memoryId : String)
  | recordContradiction (memoryId content : String) (provenance : Dict) (confidence : PyFloat)

/-- The call of an operation at a moment: its exception, if it raises, and the memories after. -/
def Operation.perform (self : KnowledgeService) (m : Moment) (t : Table KnowledgeMemory) :
    Operation → Option PyError × Table KnowledgeMemory
  | createMemory a => raised ((self.createMemory a m).run t)
  | getMemory memoryId includeDeleted =>
    raised ((KnowledgeService.getMemory memoryId includeDeleted).run t)
  | search query agentKey category => raised ((self.search query agentKey category m).run t)
  | listContradictions memoryId => raised ((KnowledgeService.listContradictions memoryId).run t)
  | updateMemory memoryId a => raised ((self.updateMemory memoryId a m).run t)
  | setLock memoryId locked => raised ((KnowledgeService.setLock memoryId locked).run t)
  | setVerification memoryId state => raised ((self.setVerification memoryId state m).run t)
  | deleteMemory memoryId => raised ((KnowledgeService.deleteMemory memoryId m).run t)
  | recordContradiction memoryId content provenance confidence =>
    raised ((self.recordContradiction memoryId content provenance confidence m).run t)
where
  raised {α : Type} (r : Except PyError α × Table KnowledgeMemory) :
      Option PyError × Table KnowledgeMemory :=
    (match r.1 with | .ok _ => none | .error e => some e, r.2)

lemma outcome_raised {setsLock : Prop} {α : Type}
    {r : Except PyError α × Table KnowledgeMemory} (h : Outcome self setsLock t r) :
    (Operation.perform.raised r).2 = t ∨
      (Operation.perform.raised r).1 = none ∧
        Effect self setsLock t (Operation.perform.raised r).2 := by
  obtain h | ⟨⟨a, ha⟩, h⟩ := h
  · exact .inl h
  · refine .inr ⟨?_, h⟩
    rw [Operation.perform.raised, ha]

/-- An operation leaves the memories as they are, or it succeeds and changes them. -/
lemma outcome_perform (op : Operation) :
    (op.perform self m t).2 = t ∨ (op.perform self m t).1 = none ∧
      Effect self (∃ id locked, op = .setLock id locked) t (op.perform self m t).2 := by
  cases op with
  | createMemory a => exact outcome_raised (outcome_createMemory a)
  | getMemory memoryId includeDeleted => exact .inl (run_getMemory memoryId includeDeleted)
  | search query agentKey category =>
    refine .inl ?_
    change ((self.search query agentKey category m).run t).2 = t
    rw [search]
    cases (category.mapM MemoryCategory.parse : Except PyError _) <;> rfl
  | listContradictions memoryId =>
    refine .inl ?_
    change ((KnowledgeService.listContradictions memoryId).run t).2 = t
    have hget := run_getMemory (t := t) memoryId true
    rw [KnowledgeService.listContradictions, Prog.run_bind]
    split
    next _ t' hrun =>
      rw [hrun] at hget
      obtain rfl : t' = t := hget
      rfl
    next _ t' hrun =>
      rw [hrun] at hget
      exact hget
  | updateMemory memoryId a => exact outcome_raised (outcome_updateMemory memoryId a)
  | setLock memoryId locked =>
    have hlock : ∃ id b, Operation.setLock memoryId locked = .setLock id b := ⟨_, _, rfl⟩
    rw [eq_true hlock]
    exact outcome_raised (outcome_setLock memoryId locked)
  | setVerification memoryId state =>
    exact outcome_raised (outcome_setVerification memoryId state)
  | deleteMemory memoryId => exact outcome_raised (outcome_deleteMemory memoryId)
  | recordContradiction memoryId content provenance confidence =>
    exact outcome_raised (outcome_recordContradiction memoryId content provenance confidence)

section Effect

variable {setsLock : Prop} {t' : Table KnowledgeMemory}

lemma Effect.wellFormed (heffect : Effect self setsLock t t')
    (h : ∀ memory ∈ t.rows, self.WellFormed memory) :
    ∀ memory ∈ t'.rows, self.WellFormed memory := by
  intro memory hmemory
  cases heffect with
  | created hinsert hwf =>
    rw [(Table.insert?_eq_some hinsert).2, List.mem_append, List.mem_singleton] at hmemory
    obtain hmemory | rfl := hmemory
    · exact h memory hmemory
    · exact hwf
  | changed hget _ _ hwf =>
    rw [Table.mem_set] at hmemory
    obtain ⟨rfl, -⟩ | ⟨hmemory, -⟩ := hmemory
    · exact hwf (h _ (Table.mem_of_get? hget))
    · exact h memory hmemory

/-- A memory that is deleted, or locked while no lock is set, stays as it is. -/
lemma Effect.get? (heffect : Effect self setsLock t t') (hmemory : memory ∈ t.rows)
    (hfixed : memory.deletedAt ≠ none ∨ memory.locked = true ∧ ¬setsLock) :
    t'.get? memory.id = some memory := by
  have hget : t.get? memory.id = some memory := Table.get?_of_mem hmemory
  cases heffect with
  | created hinsert hwf => exact Table.get?_insert?_of_some hinsert hget
  | @changed old new hold hdeleted hlocked hwf =>
    have hne : memory.id ≠ new.id := by
      intro heq
      obtain rfl : old = memory := Option.some.inj (hold.symm.trans (heq ▸ hget))
      obtain h | ⟨h, hset⟩ := hfixed
      · exact h hdeleted
      · exact hset (hlocked h)
    exact (Table.get?_set_ne hne).trans hget

end Effect

/-- The memories after a run of operations. -/
def after (self : KnowledgeService) (ops : List (Moment × Operation)) : Table KnowledgeMemory :=
  ops.foldl (fun t step => (step.2.perform self step.1 t).2) .empty

lemma wellFormed_perform (op : Operation) (h : ∀ memory ∈ t.rows, self.WellFormed memory) :
    ∀ memory ∈ (op.perform self m t).2.rows, self.WellFormed memory := by
  have houtcome : (op.perform self m t).2 = t ∨ _ := outcome_perform op
  obtain heq | ⟨-, heffect⟩ := houtcome
  · rwa [heq]
  · exact heffect.wellFormed h

lemma after_append (ops : List (Moment × Operation)) (m : Moment) (op : Operation) :
    after self (ops ++ [(m, op)]) = (op.perform self m (after self ops)).2 :=
  List.foldl_concat _ _ _ _

lemma wellFormed_after (ops : List (Moment × Operation)) :
    ∀ memory ∈ (after self ops).rows, self.WellFormed memory := by
  induction ops using List.reverseRecOn with
  | nil =>
    intro memory hmemory
    exact absurd hmemory List.not_mem_nil
  | append_singleton ops step ih =>
    obtain ⟨m, op⟩ := step
    rw [after_append]
    exact wellFormed_perform op ih

lemma get?_perform (op : Operation) (hmemory : memory ∈ t.rows)
    (hfixed : memory.deletedAt ≠ none ∨
      memory.locked = true ∧ ¬∃ id locked, op = .setLock id locked) :
    (op.perform self m t).2.get? memory.id = some memory := by
  have houtcome : (op.perform self m t).2 = t ∨ _ := outcome_perform op
  obtain heq | ⟨-, heffect⟩ := houtcome
  · rw [heq]
    exact Table.get?_of_mem hmemory
  · exact heffect.get? hmemory hfixed

/-- Every stored memory is well formed. An operation other than `set_lock` leaves a locked memory
as it is, every operation leaves a deleted one as it is, and one that raises changes nothing. -/
theorem integrity (self : KnowledgeService) (ops : List (Moment × Operation)) :
    (∀ memory ∈ (after self ops).rows, self.WellFormed memory) ∧
      ∀ m (op : Operation),
        (∀ memory ∈ (after self ops).rows, memory.locked = true →
          (∀ id locked, op ≠ .setLock id locked) →
            (op.perform self m (after self ops)).2.get? memory.id = some memory) ∧
        (∀ memory ∈ (after self ops).rows, memory.deletedAt ≠ none →
          (op.perform self m (after self ops)).2.get? memory.id = some memory) ∧
        ((op.perform self m (after self ops)).1 ≠ none →
          (op.perform self m (after self ops)).2 = after self ops) := by
  refine ⟨wellFormed_after ops, fun m op => ⟨?_, ?_, ?_⟩⟩
  · intro memory hmemory hlocked hop
    refine get?_perform op hmemory (.inr ⟨hlocked, ?_⟩)
    rintro ⟨id, locked, rfl⟩
    exact hop id locked rfl
  · intro memory hmemory hdeleted
    exact get?_perform op hmemory (.inl hdeleted)
  · intro hraised
    have houtcome : (op.perform self m (after self ops)).2 = after self ops ∨ _ :=
      outcome_perform op
    obtain heq | ⟨hnone, -⟩ := houtcome
    · exact heq
    · exact absurd hnone hraised

end KnowledgeService
end AiHq
