import AiHq.Notifications.Service

/-!
# Grouping of notifications

An open notification counts the alerts of its group since a notification of the group was closed,
in the runs in which no alert overlooks the open notification of its own group.
-/

namespace AiHq

open Relational NotificationService

namespace Grouping

/-! ### Runs -/

/-- The calls that change notifications. -/
inductive Call where
  | notify (severity title message groupKey : String) (sourceType sourceId : Option String)
  | markRead (notificationId : String)
  | markAllRead
  | dismiss (notificationId : String)

/-- The table that a call leaves, unless it raises. -/
def Call.perform : Call → Moment → Table Notification → Except PyError (Table Notification)
  | .notify severity title message groupKey sourceType sourceId, m, t =>
    (NotificationService.notify severity title message groupKey sourceType sourceId m t).map
      Prod.snd
  | .markRead notificationId, m, t =>
    (NotificationService.markRead notificationId m t).map Prod.snd
  | .markAllRead, m, t => .ok (NotificationService.markAllRead m t).2
  | .dismiss notificationId, m, t => (NotificationService.dismiss notificationId m t).map Prod.snd

/-- A call that is made at a time, on a table. -/
structure Step where
  before : Table Notification
  moment : Moment
  call : Call

namespace Step

def result (s : Step) : Except PyError (Table Notification) := s.call.perform s.moment s.before

def after (s : Step) : Table Notification := s.result.toOption.getD s.before

/-- The group key that is given with an accepted alert. -/
def accepted (s : Step) : Option String :=
  match s.call, s.result with
  | .notify _ _ _ groupKey _ _, .ok _ => some groupKey
  | _, _ => none

/-- The step ends that a notification of the group is open. -/
def Closes (s : Step) (key : String) : Prop :=
  ∃ n ∈ s.before.rows, n.isOpen = true ∧ n.groupKey = key ∧
    ∀ n' ∈ s.after.rows, n'.id = n.id → n'.isOpen = false

instance (s : Step) (key : String) : Decidable (s.Closes key) := by
  unfold Closes
  infer_instance

/-- An alert is accepted whose group key has spaces around it, so that the open notification of
its group is not found. -/
def Overlooks (s : Step) : Prop :=
  ∃ groupKey ∈ s.accepted, strip groupKey ≠ groupKey ∧
    ∃ n ∈ s.before.rows, n.isOpen = true ∧ n.groupKey = strip groupKey

end Step

/-- The steps of a run of calls. -/
def history (t : Table Notification) : List (Moment × Call) → List Step
  | [] => []
  | (m, call) :: calls => ⟨t, m, call⟩ :: history (Step.after ⟨t, m, call⟩) calls

/-- The table after a history. -/
def tableAfter (t : Table Notification) (past : List Step) : Table Notification :=
  (past.getLast?.map Step.after).getD t

/-- The accepted alerts for the group since the last call that closed a notification of it. -/
def occurrences (key : String) (past : List Step) : ℕ :=
  (past.rtakeWhile fun s => !decide (s.Closes key)).countP fun s =>
    s.accepted.map strip = some key

/-- What is open has a group of its own and counts the alerts of the group. -/
structure Grouped (past : List Step) : Prop where
  single : ∀ n ∈ (tableAfter .empty past).rows, ∀ n' ∈ (tableAfter .empty past).rows,
    n.isOpen = true → n'.isOpen = true → n.groupKey = n'.groupKey → n = n'
  count : ∀ n ∈ (tableAfter .empty past).rows, n.isOpen = true →
    n.occurrenceCount = occurrences n.groupKey past

/-! ### What a call does -/

/-- What a step does to the open notifications. -/
inductive Effect (s : Step) : Prop
  /-- no alert: what is open has been open before -/
  | closed (haccepted : s.accepted = none)
      (hopen : ∀ n ∈ s.after.rows, n.isOpen = true → n ∈ s.before.rows)
      (hkeys : ∀ n ∈ s.after.rows, ∃ n' ∈ s.before.rows, n'.groupKey = n.groupKey)
  /-- an alert for the group of an open notification -/
  | folded {n n' : Notification} (haccepted : s.accepted = some n.groupKey)
      (hn : n ∈ s.before.rows) (hopen : n.isOpen = true) (hopen' : n'.isOpen = true)
      (hid : n'.id = n.id) (hkey : n'.groupKey = n.groupKey)
      (hcount : n'.occurrenceCount = n.occurrenceCount + 1) (hafter : s.after = s.before.set n')
  /-- an alert for which no open notification is found -/
  | opened {groupKey : String} {n : Notification} (haccepted : s.accepted = some groupKey)
      (hnone : ∀ n ∈ s.before.rows, n.isOpen = true → n.groupKey ≠ groupKey)
      (hopen : n.isOpen = true) (hkey : n.groupKey = strip groupKey)
      (hcount : n.occurrenceCount = 1) (hid : ∀ n' ∈ s.before.rows, n'.id ≠ n.id)
      (hafter : s.after.rows = s.before.rows ++ [n])

lemma isOpen_iff {n : Notification} : n.isOpen = true ↔ n.readAt = none ∧ n.dismissedAt = none := by
  simp [Notification.isOpen]

lemma existing_eq_some {m : Moment} {t : Table Notification} {groupKey : String}
    {n : Notification} (h : existing m t groupKey = some n) :
    n ∈ t.rows ∧ n.groupKey = groupKey ∧ n.isOpen = true := by
  have hmem := mem_of_firstBy h
  rw [List.mem_filter, decide_eq_true_eq] at hmem
  exact ⟨hmem.1, hmem.2.1, isOpen_iff.mpr hmem.2.2⟩

lemma existing_eq_none {m : Moment} {t : Table Notification} {groupKey : String}
    (h : existing m t groupKey = none) :
    ∀ n ∈ t.rows, n.isOpen = true → n.groupKey ≠ groupKey := by
  intro n hn hopen hkey
  have hnil := List.filter_eq_nil_iff.mp (firstBy_eq_none.mp h) n hn
  rw [decide_eq_true_eq] at hnil
  exact hnil ⟨hkey, isOpen_iff.mp hopen⟩

/-- A step that raises changes nothing. -/
lemma effect_of_error {s : Step} {error : PyError} (h : s.result = .error error) : Effect s := by
  have hafter : s.after = s.before := by rw [Step.after, h]; rfl
  refine .closed ?_ ?_ ?_
  · unfold Step.accepted
    rw [h]
    split <;> simp_all
  · intro n hn _
    rwa [hafter] at hn
  · intro n hn
    rw [hafter] at hn
    exact ⟨n, hn, rfl⟩

/-- A notification is replaced by one that is not open. -/
lemma effect_of_set {s : Step} {n n' : Notification} (haccepted : s.accepted = none)
    (hafter : s.after = s.before.set n') (hn : n ∈ s.before.rows) (hkey : n'.groupKey = n.groupKey)
    (hopen : n'.isOpen = false) : Effect s := by
  refine .closed haccepted ?_ ?_
  · intro x hx hxopen
    rw [hafter, Table.mem_set] at hx
    obtain ⟨rfl, -⟩ | ⟨hx, -⟩ := hx
    · rw [hopen] at hxopen
      cases hxopen
    · exact hx
  · intro x hx
    rw [hafter, Table.mem_set] at hx
    obtain ⟨rfl, -⟩ | ⟨hx, -⟩ := hx
    · exact ⟨n, hn, hkey.symm⟩
    · exact ⟨x, hx, rfl⟩

lemma getNotification_eq_ok {id : String} {t : Table Notification} {n : Notification}
    (h : getNotification id t = .ok n) : n ∈ t.rows := by
  unfold getNotification at h
  cases hget : t.get? id with
  | none => rw [hget] at h; cases h
  | some n' =>
    rw [hget] at h
    obtain rfl := Except.ok.inj h
    exact Table.mem_of_get? hget

lemma effect_markRead {s : Step} {id : String} {n : Notification} {t : Table Notification}
    (hcall : s.call = .markRead id) (hafter : s.after = t)
    (h : NotificationService.markRead id s.moment s.before = .ok (n, t)) : Effect s := by
  have haccepted : s.accepted = none := by rw [Step.accepted, hcall]
  obtain ⟨n₀, hn₀, h⟩ := bind_eq_ok.mp h
  have hmem := getNotification_eq_ok hn₀
  split_ifs at h with hread
  · obtain ⟨rfl, rfl⟩ := Prod.mk.inj (Except.ok.inj h)
    exact effect_of_set haccepted hafter hmem rfl rfl
  · obtain ⟨rfl, rfl⟩ := Prod.mk.inj (Except.ok.inj h)
    refine .closed haccepted ?_ ?_
    · intro x hx _
      rwa [hafter] at hx
    · intro x hx
      rw [hafter] at hx
      exact ⟨x, hx, rfl⟩

lemma effect_dismiss {s : Step} {id : String} {n : Notification} {t : Table Notification}
    (hcall : s.call = .dismiss id) (hafter : s.after = t)
    (h : NotificationService.dismiss id s.moment s.before = .ok (n, t)) : Effect s := by
  have haccepted : s.accepted = none := by rw [Step.accepted, hcall]
  obtain ⟨n₀, hn₀, h⟩ := bind_eq_ok.mp h
  obtain ⟨rfl, rfl⟩ := Prod.mk.inj (Except.ok.inj h)
  exact effect_of_set haccepted hafter (getNotification_eq_ok hn₀) rfl rfl

lemma effect_markAllRead {s : Step} (hcall : s.call = .markAllRead)
    (hafter : s.after = (NotificationService.markAllRead s.moment s.before).2) : Effect s := by
  have haccepted : s.accepted = none := by rw [Step.accepted, hcall]
  have hrows : ∀ n ∈ s.after.rows, ∃ n' ∈ s.before.rows, read s.moment.now n' = n := by
    intro n hn
    rw [hafter] at hn
    exact List.mem_map.mp hn
  refine .closed haccepted ?_ ?_
  · intro n hn hopen
    obtain ⟨n', hn', rfl⟩ := hrows n hn
    unfold NotificationService.read at hopen ⊢
    split_ifs with h
    · rw [if_pos h] at hopen
      cases hopen
    · exact hn'
  · intro n hn
    obtain ⟨n', hn', rfl⟩ := hrows n hn
    refine ⟨n', hn', ?_⟩
    unfold NotificationService.read
    split_ifs <;> rfl

lemma effect_notify {s : Step} {severity title message groupKey : String}
    {sourceType sourceId : Option String} {n : Notification} {t : Table Notification}
    (haccepted : s.accepted = some groupKey) (hafter : s.after = t)
    (h : NotificationService.notify severity title message groupKey sourceType sourceId s.moment
      s.before = .ok (n, t)) : Effect s := by
  obtain ⟨_, -, h⟩ := bind_eq_ok.mp h
  obtain ⟨severity, -, h⟩ := bind_eq_ok.mp h
  cases hexisting : existing s.moment s.before groupKey with
  | some n₀ =>
    rw [hexisting] at h
    obtain ⟨hmem, rfl, hopen⟩ := existing_eq_some hexisting
    obtain ⟨rfl, rfl⟩ := Prod.mk.inj (Except.ok.inj h)
    refine .folded haccepted hmem hopen ?_ ?_ ?_ ?_ hafter
    · exact hopen
    all_goals rfl
  | none =>
    rw [hexisting] at h
    dsimp only at h
    split at h
    next t' hinsert =>
      obtain ⟨rfl, rfl⟩ := Prod.mk.inj (Except.ok.inj h)
      obtain ⟨hnew, hrows⟩ := Table.insert?_eq_some hinsert
      refine .opened haccepted (existing_eq_none hexisting) ?_ ?_ ?_ ?_ (hafter ▸ hrows)
      any_goals rfl
      intro n' hn' hid
      have hget := Table.get?_of_mem hn'
      rw [show key n' = s.moment.ids 0 from hid] at hget
      exact absurd (hget.symm.trans hnew) (Option.some_ne_none _)
    next => cases h

lemma effect (s : Step) : Effect s := by
  cases hresult : s.result with
  | error error => exact effect_of_error hresult
  | ok t =>
    have hafter : s.after = t := by rw [Step.after, hresult]; rfl
    have hperform : s.call.perform s.moment s.before = .ok t := hresult
    cases hcall : s.call with
    | notify severity title message groupKey sourceType sourceId =>
      rw [hcall] at hperform
      obtain ⟨⟨n, t'⟩, h, rfl⟩ := Py.map_eq_ok.mp hperform
      exact effect_notify (by rw [Step.accepted, hcall, hresult]) hafter h
    | markRead id =>
      rw [hcall] at hperform
      obtain ⟨⟨n, t'⟩, h, rfl⟩ := Py.map_eq_ok.mp hperform
      exact effect_markRead hcall hafter h
    | markAllRead =>
      rw [hcall] at hperform
      exact effect_markAllRead hcall (hafter.trans (Except.ok.inj hperform).symm)
    | dismiss id =>
      rw [hcall] at hperform
      obtain ⟨⟨n, t'⟩, h, rfl⟩ := Py.map_eq_ok.mp hperform
      exact effect_dismiss hcall hafter h

/-! ### Counters -/

/-- The table has one open notification for each group that has been alerted since it was closed,
and none for the others. -/
structure Tallies (t : Table Notification) (tally : String → ℕ) : Prop where
  single : ∀ n ∈ t.rows, ∀ n' ∈ t.rows, n.isOpen = true → n'.isOpen = true →
    n.groupKey = n'.groupKey → n = n'
  count : ∀ n ∈ t.rows, n.isOpen = true → n.occurrenceCount = tally n.groupKey
  idle : ∀ key, (∀ n ∈ t.rows, n.isOpen = true → n.groupKey ≠ key) → tally key = 0

/-- The counters after a step. -/
def Step.tallied (s : Step) (tally : String → ℕ) (key : String) : ℕ :=
  if s.Closes key then 0
  else tally key + if s.accepted.map strip = some key then 1 else 0

lemma occurrences_append (past : List Step) (s : Step) (key : String) :
    occurrences key (past ++ [s]) = s.tallied (occurrences · past) key := by
  unfold occurrences Step.tallied
  rw [List.rtakeWhile_concat]
  by_cases hcloses : s.Closes key
  · simp [hcloses]
  · simp [hcloses, List.countP_append, List.countP_singleton]

variable {s : Step} {tally : String → ℕ}

/-- A group whose open notification is still open has not been closed. -/
lemma not_closes_of_single (h : Tallies s.before tally) {n n' : Notification}
    (hn : n ∈ s.before.rows) (hopen : n.isOpen = true) (hn' : n' ∈ s.after.rows)
    (hid : n'.id = n.id) (hopen' : n'.isOpen = true) : ¬s.Closes n.groupKey := by
  rintro ⟨x, hx, hxopen, hxkey, hclosed⟩
  obtain rfl := h.single x hx n hn hxopen hopen hxkey
  rw [hclosed n' hn' hid] at hopen'
  cases hopen'

lemma Tallies.closed (h : Tallies s.before tally) (haccepted : s.accepted = none)
    (hopen : ∀ n ∈ s.after.rows, n.isOpen = true → n ∈ s.before.rows) :
    Tallies s.after (s.tallied tally) where
  single n hn n' hn' hno hno' hkey :=
    h.single n (hopen n hn hno) n' (hopen n' hn' hno') hno hno' hkey
  count n hn hno := by
    have hmem := hopen n hn hno
    rw [Step.tallied, if_neg (not_closes_of_single h hmem hno hn rfl hno), haccepted,
      h.count n hmem hno]
    rfl
  idle key hkey := by
    rw [Step.tallied, haccepted]
    split_ifs with hcloses hsome
    · rfl
    · cases hsome
    · refine h.idle key fun n hn hno hnkey => hcloses ⟨n, hn, hno, hnkey, fun n' hn' hid => ?_⟩
      -- the row with its id is no longer the open one
      by_contra hno'
      rw [Bool.not_eq_false] at hno'
      have heq : n' = n := Table.eq_of_key_eq (hopen n' hn' hno') hn hid
      exact hkey n' hn' hno' (heq ▸ hnkey)

lemma Tallies.folded (h : Tallies s.before tally) {n n' : Notification}
    (haccepted : s.accepted = some n.groupKey) (hstrip : strip n.groupKey = n.groupKey)
    (hn : n ∈ s.before.rows) (hopen : n.isOpen = true) (hopen' : n'.isOpen = true)
    (hid : n'.id = n.id) (hkey : n'.groupKey = n.groupKey)
    (hcount : n'.occurrenceCount = n.occurrenceCount + 1) (hafter : s.after = s.before.set n') :
    Tallies s.after (s.tallied tally) := by
  have hn' : n' ∈ s.after.rows := by
    rw [hafter, Table.mem_set]
    exact .inl ⟨rfl, n, hn, hid.symm⟩
  have hcases : ∀ x ∈ s.after.rows, x = n' ∨ x ∈ s.before.rows ∧ x ≠ n := by
    intro x hx
    rw [hafter, Table.mem_set] at hx
    obtain ⟨rfl, -⟩ | ⟨hx, hne⟩ := hx
    · exact .inl rfl
    · refine .inr ⟨hx, ?_⟩
      rintro rfl
      exact hne hid.symm
  have hother : ∀ x ∈ s.before.rows, x ≠ n → x.isOpen = true → x.groupKey ≠ n.groupKey :=
    fun x hx hne hxo hxkey => hne (h.single x hx n hn hxo hopen hxkey)
  refine ⟨?_, ?_, ?_⟩
  · intro x hx y hy hxo hyo hxy
    obtain rfl | ⟨hx, hxn⟩ := hcases x hx <;> obtain rfl | ⟨hy, hyn⟩ := hcases y hy
    · rfl
    · exact absurd (hxy.symm.trans hkey) (hother y hy hyn hyo)
    · exact absurd (hxy.trans hkey) (hother x hx hxn hxo)
    · exact h.single x hx y hy hxo hyo hxy
  · intro x hx hxo
    rw [Step.tallied, haccepted, Option.map_some, hstrip]
    obtain rfl | ⟨hx', hxn⟩ := hcases x hx
    · rw [hkey, if_neg (not_closes_of_single h hn hopen hn' hid hopen'), if_pos rfl, hcount,
        h.count n hn hopen]
    · have hgroup : some n.groupKey ≠ some x.groupKey :=
        fun heq => hother x hx' hxn hxo (Option.some.inj heq).symm
      rw [if_neg (not_closes_of_single h hx' hxo hx rfl hxo), h.count x hx' hxo, if_neg hgroup,
        Nat.add_zero]
  · intro key hkeys
    have hne : n.groupKey ≠ key := fun heq => hkeys n' hn' hopen' (hkey.trans heq)
    rw [Step.tallied, haccepted, Option.map_some, hstrip, if_neg fun heq => hne (Option.some.inj heq)]
    split_ifs with hcloses
    · rfl
    · refine h.idle key fun x hx hxo hxkey => ?_
      have hxn : x ≠ n := by
        rintro rfl
        exact hne hxkey
      refine hkeys x ?_ hxo hxkey
      rw [hafter, Table.mem_set]
      refine .inr ⟨hx, fun heq => hxn ?_⟩
      exact Table.eq_of_key_eq hx hn (Eq.trans heq hid)

lemma Tallies.opened (h : Tallies s.before tally) {groupKey : String} {n : Notification}
    (haccepted : s.accepted = some groupKey)
    (hnone : ∀ x ∈ s.before.rows, x.isOpen = true → x.groupKey ≠ strip groupKey)
    (hopen : n.isOpen = true) (hkey : n.groupKey = strip groupKey) (hcount : n.occurrenceCount = 1)
    (hafter : s.after.rows = s.before.rows ++ [n]) : Tallies s.after (s.tallied tally) := by
  have hmem : ∀ x ∈ s.after.rows, x ∈ s.before.rows ∨ x = n := by
    intro x hx
    rwa [hafter, List.mem_append, List.mem_singleton] at hx
  have hkept : ∀ x ∈ s.before.rows, x ∈ s.after.rows := by
    intro x hx
    rw [hafter]
    exact List.mem_append_left _ hx
  have hn : n ∈ s.after.rows := by simp [hafter]
  have hcloses : ∀ key, ¬s.Closes key := by
    rintro key ⟨x, hx, hxo, -, hclosed⟩
    rw [hclosed x (hkept x hx) rfl] at hxo
    cases hxo
  refine ⟨?_, ?_, ?_⟩
  · intro x hx y hy hxo hyo hxy
    obtain hx | rfl := hmem x hx <;> obtain hy | rfl := hmem y hy
    · exact h.single x hx y hy hxo hyo hxy
    · exact absurd (hxy.trans hkey) (hnone x hx hxo)
    · exact absurd (hxy.symm.trans hkey) (hnone y hy hyo)
    · rfl
  · intro x hx hxo
    rw [Step.tallied, if_neg (hcloses _), haccepted, Option.map_some]
    obtain hx | rfl := hmem x hx
    · have hgroup : some (strip groupKey) ≠ some x.groupKey :=
        fun heq => hnone x hx hxo (Option.some.inj heq).symm
      rw [h.count x hx hxo, if_neg hgroup, Nat.add_zero]
    · rw [hkey, if_pos rfl, hcount, h.idle _ hnone]
  · intro key hkeys
    rw [Step.tallied, if_neg (hcloses _), haccepted, Option.map_some, if_neg,
      h.idle key fun x hx => hkeys x (hkept x hx)]
    intro heq
    exact hkeys n hn hopen (hkey.trans (Option.some.inj heq))

/-! ### Runs -/

/-- Group keys are stored without the spaces around them. -/
def Stripped (t : Table Notification) : Prop := ∀ n ∈ t.rows, strip n.groupKey = n.groupKey

lemma Stripped.step (h : Stripped s.before) : Stripped s.after := by
  intro x hx
  cases effect s with
  | closed _ _ hkeys =>
    obtain ⟨x', hx', hkey⟩ := hkeys x hx
    rw [← hkey, h x' hx']
  | folded _ hn _ _ _ hkey _ hafter =>
    rw [hafter, Table.mem_set] at hx
    obtain ⟨rfl, -⟩ | ⟨hx, -⟩ := hx
    · rw [hkey, h _ hn]
    · exact h x hx
  | opened _ _ _ hkey _ _ hafter =>
    rw [hafter, List.mem_append, List.mem_singleton] at hx
    obtain hx | rfl := hx
    · exact h x hx
    · rw [hkey, strip_strip]

lemma Tallies.step (h : Tallies s.before tally) (hstripped : Stripped s.before)
    (hs : ¬s.Overlooks) : Tallies s.after (s.tallied tally) := by
  cases effect s with
  | closed haccepted hopen _ => exact h.closed haccepted hopen
  | folded haccepted hn hopen hopen' hid hkey hcount hafter =>
    exact h.folded haccepted (hstripped _ hn) hn hopen hopen' hid hkey hcount hafter
  | @opened groupKey n haccepted hnone hopen hkey hcount _ hafter =>
    refine h.opened haccepted (fun x hx hxo hxkey => ?_) hopen hkey hcount hafter
    by_cases hstrip : strip groupKey = groupKey
    · exact hnone x hx hxo (hxkey.trans hstrip)
    · exact hs ⟨groupKey, haccepted, hstrip, x, hx, hxo, hxkey⟩

/-- An alert that overlooks the open notification of its group opens a second one. -/
lemma exists_twice (hstripped : Stripped s.before) (hs : s.Overlooks) :
    ∃ n ∈ s.after.rows, ∃ n' ∈ s.after.rows, n.isOpen = true ∧ n'.isOpen = true ∧
      n.groupKey = n'.groupKey ∧ n ≠ n' := by
  obtain ⟨groupKey, haccepted, hstrip, x, hx, hxo, hxkey⟩ := hs
  cases effect s with
  | closed hnone => exact absurd (hnone.symm.trans haccepted) (Option.some_ne_none _).symm
  | folded hfolded hn =>
    obtain rfl := Option.some.inj (hfolded.symm.trans haccepted)
    exact absurd (hstripped _ hn) hstrip
  | @opened _ n hopened _ hopen hkey _ hid hafter =>
    obtain rfl := Option.some.inj (hopened.symm.trans haccepted)
    refine ⟨x, ?_, n, ?_, hxo, hopen, hxkey.trans hkey.symm, ?_⟩
    · rw [hafter]
      exact List.mem_append_left _ hx
    · simp [hafter]
    · rintro rfl
      exact hid x hx rfl

lemma tableAfter_append (t : Table Notification) (past : List Step) (s : Step) :
    tableAfter t (past ++ [s]) = s.after := by
  simp [tableAfter]

lemma tableAfter_cons (t : Table Notification) (s : Step) (past : List Step) :
    tableAfter t (s :: past) = tableAfter s.after past := by
  cases past with
  | nil => rfl
  | cons s' past => simp [tableAfter, List.getLast?_cons]

lemma history_append (t : Table Notification) (calls : List (Moment × Call)) (m : Moment)
    (call : Call) : history t (calls ++ [(m, call)]) =
      history t calls ++ [⟨tableAfter t (history t calls), m, call⟩] := by
  induction calls generalizing t with
  | nil => rfl
  | cons c calls ih =>
    obtain ⟨m', call'⟩ := c
    rw [List.cons_append, history, history, ih, tableAfter_cons, List.cons_append]

lemma stripped_before {t : Table Notification} (ht : Stripped t)
    {calls : List (Moment × Call)} (hs : s ∈ history t calls) : Stripped s.before := by
  induction calls generalizing t with
  | nil => cases hs
  | cons c calls ih =>
    obtain rfl | hs := List.mem_cons.mp hs
    · exact ht
    · exact ih (Stripped.step (s := ⟨t, c.1, c.2⟩) ht) hs

lemma stripped_empty : Stripped .empty := fun _ hn => absurd hn List.not_mem_nil

lemma tallies_history {calls : List (Moment × Call)}
    (h : ∀ s ∈ history .empty calls, ¬s.Overlooks) :
    Tallies (tableAfter .empty (history .empty calls))
      (occurrences · (history .empty calls)) := by
  induction calls using List.reverseRecOn with
  | nil =>
    have hempty : ∀ n, n ∉ (Table.empty : Table Notification).rows := fun _ => List.not_mem_nil
    exact ⟨fun n hn => absurd hn (hempty n), fun n hn => absurd hn (hempty n), fun _ _ => rfl⟩
  | append_singleton calls c ih =>
    obtain ⟨m, call⟩ := c
    have hlast : ⟨tableAfter .empty (history .empty calls), m, call⟩ ∈
        history .empty (calls ++ [(m, call)]) := by simp [history_append]
    have hstripped := stripped_before stripped_empty hlast
    have hlast' := h _ hlast
    rw [history_append, List.forall_mem_append] at h
    have hcount := funext fun key => occurrences_append (history .empty calls)
      ⟨tableAfter .empty (history .empty calls), m, call⟩ key
    rw [history_append, tableAfter_append, hcount]
    exact Tallies.step (ih h.1) hstripped hlast'

/-- What happened up to some point of a run is a run. -/
lemma exists_calls {t : Table Notification} {calls : List (Moment × Call)} {past : List Step}
    (h : past <+: history t calls) : ∃ calls', calls' <+: calls ∧ past = history t calls' := by
  induction calls generalizing t past with
  | nil =>
    obtain rfl := List.prefix_nil.mp h
    exact ⟨[], List.nil_prefix, rfl⟩
  | cons c calls ih =>
    obtain ⟨m, call⟩ := c
    obtain rfl | ⟨rest, rfl, hrest⟩ := List.prefix_cons_iff.mp h
    · exact ⟨[], List.nil_prefix, rfl⟩
    · obtain ⟨calls', hcalls', rfl⟩ := ih hrest
      exact ⟨(m, call) :: calls', List.cons_prefix_cons.mpr ⟨rfl, hcalls'⟩, rfl⟩

lemma mem_history_of_isPrefix {calls calls' : List (Moment × Call)} (h : calls' <+: calls)
    {t : Table Notification} (hs : s ∈ history t calls') : s ∈ history t calls := by
  induction calls generalizing t calls' with
  | nil =>
    obtain rfl := List.prefix_nil.mp h
    exact hs
  | cons c calls ih =>
    obtain rfl | ⟨rest, rfl, hrest⟩ := List.prefix_cons_iff.mp h
    · cases hs
    · obtain rfl | hs := List.mem_cons.mp hs
      · exact .head _
      · exact .tail _ (ih hrest hs)

/-- Notifications stay grouped in a run exactly when no alert of it overlooks the open
notification of its group. -/
theorem grouped_iff (calls : List (Moment × Call)) :
    (∀ past, past <+: history .empty calls → Grouped past) ↔
      ∀ s ∈ history .empty calls, ¬s.Overlooks := by
  constructor
  · intro h s hs hoverlooks
    obtain ⟨before, after, heq⟩ := List.append_of_mem hs
    have hpast : before ++ [s] <+: history .empty calls := ⟨after, by simp [heq]⟩
    obtain ⟨n, hn, n', hn', hopen, hopen', hkey, hne⟩ :=
      exists_twice (stripped_before stripped_empty hs) hoverlooks
    refine hne ((h _ hpast).single n ?_ n' ?_ hopen hopen' hkey) <;> rwa [tableAfter_append]
  · intro h past hpast
    obtain ⟨calls', hcalls', rfl⟩ := exists_calls hpast
    have htallies := tallies_history fun s hs => h s (mem_history_of_isPrefix hcalls' hs)
    exact ⟨htallies.single, htallies.count⟩

/-! ### An alert that is not folded -/

/-- A moment, told by the number of the call. -/
def momentAt (i : ℕ) : Moment := ⟨i, fun _ => toString i, fun _ => 0⟩

/-- Two alerts of one group, the second with a space before its key. -/
def twice : List (Moment × Call) :=
  ["worker", " worker"].zipIdx.map fun (groupKey, i) =>
    (momentAt i, .notify "attention" "Worker health degraded" "Worker health check failed."
      groupKey none none)

theorem not_grouped_twice : ¬Grouped (history .empty twice) := by
  intro h
  have htwo : ∃ n ∈ (tableAfter .empty (history .empty twice)).rows,
      ∃ n' ∈ (tableAfter .empty (history .empty twice)).rows,
        n.isOpen = true ∧ n'.isOpen = true ∧ n.groupKey = n'.groupKey ∧ n ≠ n' := by
    decide +kernel
  obtain ⟨n, hn, n', hn', hopen, hopen', hkey, hne⟩ := htwo
  exact hne (h.single n hn n' hn' hopen hopen' hkey)

end Grouping
end AiHq
