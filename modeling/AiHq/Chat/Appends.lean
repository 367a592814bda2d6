import AiHq.Chat.Service
import AiHq.Library.Pool

/-!
# Concurrent appends to a conversation

A message is appended at the position after the largest one that was read before. The positions
stay without gaps in all runs, but an append fails if another one has come to its commit since its
read; what has been done for the message before then is not undone.
-/

namespace AiHq

open Concurrent Pool Relational ChatService

namespace Appends

/-! ### Runs -/

/-- An append to a conversation by its owner. -/
structure Append where
  role : String
  content : String
  missionId : Option String
  valid : role ∈ roles

/-- Every identifier that is going to be drawn is new. -/
def Fresh (w : ChatWorld) : Prop :=
  Function.Injective w.uuids ∧
    ∀ message ∈ w.db.messages.rows, ∀ n, w.drawn ≤ n → message.id ≠ w.uuids n

/-- A conversation of the owner whose messages stand without gaps. -/
structure Ready (conversationId ownerSessionId : String) (w : ChatWorld) : Prop where
  owned : ∃ conversation, ownedConversation conversationId ownerSessionId w.db = .ok conversation
  positions : ((messagesOf conversationId w.db).map ChatMessage.position).Perm
    (List.range' 1 (messagesOf conversationId w.db).length)
  fresh : Fresh w

/-- What else happens to the tables leaves the conversation and its messages alone. -/
def Elsewhere (conversationId ownerSessionId : String) (w w' : ChatWorld) : Prop :=
  ownedConversation conversationId ownerSessionId w'.db =
      ownedConversation conversationId ownerSessionId w.db ∧
    messagesOf conversationId w'.db = messagesOf conversationId w.db ∧ (Fresh w → Fresh w')

/-- Appends to one conversation. -/
def appending (conversationId ownerSessionId : String) :
    System Append PyError ChatEvent ChatWorld ChatMessage where
  code call := addMessage conversationId ownerSessionId call.role call.content call.missionId
  env := Elsewhere conversationId ownerSessionId

/-- An append comes to its commit. -/
def isInsert : Label Append ChatEvent → Bool
  | .act _ _ .insert => true
  | _ => false

/-- No append comes to its commit between the read and the commit of another one. -/
def Undisturbed (ls : List (Label Append ChatEvent)) : Prop :=
  ∀ before t call after, ls = before ++ .act t call .insert :: after →
    ∀ l ∈ since t before, isInsert l = false

/-- The calls that have ended. -/
def ended (p : Pool Append PyError ChatEvent ChatWorld ChatMessage) : ℕ :=
  p.threads.countP fun th => th.prog.outcome.isSome

/-- Every append that has ended has succeeded, with its message stored, and the positions are
without gaps. -/
structure Appended (conversationId : String) (w : ChatWorld)
    (p : Pool Append PyError ChatEvent ChatWorld ChatMessage) : Prop where
  stored : ∀ th ∈ p.threads, ∀ outcome, th.prog.outcome = some outcome →
    ∃ message ∈ messagesOf conversationId p.state.db, outcome = .ok message ∧
      message.role = th.call.role ∧ message.content = th.call.content ∧
      message.missionId = th.call.missionId
  positions : ((messagesOf conversationId p.state.db).map ChatMessage.position).Perm
    (List.range' 1 ((messagesOf conversationId w.db).length + ended p))

variable {conversationId ownerSessionId : String} {w : ChatWorld}
  {ls : List (Label Append ChatEvent)}
  {p q : Pool Append PyError ChatEvent ChatWorld ChatMessage}

/-! ### What is kept -/

/-- How far a call has come, where `n` is the largest position and `failed` says that some call has
failed. -/
inductive Stage (conversationId ownerSessionId : String) (db : ChatDatabase) (n : ℕ)
    (failed : Prop) (others : List (Label Append ChatEvent)) (call : Append) :
    Prog PyError ChatEvent ChatWorld ChatMessage → Prop where
  | begun : Stage conversationId ownerSessionId db n failed others call
      (addMessage conversationId ownerSessionId call.role call.content call.missionId)
  /-- as long as no other call has come to its commit, what has been read is the largest -/
  | positioned {current : Option ℕ} (hle : current.getD 0 ≤ n)
      (hquiet : (∀ l ∈ others, isInsert l = false) → current.getD 0 = n)
      (hlargest : current.getD 0 = n → (∀ l ∈ others, isInsert l = false) ∨ failed) :
      Stage conversationId ownerSessionId db n failed others call
        (addAfter current conversationId call.role call.content call.missionId)
  | succeeded {message : ChatMessage} (hmem : message ∈ messagesOf conversationId db)
      (hrole : message.role = call.role) (hcontent : message.content = call.content)
      (hmission : message.missionId = call.missionId) :
      Stage conversationId ownerSessionId db n failed others call (.ret message)
  | failed {error : PyError} : Stage conversationId ownerSessionId db n failed others call
      (.raise error)

/-- The calls that have succeeded. -/
def succeeded (p : Pool Append PyError ChatEvent ChatWorld ChatMessage) : ℕ :=
  p.threads.countP fun th => th.prog.outcome.any fun outcome => outcome.toOption.isSome

/-- A call has failed. -/
def Failed (p : Pool Append PyError ChatEvent ChatWorld ChatMessage) : Prop :=
  ∃ th ∈ p.threads, ∃ error, th.prog = .raise error

/-- What holds of a run from `w`. -/
structure Kept (conversationId ownerSessionId : String) (w : ChatWorld)
    (ls : List (Label Append ChatEvent))
    (p : Pool Append PyError ChatEvent ChatWorld ChatMessage) : Prop where
  owned : ∃ conversation,
    ownedConversation conversationId ownerSessionId p.state.db = .ok conversation
  fresh : Fresh p.state
  positions : ((messagesOf conversationId p.state.db).map ChatMessage.position).Perm
    (List.range' 1 ((messagesOf conversationId w.db).length + succeeded p))
  stages : ∀ t th, p.threads[t]? = some th → Stage conversationId ownerSessionId p.state.db
    ((messagesOf conversationId w.db).length + succeeded p) (Failed p) (since t ls) th.call th.prog
  failed_iff : Failed p ↔ ¬Undisturbed ls

/-! ### Labels -/

lemma undisturbed_concat {l : Label Append ChatEvent} : Undisturbed (ls ++ [l]) ↔
    Undisturbed ls ∧ ∀ t call, l = .act t call .insert → ∀ l' ∈ since t ls, isInsert l' = false := by
  constructor
  · intro h
    refine ⟨fun before t call after hls => ?_, fun t call hl => ?_⟩
    · exact h before t call (after ++ [l]) (by rw [hls]; simp)
    · exact h ls t call [] (by rw [hl])
  · rintro ⟨hls, hlast⟩ before t call after heq
    obtain rfl | ⟨after, l', rfl⟩ := List.eq_nil_or_concat after
    · obtain ⟨rfl, hl⟩ := List.append_inj' heq rfl
      exact hlast t call (List.singleton_inj.mp hl)
    · have heq' : ls ++ [l] = (before ++ .act t call .insert :: after) ++ [l'] := by
        rw [heq]
        simp
      exact hls before t call after (List.append_inj' heq' rfl).1

/-- Whether the step at an index is no disturbed commit. -/
def isUndisturbedAt (ls : List (Label Append ChatEvent)) (i : ℕ) : Bool :=
  match ls[i]? with
  | some (.act t _ .insert) => (since t (ls.take i)).all fun l => !isInsert l
  | _ => true

lemma undisturbed_iff_all :
    Undisturbed ls ↔ (List.range ls.length).all (isUndisturbedAt ls) = true := by
  rw [List.all_eq_true]
  constructor
  · intro h i hi
    unfold isUndisturbedAt
    split
    · rename_i t call hget
      obtain ⟨hlt, hl⟩ := List.getElem?_eq_some_iff.mp hget
      have hls : ls = ls.take i ++ .act t call .insert :: ls.drop (i + 1) := by
        rw [← hl, List.getElem_cons_drop, List.take_append_drop]
      rw [List.all_eq_true]
      intro l hmem
      rw [h _ t call _ hls l hmem]
      rfl
    · rfl
  · rintro h before t call after rfl l hl
    have hi := h before.length (List.mem_range.mpr (by simp))
    unfold isUndisturbedAt at hi
    rw [List.getElem?_append_right le_rfl, Nat.sub_self, List.getElem?_cons_zero,
      List.take_left' rfl] at hi
    simpa using List.all_eq_true.mp hi l hl

instance : Decidable (Undisturbed ls) := decidable_of_iff' _ undisturbed_iff_all

lemma quiet_concat {others : List (Label Append ChatEvent)} {l : Label Append ChatEvent} :
    (∀ l' ∈ others ++ [l], isInsert l' = false) ↔
      (∀ l' ∈ others, isInsert l' = false) ∧ isInsert l = false := by
  rw [List.forall_mem_append, List.forall_mem_singleton]

/-! ### The two actions -/

/-- The largest of the positions without gaps is how many there are. -/
lemma currentPosition_eq {db : ChatDatabase} {n : ℕ}
    (h : ((messagesOf conversationId db).map ChatMessage.position).Perm (List.range' 1 n)) :
    (currentPosition conversationId db).getD 0 = n := by
  unfold currentPosition
  cases hmax : ((messagesOf conversationId db).map ChatMessage.position).max? with
  | none =>
    rw [List.max?_eq_none_iff.mp hmax] at h
    have hlength := h.length_eq
    rw [List.length_range'] at hlength
    exact hlength
  | some k =>
    obtain ⟨hk, hle⟩ := List.max?_eq_some_iff.mp hmax
    have hmem := h.mem_iff.mp hk
    rw [List.mem_range'_1] at hmem
    have hn := hle n (h.mem_iff.mpr (List.mem_range'_1.mpr (by omega)))
    rw [Option.getD_some]
    omega

lemma addMessage_act (conversationId ownerSessionId : String) (call : Append) :
    ∃ upd next,
      addMessage conversationId ownerSessionId call.role call.content call.missionId =
        .act (fun _ => .read) upd next ∧
      ∀ w conversation,
        ownedConversation conversationId ownerSessionId w.db = .ok conversation → upd w = w ∧
          next w = addAfter (currentPosition conversationId w.db) conversationId call.role
            call.content call.missionId := by
  have hraise : raiseIf (call.role ∉ roles) (.valueError "Invalid chat role") = .ok () :=
    raiseIf_eq_ok.mpr (not_not.mpr call.valid)
  unfold addMessage
  rw [hraise]
  refine ⟨_, _, rfl, fun w conversation howned => ?_⟩
  simp only [howned]
  exact ⟨rfl, rfl⟩

lemma insertMessage_of_mem {message : ChatMessage} {db : ChatDatabase}
    (h : message.position ∈ (messagesOf message.conversationId db).map ChatMessage.position) :
    insertMessage message db = .error .integrityError := by
  rw [insertMessage, raiseIf, if_pos h]
  rfl

lemma insertMessage_of_new {message : ChatMessage} {db : ChatDatabase}
    (h : message.position ∉ (messagesOf message.conversationId db).map ChatMessage.position)
    (hid : ∀ message' ∈ db.messages.rows, message'.id ≠ message.id) :
    ∃ messages : Table ChatMessage, messages.rows = db.messages.rows ++ [message] ∧
      insertMessage message db = .ok (message, { db with messages }) := by
  have hnone : db.messages.get? (key message) = none := by
    rw [Table.get?, List.find?_eq_none]
    intro message' hmem
    simp only [decide_eq_true_eq]
    exact hid message' hmem
  obtain ⟨messages, hinsert⟩ := Table.exists_insert? hnone
  refine ⟨messages, (Table.insert?_eq_some hinsert).2, ?_⟩
  rw [insertMessage, raiseIf, if_neg h]
  simp only [hinsert]
  rfl

/-- The message that is inserted after a read. -/
def appended (current : Option ℕ) (conversationId : String) (call : Append) (w : ChatWorld) :
    ChatMessage where
  id := w.uuids w.drawn
  conversationId := conversationId
  position := current.getD 0 + 1
  role := call.role
  content := call.content
  missionId := call.missionId
  createdAt := w.now

lemma addAfter_act (current : Option ℕ) (conversationId : String) (call : Append) :
    ∃ upd next, addAfter current conversationId call.role call.content call.missionId =
        .act (fun _ => .insert) upd next ∧
      ∀ w, Fresh w →
        (current.getD 0 + 1 ∈ (messagesOf conversationId w.db).map ChatMessage.position →
          upd w = w ∧ next w = .raise .integrityError) ∧
        (current.getD 0 + 1 ∉ (messagesOf conversationId w.db).map ChatMessage.position →
          ∃ messages : Table ChatMessage,
            messages.rows = w.db.messages.rows ++ [appended current conversationId call w] ∧
            upd w = { w with db := { w.db with messages }, drawn := w.drawn + 1 } ∧
            next w = .ret (appended current conversationId call w)) := by
  refine ⟨_, _, rfl, fun w hw => ⟨fun hmem => ?_, fun hnew => ?_⟩⟩
  · have hinsert : insertMessage (appended current conversationId call w) w.db =
        .error .integrityError := insertMessage_of_mem hmem
    unfold appended at hinsert
    simp only [hinsert]
    exact ⟨rfl, rfl⟩
  · obtain ⟨messages, hrows, hinsert⟩ : ∃ messages : Table ChatMessage,
        messages.rows = w.db.messages.rows ++ [appended current conversationId call w] ∧
        insertMessage (appended current conversationId call w) w.db =
          .ok (appended current conversationId call w, { w.db with messages }) :=
      insertMessage_of_new hnew fun message hmem => hw.2 message hmem _ le_rfl
    refine ⟨messages, hrows, ?_⟩
    unfold appended at hinsert
    simp only [hinsert]
    exact ⟨rfl, rfl⟩

/-! ### Steps -/

/-- Another call, while the largest position goes from `n` to `n'` with a commit, or stays. -/
lemma Stage.other {db db' : ChatDatabase} {n n' : ℕ} {failed failed' : Prop}
    {others : List (Label Append ChatEvent)} {l : Label Append ChatEvent} {call : Append}
    {prog : Prog PyError ChatEvent ChatWorld ChatMessage}
    (h : Stage conversationId ownerSessionId db n failed others call prog)
    (hrows : ∀ message ∈ messagesOf conversationId db, message ∈ messagesOf conversationId db')
    (hn : n ≤ n') (hfailed : failed → failed') (hquiet : isInsert l = false → n' = n)
    (hinsert : isInsert l = true → n' = n → failed') :
    Stage conversationId ownerSessionId db' n' failed' (others ++ [l]) call prog := by
  cases h with
  | begun => exact .begun
  | positioned hle hlast hlargest =>
    refine .positioned (hle.trans hn) ?_ fun heq => ?_
    · rw [quiet_concat]
      rintro ⟨hothers, hl⟩
      rw [hlast hothers, hquiet hl]
    · have hn' : n' = n := le_antisymm (heq ▸ hle) hn
      rw [quiet_concat]
      cases hl : isInsert l with
      | true => exact .inr (hinsert hl hn')
      | false => exact (hlargest (heq.trans hn')).imp (fun hothers => ⟨hothers, rfl⟩) hfailed
  | succeeded hmem hrole hcontent hmission =>
    exact .succeeded (hrows _ hmem) hrole hcontent hmission
  | failed => exact .failed

lemma undisturbed_quiet {l : Label Append ChatEvent} (hl : isInsert l = false) :
    Undisturbed (ls ++ [l]) ↔ Undisturbed ls := by
  rw [undisturbed_concat, and_iff_left]
  rintro t call rfl
  cases hl

lemma Kept.spawn (h : Kept conversationId ownerSessionId w ls p) (call : Append) :
    Kept conversationId ownerSessionId w (ls ++ [.spawn call]) ⟨p.state, p.threads ++
      [⟨call, [], (appending conversationId ownerSessionId).code call⟩]⟩ := by
  obtain ⟨howned, hfresh, hpositions, hstages, hfailed⟩ := h
  obtain ⟨upd, next, hprog, -⟩ := addMessage_act conversationId ownerSessionId call
  have hcode : (appending conversationId ownerSessionId).code call =
      .act (fun _ => .read) upd next := hprog
  have hcount : succeeded ⟨p.state, p.threads ++
      [⟨call, [], (appending conversationId ownerSessionId).code call⟩]⟩ = succeeded p := by
    simp [succeeded, hcode, Prog.outcome]
  have hfails : Failed ⟨p.state, p.threads ++
      [⟨call, [], (appending conversationId ownerSessionId).code call⟩]⟩ ↔ Failed p := by
    simp [Failed, hcode]
  refine ⟨howned, hfresh, by rwa [hcount], fun t th ht => ?_, ?_⟩
  · rw [hcount, since_concat rfl]
    rw [List.getElem?_append] at ht
    split at ht
    · exact (hstages t th ht).other (fun _ hmem => hmem) le_rfl hfails.mpr (fun _ => rfl) nofun
    · obtain ⟨-, rfl⟩ : t - p.threads.length = 0 ∧
          ⟨call, [], (appending conversationId ownerSessionId).code call⟩ = th := by
        simpa [List.getElem?_singleton] using ht
      exact .begun
  · rw [hfails, hfailed, undisturbed_quiet rfl]

lemma Kept.env {w' : ChatWorld} (h : Kept conversationId ownerSessionId w ls p)
    (henv : Elsewhere conversationId ownerSessionId p.state w') :
    Kept conversationId ownerSessionId w (ls ++ [.env]) ⟨w', p.threads⟩ := by
  obtain ⟨howned, hfresh, hpositions, hstages, hfailed⟩ := h
  obtain ⟨howned', hmessages, hfresh'⟩ := henv
  refine ⟨howned'.symm ▸ howned, hfresh' hfresh, hmessages.symm ▸ hpositions, fun t th ht => ?_, ?_⟩
  · rw [since_concat rfl]
    exact (hstages t th ht).other (fun _ hmem => hmessages.symm ▸ hmem) le_rfl id (fun _ => rfl)
      nofun
  · rw [undisturbed_quiet rfl]
    exact hfailed

lemma failed_set {state : ChatWorld} {t : ℕ}
    {th th' : Thread Append PyError ChatEvent ChatWorld ChatMessage}
    (ht : p.threads[t]? = some th) (hth : th.prog.outcome = none) :
    Failed ⟨state, p.threads.set t th'⟩ ↔ Failed p ∨ ∃ error, th'.prog = .raise error := by
  obtain ⟨hlt, hget⟩ := List.getElem?_eq_some_iff.mp ht
  constructor
  · rintro ⟨th'', hmem, hraise⟩
    obtain hmem | rfl := List.mem_or_eq_of_mem_set hmem
    · exact .inl ⟨th'', hmem, hraise⟩
    · exact .inr hraise
  · rintro (⟨th'', hmem, error, hraise⟩ | hraise)
    · obtain ⟨u, hu⟩ := List.mem_iff_getElem?.mp hmem
      have hne : t ≠ u := by
        rintro rfl
        rw [hu] at ht
        obtain rfl := Option.some.inj ht
        rw [hraise] at hth
        cases hth
      exact ⟨th'', List.mem_iff_getElem?.mpr ⟨u, (List.getElem?_set_ne hne).trans hu⟩, error, hraise⟩
    · exact ⟨th', List.mem_set hlt _, hraise⟩

/-- The stages after an action of one call. -/
lemma Kept.stages_set {state : ChatWorld} {t : ℕ} {call : Append} {event : ChatEvent} {n' : ℕ}
    {history history' : List ChatEvent} {prog prog' : Prog PyError ChatEvent ChatWorld ChatMessage}
    {failed : Prop} (h : Kept conversationId ownerSessionId w ls p)
    (ht : p.threads[t]? = some ⟨call, history, prog⟩)
    (hrows : ∀ message ∈ messagesOf conversationId p.state.db,
      message ∈ messagesOf conversationId state.db)
    (hn : (messagesOf conversationId w.db).length + succeeded p ≤ n') (hfailed : Failed p → failed)
    (hread : event = .read → n' = (messagesOf conversationId w.db).length + succeeded p)
    (hinsert : event = .insert → n' = (messagesOf conversationId w.db).length + succeeded p →
      failed)
    (hstage : Stage conversationId ownerSessionId state.db n' failed [] call prog') :
    ∀ u th, (p.threads.set t ⟨call, history', prog'⟩)[u]? = some th →
      Stage conversationId ownerSessionId state.db n' failed
        (since u (ls ++ [.act t call event])) th.call th.prog := by
  intro u th hu
  by_cases htu : t = u
  · subst htu
    obtain ⟨hlt, -⟩ := List.getElem?_eq_some_iff.mp ht
    rw [List.getElem?_set_self hlt] at hu
    obtain rfl := Option.some.inj hu
    rw [since_concat_of_isBy (by simp [Label.isBy])]
    exact hstage
  · rw [List.getElem?_set_ne htu] at hu
    rw [since_concat (by simp [Label.isBy, htu])]
    refine (h.stages u th hu).other hrows hn hfailed (fun hl => ?_) fun hl => ?_
    · cases event with
      | read => exact hread rfl
      | insert => cases hl
    · cases event with
      | read => cases hl
      | insert => exact hinsert rfl

/-- A call reads the largest position. -/
lemma Kept.read {t : ℕ} {call : Append} {history history' : List ChatEvent}
    {prog : Prog PyError ChatEvent ChatWorld ChatMessage}
    (h : Kept conversationId ownerSessionId w ls p) (hprog : prog.outcome = none)
    (ht : p.threads[t]? = some ⟨call, history, prog⟩) :
    Kept conversationId ownerSessionId w (ls ++ [.act t call .read]) ⟨p.state, p.threads.set t
      ⟨call, history', addAfter (currentPosition conversationId p.state.db) conversationId
        call.role call.content call.missionId⟩⟩ := by
  have hcount : succeeded ⟨p.state, p.threads.set t ⟨call, history', addAfter
      (currentPosition conversationId p.state.db) conversationId call.role call.content
        call.missionId⟩⟩ = succeeded p :=
    countP_set_same ht (by rw [hprog]; rfl)
  have hfails : Failed ⟨p.state, p.threads.set t ⟨call, history', addAfter
      (currentPosition conversationId p.state.db) conversationId call.role call.content
        call.missionId⟩⟩ ↔ Failed p :=
    (failed_set ht hprog).trans (or_iff_left nofun)
  have hlargest := currentPosition_eq h.positions
  refine ⟨h.owned, h.fresh, by rw [hcount]; exact h.positions, ?_, ?_⟩
  · rw [hcount]
    exact h.stages_set ht (fun _ hmem => hmem) le_rfl hfails.mpr (fun _ => rfl) nofun
      (.positioned hlargest.le (fun _ => hlargest) fun _ => .inl (List.forall_mem_nil _))
  · rw [hfails, undisturbed_quiet rfl]
    exact h.failed_iff

/-- A call commits its message. -/
lemma Kept.commit {t : ℕ} {call : Append} {history history' : List ChatEvent}
    {current : Option ℕ} {messages : Table ChatMessage}
    (h : Kept conversationId ownerSessionId w ls p)
    (ht : p.threads[t]? = some ⟨call, history,
      addAfter current conversationId call.role call.content call.missionId⟩)
    (hlargest : current.getD 0 = (messagesOf conversationId w.db).length + succeeded p)
    (hquiet : (∀ l ∈ since t ls, isInsert l = false) ∨ Failed p)
    (hrows : messages.rows = p.state.db.messages.rows ++
      [appended current conversationId call p.state]) :
    Kept conversationId ownerSessionId w (ls ++ [.act t call .insert])
      ⟨{ p.state with db := { p.state.db with messages }, drawn := p.state.drawn + 1 },
        p.threads.set t ⟨call, history', .ret (appended current conversationId call p.state)⟩⟩ := by
  set state : ChatWorld :=
    { p.state with db := { p.state.db with messages }, drawn := p.state.drawn + 1 }
  have hcount : succeeded ⟨state, p.threads.set t
      ⟨call, history', .ret (appended current conversationId call p.state)⟩⟩ = succeeded p + 1 :=
    countP_set_new ht rfl rfl
  have hfails : Failed ⟨state, p.threads.set t
      ⟨call, history', .ret (appended current conversationId call p.state)⟩⟩ ↔ Failed p :=
    (failed_set ht rfl).trans (or_iff_left nofun)
  have hmessages : messagesOf conversationId state.db = messagesOf conversationId p.state.db ++
      [appended current conversationId call p.state] := by
    show messages.rows.filter _ = _
    rw [hrows, List.filter_append]
    simp [messagesOf, appended]
  refine ⟨h.owned, ⟨h.fresh.1, fun message hmem n hn => ?_⟩, ?_, ?_, ?_⟩
  · replace hmem : message ∈ messages.rows := hmem
    rw [hrows] at hmem
    obtain hmem | hmem := List.mem_append.mp hmem
    · exact h.fresh.2 message hmem n ((Nat.le_succ _).trans hn)
    · obtain rfl := List.mem_singleton.mp hmem
      exact h.fresh.1.ne (Nat.ne_of_lt hn)
  · rw [hmessages, hcount, List.map_append, List.map_singleton, ← Nat.add_assoc, List.range'_concat]
    have hposition : (appended current conversationId call p.state).position =
        1 + 1 * ((messagesOf conversationId w.db).length + succeeded p) := by
      rw [← hlargest, Nat.one_mul, Nat.add_comm]
      rfl
    rw [hposition]
    exact h.positions.append_right _
  · rw [hcount, ← Nat.add_assoc]
    refine h.stages_set ht (fun message hmem => ?_) (Nat.le_succ _) hfails.mpr nofun
      (fun _ heq => absurd heq (Nat.succ_ne_self _)) (.succeeded ?_ rfl rfl rfl)
    · rw [hmessages]
      exact List.mem_append_left _ hmem
    · rw [hmessages]
      exact List.mem_append_right _ (List.mem_singleton_self _)
  · rw [hfails, undisturbed_concat, h.failed_iff]
    obtain hquiet | hfailed := hquiet
    · rw [and_iff_left]
      rintro _ _ ⟨⟩
      exact hquiet
    · have hdisturbed := h.failed_iff.mp hfailed
      exact iff_of_true hdisturbed fun hboth => hdisturbed hboth.1

/-- The position of a call has been taken. -/
lemma Kept.refused {t : ℕ} {call : Append} {history history' : List ChatEvent}
    {current : Option ℕ} {error : PyError} (h : Kept conversationId ownerSessionId w ls p)
    (ht : p.threads[t]? = some ⟨call, history,
      addAfter current conversationId call.role call.content call.missionId⟩)
    (hquiet : ¬∀ l ∈ since t ls, isInsert l = false) :
    Kept conversationId ownerSessionId w (ls ++ [.act t call .insert])
      ⟨p.state, p.threads.set t ⟨call, history', .raise error⟩⟩ := by
  have hcount : succeeded ⟨p.state, p.threads.set t ⟨call, history', .raise error⟩⟩ =
      succeeded p := countP_set_same ht rfl
  have hfails : Failed ⟨p.state, p.threads.set t ⟨call, history', .raise error⟩⟩ :=
    (failed_set ht rfl).mpr (.inr ⟨error, rfl⟩)
  refine ⟨h.owned, h.fresh, by rw [hcount]; exact h.positions, ?_, ?_⟩
  · rw [hcount]
    exact h.stages_set ht (fun _ hmem => hmem) le_rfl (fun _ => hfails) nofun
      (fun _ _ => hfails) .failed
  · refine iff_of_true hfails fun hundisturbed => ?_
    exact hquiet ((undisturbed_concat.mp hundisturbed).2 t call rfl)

/-- One step. -/
lemma Kept.step {l : Label Append ChatEvent} (h : Kept conversationId ownerSessionId w ls p)
    (hs : Step (appending conversationId ownerSessionId) p l q) :
    Kept conversationId ownerSessionId w (ls ++ [l]) q := by
  cases hs with
  | spawn call => exact h.spawn call
  | env henv => exact h.env henv
  | @act t call history ev upd next ht =>
    have hstage := h.stages t _ ht
    dsimp only at hstage
    generalize hprog : Prog.act ev upd next = prog at hstage
    cases hstage with
    | begun =>
      obtain ⟨upd', next', hact, hread⟩ := addMessage_act conversationId ownerSessionId call
      rw [hact] at hprog
      obtain ⟨rfl, rfl, rfl⟩ := Prog.act.inj hprog
      obtain ⟨conversation, howned⟩ := h.owned
      obtain ⟨hupd, hnext⟩ := hread p.state conversation howned
      rw [hupd, hnext]
      exact h.read rfl ht
    | @positioned current hle hquiet hlargest =>
      obtain ⟨upd', next', hact, hinsert⟩ := addAfter_act current conversationId call
      rw [hact] at hprog
      obtain ⟨rfl, rfl, rfl⟩ := Prog.act.inj hprog
      rw [← hact] at ht
      obtain ⟨hrefused, hcommit⟩ := hinsert p.state h.fresh
      by_cases hmem : current.getD 0 + 1 ∈
          (messagesOf conversationId p.state.db).map ChatMessage.position
      · obtain ⟨hupd, hnext⟩ := hrefused hmem
        rw [hupd, hnext]
        refine h.refused ht fun hothers => ?_
        have hrange := List.mem_range'_1.mp (h.positions.mem_iff.mp hmem)
        have hlast := hquiet hothers
        omega
      · obtain ⟨messages, hrows, hupd, hnext⟩ := hcommit hmem
        rw [hupd, hnext]
        have hlast : current.getD 0 = (messagesOf conversationId w.db).length + succeeded p := by
          by_contra hne
          refine hmem (h.positions.mem_iff.mpr (List.mem_range'_1.mpr ?_))
          omega
        exact h.commit ht hlast (hlargest hlast) hrows
    | succeeded => cases hprog
    | failed => cases hprog

lemma kept_of_traced (hw : Ready conversationId ownerSessionId w)
    (h : Traced (appending conversationId ownerSessionId) (Pool.init w) ls p) :
    Kept conversationId ownerSessionId w ls p := by
  induction h with
  | nil =>
    refine ⟨hw.owned, hw.fresh, ?_, by simp [Pool.init], ?_⟩
    · simpa [Pool.init, succeeded] using hw.positions
    · simp [Failed, Pool.init, Undisturbed]
  | snoc _ hs ih => exact ih.step hs

/-- Of a run in which no call has failed. -/
lemma Kept.appended (h : Kept conversationId ownerSessionId w ls p) (hfailed : ¬Failed p) :
    Appended conversationId w p := by
  have hstored : ∀ th ∈ p.threads, ∀ outcome, th.prog.outcome = some outcome →
      ∃ message ∈ messagesOf conversationId p.state.db, outcome = .ok message ∧
        message.role = th.call.role ∧ message.content = th.call.content ∧
        message.missionId = th.call.missionId := by
    intro th hth outcome houtcome
    obtain ⟨t, ht⟩ := List.mem_iff_getElem?.mp hth
    have hstage := h.stages t th ht
    generalize hprog : th.prog = prog at hstage houtcome
    cases hstage with
    | begun =>
      obtain ⟨upd, next, hact, -⟩ := addMessage_act conversationId ownerSessionId th.call
      rw [hact] at houtcome
      cases houtcome
    | positioned => cases houtcome
    | succeeded hmem hrole hcontent hmission =>
      obtain rfl := Option.some.inj houtcome
      exact ⟨_, hmem, rfl, hrole, hcontent, hmission⟩
    | failed => exact absurd ⟨th, hth, _, hprog⟩ hfailed
  have hended : ended p = succeeded p := by
    refine List.countP_congr fun th hth => ?_
    cases houtcome : th.prog.outcome with
    | none => rfl
    | some outcome =>
      obtain ⟨message, -, rfl, -⟩ := hstored th hth outcome houtcome
      exact iff_of_true rfl rfl
  exact ⟨hstored, hended ▸ h.positions⟩

/-- All appends succeed, with their messages at positions without gaps, exactly if no append comes
to its commit between the read and the commit of another one. -/
theorem appended_iff (hw : Ready conversationId ownerSessionId w)
    (h : Traced (appending conversationId ownerSessionId) (Pool.init w) ls p) :
    Appended conversationId w p ↔ Undisturbed ls := by
  have hkept := kept_of_traced hw h
  rw [← not_iff_not, ← hkept.failed_iff]
  constructor
  · intro happended
    by_contra hfailed
    exact happended (hkept.appended hfailed)
  · rintro ⟨th, hth, error, hprog⟩ happended
    obtain ⟨message, -, heq, -⟩ :=
      happended.stored th hth (.error error) (by rw [hprog]; rfl)
    cases heq

/-! ### Two appends at once -/

/-- A conversation without messages. -/
def newConversation : ChatWorld where
  db := { conversations := ⟨[⟨"c-1", "session-1", "sysadmin"⟩], List.nodup_singleton _⟩ }
  uuids n := String.ofList (List.replicate n 'a')

lemma ready_newConversation : Ready "c-1" "session-1" newConversation where
  owned := ⟨⟨"c-1", "session-1", "sysadmin"⟩, rfl⟩
  positions := .refl _
  fresh := ⟨fun m n h => by simpa [newConversation] using congrArg String.length h, nofun⟩

def question : Append := ⟨"user", "Is the queue empty?", none, by decide⟩

def answer : Append := ⟨"assistant", "It is.", none, by decide⟩

/-- One after the other, two appends succeed. -/
theorem appended_inTurn : Appended "c-1" newConversation
    (play (appending "c-1" "session-1") (Pool.init newConversation)
      [.spawn question, .act 0, .act 0, .spawn answer, .act 1, .act 1]) := by
  refine (appended_iff ready_newConversation (traced_play (by simp))).mpr ?_
  decide

/-- If both read before either commits, one of them fails. -/
theorem not_appended_atOnce : ¬∀ ls p,
    Traced (appending "c-1" "session-1") (Pool.init newConversation) ls p →
      Appended "c-1" newConversation p := by
  intro h
  have happended := h _ (play (appending "c-1" "session-1") (Pool.init newConversation)
    [.spawn question, .spawn answer, .act 0, .act 1, .act 0, .act 1]) (traced_play (by simp))
  obtain ⟨message, -, heq, -⟩ := happended.stored
    ⟨answer, [.read, .insert], .raise .integrityError⟩ (.tail _ (.head _)) _ rfl
  cases heq

end Appends
end AiHq
