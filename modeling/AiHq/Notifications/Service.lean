import AiHq.Python.Text
import AiHq.Session

/-!
# Notifications

A notification stays open until it is read or dismissed; an alert for the same group is folded into
the open notification instead of making another one.
-/

namespace AiHq

open Relational

inductive NotificationSeverity where
  | information | attention | approvalRequired | critical
  deriving DecidableEq, Repr

def NotificationSeverity.value : NotificationSeverity → String
  | .information => "information"
  | .attention => "attention"
  | .approvalRequired => "approval_required"
  | .critical => "critical"

def NotificationSeverity.parse : String → Except PyError NotificationSeverity :=
  parseMember "NotificationSeverity" value [information, attention, approvalRequired, critical]

structure Notification where
  id : String
  severity : NotificationSeverity
  title : String
  message : String
  sourceType : Option String
  sourceId : Option String
  groupKey : String
  occurrenceCount : ℕ
  firstOccurredAt : Datetime
  lastOccurredAt : Datetime
  readAt : Option Datetime
  dismissedAt : Option Datetime
  createdAt : Datetime
  deriving DecidableEq, Repr

instance : Keyed Notification String := ⟨Notification.id⟩

/-- Neither read nor dismissed. -/
def Notification.isOpen (n : Notification) : Bool := n.readAt = none && n.dismissedAt = none

namespace NotificationService

/-! ### Contents -/

/-- The words of `_SECRET_PATTERN`, in parts that a `_` or a `-` may stand between. -/
def secretWords : List (List String) :=
  [["password"], ["passwd"], ["api", "key"], ["access", "token"], ["refresh", "token"], ["token"],
    ["session", "secret"], ["client", "secret"], ["authorization"]]

/-- What is left of a text that begins with the parts. -/
def afterParts : List String → List Char → Option (List Char)
  | [], cs => some cs
  | part :: parts, cs =>
    if part.toList <+: cs.map foldCase then
      match parts, cs.drop part.length with
      | [], cs => some cs
      | parts, '_' :: cs | parts, '-' :: cs => afterParts parts cs
      | parts, cs => afterParts parts cs
    else none

/-- `_SECRET_PATTERN.search(value)` -/
def isSecretLike (value : String) : Bool :=
  value.toList.tails.any fun cs => secretWords.any fun parts =>
    match afterParts parts cs with
    | some rest =>
      match rest.dropWhile isSpace with
      | ':' :: _ | '=' :: _ => true
      | _ => false
    | none => false

/-- `_contains_secret_like_material` -/
def containsSecretLikeMaterial (values : List String) : Bool := values.any isSecretLike

def validateContent (title message groupKey : String) : Except PyError Unit := do
  raiseIf (strip title = "") (.valueError "notification title cannot be empty")
  raiseIf (strip message = "") (.valueError "notification message cannot be empty")
  raiseIf (strip groupKey = "") (.valueError "notification group key cannot be empty")
  raiseIf (containsSecretLikeMaterial [title, message])
    (.valueError "secret-like material cannot be stored in notifications")

/-! ### Operations -/

/-- The open notification of a group that occurred last. -/
def existing (m : Moment) (t : Table Notification) (groupKey : String) : Option Notification :=
  firstBy (fun n => toLex (-n.lastOccurredAt, m.scan n.id))
    (t.rows.filter fun n => n.groupKey = groupKey ∧ n.readAt = none ∧ n.dismissedAt = none)

def notify (severity title message groupKey : String) (sourceType sourceId : Option String)
    (m : Moment) (t : Table Notification) : Except PyError (Notification × Table Notification) := do
  validateContent title message groupKey
  let severity ← NotificationSeverity.parse severity
  match existing m t groupKey with
  | some n =>
    let n := { n with
      severity, title := strip title, message := strip message, sourceType, sourceId
      occurrenceCount := n.occurrenceCount + 1, lastOccurredAt := m.now }
    return (n, t.set n)
  | none =>
    let n : Notification :=
      { id := m.ids 0, severity, title := strip title, message := strip message, sourceType,
        sourceId, groupKey := strip groupKey, occurrenceCount := 1, firstOccurredAt := m.now,
        lastOccurredAt := m.now, readAt := none, dismissedAt := none, createdAt := m.now }
    match t.insert? n with
    | some t => return (n, t)
    | none => throw .integrityError

def getNotification (notificationId : String) (t : Table Notification) :
    Except PyError Notification :=
  (t.get? notificationId).elim
    (.error (.keyError ("notification not found: " ++ notificationId))) .ok

def listNotifications (includeDismissed unreadOnly : Bool) (severity : Option String) (m : Moment)
    (t : Table Notification) : Except PyError (List Notification) := do
  let severity ← severity.mapM NotificationSeverity.parse
  return orderBy (fun n => toLex (-n.lastOccurredAt, toLex (-n.createdAt, m.scan n.id)))
    (t.rows.filter fun n => (includeDismissed ∨ n.dismissedAt = none) ∧
      (unreadOnly = false ∨ n.readAt = none) ∧ ∀ s ∈ severity, n.severity = s)

def unreadCount (m : Moment) (t : Table Notification) : Except PyError ℕ := do
  return (← listNotifications false true none m t).length

def markRead (notificationId : String) (m : Moment) (t : Table Notification) :
    Except PyError (Notification × Table Notification) := do
  let n ← getNotification notificationId t
  if n.readAt = none then
    let n := { n with readAt := some m.now }
    return (n, t.set n)
  else return (n, t)

/-- The row as `mark_all_read` leaves it. -/
def read (now : Datetime) (n : Notification) : Notification :=
  if n.isOpen then { n with readAt := some now } else n

lemma key_read (now : Datetime) (n : Notification) : key (read now n) = key n := by
  unfold read
  split_ifs <;> rfl

def markAllRead (m : Moment) (t : Table Notification) : ℕ × Table Notification :=
  ((t.rows.filter Notification.isOpen).length,
    { rows := t.rows.map (read m.now)
      nodup := by
        have hkeys : t.rows.map (key ∘ read m.now) = t.rows.map key :=
          List.map_congr_left fun n _ => key_read m.now n
        rw [List.map_map, hkeys]
        exact t.nodup })

def dismiss (notificationId : String) (m : Moment) (t : Table Notification) :
    Except PyError (Notification × Table Notification) := do
  let n ← getNotification notificationId t
  let n := { n with
    readAt := some (n.readAt.getD m.now)
    dismissedAt := some (n.dismissedAt.getD m.now) }
  return (n, t.set n)

end NotificationService
end AiHq
