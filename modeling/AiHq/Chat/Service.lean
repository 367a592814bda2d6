import AiHq.Library.Program
import AiHq.Python.Values

/-!
# Chat

The messages of a conversation stand at positions, which an insertion reads off the messages that
are there and which a constraint keeps apart.
-/

namespace AiHq

open Concurrent Relational

structure ChatConversation where
  id : String
  ownerSessionId : String
  agentKey : String
  deriving DecidableEq, Repr

instance : Keyed ChatConversation String := ⟨ChatConversation.id⟩

structure ChatMessage where
  id : String
  conversationId : String
  position : ℕ
  role : String
  content : String
  missionId : Option String
  createdAt : Datetime
  deriving DecidableEq, Repr

instance : Keyed ChatMessage String := ⟨ChatMessage.id⟩

structure ChatDatabase where
  conversations : Table ChatConversation := .empty
  messages : Table ChatMessage := .empty

/-- The tables, with the clock and the identifiers that `uuid4` yields. -/
structure ChatWorld where
  db : ChatDatabase := {}
  now : Datetime := 0
  uuids : ℕ → String := fun n => toString n
  drawn : ℕ := 0

/-- What a session shows: it reads, or it comes to its commit. -/
inductive ChatEvent where
  | read | insert
  deriving DecidableEq, Repr

/-- A method of the chat service. -/
abbrev Chat (α : Type) := Prog PyError ChatEvent ChatWorld α

namespace ChatService

/-- The roles that a message may have. -/
def roles : List String := ["user", "assistant", "system"]

/-- `_owned_conversation` -/
def ownedConversation (conversationId ownerSessionId : String) (db : ChatDatabase) :
    Except PyError ChatConversation :=
  (db.conversations.rows.find? fun conversation =>
    conversation.id = conversationId ∧ conversation.ownerSessionId = ownerSessionId).elim
      (.error (.chatAccessDenied "Conversation not found")) .ok

def messagesOf (conversationId : String) (db : ChatDatabase) : List ChatMessage :=
  db.messages.rows.filter fun message => message.conversationId = conversationId

/-- `select(func.max(ChatMessage.position))` -/
def currentPosition (conversationId : String) (db : ChatDatabase) : Option ℕ :=
  ((messagesOf conversationId db).map ChatMessage.position).max?

/-- An INSERT under `uq_chat_messages_conversation_position`. -/
def insertMessage (message : ChatMessage) (db : ChatDatabase) :
    Except PyError (ChatMessage × ChatDatabase) := do
  raiseIf (message.position ∈
    (messagesOf message.conversationId db).map ChatMessage.position) .integrityError
  match db.messages.insert? message with
  | some messages => return (message, { db with messages })
  | none => .error .integrityError

/-- The last part of `add_message`, after the largest position has been read. -/
def addAfter (currentPosition : Option ℕ) (conversationId role content : String)
    (missionId : Option String) : Chat ChatMessage :=
  .atomic (fun _ => .insert) fun w => do
    let (message, db) ← insertMessage
      { id := w.uuids w.drawn, conversationId, position := currentPosition.getD 0 + 1, role,
        content, missionId, createdAt := w.now } w.db
    return (message, { w with db, drawn := w.drawn + 1 })

def addMessage (conversationId ownerSessionId role content : String)
    (missionId : Option String := none) : Chat ChatMessage := do
  .ofExcept (raiseIf (role ∉ roles) (.valueError "Invalid chat role"))
  let currentPosition ← .atomic (fun _ => .read) fun w => do
    let _ ← ownedConversation conversationId ownerSessionId w.db
    return (currentPosition conversationId w.db, w)
  addAfter currentPosition conversationId role content missionId

end ChatService
end AiHq
