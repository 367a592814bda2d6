import AiHq.Library.Program
import AiHq.Python.Text
import AiHq.Session

/-!
# Knowledge

Memories with what they are based on, who may see them and whether they are verified.
-/

namespace AiHq

open Concurrent Relational

inductive MemoryCategory where
  | confirmedFact | preference | procedure | workingMemory | agentMemory
  deriving DecidableEq, Repr

namespace MemoryCategory

def value : MemoryCategory → String
  | confirmedFact => "confirmed_fact"
  | preference => "preference"
  | procedure => "procedure"
  | workingMemory => "working_memory"
  | agentMemory => "agent_memory"

def parse : String → Except PyError MemoryCategory :=
  parseMember "MemoryCategory" value
    [confirmedFact, preference, procedure, workingMemory, agentMemory]

end MemoryCategory

inductive VerificationState where
  | unverified | inferred | needsReview | confirmed
  deriving DecidableEq, Repr

namespace VerificationState

def value : VerificationState → String
  | unverified => "unverified"
  | inferred => "inferred"
  | needsReview => "needs_review"
  | confirmed => "confirmed"

def parse : String → Except PyError VerificationState :=
  parseMember "VerificationState" value [unverified, inferred, needsReview, confirmed]

end VerificationState

inductive MemoryVisibility where
  | isPrivate | shared | restricted
  deriving DecidableEq, Repr

namespace MemoryVisibility

def value : MemoryVisibility → String
  | isPrivate => "private"
  | shared => "shared"
  | restricted => "restricted"

def parse : String → Except PyError MemoryVisibility :=
  parseMember "MemoryVisibility" value [isPrivate, shared, restricted]

end MemoryVisibility

inductive MemorySensitivity where
  | normal | sensitive | consequential | secret
  deriving DecidableEq, Repr

namespace MemorySensitivity

def value : MemorySensitivity → String
  | normal => "normal"
  | sensitive => "sensitive"
  | consequential => "consequential"
  | secret => "secret"

def parse : String → Except PyError MemorySensitivity :=
  parseMember "MemorySensitivity" value [normal, sensitive, consequential, secret]

end MemorySensitivity

/-- A float. -/
inductive PyFloat where
  | nan
  | infinite (negative : Bool)
  | finite (q : ℚ)
  deriving DecidableEq, Repr

/-- `0 <= confidence <= 1` -/
def PyFloat.InUnit : PyFloat → Prop
  | finite q => 0 ≤ q ∧ q ≤ 1
  | nan | infinite _ => False

instance : DecidablePred PyFloat.InUnit
  | .finite q => inferInstanceAs (Decidable (0 ≤ q ∧ q ≤ 1))
  | .nan | .infinite _ => inferInstanceAs (Decidable False)

structure KnowledgeMemory where
  id : String
  category : MemoryCategory
  content : String
  ownerScope : String
  provenance : Dict
  confidence : PyFloat
  verificationState : VerificationState
  sensitivity : MemorySensitivity
  visibility : MemoryVisibility
  allowedAgents : List String
  pinned : Bool
  locked : Bool
  temporary : Bool
  expiresAt : Option Datetime
  contradictsMemoryId : Option String
  revision : ℕ
  verifiedAt : Option Datetime
  deletedAt : Option Datetime
  createdAt : Datetime

instance : Keyed KnowledgeMemory String := ⟨KnowledgeMemory.id⟩

/-- The interpreter's `str.lower` and `str.casefold`. -/
structure KnowledgeService where
  lower : String → String
  cases : CaseMapping
  lower_ascii : ∀ s, (∀ c ∈ s.toList, c.toNat < 128) →
    lower s = String.ofList (s.toList.map Char.toLower)

/-- A method of the service; a session is an action that is rolled back when it raises. -/
abbrev Memories (α : Type) := Prog PyError Unit (Table KnowledgeMemory) α

namespace KnowledgeService

variable (self : KnowledgeService)

instance : MonadLift (Except PyError) Memories := ⟨Prog.ofExcept⟩

def session {α : Type}
    (f : Table KnowledgeMemory → Except PyError (α × Table KnowledgeMemory)) : Memories α :=
  .atomic (fun _ => ()) f

/-! ### Provenance -/

def provenanceKind (provenance : Dict) : String :=
  self.lower (strip ((provenance.get "kind").getD (.str "")).pyStr)

def isInference (provenance : Dict) : Bool :=
  ["agent_inference", "inference", "model_inference"].contains (self.provenanceKind provenance)

def defaultVerification (provenance : Dict) : VerificationState :=
  if self.isInference provenance then .inferred
  else if ["user_confirmed", "explicit_user_confirmation"].contains
    (self.provenanceKind provenance) then .confirmed
  else .unverified

def validateValues (content : String) (provenance : Dict) (confidence : PyFloat)
    (verificationState : VerificationState) (sensitivity : MemorySensitivity) (temporary : Bool)
    (expiresAt : Option Datetime) : Except PyError Unit := do
  raiseIf (strip content = "") (.valueError "memory content cannot be empty")
  raiseIf (¬confidence.InUnit) (.valueError "confidence must be between 0 and 1")
  raiseIf (temporary = true ∧ expiresAt = none) (.valueError "temporary memory requires expiry")
  raiseIf (sensitivity = .secret)
    (.valueError "raw secrets belong in the Secrets Vault, not Knowledge Core")
  raiseIf (self.isInference provenance = true ∧ verificationState = .confirmed)
    (.valueError "inference cannot be created as confirmed")

/-! ### Creating -/

/-- The arguments of `create_memory`. -/
structure Creation where
  category : String
  content : String
  ownerScope : String
  provenance : Dict
  confidence : PyFloat
  verificationState : Option String := none
  sensitivity : String := "normal"
  visibility : String := "private"
  allowedAgents : Option (List String) := none
  pinned : Bool := false
  locked : Bool := false
  temporary : Bool := false
  expiresAt : Option Datetime := none
  contradictsMemoryId : Option String := none

/-- `sorted(set(agents))` -/
def sortedSet (agents : List String) : List String := orderBy id agents.dedup

/-- `datetime.now(UTC)` for a memory that is confirmed -/
def verifiedAt (m : Moment) (state : VerificationState) : Option Datetime :=
  if state = .confirmed then some m.now else none

def notFound (memoryId : String) : PyError := .keyError ("memory not found: " ++ memoryId)

/-- The memory that `create_memory` builds before its session. -/
def newMemory (a : Creation) (m : Moment) : Except PyError KnowledgeMemory := do
  let category ← MemoryCategory.parse a.category
  let sensitivity ← MemorySensitivity.parse a.sensitivity
  let visibility ← MemoryVisibility.parse a.visibility
  let verification ← a.verificationState.elim (.ok (self.defaultVerification a.provenance))
    VerificationState.parse
  self.validateValues a.content a.provenance a.confidence verification sensitivity a.temporary
    a.expiresAt
  return {
    id := m.ids 0, category, content := strip a.content, ownerScope := a.ownerScope
    provenance := a.provenance, confidence := a.confidence, verificationState := verification
    sensitivity, visibility, allowedAgents := sortedSet (a.allowedAgents.getD [])
    pinned := a.pinned, locked := a.locked, temporary := a.temporary, expiresAt := a.expiresAt
    contradictsMemoryId := a.contradictsMemoryId, revision := 1
    verifiedAt := verifiedAt m verification, deletedAt := none, createdAt := m.now }

def createMemory (a : Creation) (m : Moment) : Memories KnowledgeMemory := do
  let memory ← self.newMemory a m
  session fun t => do
    a.contradictsMemoryId.forM fun original =>
      raiseIf (t.get? original).isNone (notFound original)
    match t.insert? memory with
    | some t => return (memory, t)
    | none => throw .integrityError

/-! ### Reading -/

def getMemory (memoryId : String) (includeDeleted : Bool) : Memories KnowledgeMemory :=
  session fun t =>
    match t.get? memoryId with
    | some memory =>
      if memory.deletedAt ≠ none ∧ includeDeleted = false then .error (notFound memoryId)
      else .ok (memory, t)
    | none => .error (notFound memoryId)

def isActive (memory : KnowledgeMemory) (now : Datetime) : Bool :=
  memory.deletedAt = none && memory.expiresAt.all fun expiry => now < expiry

def visibleToAgent (memory : KnowledgeMemory) : Option String → Bool
  | none => true
  | some agentKey =>
    match memory.visibility with
    | .shared => true
    | .restricted => memory.allowedAgents.contains agentKey
    | .isPrivate => memory.ownerScope = "agent:" ++ agentKey

/-- `order_by(KnowledgeMemory.created_at, KnowledgeMemory.id)` -/
def inOrder (memories : List KnowledgeMemory) : List KnowledgeMemory :=
  orderBy (fun memory => toLex (memory.createdAt, memory.id)) memories

def search (query : String) (agentKey category : Option String) (m : Moment) :
    Memories (List KnowledgeMemory) := do
  let category ← (category.mapM MemoryCategory.parse : Except PyError _)
  let query := self.cases.casefold (strip query)
  session fun t => .ok ((inOrder t.rows).filter fun memory =>
    isActive memory m.now && visibleToAgent memory agentKey &&
      category.all (memory.category = ·) &&
      (query = "" || query.toList <:+: (self.cases.casefold memory.content).toList), t)

def listContradictions (memoryId : String) : Memories (List KnowledgeMemory) := do
  let _ ← getMemory memoryId true
  session fun t => .ok (inOrder (t.rows.filter fun memory =>
    memory.contradictsMemoryId = some memoryId ∧ memory.deletedAt = none), t)

/-! ### Changing -/

/-- The memory of a session, which must not have been deleted. -/
def present (memoryId : String) (t : Table KnowledgeMemory) : Except PyError KnowledgeMemory :=
  match t.get? memoryId with
  | some memory => if memory.deletedAt = none then .ok memory else .error (notFound memoryId)
  | none => .error (notFound memoryId)

/-- The arguments of `update_memory`. -/
structure Update where
  content : Option String := none
  provenance : Option Dict := none
  confidence : Option PyFloat := none
  verificationState : Option String := none
  sensitivity : Option String := none
  visibility : Option String := none
  allowedAgents : Option (List String) := none
  pinned : Option Bool := none
  temporary : Option Bool := none
  expiresAt : Option Datetime := none

/-- The verification of a memory after an update. -/
def nextVerification (memory : KnowledgeMemory) (a : Update) (content : String) :
    Except PyError VerificationState :=
  match a.verificationState with
  | some state => VerificationState.parse state
  | none =>
    if a.content ≠ none ∧ content ≠ memory.content ∧ memory.verificationState = .confirmed then
      .ok .needsReview
    else .ok memory.verificationState

def updateMemory (memoryId : String) (a : Update) (m : Moment) : Memories KnowledgeMemory :=
  session fun t => do
    let memory ← present memoryId t
    raiseIf memory.locked (.valueError "locked memory cannot be changed")
    let content := a.content.elim memory.content strip
    let provenance := a.provenance.getD memory.provenance
    let confidence := a.confidence.getD memory.confidence
    let sensitivity ← a.sensitivity.elim (.ok memory.sensitivity) MemorySensitivity.parse
    let temporary := a.temporary.getD memory.temporary
    let expiresAt := a.expiresAt.or memory.expiresAt
    let verification ← nextVerification memory a content
    self.validateValues content provenance confidence verification sensitivity temporary expiresAt
    let memory := { memory with
      content, provenance, confidence, verificationState := verification, sensitivity }
    -- the visibility may still be refused
    let visibility ← a.visibility.elim (.ok memory.visibility) MemoryVisibility.parse
    let memory := { memory with
      visibility, allowedAgents := a.allowedAgents.elim memory.allowedAgents sortedSet
      pinned := a.pinned.getD memory.pinned, temporary, expiresAt
      revision := memory.revision + 1, verifiedAt := verifiedAt m verification }
    return (memory, t.set memory)

def setLock (memoryId : String) (locked : Bool) : Memories KnowledgeMemory :=
  session fun t => do
    let memory ← present memoryId t
    let memory := { memory with locked }
    return (memory, t.set memory)

def setVerification (memoryId state : String) (m : Moment) : Memories KnowledgeMemory := do
  let verification ← VerificationState.parse state
  session fun t => do
    let memory ← present memoryId t
    raiseIf memory.locked (.valueError "locked memory cannot be changed")
    raiseIf (self.isInference memory.provenance = true ∧ verification = .confirmed)
      (.valueError "inference requires explicit provenance change before confirmation")
    let memory := { memory with
      verificationState := verification, verifiedAt := verifiedAt m verification
      revision := memory.revision + 1 }
    return (memory, t.set memory)

def deleteMemory (memoryId : String) (m : Moment) : Memories KnowledgeMemory :=
  session fun t => do
    let memory ← present memoryId t
    raiseIf memory.locked (.valueError "locked memory cannot be deleted")
    let memory := { memory with deletedAt := some m.now }
    return (memory, t.set memory)

def recordContradiction (memoryId content : String) (provenance : Dict) (confidence : PyFloat)
    (m : Moment) : Memories KnowledgeMemory := do
  let original ← getMemory memoryId false
  self.createMemory
    { category := original.category.value, content, ownerScope := original.ownerScope, provenance,
      confidence, verificationState := some "needs_review",
      sensitivity := original.sensitivity.value, visibility := original.visibility.value,
      allowedAgents := some original.allowedAgents, contradictsMemoryId := some original.id } m

end KnowledgeService
end AiHq
