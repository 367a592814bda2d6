import AiHq.CodeChanges.Context
import AiHq.Python.Decoding
import AiHq.Python.Serialization

/-!
# The developer's model

The developer is a language model: it is shown the context of a repository, and what it replies is
read as a JSON object with a summary and changes of whole files. Only a file that the context shows
in full may be changed.
-/

namespace AiHq

open Relational Json

namespace ModelAgents

/-! ### Replies -/

/-- `_parse_json_object` -/
def parseJsonObject (python : Interpreter) (raw source : String) : Except PyError Dict :=
  match loads python raw with
  | .ok (.obj parsed) => .ok parsed
  | .ok _ => .error (.valueError (source ++ " JSON must be an object"))
  | .error .jsonDecodeError => .error (.valueError (source ++ " must return valid JSON"))
  | .error error => .error error.toPyError

/-! `_JSON_FENCED_PATTERN`, which matches in one way at most: after each of its optional parts comes
something that the part cannot begin with. Only how much the body takes is searched for. -/

/-- `[ \t]` -/
def isBlank (c : Char) : Bool := c = ' ' || c = '\t'

/-- A text without the text that it begins with. -/
def stripLead? : List Char → List Char → Option (List Char)
  | [], cs => some cs
  | _ :: _, [] => none
  | c :: lead, d :: cs => if c = d then stripLead? lead cs else none

/-- A text without `c` in front. -/
def skipChar (c : Char) : List Char → List Char
  | [] => []
  | d :: cs => if d = c then cs else d :: cs

def fence : List Char := ['`', '`', '`']

/-- What follows "\s*```(?:json)?[ \t]*\r?\n". -/
def openFence? (cs : List Char) : Option (List Char) := do
  let cs ← stripLead? fence (cs.dropWhile isSpace)
  stripLead? ['\n'] (skipChar '\r' (((stripLead? "json".toList cs).getD cs).dropWhile isBlank))

/-- Whether the text is "\r?\n?[ \t]*```\s*". -/
def closesFence (cs : List Char) : Bool :=
  ((stripLead? fence ((skipChar '\n' (skipChar '\r' cs)).dropWhile isBlank)).map
    (·.all isSpace)).getD false

/-- The text before the first place from where the fence is closed. -/
def untilClosed? : List Char → Option (List Char)
  | [] => none
  | c :: cs => if closesFence (c :: cs) then some [] else (untilClosed? cs).map (c :: ·)

/-- `_JSON_FENCED_PATTERN.fullmatch(raw).group("body")` -/
def fencedBody? (raw : String) : Option String :=
  ((openFence? raw.toList).bind untilClosed?).map String.ofList

/-- `_parse_json_envelope` -/
def parseJsonEnvelope (python : Interpreter) (raw source : String) : Except PyError Dict :=
  match parseJsonObject python raw source with
  | .error (.valueError _) => match fencedBody? raw with
    | none => .error (.valueError (source ++ " must return valid JSON"))
    | some body => parseJsonObject python body source
  | result => result

/-- `_DEVELOPER_FORBIDDEN_FIELDS` -/
def developerForbiddenFields : List String :=
  ["command", "argv", "shell", "executable", "environment", "cwd", "deploy", "deployment", "push",
    "merge"]

/-- `_CHANGE_FIELDS` -/
def changeFields : List String := ["path", "operation", "content"]

/-- `value in members` for a set of strings -/
def inSet (members : List String) : Json → Except PyError Bool
  | .str s => .ok (s ∈ members)
  | .list _ => .error (.typeError "unhashable type: 'list'")
  | .obj _ => .error (.typeError "unhashable type: 'dict'")
  | _ => .ok false

/-- A change that the developer's model proposes, as it has been validated. -/
structure DeveloperChange where
  path : String
  operation : String
  content : Json

/-- `_validate_developer_change` -/
def validateDeveloperChange (rawChange : Json) (index : ℕ) : Except PyError DeveloperChange := do
  let ofChange (text : String) :=
    PyError.valueError ("Developer change " ++ toString index ++ text)
  match rawChange with
  | .obj change =>
    raiseIf (¬(change.map Prod.fst ⊆ changeFields ∧ changeFields ⊆ change.map Prod.fst))
      (ofChange " must contain exactly path, operation, and content")
    match Dict.get change "path" with
    | some (.str path) => do
      raiseIf (strip path = "") (ofChange " requires a path")
      let rawOperation := (Dict.get change "operation").getD .null
      raiseIf ((← inSet ["write", "delete"] rawOperation) = false)
        (ofChange " has invalid operation")
      let content := (Dict.get change "content").getD .null
      match rawOperation, content with
      | .str "write", .str _ => return ⟨strip path, "write", content⟩
      | .str "write", _ => .error (ofChange " write content must be a string")
      | .str "delete", .null => return ⟨strip path, "delete", content⟩
      | _, _ => .error (ofChange " delete content must be null")
    | _ => .error (ofChange " requires a path")
  | _ => .error (ofChange " must be an object")

def DeveloperChange.json (change : DeveloperChange) : Json :=
  .obj [("path", .str change.path), ("operation", .str change.operation),
    ("content", change.content)]

end ModelAgents

open ModelAgents

/-! ### The agent -/

/-- The agent, with the replies of its client to the messages, which come after the prompt, and the
provider of its context if it has one. -/
structure ModelBackedDeveloperAgent where
  python : Interpreter
  reply : List Json → Except PyError String
  contextProvider : Option (String → Except PyError Json)

namespace ModelBackedDeveloperAgent

/-- What the model is shown of the repository. -/
structure ShownContext where
  repository : Json
  instruction : String
  /-- the path and the text of each complete file -/
  files : List (String × String)

def ShownContext.writablePaths (context : ShownContext) : List String :=
  orderBy id (context.files.map Prod.fst).dedup

def ShownContext.json (context : ShownContext) : Json :=
  .obj [("repository", context.repository), ("instruction", .str context.instruction),
    ("files", .list (context.files.map fun (path, content) =>
      .obj [("path", .str path), ("content", .str content), ("complete", .bool true)])),
    ("writable_paths", .list (context.writablePaths.map .str))]

/-- A file of the context, if it is complete. -/
def contextFile (raw : Json) (index : ℕ) : Except PyError (Option (String × String)) := do
  let ofFile (text : String) :=
    PyError.valueError ("Developer context file " ++ toString index ++ text)
  match raw with
  | .obj item =>
    match Dict.get item "path", Dict.get item "content" with
    | some (.str path), some (.str content) =>
      raiseIf (strip path = "") (ofFile " is invalid")
      match Dict.get item "complete" with
      | some (.bool true) => return some (strip path, content)
      | _ => return none
    | _, _ => .error (ofFile " is invalid")
  | _ => .error (ofFile " must be an object")

/-- The checks on what the provider has supplied. -/
def showContext (supplied : Json) : Except PyError ShownContext := do
  match supplied with
  | .obj supplied =>
    let repository := (Dict.get supplied "repository").getD .null
    raiseIf ((← inSet trustedRepositoryKeys repository) = false)
      (.valueError "Developer context requires trusted repository")
    match Dict.get supplied "instruction" with
    | some (.str instruction) =>
      raiseIf (strip instruction = "") (.valueError "Developer context requires instruction")
      match Dict.get supplied "files" with
      | some (.list files) =>
        let files ← files.zipIdx.mapM fun (raw, index) => contextFile raw index
        return ⟨repository, strip instruction, files.filterMap id⟩
      | _ => .error (.valueError "Developer context files must be a list")
    | _ => .error (.valueError "Developer context requires instruction")
  | _ => .error (.valueError "Developer context provider must return a mapping")

/-- `_DEVELOPER_RETRY_INSTRUCTION` -/
def developerRetryInstruction : String :=
  "Your previous response could not be parsed as the required JSON object. " ++
  "Return ONLY the valid JSON object with exactly the fields \"summary\" and " ++
  "\"changes\" as specified in the system instructions. Do not include " ++
  "Markdown fences, prose, or any other content."

def userMessage (content : String) : Json := .obj [("role", .str "user"), ("content", .str content)]

def request (missionId : String) (context : Option ShownContext) : Json :=
  userMessage (String.ofList (dumpsSpaced (.obj [("mission_id", .str missionId),
    ("instruction",
      .str "Produce the structured Developer repository file changes for this mission."),
    ("repository_context", context.elim (.obj []) ShownContext.json)])))

/-- The checks on what the model has replied. -/
def checkReply (context : Option ShownContext) (candidate : Dict) :
    Except PyError (String × List DeveloperChange) := do
  let forbidden := orderBy id (developerForbiddenFields.filter (· ∈ candidate.map Prod.fst))
  forbidden.head?.forM fun field => Except.error (PyError.valueError
    ("Developer JSON contains prohibited command authority field: " ++ field))
  match Dict.get candidate "summary" with
  | some (.str summary) =>
    raiseIf (strip summary = "") (.valueError "Developer JSON requires summary")
    match Dict.get candidate "changes" with
    | some (.list changes) =>
      let validated ← changes.zipIdx.mapM fun (raw, index) => validateDeveloperChange raw index
      context.forM fun context => validated.forM fun change =>
        raiseIf (change.path ∉ context.files.map Prod.fst) (.valueError
          ("Developer change path was not supplied with complete trusted context: " ++
            change.path))
      return (strip summary, validated)
    | _ => .error (.valueError "Developer changes must be a list")
  | _ => .error (.valueError "Developer JSON requires summary")

variable (self : ModelBackedDeveloperAgent)

/-- What the client replies, as JSON; it is asked once more if it is not JSON. -/
def ask (message : Json) : Except PyError Dict := do
  let raw ← self.reply [message]
  match parseJsonEnvelope self.python raw "Developer" with
  | .error (.valueError _) =>
    let retryRaw ← self.reply [message, userMessage developerRetryInstruction]
    parseJsonEnvelope self.python retryRaw "Developer"
  | result => result

def execute (missionId : String) : Except PyError (String × List DeveloperChange) := do
  let context ← match self.contextProvider with
    | none => pure none
    | some contextProvider => some <$> (contextProvider missionId >>= showContext)
  let candidate ← self.ask (request missionId context)
  checkReply context candidate

/-- The candidate that is returned, as the runner reads it. -/
def candidate (summary : String) (changes : List DeveloperChange) : Json :=
  .obj [("summary", .str summary), ("changes", .list (changes.map DeveloperChange.json))]

end ModelBackedDeveloperAgent

/-! ### The context -/

def ContextFile.json (file : ContextFile) : Json :=
  .obj [("path", .str file.path), ("content", .str file.content), ("complete", .bool file.complete)]

def RepositoryContext.json (context : RepositoryContext) : Json :=
  .obj [("repository", .str context.repository), ("instruction", .str context.instruction),
    ("files", .list (context.files.map ContextFile.json))]

/-- `provide_context`, by which the agent is given the context for the instruction of a mission. -/
def RepositoryContextProvider.provideContext (self : RepositoryContextProvider)
    (cases : CaseMapping) (t : FileSystem.FileTree ByteArray)
    (missionInstruction : String → Except PyError String) (missionId : String) :
    Except PyError Json := do
  let instruction ← missionInstruction missionId
  let context ← self.build cases t instruction
  return context.json

end AiHq
