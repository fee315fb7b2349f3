import ContractAudit.Audit.Assessment
import ContractAudit.Audit.Journal
import ContractAudit.Json.Printer
import ContractAudit.Text.LetterCase

/-!
# The assistant

The assistant answers questions about one assessment.  With a connection it sends the whole
conversation to a language model; without one it answers from the assessment alone.

* `Client` -- how the language model is reached;
* `Assistant` -- what a conversation is about;
* `Assistant.offlineAnswer` -- the answer from the assessment alone;
* `Assistant.messages` -- what is sent for a question;
* `Dialogue` -- a conversation so far;
* `Dialogue.step` -- one more step of a conversation.
-/

namespace ContractAudit

open ContractAudit.Text

/-! ### Connections and messages -/

/-- What it takes to reach the language model. -/
structure Connection where
  apiKey : String
  baseUrl : Option String
  deriving DecidableEq, Repr

/-- The connection that a key and an address give; none without a key. -/
def Connection.ofSettings? (apiKey baseUrl : Option String) : Option Connection :=
  (given? apiKey).map fun key => ⟨key, given? baseUrl⟩

/-- How the language model is reached. -/
inductive Client where
  /-- Through a client that was handed over. -/
  | supplied
  /-- Through a client of its own. -/
  | made (connection : Connection)
  deriving DecidableEq, Repr

namespace Client

/-- The client of an assistant, if it has one.  A client that is handed over goes before a key and an
address. -/
def choose (supplied : Bool) (apiKey baseUrl : Option String) : Option Client :=
  if supplied then some .supplied else (Connection.ofSettings? apiKey baseUrl).map .made

/-- The connection that was made for the client. -/
def connection? : Client → Option Connection
  | supplied => none
  | made connection => some connection

end Client

/-- Who speaks. -/
inductive Role where
  | system
  | user
  | assistant
  deriving DecidableEq, Repr

/-- The name of a role. -/
def Role.name : Role → String
  | system => "system"
  | user => "user"
  | assistant => "assistant"

/-- One message of a conversation. -/
structure Message where
  role : Role
  content : String
  deriving DecidableEq, Repr

/-- What is sent to the language model. -/
structure ChatRequest where
  model : String
  messages : List Message
  temperature : String
  maxTokens : Nat
  deriving DecidableEq, Repr

/-- What comes back. -/
inductive Reply where
  /-- A message, perhaps without content. -/
  | content (text : Option String)
  /-- No message at all. -/
  | noChoices
  /-- The model could not be reached. -/
  | failed (reason : String)
  deriving DecidableEq, Repr

/-- What a reply comes to.  A reply without content is no answer. -/
def Reply.answer : Reply → Except Failure String
  | .failed reason => .error (.modelError reason)
  | .noChoices => .error .noAnswer
  | .content none => .error .noAnswer
  | .content (some text) => if text.isEmpty then .error .noAnswer else .ok text

/-- What is noted about a reply. -/
def Reply.entries : Reply → List Journal.Entry
  | .failed reason => [⟨.assistant, .error, "Error calling OpenAI API: " ++ reason⟩]
  | _ => []

/-! ### The assistant -/

/-- What a conversation is about. -/
structure Assistant where
  assessment : Assessment
  source : String
  model : String
  client : Option Client

namespace Assistant

/-- Whether there is a language model to ask. -/
def online (a : Assistant) : Bool :=
  a.client.isSome

/-- What the language model is told about its part. -/
def systemPrompt : String :=
  "You are a Solidity security expert helping a developer understand an automated audit report. "
    ++ "The report comes from a heuristic scanner, so findings can be false positives. "
    ++ "Explain vulnerabilities clearly, suggest concrete fixes with code, and say when a finding "
    ++ "looks like a false positive given the source."

/-- The assessment and the source, as the first message of the user. -/
def contextMessage (a : Assistant) : Except Failure String := do
  let report ← a.assessment.toJson.write
  return "Audit report:\n```json\n" ++ String.ofList report
    ++ "\n```\n\nContract source:\n```solidity\n" ++ a.source ++ "\n```"

/-- What is sent for a question after the given history. -/
def messages (a : Assistant) (history : List Message) (question : String) :
    Except Failure (List Message) := do
  let context ← a.contextMessage
  return [⟨.system, systemPrompt⟩, ⟨.user, context⟩] ++ history ++ [⟨.user, question⟩]

/-- The request for a question after the given history. -/
def request (a : Assistant) (history : List Message) (question : String) :
    Except Failure ChatRequest := do
  let messages ← a.messages history question
  return ⟨a.model, messages, "0.7", 1024⟩

/-! ### Answers without a model -/

/-- The answer to a question about reentrancy. -/
def reentrancyAnswer (findings : List Finding) : String :=
  match findings.find? fun f => meetsKeyword "reentrancy" f.title.toList with
  | some f =>
    "Reentrancy attacks are dangerous because they allow an attacker to recursively call "
      ++ "a function before the previous call completes. This can drain funds from a contract. "
      ++ f.suggestedFix
  | none =>
    "Reentrancy attacks occur when external calls are made before state updates. Use the "
      ++ "ReentrancyGuard pattern from OpenZeppelin or follow the checks-effects-interactions "
      ++ "pattern."

/-- The answer to a question for a fix: that of the first finding. -/
def fixAnswer : List Finding → Except Failure String
  | [] => .error .noFinding
  | f :: _ => .ok ("To fix \"" ++ f.title ++ "\": " ++ f.suggestedFix)

/-- The answer to a question about the score. -/
def scoreAnswer (a : Assessment) : String :=
  "The risk score of " ++ toString a.riskScore ++ "/100 (" ++ a.riskLevel.name
    ++ ") is calculated based on the number and severity of vulnerabilities found. "
    ++ "Critical issues add " ++ toString Severity.critical.weight ++ " points, high add "
    ++ toString Severity.high.weight ++ ", medium add " ++ toString Severity.medium.weight
    ++ ", and low add " ++ toString Severity.low.weight ++ " points each."

/-- The answer to a question about the findings. -/
def findingsAnswer (findings : List Finding) : String :=
  let found := "I found " ++ toString findings.length ++ " potential vulnerability/vulnerabilities"
  match findings.filter fun f => f.severity.isSerious with
  | [] => found ++ ", none of them high or critical."
  | serious =>
    found ++ ". The most critical ones are: " ++ ", ".intercalate (serious.map Finding.title) ++ "."

/-- The answer to any other question. -/
def generalAnswer (a : Assessment) : String :=
  "Based on the audit results, your contract has a " ++ a.riskLevel.name ++ " risk level with "
    ++ toString a.findings.length ++ " issue(s) detected. I can help explain specific "
    ++ "vulnerabilities, suggest fixes, or clarify the risk assessment. What would you like to "
    ++ "know more about?"

/-- The answer from the assessment alone, by the first keyword that the question meets. -/
def offlineAnswer (a : Assessment) (question : String) : Except Failure String :=
  let asks (keywords : List String) := keywords.any fun k => meetsKeyword k question.toList
  if asks ["reentrancy"] then .ok (reentrancyAnswer a.findings)
  else if asks ["fix", "how"] then fixAnswer a.findings
  else if asks ["score", "risk"] then .ok (scoreAnswer a)
  else if asks ["vulnerab", "issue"] then .ok (findingsAnswer a.findings)
  else .ok (generalAnswer a)

end Assistant

/-! ### Dialogues -/

/-- A conversation so far. -/
structure Dialogue where
  /-- Questions and answers in turn. -/
  history : List Message
  /-- How many requests have been sent. -/
  sent : Nat

/-- One step of a conversation. -/
inductive DialogueStep where
  /-- Put a question to the assistant. -/
  | ask (question : String)
  /-- See what the answer from the assessment alone would be. -/
  | offline (question : String)
  /-- See what would be sent for a question. -/
  | preview (question : String)
  /-- See the first message. -/
  | context

/-- What a step shows. -/
inductive DialogueOutcome where
  | answer (outcome : Except Failure String)
  | messages (messages : Except Failure (List Message))
  | context (text : Except Failure String)

/-- A step that was taken: what it showed, what was sent, what was noted. -/
structure DialogueTurn where
  outcome : DialogueOutcome
  requests : List ChatRequest
  entries : List Journal.Entry

/-- The answer to one question, with what was sent and noted for it. -/
structure Consultation where
  answer : Except Failure String
  requests : List ChatRequest
  entries : List Journal.Entry

namespace Dialogue

/-- A conversation that has not begun. -/
def start : Dialogue := ⟨[], 0⟩

/-- The conversation with one more question and its answer. -/
def record (d : Dialogue) (question answer : String) : Dialogue :=
  { d with history := d.history ++ [⟨.user, question⟩, ⟨.assistant, answer⟩] }

/-- The conversation after a question was answered or not. -/
def settle (d : Dialogue) (question : String) : Except Failure String → Dialogue
  | .ok answer => d.record question answer
  | .error _ => d

/-- The answer to a question and what was sent and noted for it.  The replies of the language model
are given by the number of requests that were sent before.  Nothing is sent if the assessment cannot
be written. -/
def consult (a : Assistant) (replies : Nat → Reply) (d : Dialogue) (question : String) :
    Consultation :=
  if a.online then
    match a.request d.history question with
    | .error failure => ⟨.error failure, [], []⟩
    | .ok request =>
      let reply := replies d.sent
      ⟨reply.answer, [request], reply.entries⟩
  else ⟨Assistant.offlineAnswer a.assessment question, [], []⟩

/-- The answer to a question that may be missing.  Only the language model has one then. -/
def consultMaybe (a : Assistant) (replies : Nat → Reply) (d : Dialogue) :
    Option String → Consultation
  | some question => d.consult a replies question
  | none => if a.online then d.consult a replies "" else ⟨.error .noQuestion, [], []⟩

/-- Put a question to the assistant. -/
def ask (a : Assistant) (replies : Nat → Reply) (d : Dialogue) (question : String) :
    Dialogue × DialogueTurn :=
  let c := d.consult a replies question
  ({ d.settle question c.answer with sent := d.sent + c.requests.length },
    ⟨.answer c.answer, c.requests, c.entries⟩)

/-- One more step of a conversation. -/
def step (a : Assistant) (replies : Nat → Reply) (d : Dialogue) :
    DialogueStep → Dialogue × DialogueTurn
  | .ask question => d.ask a replies question
  | .offline question => (d, ⟨.answer (Assistant.offlineAnswer a.assessment question), [], []⟩)
  | .preview question => (d, ⟨.messages (a.messages d.history question), [], []⟩)
  | .context => (d, ⟨.context a.contextMessage, [], []⟩)

/-- The steps of a conversation, each with what it showed and the conversation after it. -/
def run (a : Assistant) (replies : Nat → Reply) :
    Dialogue → List DialogueStep → List (DialogueTurn × Dialogue)
  | _, [] => []
  | d, s :: rest =>
    let (next, turn) := d.step a replies s
    (turn, next) :: next.run a replies rest

end Dialogue

end ContractAudit
