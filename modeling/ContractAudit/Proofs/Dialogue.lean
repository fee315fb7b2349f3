import ContractAudit.Assistant
import ContractAudit.Proofs.Audit.Agreement
import ContractAudit.Proofs.Report.Decoding

/-!
# The history of a conversation

A conversation is a row of steps, some of which put a question.  A question and its answer enter the
history together, and only once there is an answer, so that after any number of steps the history
holds the exchanges that have come about so far, and nothing of a question that failed.

* `exists_contextMessage` -- when there is a context message to send;
* `exchange` -- what a step adds to the history;
* `trace` -- the steps of a run, each with what it showed and the conversation after it;
* `exchangesIn`, `requestsIn` -- all that the steps of a trace add and send;
* `step_history`, `step_sent` -- one step;
* `step_ask_online`, `step_ask_offline` -- one question, with a model and without;
* `exists_before` -- each step of a run starts from what the steps before it have made;
* `run_history` -- whole runs.
-/

namespace ContractAudit

open ContractAudit.Text

/-! ### Answers -/

/-- A reply is an answer when it has content, and fails otherwise. -/
theorem Reply.answer_eq_ok_iff {reply : Reply} {answer : String} :
    reply.answer = .ok answer ↔ reply = .content (some answer) ∧ answer ≠ "" := by
  cases reply with
  | failed reason => simp [Reply.answer]
  | noChoices => simp [Reply.answer]
  | content text =>
    cases text with
    | none => simp [Reply.answer]
    | some text =>
      by_cases hempty : text = ""
      · subst hempty
        simp [Reply.answer]
      · have hsome : text.isEmpty = false := by simpa using hempty
        simp only [Reply.answer, hsome, Bool.false_eq_true, if_false, Except.ok.injEq,
          Reply.content.injEq, Option.some.injEq]
        constructor
        · rintro rfl
          exact ⟨rfl, hempty⟩
        · exact And.left

theorem append_ne_empty {s : String} (h : s ≠ "") (t : String) : s ++ t ≠ "" := by
  intro happend
  exact h (String.append_eq_empty_iff.1 happend).1

namespace Assistant

theorem reentrancyAnswer_ne_empty (findings : List Finding) : reentrancyAnswer findings ≠ "" := by
  unfold reentrancyAnswer
  split
  · repeat apply append_ne_empty
    decide
  · decide

theorem scoreAnswer_ne_empty (a : Assessment) : scoreAnswer a ≠ "" := by
  unfold scoreAnswer
  repeat apply append_ne_empty
  decide

theorem findingsAnswer_ne_empty (findings : List Finding) : findingsAnswer findings ≠ "" := by
  unfold findingsAnswer
  dsimp only
  split
  · repeat apply append_ne_empty
    decide
  · repeat apply append_ne_empty
    decide

theorem generalAnswer_ne_empty (a : Assessment) : generalAnswer a ≠ "" := by
  unfold generalAnswer
  repeat apply append_ne_empty
  decide

/-- There is a context message if the numbers of the assessment can be written. -/
theorem exists_contextMessage {a : Assistant}
    (h : ∀ n ∈ a.assessment.numbers, Numeral.isWritable n = true) :
    ∃ context, a.contextMessage = .ok context := by
  have hwritable := a.assessment.isWritable_toJson
  rw [List.all_eq_true.2 h] at hwritable
  rw [contextMessage, Json.write, Json.writeWith, if_pos hwritable, ok_bind]
  exact ⟨_, rfl⟩

/-- There is no other reason for want of one. -/
theorem eq_of_contextMessage_eq_error {a : Assistant} {failure : Failure}
    (h : a.contextMessage = .error failure) : failure = .unwritableNumber := by
  rw [contextMessage, Json.write, Json.writeWith] at h
  split at h
  · cases h
  · cases h
    rfl

theorem request_of_context {a : Assistant} {context : String} (h : a.contextMessage = .ok context)
    (history : List Message) (question : String) :
    a.request history question
      = .ok ⟨a.model, [⟨.system, systemPrompt⟩, ⟨.user, context⟩] ++ history ++ [⟨.user, question⟩],
          "0.7", 1024⟩ := by
  rw [request, messages, h]
  rfl

theorem request_of_error {a : Assistant} {failure : Failure} (h : a.contextMessage = .error failure)
    (history : List Message) (question : String) : a.request history question = .error failure := by
  rw [request, messages, h]
  rfl

/-- An answer from the assessment alone says something; there is none only if a fix is asked for and
there is no finding. -/
theorem offlineAnswer_cases (a : Assessment) (question : String) :
    (∃ answer, offlineAnswer a question = .ok answer ∧ answer ≠ "") ∨
      (offlineAnswer a question = .error .noFinding ∧ a.findings = []) := by
  unfold offlineAnswer
  dsimp only
  split
  · exact .inl ⟨_, rfl, reentrancyAnswer_ne_empty a.findings⟩
  split
  · cases a.findings with
    | nil => exact .inr ⟨rfl, rfl⟩
    | cons f rest =>
      refine .inl ⟨_, rfl, ?_⟩
      repeat apply append_ne_empty
      decide
  split
  · exact .inl ⟨_, rfl, scoreAnswer_ne_empty a⟩
  split
  · exact .inl ⟨_, rfl, findingsAnswer_ne_empty a.findings⟩
  · exact .inl ⟨_, rfl, generalAnswer_ne_empty a⟩

end Assistant

namespace Dialogue

/-! ### One step -/

/-- What a step adds to the history: the question and the answer, once there is one. -/
def exchange : DialogueStep → DialogueOutcome → List Message
  | .ask question, .answer (.ok answer) => [⟨.user, question⟩, ⟨.assistant, answer⟩]
  | _, _ => []

section Step

variable (a : Assistant) (replies : Nat → Reply) (d : Dialogue)

theorem step_history (s : DialogueStep) :
    (d.step a replies s).1.history = d.history ++ exchange s (d.step a replies s).2.outcome := by
  cases s with
  | ask question =>
    show (d.settle question (d.consult a replies question).answer).history = _
    show _ = d.history ++ exchange (.ask question) (.answer (d.consult a replies question).answer)
    cases (d.consult a replies question).answer with
    | ok answer => rfl
    | error failure => exact (List.append_nil _).symm
  | offline question => exact (List.append_nil _).symm
  | preview question => exact (List.append_nil _).symm
  | context => exact (List.append_nil _).symm

theorem step_sent (s : DialogueStep) :
    (d.step a replies s).1.sent = d.sent + (d.step a replies s).2.requests.length := by
  cases s <;> rfl

/-- A step that is no ask sends nothing. -/
theorem step_requests_of_not_ask {s : DialogueStep} (h : ∀ question, s ≠ .ask question) :
    (d.step a replies s).2.requests = [] := by
  cases s with
  | ask question => exact absurd rfl (h question)
  | offline question => rfl
  | preview question => rfl
  | context => rfl

theorem exchange_of_not_ask {s : DialogueStep} (h : ∀ question, s ≠ .ask question)
    (outcome : DialogueOutcome) : exchange s outcome = [] := by
  cases s with
  | ask question => exact absurd rfl (h question)
  | offline question => rfl
  | preview question => rfl
  | context => rfl

theorem exchange_of_error (s : DialogueStep) (failure : Failure) :
    exchange s (.answer (.error failure)) = [] := by
  cases s <;> rfl

theorem consult_online (h : a.online = true) {question : String} {request : ChatRequest}
    (hrequest : a.request d.history question = .ok request) :
    d.consult a replies question
      = ⟨(replies d.sent).answer, [request], (replies d.sent).entries⟩ := by
  rw [consult, if_pos h, hrequest]

theorem consult_unwritable (h : a.online = true) {question : String} {failure : Failure}
    (hrequest : a.request d.history question = .error failure) :
    d.consult a replies question = ⟨.error failure, [], []⟩ := by
  rw [consult, if_pos h, hrequest]

theorem consult_offline (h : a.online = false) (question : String) :
    d.consult a replies question = ⟨Assistant.offlineAnswer a.assessment question, [], []⟩ := by
  rw [consult, if_neg (by simp [h])]

/-- Without a model nothing is sent. -/
theorem step_requests_offline (h : a.online = false) (s : DialogueStep) :
    (d.step a replies s).2.requests = [] := by
  cases s with
  | ask question =>
    show (d.consult a replies question).requests = []
    rw [consult_offline a replies d h]
  | offline question => rfl
  | preview question => rfl
  | context => rfl

/-- With a model an ask sends one request, and the reply that is due settles it. -/
theorem step_ask_online (h : a.online = true) {context : String}
    (hcontext : a.contextMessage = .ok context) (question : String) :
    (d.step a replies (.ask question)).2
      = ⟨.answer (replies d.sent).answer,
          [⟨a.model, [⟨.system, Assistant.systemPrompt⟩, ⟨.user, context⟩] ++ d.history
            ++ [⟨.user, question⟩], "0.7", 1024⟩],
          (replies d.sent).entries⟩ := by
  show DialogueTurn.mk (.answer (d.consult a replies question).answer) _ _ = _
  rw [consult_online a replies d h (Assistant.request_of_context hcontext d.history question)]

/-- Without a context message nothing is sent, and the ask fails. -/
theorem step_ask_unwritable (h : a.online = true) {failure : Failure}
    (hcontext : a.contextMessage = .error failure) (question : String) :
    (d.step a replies (.ask question)).2 = ⟨.answer (.error failure), [], []⟩ := by
  show DialogueTurn.mk (.answer (d.consult a replies question).answer) _ _ = _
  rw [consult_unwritable a replies d h (Assistant.request_of_error hcontext d.history question)]

/-- Without a model an ask returns, unless a fix is asked for and there is no finding. -/
theorem step_ask_offline (h : a.online = false) (question : String) :
    (∃ answer, (d.step a replies (.ask question)).2.outcome = .answer (.ok answer)) ∨
      ((d.step a replies (.ask question)).2.outcome = .answer (.error .noFinding) ∧
        a.assessment.findings = []) := by
  have houtcome : (d.step a replies (.ask question)).2.outcome
      = .answer (Assistant.offlineAnswer a.assessment question) := by
    show DialogueOutcome.answer (d.consult a replies question).answer = _
    rw [consult_offline a replies d h]
  rw [houtcome]
  rcases Assistant.offlineAnswer_cases a.assessment question with ⟨answer, hanswer, -⟩ | ⟨hnone, hnil⟩
  · exact .inl ⟨answer, by rw [hanswer]⟩
  · exact .inr ⟨by rw [hnone], hnil⟩

/-- An answer is never empty. -/
theorem answer_ne_empty {question answer : String}
    (h : (d.consult a replies question).answer = .ok answer) : answer ≠ "" := by
  cases honline : a.online with
  | true =>
    cases hrequest : a.request d.history question with
    | ok request =>
      rw [consult_online a replies d honline hrequest] at h
      exact (Reply.answer_eq_ok_iff.1 h).2
    | error failure =>
      rw [consult_unwritable a replies d honline hrequest] at h
      cases h
  | false =>
    rw [consult_offline a replies d honline] at h
    rcases Assistant.offlineAnswer_cases a.assessment question with ⟨text, htext, hne⟩ | ⟨hfails, -⟩
    · rw [htext] at h
      cases h
      exact hne
    · rw [hfails] at h
      cases h

theorem content_ne_empty_of_mem_exchange (s : DialogueStep) {m : Message}
    (hm : m ∈ exchange s (d.step a replies s).2.outcome) (hrole : m.role = .assistant) :
    m.content ≠ "" := by
  cases s with
  | ask question =>
    have hm : m ∈ exchange (.ask question) (.answer (d.consult a replies question).answer) := hm
    cases hanswer : (d.consult a replies question).answer with
    | error failure =>
      rw [hanswer] at hm
      cases hm
    | ok answer =>
      have hmem : m = ⟨.user, question⟩ ∨ m = ⟨.assistant, answer⟩ := by
        simpa [hanswer, exchange] using hm
      rcases hmem with rfl | rfl
      · cases hrole
      · exact answer_ne_empty a replies d hanswer
  | offline question => cases hm
  | preview question => cases hm
  | context => cases hm

end Step

/-! ### Runs -/

/-- The steps of a run, each with what it showed and the conversation after it. -/
def trace (a : Assistant) (replies : Nat → Reply) (d : Dialogue) (steps : List DialogueStep) :
    List (DialogueStep × DialogueTurn × Dialogue) :=
  steps.zip (d.run a replies steps)

/-- The questions that were answered and their answers, in order. -/
def exchangesIn (entries : List (DialogueStep × DialogueTurn × Dialogue)) : List Message :=
  entries.flatMap fun entry => exchange entry.1 entry.2.1.outcome

/-- The requests that were sent, in order. -/
def requestsIn (entries : List (DialogueStep × DialogueTurn × Dialogue)) : List ChatRequest :=
  entries.flatMap fun entry => entry.2.1.requests

section Run

variable (a : Assistant) (replies : Nat → Reply)

theorem trace_cons (d : Dialogue) (s : DialogueStep) (rest : List DialogueStep) :
    trace a replies d (s :: rest)
      = (s, (d.step a replies s).2, (d.step a replies s).1)
        :: trace a replies (d.step a replies s).1 rest := rfl

theorem map_fst_trace (d : Dialogue) (steps : List DialogueStep) :
    (trace a replies d steps).map Prod.fst = steps := by
  induction steps generalizing d with
  | nil => rfl
  | cons s rest ih => rw [trace_cons, List.map_cons, ih]

/-- **Each step of a run** is taken from the conversation that the steps before it have made. -/
theorem exists_before (d : Dialogue) (steps : List DialogueStep) {i : Nat} {s : DialogueStep}
    {turn : DialogueTurn} {after : Dialogue}
    (h : (trace a replies d steps)[i]? = some (s, turn, after)) :
    ∃ before : Dialogue,
      before.history = d.history ++ exchangesIn ((trace a replies d steps).take i) ∧
      before.sent = d.sent + (requestsIn ((trace a replies d steps).take i)).length ∧
      before.step a replies s = (after, turn) := by
  induction steps generalizing d i with
  | nil => cases h
  | cons first rest ih =>
    rw [trace_cons] at h ⊢
    cases i with
    | zero =>
      obtain ⟨rfl, rfl, rfl⟩ : first = s ∧ (d.step a replies first).2 = turn ∧
          (d.step a replies first).1 = after := by simpa using h
      refine ⟨d, ?_, rfl, rfl⟩
      exact (List.append_nil d.history).symm
    | succ i =>
      rw [List.getElem?_cons_succ] at h
      obtain ⟨before, hhistory, hsent, hstep⟩ := ih _ h
      refine ⟨before, ?_, ?_, hstep⟩
      · rw [hhistory, step_history, List.take_succ_cons, exchangesIn, exchangesIn,
          List.flatMap_cons, List.append_assoc]
      · rw [hsent, step_sent, List.take_succ_cons, requestsIn, requestsIn, List.flatMap_cons,
          List.length_append, Nat.add_assoc]

theorem exchangesIn_take_succ {entries : List (DialogueStep × DialogueTurn × Dialogue)} {i : Nat}
    {s : DialogueStep} {turn : DialogueTurn} {after : Dialogue}
    (h : entries[i]? = some (s, turn, after)) :
    exchangesIn (entries.take (i + 1)) = exchangesIn (entries.take i) ++ exchange s turn.outcome := by
  have htake : entries.take (i + 1) = entries.take i ++ [(s, turn, after)] := by
    rw [List.take_add_one, h]
    rfl
  rw [htake, exchangesIn, exchangesIn, List.flatMap_append, List.flatMap_singleton]

/-- No recorded answer is empty. -/
theorem content_ne_empty_of_mem_exchangesIn {d : Dialogue} {steps : List DialogueStep} {i : Nat}
    {m : Message} (hm : m ∈ exchangesIn ((trace a replies d steps).take i))
    (hrole : m.role = .assistant) : m.content ≠ "" := by
  obtain ⟨⟨s, turn, after⟩, hentry, hm⟩ := List.mem_flatMap.1 hm
  obtain ⟨k, hk⟩ := List.mem_iff_getElem?.1 (List.mem_of_mem_take hentry)
  obtain ⟨before, -, -, hstep⟩ := exists_before a replies d steps hk
  have hturn : turn = (before.step a replies s).2 := by rw [hstep]
  rw [hturn] at hm
  exact content_ne_empty_of_mem_exchange a replies before s hm hrole

/-- **The history of a conversation**, over a whole run.  After each step it holds the exchanges of
the asks that have returned so far, in order, and no answer in it is empty.  A step that is no ask,
and an ask that fails, leave it as it was.  There is a context message if the numbers of the assessment
can be written, and it never changes.  An ask with a model then sends one request: the system prompt,
the context message, the history before it and the question; it returns exactly if the reply that is
due has content.  If there is no context message it sends nothing and fails.  Without a model nothing
is sent, and an ask fails only for want of a finding, which does not happen to an assessment that an
audit has returned. -/
theorem run_history (steps : List DialogueStep) :
    (trace a replies start steps).map Prod.fst = steps ∧
    ((∀ n ∈ a.assessment.numbers, Numeral.isWritable n = true) →
      ∃ context, a.contextMessage = .ok context) ∧
    ∀ (i : Nat) (s : DialogueStep) (turn : DialogueTurn) (after : Dialogue),
      (trace a replies start steps)[i]? = some (s, turn, after) →
      let earlier := exchangesIn ((trace a replies start steps).take i)
      let sent := (requestsIn ((trace a replies start steps).take i)).length
      after.history = exchangesIn ((trace a replies start steps).take (i + 1)) ∧
      (∀ m ∈ after.history, m.role = .assistant → m.content ≠ "") ∧
      (∀ failure, turn.outcome = .answer (.error failure) → after.history = earlier) ∧
      ((∀ question, s ≠ .ask question) → after.history = earlier ∧ turn.requests = []) ∧
      (s = .context → turn.outcome = .context a.contextMessage) ∧
      (a.online = true → ∀ question, s = .ask question →
        (∀ context, a.contextMessage = .ok context →
          turn.requests.map ChatRequest.messages
            = [[⟨.system, Assistant.systemPrompt⟩, ⟨.user, context⟩] ++ earlier
                ++ [⟨.user, question⟩]] ∧
          ∀ answer, turn.outcome = .answer (.ok answer)
            ↔ replies sent = .content (some answer) ∧ answer ≠ "") ∧
        ∀ failure, a.contextMessage = .error failure →
          turn.requests = [] ∧ turn.outcome = .answer (.error .unwritableNumber)) ∧
      (a.online = false → turn.requests = [] ∧ ∀ question, s = .ask question →
        (∀ failure, turn.outcome = .answer (.error failure)
          → failure = .noFinding ∧ a.assessment.findings = []) ∧
        ∀ (auditor : Auditor) source mode, auditor.audit source mode = .ok a.assessment →
          ∃ answer, turn.outcome = .answer (.ok answer)) := by
  refine ⟨map_fst_trace a replies start steps, Assistant.exists_contextMessage, ?_⟩
  intro i s turn after hentry earlier sent
  obtain ⟨before, hhistory, hsent, hstep⟩ := exists_before a replies start steps hentry
  have hafter : after.history = earlier ++ exchange s turn.outcome := by
    have hone := step_history a replies before s
    rw [hstep, hhistory] at hone
    exact hone
  have hcount : before.sent = sent := by rw [hsent]; exact Nat.zero_add _
  have hrecorded : after.history = exchangesIn ((trace a replies start steps).take (i + 1)) := by
    rw [hafter, exchangesIn_take_succ hentry]
  refine ⟨hrecorded, ?_, ?_, ?_, ?_, ?_, ?_⟩
  · intro m hm hrole
    rw [hrecorded] at hm
    exact content_ne_empty_of_mem_exchangesIn a replies hm hrole
  · intro failure hfails
    rw [hafter, hfails, exchange_of_error, List.append_nil]
  · intro hother
    have hquiet := step_requests_of_not_ask a replies before hother
    rw [hstep] at hquiet
    rw [hafter, exchange_of_not_ask hother, List.append_nil]
    exact ⟨rfl, hquiet⟩
  · rintro rfl
    obtain ⟨rfl, rfl⟩ := Prod.mk.inj hstep
    rfl
  · rintro honline question rfl
    refine ⟨fun context hcontext => ?_, fun failure hfailure => ?_⟩
    · have hturn := step_ask_online a replies before honline hcontext question
      rw [hstep, hhistory, hcount] at hturn
      obtain rfl : turn = _ := hturn
      refine ⟨rfl, fun answer => ?_⟩
      rw [DialogueOutcome.answer.injEq, Reply.answer_eq_ok_iff]
    · have hturn := step_ask_unwritable a replies before honline hfailure question
      rw [hstep] at hturn
      obtain rfl : turn = _ := hturn
      rw [Assistant.eq_of_contextMessage_eq_error hfailure]
      exact ⟨rfl, rfl⟩
  · intro hoffline
    have hquiet := step_requests_offline a replies before hoffline s
    rw [hstep] at hquiet
    refine ⟨hquiet, ?_⟩
    rintro question rfl
    have hturn := step_ask_offline a replies before hoffline question
    rw [hstep] at hturn
    rcases hturn with ⟨answer, hanswer⟩ | ⟨hnone, hnil⟩
    · refine ⟨?_, fun _ _ _ _ => ⟨answer, hanswer⟩⟩
      intro failure hfails
      rw [hanswer] at hfails
      cases hfails
    · refine ⟨?_, ?_⟩
      · intro failure hfails
        rw [hnone] at hfails
        cases hfails
        exact ⟨rfl, hnil⟩
      · intro auditor source mode haudit
        exact absurd hnil (Auditor.findings_ne_nil haudit)

end Run

/-- Three questions to a model that cannot be reached for the second one. -/
def interrupted : List DialogueStep :=
  [.ask "first", .ask "second", .context, .ask "third"]

/-- The replies that the model has for them. -/
def interruptedReplies : Nat → Reply
  | 0 => .content (some "one")
  | 1 => .failed "boom"
  | _ => .content (some "three")

/-- An assistant with a model, for an assessment without findings. -/
def emptyHanded : Assistant where
  assessment := ⟨10, .low, "Nothing.", [], ⟨0, 0, 0, 0, 0, 1, 0⟩, by decide⟩
  source := "contract C"
  model := "model"
  client := some .supplied

theorem run_history_interrupted :
    ∃ context turn after, emptyHanded.contextMessage = .ok context ∧
      (trace emptyHanded interruptedReplies start interrupted)[3]?
        = some (.ask "third", turn, after) ∧
      turn.requests.map ChatRequest.messages
        = [[⟨.system, Assistant.systemPrompt⟩, ⟨.user, context⟩,
            ⟨.user, "first"⟩, ⟨.assistant, "one"⟩, ⟨.user, "third"⟩]] ∧
      after.history = [⟨.user, "first"⟩, ⟨.assistant, "one"⟩, ⟨.user, "third"⟩,
        ⟨.assistant, "three"⟩] := by
  obtain ⟨-, hcomes, hsteps⟩ := run_history emptyHanded interruptedReplies interrupted
  obtain ⟨context, hcontext⟩ := hcomes (List.all_eq_true.1 rfl)
  obtain ⟨hhistory, -, -, -, -, honline, -⟩ := hsteps 3 _ _ _ rfl
  exact ⟨context, _, _, hcontext, rfl, ((honline rfl "third" rfl).1 context hcontext).1, hhistory⟩

end Dialogue

end ContractAudit
