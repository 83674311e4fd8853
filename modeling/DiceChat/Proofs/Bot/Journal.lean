import DiceChat.Proofs.Bot.Draws

/-!
# What the log tells

Both ways of handling a message are one step: they draw the same faces, come to the same result and
tell the log the same of it, but for the warning with which a reply passes over an error. So the log
of a message can be read off its result and the faces that it asked for.

## Main results

* `Bot.log_tells_outcome`: the two ways of handling a message, and the log of every run.
-/

namespace DiceChat

/-- An event as the log shows it. -/
structure Entry where
  level : String
  message : String
  fields : List (String × String)
deriving DecidableEq, Repr

def Event.entry (event : Event) : Entry :=
  ⟨event.level.name, event.message, event.fields⟩

namespace Entry

/-- A message without directive. -/
def ofAbsence : Except RollError (Option Response) → List Entry
  | .ok none => [⟨"TRACE", "message holds no directive", []⟩]
  | _ => []

/-- Faces that were asked for. -/
def ofDraws (ranges : List FaceRange) (expression : String) : List Entry :=
  if ranges = [] then []
  else [⟨"TRACE", "evaluating roll expression", [("expression", expression)]⟩]

/-- A response. -/
def ofResponse : Except RollError (Option Response) → List Entry
  | .ok (some r) =>
    [⟨"DEBUG", "rolled",
      [("actor", r.actor), ("roll", r.dice.text), ("rolls", r.throw.text),
        ("modifier", r.modifier), ("label", r.label), ("total", valueText r.total)]⟩]
  | _ => []

/-- An error that a reply passes over. -/
def ofSilence : Request → Except RollError (Option Response) → List Entry
  | .reply _ actor, .error error =>
    [⟨"WARN", "ignoring roll directive", [("actor", actor), ("error", error.message)]⟩]
  | _, _ => []

/-- A reply leaves an entry, whatever the result. -/
theorem ne_nil_of_reply (text actor : String) (result : Except RollError (Option Response))
    (draws : List Entry) :
    ofAbsence result ++ (draws ++ (ofResponse result ++ ofSilence (.reply text actor) result)) ≠
      [] := by
  cases result with
  | error error => simp [ofSilence]
  | ok response? =>
    cases response? with
    | none => simp [ofAbsence]
    | some response => simp [ofResponse]

end Entry

namespace Bot

variable {σ : Type}

/-- The result of a message, whatever is made of it. -/
def result (bot : Bot σ) (request : Request) (state : σ) : Except RollError (Option Response) :=
  (bot.answer request.text request.actor state).answer

/-- The ranges that the source is asked for while a request is handled. -/
def asking (bot : Bot σ) (request : Request) (state : σ) : List FaceRange :=
  ((Bot.mk bot.source.recorded bot.settings).handle request (state, [])).state.2.reverse

/-- The faces that the source answers while a request is handled. -/
def drawing (bot : Bot σ) (request : Request) (state : σ) : Throw :=
  ⟨(bot.source.drawEach (bot.asking request state) state).1⟩

/-- The log of a request, by its result and the faces that it asked for. -/
structure Told (bot : Bot σ) (request : Request) (state : σ) (log : List Event) : Prop where
  entries : ∃ expression,
    log.map Event.entry = Entry.ofAbsence (bot.result request state) ++
      (Entry.ofDraws (bot.asking request state) expression ++
        (Entry.ofResponse (bot.result request state) ++
          Entry.ofSilence request (bot.result request state))) ∧
    ∀ directive, bot.settings.admitted? request.text = some directive →
      expression = Bot.expression (bot.drawing request state) directive.modifier
  /-- A response has asked for faces, and so stands directly behind its expression. -/
  drawn : ∀ r, bot.result request state = .ok (some r) → bot.asking request state ≠ []
  replied : ∀ text actor, request = .reply text actor → log ≠ []

/-- Handles a request and adds what there is to tell to a log. -/
def perform (bot : Bot σ) (current : σ × List Event) (request : Request) : σ × List Event :=
  let turn := bot.handle request current.1
  (turn.state, current.2 ++ turn.log)

/-! ### One message -/

theorem reply_state (bot : Bot σ) (text actor : String) (state : σ) :
    (bot.reply text actor state).state = (bot.answer text actor state).state := by
  rw [reply]
  split <;> rfl

theorem reply_answer_iff (bot : Bot σ) {text actor line : String} {state : σ} :
    (bot.reply text actor state).answer = some line ↔
      ∃ r, (bot.answer text actor state).answer = .ok (some r) ∧ line = r.text := by
  rw [reply]
  cases answered : (bot.answer text actor state).answer with
  | error error =>
    simp only [reduceCtorEq, false_and, exists_false]
  | ok response? =>
    cases response? with
    | none => simp only [Option.map_none, reduceCtorEq, Except.ok.injEq, false_and, exists_false]
    | some response =>
      simp only [Option.map_some, Option.some.injEq, Except.ok.injEq, exists_eq_left']
      exact eq_comm

theorem asking_eq (bot : Bot σ) (request : Request) (state : σ) :
    bot.asking request state = bot.settings.asks request.text := by
  have left := (Bot.mk bot.source.recorded bot.settings).handle_state request (state, [])
  rw [asking, left, FaceSource.drawEach_recorded, List.append_nil, List.reverse_reverse]

/-- An admitted directive has at least one die to draw for. -/
theorem asks_ne_nil {settings : Settings} {text : String} {directive : Directive}
    (admitted : settings.admitted? text = some directive) : settings.asks text ≠ [] := by
  obtain ⟨found, -⟩ := Settings.admitted?_eq_some_iff.mp admitted
  have dice := (Directive.valid_of_find found).1
  have cost : settings.cost text = directive.dice.count.toNat := by
    rw [Settings.cost, admitted]
  intro nothing
  have none := settings.length_asks text
  rw [nothing, cost, List.length_nil] at none
  omega

/-- The log of an answer, by its result. -/
theorem answer_log (bot : Bot σ) (text actor : String) (state : σ) :
    let turn := bot.answer text actor state
    ∃ expression,
      turn.log.map Event.entry = Entry.ofAbsence turn.answer ++
        (Entry.ofDraws (bot.settings.asks text) expression ++ Entry.ofResponse turn.answer) ∧
      ∀ directive, bot.settings.admitted? text = some directive →
        expression = Bot.expression
          ⟨(bot.source.drawEach (bot.settings.asks text) state).1⟩ directive.modifier := by
  intro turn
  cases admitted : bot.settings.admitted? text with
  | some directive =>
    let throw : Throw := ⟨(bot.source.drawEach (bot.settings.asks text) state).1⟩
    refine ⟨Bot.expression throw directive.modifier, ?_, ?_⟩
    · have answered := bot.answer_of_admitted actor state admitted
      change turn = _ at answered
      rw [answered, Entry.ofDraws, if_neg (asks_ne_nil admitted)]
      cases respond directive throw actor <;> rfl
    · rintro other ⟨⟩
      rfl
  | none =>
    -- Nothing is drawn, and the log depends on where the message was given up.
    refine ⟨"", ?_, nofun⟩
    rw [asks_of_not_admitted admitted]
    cases found : Directive.find text with
    | error error =>
      simp only [turn, answer, found]
      rfl
    | ok directive? =>
      cases directive? with
      | none =>
        simp only [turn, answer, found]
        rfl
      | some directive =>
        cases checked : bot.settings.check directive.dice with
        | error error =>
          simp only [turn, answer, found, checked]
          rfl
        | ok passed =>
          have within := Settings.admitted?_eq_some_iff.mpr
            ⟨found, Settings.check_eq_ok_iff.mp checked⟩
          rw [admitted] at within
          cases within

/-- A reply adds a warning to the log if the result is an error, and nothing else. -/
theorem handle_log (bot : Bot σ) (request : Request) (state : σ) :
    (bot.handle request state).log.map Event.entry =
      (bot.answer request.text request.actor state).log.map Event.entry ++
        Entry.ofSilence request (bot.result request state) := by
  cases request with
  | answer text actor => exact (List.append_nil _).symm
  | reply text actor =>
    simp only [handle, reply, result, Request.text, Request.actor]
    cases (bot.answer text actor state).answer with
    | ok response => exact (List.append_nil _).symm
    | error error => rw [List.map_append]; rfl

theorem handle_told (bot : Bot σ) (request : Request) (state : σ) :
    bot.Told request state (bot.handle request state).log := by
  obtain ⟨expression, written, value⟩ := bot.answer_log request.text request.actor state
  have entries := bot.handle_log request state
  rw [written, List.append_assoc, List.append_assoc] at entries
  constructor
  case entries =>
    refine ⟨expression, ?_, ?_⟩
    · rw [asking_eq]
      exact entries
    · rw [drawing, asking_eq]
      exact value
  case drawn =>
    intro r answered
    rw [asking_eq]
    intro nothing
    cases admitted : bot.settings.admitted? request.text with
    | some directive => exact asks_ne_nil admitted nothing
    | none =>
      obtain ⟨passed, log, free⟩ := answer_of_not_admitted request.actor admitted
      rw [result, free] at answered
      cases passed <;> cases answered
  case replied =>
    rintro text actor rfl nothing
    rw [nothing, List.map_nil] at entries
    exact Entry.ne_nil_of_reply text actor _ _ entries.symm

/-! ### Runs -/

theorem perform_run (bot : Bot σ) (requests : List Request) (state : σ) (log : List Event) :
    requests.foldl bot.perform (state, log) =
      ((bot.source.drawEach (bot.settings.asked requests) state).2,
        log ++ (bot.converse requests state).flatMap Turn.log) := by
  induction requests generalizing state log with
  | nil => rw [converse, List.flatMap_nil, List.append_nil]; rfl
  | cons request requests ih =>
    have asked : bot.settings.asked (request :: requests) =
        bot.settings.asks request.text ++ bot.settings.asked requests := List.flatMap_cons
    rw [List.foldl_cons, perform, ih, converse, List.flatMap_cons, asked,
      FaceSource.drawEach_append, bot.handle_state, List.append_assoc]

/-- A reply draws what an answer draws, and its line is that of the response, if there is one. A run
tells one log what its messages tell, one after the other, and what each of them tells is decided by
its result, the faces that it asked for and the way in which it is handled. -/
theorem log_tells_outcome (bot : Bot σ) :
    (∀ text actor state,
      (bot.reply text actor state).state = (bot.answer text actor state).state ∧
      ∀ line, (bot.reply text actor state).answer = some line ↔
        ∃ r, (bot.answer text actor state).answer = .ok (some r) ∧ line = r.text) ∧
    ∀ requests state log,
      (requests.foldl bot.perform (state, log)).2 =
        log ++ (bot.converse requests state).flatMap Turn.log ∧
      ∀ i request, requests[i]? = some request → ∃ turn,
        (bot.converse requests state)[i]? = some turn ∧
        bot.Told request ((requests.take i).foldl bot.perform (state, log)).1 turn.log := by
  refine ⟨?_, ?_⟩
  · intro text actor state
    exact ⟨bot.reply_state text actor state, fun _ => bot.reply_answer_iff⟩
  · intro requests state log
    refine ⟨by rw [perform_run], ?_⟩
    intro i request found
    rw [converse_getElem?, found, perform_run]
    exact ⟨_, rfl, bot.handle_told request _⟩

/-- A division by zero costs a face and leaves two entries, and the throw behind it is told of with
the line that it is answered with. -/
theorem log_tells_outcome_division :
    let bot : Bot Unit := ⟨FaceSource.highest, {}⟩
    let division := Request.reply "[1d6/0 hex]" "Bo"
    let damage := Request.reply "[2d6+3 fire damage]" "Bo"
    let requests := [.answer "hello" "Bo", division, damage]
    requests[1]? = some division ∧ requests[2]? = some damage ∧
      (∃ turn, (bot.converse requests ())[1]? = some turn ∧ bot.Told division () turn.log ∧
        turn.log ≠ []) ∧
      (∃ turn, (bot.converse requests ())[2]? = some turn ∧ bot.Told damage () turn.log ∧
        bot.asking damage () ≠ []) ∧
      (bot.reply damage.text damage.actor ()).answer =
        some "Bo → (6,6) +3 → \"fire damage\" → **15**" ∧
      (requests.foldl bot.perform ((), [])).2.map Event.entry =
        [⟨"TRACE", "message holds no directive", []⟩,
          ⟨"TRACE", "evaluating roll expression", [("expression", "6 /0")]⟩,
          ⟨"WARN", "ignoring roll directive", [("actor", "Bo"),
            ("error", "Numeric overflow: `6 /0` evaluates to inf")]⟩,
          ⟨"TRACE", "evaluating roll expression", [("expression", "12 +3")]⟩,
          ⟨"DEBUG", "rolled", [("actor", "Bo"), ("roll", "2d6"), ("rolls", "6,6"),
            ("modifier", "+3"), ("label", "fire damage"), ("total", "15")]⟩] := by
  intro bot division damage requests
  obtain ⟨replies, runs⟩ := bot.log_tells_outcome
  obtain ⟨whole, turns⟩ := runs requests () []
  obtain ⟨turn, found, told⟩ := turns 1 division rfl
  obtain ⟨turn', found', told'⟩ := turns 2 damage rfl
  -- This source has only one state.
  rw [Subsingleton.elim ((requests.take 2).foldl bot.perform ((), [])).1 ()] at told'
  let response : Response := ⟨"Bo", ⟨6, 2⟩, ⟨[6, 6]⟩, "+3", "fire damage", 15⟩
  have answered : bot.result damage () = .ok (some response) := by decide +kernel
  have line : some response.text = some "Bo → (6,6) +3 → \"fire damage\" → **15**" := by
    decide +kernel
  have drawn : bot.asking damage () ≠ [] := told'.drawn response answered
  refine ⟨rfl, rfl, ⟨turn, found, told, told.replied _ _ rfl⟩, ⟨turn', found', told', drawn⟩,
    ?_, ?_⟩
  · exact (((replies _ _ ()).2 _).mpr ⟨response, answered, rfl⟩).trans line
  · rw [whole]
    decide +kernel

end Bot
end DiceChat
