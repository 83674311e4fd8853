import DiceChat.Bot
import DiceChat.Proofs.Directive.Format
import DiceChat.Proofs.Source.Drawing

/-!
# The faces that messages cost

A message is paid for in faces before its modifier is looked at: all dice of a directive within the
limits, and nothing for any other message. So the faces that a message gets are those that the
messages before it have left, whatever became of their modifiers.

## Main results

* `Bot.handle_state`, `Bot.handle_dealt`: one message draws its faces, and depends on the source in
  nothing else.
* `Bot.converse_getElem?`: the state in which a turn of a conversation starts.
* `Bot.converse_accounts`: which faces go to which message of a conversation, and that messages
  without a price can come and go.

## Proof strategy

One message is followed on a source that deals a list of faces. Every source, the recorded one
included, answers a message as the dealt faces do, so the run lemmas are proved once.
-/

namespace DiceChat

def Request.text : Request → String
  | .answer text _ => text
  | .reply text _ => text

def Request.actor : Request → String
  | .answer _ actor => actor
  | .reply _ actor => actor

/-- The same turn with another state left behind. -/
def Turn.mapState {σ τ α : Type} (f : σ → τ) (turn : Turn σ α) : Turn τ α :=
  ⟨turn.answer, turn.log, f turn.state⟩

namespace Settings

/-- The directive of a message, if its dice are within the limits. -/
def admitted? (settings : Settings) (text : String) : Option Directive :=
  match Directive.find text with
  | .ok (some directive) =>
    if directive.dice.count ≤ settings.maxDice ∧ directive.dice.sides ≤ settings.maxSides then
      some directive
    else none
  | _ => none

/-- The number of faces that a message costs. -/
def cost (settings : Settings) (text : String) : Nat :=
  match settings.admitted? text with
  | some directive => directive.dice.count.toNat
  | none => 0

/-- The ranges of faces that a message asks for. -/
def asks (settings : Settings) (text : String) : List FaceRange :=
  match settings.admitted? text with
  | some directive =>
    List.replicate (settings.cost text) (settings.faceBound.faces directive.dice.sides)
  | none => []

/-- The ranges of faces that a conversation asks for. -/
def asked (settings : Settings) (requests : List Request) : List FaceRange :=
  requests.flatMap fun request => settings.asks request.text

variable {settings : Settings} {text : String} {directive : Directive}

theorem admitted?_eq_some_iff : settings.admitted? text = some directive ↔
    Directive.find text = .ok (some directive) ∧
      directive.dice.count ≤ settings.maxDice ∧ directive.dice.sides ≤ settings.maxSides := by
  unfold admitted?
  constructor
  · intro admitted
    split at admitted
    next found =>
      split at admitted
      next within =>
        cases admitted
        exact ⟨found, within⟩
      next => cases admitted
    next => cases admitted
  · rintro ⟨found, within⟩
    rw [found]
    exact if_pos within

theorem check_eq_ok_iff {dice : Dice} : settings.check dice = .ok () ↔
    dice.count ≤ settings.maxDice ∧ dice.sides ≤ settings.maxSides := by
  unfold check
  constructor
  · intro passed
    split at passed
    · cases passed
    next count =>
      split at passed
      · cases passed
      next sides => exact ⟨UInt32.not_lt.mp count, UInt32.not_lt.mp sides⟩
  · rintro ⟨count, sides⟩
    rw [if_neg (UInt32.not_lt.mpr count), if_neg (UInt32.not_lt.mpr sides)]

theorem length_asks (settings : Settings) (text : String) :
    (settings.asks text).length = settings.cost text := by
  unfold asks
  split
  next => exact List.length_replicate
  next none => rw [cost, none, List.length_nil]

theorem length_asked (settings : Settings) (requests : List Request) :
    (settings.asked requests).length =
      (requests.map fun request => settings.cost request.text).sum := by
  simp only [asked, List.length_flatMap, length_asks]

/-- A range that is asked for is that of dice within the limits. -/
theorem within_of_mem_asks {range : FaceRange} (member : range ∈ settings.asks text) :
    ∃ directive, Directive.find text = .ok (some directive) ∧
      range = settings.faceBound.faces directive.dice.sides ∧
      range.low = 1 ∧ 1 ≤ range.high ∧ range.high ≤ settings.maxSides := by
  unfold asks at member
  split at member
  next directive admitted =>
    obtain ⟨found, -, sides⟩ := admitted?_eq_some_iff.mp admitted
    obtain ⟨-, positive, -⟩ := Directive.valid_of_find found
    obtain ⟨low, filled, high⟩ := settings.faceBound.faces_within positive
    obtain rfl := List.eq_of_mem_replicate member
    exact ⟨directive, found, rfl, low, filled, UInt32.le_trans high sides⟩
  next => cases member

end Settings

namespace Bot

variable {σ : Type}

/-! ### One message -/

/-- What the log is told of a throw. -/
def told (directive : Directive) (throw : Throw) (result : Except RollError Response) :
    List Event :=
  .evaluating (expression throw directive.modifier) ::
    match result with
    | .ok response => [.rolled response]
    | .error _ => []

theorem answer_of_admitted (bot : Bot σ) {text : String} (actor : String) (state : σ)
    {directive : Directive} (admitted : bot.settings.admitted? text = some directive) :
    let drawn := bot.source.drawEach (bot.settings.asks text) state
    let result := respond directive ⟨drawn.1⟩ actor
    bot.answer text actor state =
      ⟨result.map some, told directive ⟨drawn.1⟩ result, drawn.2⟩ := by
  obtain ⟨found, within⟩ := Settings.admitted?_eq_some_iff.mp admitted
  have passed := Settings.check_eq_ok_iff.mpr within
  have asks : bot.settings.asks text =
      List.replicate directive.dice.count.toNat (directive.dice.faces bot.settings.faceBound) := by
    rw [Settings.asks, Settings.cost, admitted]
    rfl
  rw [asks]
  simp only [answer, found, passed, Dice.throw, FaceSource.drawMany]
  -- The modifier is evaluated when all faces have been drawn, so both outcomes cost the same.
  split
  next error failed =>
    rw [failed]
    rfl
  next response done =>
    rw [done]
    rfl

/-- A message that costs nothing gets no response, and the source is not asked. -/
theorem answer_of_not_admitted {settings : Settings} {text : String} (actor : String)
    (refused : settings.admitted? text = none) :
    ∃ (passed : Except RollError Unit) (log : List Event),
      ∀ (σ : Type) (source : FaceSource σ) (state : σ),
        (Bot.mk source settings).answer text actor state =
          ⟨passed.map fun _ => none, log, state⟩ := by
  cases found : Directive.find text with
  | error error =>
    refine ⟨.error error, [], ?_⟩
    intro σ source state
    simp only [answer, found]
    rfl
  | ok directive? =>
    cases directive? with
    | none =>
      refine ⟨.ok (), [.noDirective], ?_⟩
      intro σ source state
      simp only [answer, found]
      rfl
    | some directive =>
      cases checked : settings.check directive.dice with
      | error error =>
        refine ⟨.error error, [], ?_⟩
        intro σ source state
        simp only [answer, found, checked]
        rfl
      | ok passed =>
        -- What passes the check is admitted.
        have admitted := Settings.admitted?_eq_some_iff.mpr
          ⟨found, Settings.check_eq_ok_iff.mp checked⟩
        rw [refused] at admitted
        cases admitted

theorem asks_of_not_admitted {settings : Settings} {text : String}
    (refused : settings.admitted? text = none) : settings.asks text = [] := by
  rw [Settings.asks, refused]

/-- A message leaves the source as drawing its faces leaves it. -/
theorem answer_state (bot : Bot σ) (text actor : String) (state : σ) :
    (bot.answer text actor state).state =
      (bot.source.drawEach (bot.settings.asks text) state).2 := by
  cases admitted : bot.settings.admitted? text with
  | some directive => rw [bot.answer_of_admitted actor state admitted]
  | none =>
    obtain ⟨passed, log, free⟩ := answer_of_not_admitted actor admitted
    rw [free, asks_of_not_admitted admitted]
    rfl

/-- A message is answered as if its faces were dealt to it, and no face is left over. -/
theorem answer_dealt (bot : Bot σ) (text actor : String) (state : σ) :
    (Bot.mk FaceSource.dealt bot.settings).answer text actor
        (bot.source.drawEach (bot.settings.asks text) state).1 =
      (bot.answer text actor state).mapState fun _ => [] := by
  have dealt := FaceSource.drawEach_dealt
    (bot.source.length_drawEach (bot.settings.asks text) state)
  cases admitted : bot.settings.admitted? text with
  | some directive =>
    -- On dealt faces the draw gives just these faces.
    have alone := (Bot.mk FaceSource.dealt bot.settings).answer_of_admitted actor
      (bot.source.drawEach (bot.settings.asks text) state).1 admitted
    simp only [dealt] at alone
    rw [bot.answer_of_admitted actor state admitted, alone]
    rfl
  | none =>
    obtain ⟨passed, log, free⟩ := answer_of_not_admitted actor admitted
    rw [free, free, asks_of_not_admitted admitted]
    rfl

theorem reply_eq_of_answer {τ : Type} {bot : Bot σ} {other : Bot τ} {text actor : String}
    {state : σ} {otherState : τ} {f : σ → τ}
    (same : other.answer text actor otherState = (bot.answer text actor state).mapState f) :
    other.reply text actor otherState = (bot.reply text actor state).mapState f := by
  simp only [reply, same, Turn.mapState]
  split <;> rfl

theorem handle_state (bot : Bot σ) (request : Request) (state : σ) :
    (bot.handle request state).state =
      (bot.source.drawEach (bot.settings.asks request.text) state).2 := by
  cases request with
  | answer text actor => exact bot.answer_state text actor state
  | reply text actor =>
    have left := bot.answer_state text actor state
    simp only [handle, reply]
    split <;> exact left

theorem handle_dealt (bot : Bot σ) (request : Request) (state : σ) :
    (Bot.mk FaceSource.dealt bot.settings).handle request
        (bot.source.drawEach (bot.settings.asks request.text) state).1 =
      (bot.handle request state).mapState fun _ => [] := by
  cases request with
  | answer text actor =>
    simp only [handle, Request.text, bot.answer_dealt text actor state]
    rfl
  | reply text actor =>
    have same := reply_eq_of_answer (bot.answer_dealt text actor state)
    simp only [handle, Request.text, same]
    rfl

/-- Sources that answer the ranges of a message with the same faces get the same answer for it. -/
theorem handle_eq_of_drawn {τ : Type} (bot : Bot σ) (source : FaceSource τ) (request : Request)
    (state : σ) (otherState : τ)
    (same : (source.drawEach (bot.settings.asks request.text) otherState).1 =
      (bot.source.drawEach (bot.settings.asks request.text) state).1) :
    (Bot.mk source bot.settings).handle request otherState =
      (bot.handle request state).mapState fun _ =>
        (source.drawEach (bot.settings.asks request.text) otherState).2 := by
  -- Both are what the dealt faces give.
  have here := bot.handle_dealt request state
  have there := (Bot.mk source bot.settings).handle_dealt request otherState
  have left := (Bot.mk source bot.settings).handle_state request otherState
  simp only [same] at there
  rw [here] at there
  simp only [Turn.mapState, Turn.mk.injEq, and_true] at there
  rw [Turn.mapState, there.1, there.2, ← left]

/-! ### Conversations -/

/-- A turn starts where drawing for all turns before it leaves the source. -/
theorem converse_getElem? (bot : Bot σ) (requests : List Request) (state : σ) (i : Nat) :
    (bot.converse requests state)[i]? = requests[i]?.map fun request =>
      bot.handle request (bot.source.drawEach (bot.settings.asked (requests.take i)) state).2 := by
  induction requests generalizing state i with
  | nil => rfl
  | cons request requests ih =>
    cases i with
    | zero => rfl
    | succ i =>
      -- Drawing for the first message and then for the others is drawing for all of them.
      have parted : bot.settings.asked ((request :: requests).take (i + 1)) =
          bot.settings.asks request.text ++ bot.settings.asked (requests.take i) := by
        rw [List.take_succ_cons, Settings.asked, List.flatMap_cons]
        rfl
      rw [converse, List.getElem?_cons_succ, List.getElem?_cons_succ, ih, parted,
        FaceSource.drawEach_append, bot.handle_state]

/-- The faces of a message stand behind those of the messages before it. -/
theorem drawn_slice (bot : Bot σ) {requests : List Request} (state : σ) {i : Nat}
    {request : Request} (found : requests[i]? = some request) :
    let before := (bot.source.drawEach (bot.settings.asked (requests.take i)) state).2
    (bot.source.drawEach (bot.settings.asks request.text) before).1 =
      ((bot.source.drawEach (bot.settings.asked requests) state).1.drop
        ((requests.take i).map fun request => bot.settings.cost request.text).sum).take
          (bot.settings.cost request.text) := by
  obtain ⟨inside, rfl⟩ := List.getElem?_eq_some_iff.mp found
  have parted : bot.settings.asked requests =
      bot.settings.asked (requests.take i) ++
        (bot.settings.asks requests[i].text ++ bot.settings.asked (requests.drop (i + 1))) := by
    have parts : requests = requests.take i ++ requests[i] :: requests.drop (i + 1) := by
      rw [← List.drop_eq_getElem_cons inside, List.take_append_drop]
    calc bot.settings.asked requests
      _ = bot.settings.asked (requests.take i ++ requests[i] :: requests.drop (i + 1)) := by
        rw [← parts]
      _ = _ := by
        simp only [Settings.asked, List.flatMap_append, List.flatMap_cons]
  -- The answers are those before, those of the message and those after.
  rw [parted, FaceSource.drawEach_append, FaceSource.drawEach_append,
    ← Settings.length_asked, ← bot.source.length_drawEach _ state, List.drop_left,
    ← Settings.length_asks, ← bot.source.length_drawEach (bot.settings.asks requests[i].text),
    List.take_left]

/-- The recorded source is asked for the ranges of the messages, in their order, and answers as
before. -/
theorem converse_recorded (bot : Bot σ) (requests : List Request) (state : σ) (i : Nat) :
    ((Bot.mk bot.source.recorded bot.settings).converse requests (state, []))[i]? =
      (bot.converse requests state)[i]?.map fun turn =>
        turn.mapState fun inner =>
          (inner, (bot.settings.asked (requests.take (i + 1))).reverse) := by
  rw [converse_getElem?, converse_getElem?]
  cases found : requests[i]? with
  | none => rfl
  | some request =>
    obtain ⟨inside, rfl⟩ := List.getElem?_eq_some_iff.mp found
    have history : bot.settings.asked (requests.take (i + 1)) =
        bot.settings.asked (requests.take i) ++ bot.settings.asks requests[i].text := by
      rw [List.take_succ_eq_append_getElem inside, Settings.asked, List.flatMap_append]
      simp only [Settings.asked, List.flatMap_singleton]
    -- The recorded source starts the turn in the state of the other, with the history so far.
    let before := (bot.source.drawEach (bot.settings.asked (requests.take i)) state).2
    let past := (bot.settings.asked (requests.take i)).reverse
    have same := bot.handle_eq_of_drawn bot.source.recorded requests[i] before (before, past)
      (by rw [FaceSource.drawEach_recorded])
    simp only [Option.map_some, FaceSource.drawEach_recorded, List.append_nil]
    rw [same, FaceSource.drawEach_recorded, history, List.reverse_append]
    simp only [Turn.mapState, handle_state, before, past]

theorem handle_state_of_free (bot : Bot σ) {request : Request} (state : σ)
    (free : bot.settings.cost request.text = 0) : (bot.handle request state).state = state := by
  rw [← Settings.length_asks, List.length_eq_zero_iff] at free
  rw [handle_state, free]
  rfl

/-- Messages that cost nothing can be left out anywhere: the turns of the others stay. -/
theorem converse_kept (bot : Bot σ) {marked : List (Request × Bool)} (state : σ)
    (free : ∀ m ∈ marked, m.2 = false → bot.settings.cost m.1.text = 0) :
    bot.converse ((marked.filter Prod.snd).map Prod.fst) state =
      (((bot.converse (marked.map Prod.fst) state).zip marked).filter fun t => t.2.2).map
        Prod.fst := by
  induction marked generalizing state with
  | nil => rfl
  | cons m marked ih =>
    obtain ⟨request, kept⟩ := m
    obtain ⟨here, later⟩ := List.forall_mem_cons.mp free
    cases kept with
    | true =>
      simp only [List.filter_cons_of_pos, List.map_cons, converse, List.zip_cons_cons]
      rw [ih _ later]
    | false =>
      -- The message is left out, and the next one starts in the same state.
      have unchanged := bot.handle_state_of_free state (here rfl)
      simp only [List.map_cons, converse, List.zip_cons_cons, unchanged]
      rw [List.filter_cons_of_neg Bool.false_ne_true,
        List.filter_cons_of_neg Bool.false_ne_true, ih _ later]

end Bot

/-- The faces that the outcome of a request shows are `faces`, and a line is that of the response
which the request gets when these are dealt. An outcome without response shows none. -/
def Outcome.Shows (settings : Settings) (request : Request) (faces : List UInt32) : Outcome → Prop
  | .answered (.ok (some response)) => response.throw.faces = faces
  | .replied (some line) => ∃ response,
    ((Bot.mk FaceSource.dealt settings).answer request.text request.actor faces).answer =
        .ok (some response) ∧
      line = response.text ∧ response.throw.faces = faces
  | _ => True

namespace Bot

variable {σ : Type}

theorem throw_of_respond {directive : Directive} {throw : Throw} {actor : String}
    {response : Response} (responded : respond directive throw actor = .ok response) :
    response.throw = throw := by
  simp only [respond] at responded
  split at responded
  · cases responded
  · split at responded
    · cases responded
      rfl
    · cases responded

theorem throw_of_answer (bot : Bot σ) {text actor : String} {state : σ} {response : Response}
    (answered : (bot.answer text actor state).answer = .ok (some response)) :
    response.throw.faces = (bot.source.drawEach (bot.settings.asks text) state).1 := by
  cases admitted : bot.settings.admitted? text with
  | some directive =>
    rw [bot.answer_of_admitted actor state admitted] at answered
    cases responded : respond directive
        ⟨(bot.source.drawEach (bot.settings.asks text) state).1⟩ actor with
    | error error =>
      rw [responded] at answered
      cases answered
    | ok found =>
      rw [responded] at answered
      cases answered
      rw [throw_of_respond responded]
  | none =>
    -- A message without a price gets no response at all.
    obtain ⟨passed, log, free⟩ := answer_of_not_admitted actor admitted
    rw [free] at answered
    cases passed <;> cases answered

theorem handle_shows (bot : Bot σ) (request : Request) (state : σ) :
    (bot.handle request state).answer.Shows bot.settings request
      (bot.source.drawEach (bot.settings.asks request.text) state).1 := by
  cases request with
  | answer text actor =>
    simp only [handle, Request.text]
    cases answered : (bot.answer text actor state).answer with
    | error error => trivial
    | ok response? =>
      cases response? with
      | none => trivial
      | some response => exact bot.throw_of_answer answered
  | reply text actor =>
    simp only [handle, reply, Request.text]
    cases answered : (bot.answer text actor state).answer with
    | error error => trivial
    | ok response? =>
      cases response? with
      | none => trivial
      | some response =>
        -- The faces that were drawn give the same response when they are dealt.
        have dealt := bot.answer_dealt text actor state
        exact ⟨response, (congrArg Turn.answer dealt).trans answered, rfl,
          bot.throw_of_answer answered⟩

/-- In every conversation with every source, each message asks for as many faces as it costs, all
from the faces of its own dice, and gets those that the messages before it have left. The rest of
the source does not matter to it. Messages that cost nothing can come and go between the others. -/
theorem converse_accounts (bot : Bot σ) (requests : List Request) (state : σ) :
    (∀ i request, requests[i]? = some request → ∃ turn faces,
      (bot.converse requests state)[i]? = some turn ∧
      faces = ((bot.source.drawEach (bot.settings.asked requests) state).1.drop
        ((requests.take i).map fun request => bot.settings.cost request.text).sum).take
          (bot.settings.cost request.text) ∧
      faces.length = bot.settings.cost request.text ∧
      ((Bot.mk bot.source.recorded bot.settings).converse requests (state, []))[i]? =
        some (turn.mapState fun inner =>
          (inner, (bot.settings.asked (requests.take (i + 1))).reverse)) ∧
      (Bot.mk FaceSource.dealt bot.settings).handle request faces = turn.mapState (fun _ => []) ∧
      turn.answer.Shows bot.settings request faces) ∧
    (∀ text, (bot.settings.asks text).length = bot.settings.cost text ∧
      ∀ range ∈ bot.settings.asks text, ∃ directive,
        Directive.find text = .ok (some directive) ∧
        range = bot.settings.faceBound.faces directive.dice.sides ∧
        range.low = 1 ∧ 1 ≤ range.high ∧ range.high ≤ bot.settings.maxSides) ∧
    ∀ marked : List (Request × Bool),
      (∀ m ∈ marked, m.2 = false → bot.settings.cost m.1.text = 0) →
      bot.converse ((marked.filter Prod.snd).map Prod.fst) state =
        (((bot.converse (marked.map Prod.fst) state).zip marked).filter fun t => t.2.2).map
          Prod.fst := by
  refine ⟨?_, ?_, ?_⟩
  · intro i request found
    let before := (bot.source.drawEach (bot.settings.asked (requests.take i)) state).2
    have turn : (bot.converse requests state)[i]? = some (bot.handle request before) := by
      rw [converse_getElem?, found]
      rfl
    have recorded := bot.converse_recorded requests state i
    rw [turn] at recorded
    have enough : (bot.source.drawEach (bot.settings.asks request.text) before).1.length =
        bot.settings.cost request.text := by
      rw [FaceSource.length_drawEach, Settings.length_asks]
    exact ⟨_, _, turn, bot.drawn_slice state found, enough, recorded,
      bot.handle_dealt request before, bot.handle_shows request before⟩
  · intro text
    refine ⟨bot.settings.length_asks text, ?_⟩
    intro range member
    exact Settings.within_of_mem_asks member
  · intro marked free
    exact bot.converse_kept state free

/-- A greeting costs nothing, and the dice behind it get the first faces. -/
theorem converse_accounts_greeting :
    let bot : Bot (List UInt32) := ⟨FaceSource.dealt, {}⟩
    let greeting := Request.answer "hello" "Bo"
    let roll := Request.reply "[2d6+3 fire damage]" "Bo"
    (∃ turn, (bot.converse [greeting, roll] [4, 5, 6])[1]? = some turn ∧
      turn.answer.Shows {} roll [4, 5]) ∧
    bot.converse [roll] [4, 5, 6] = (bot.converse [greeting, roll] [4, 5, 6]).tail := by
  intro bot greeting roll
  obtain ⟨slices, -, deletions⟩ := bot.converse_accounts [greeting, roll] [4, 5, 6]
  constructor
  · -- The greeting is the only message before the dice, and it costs nothing.
    obtain ⟨turn, faces, found, slice, -, -, -, shows⟩ := slices 1 roll rfl
    have drawn : faces = [4, 5] := by
      rw [slice]
      decide +kernel
    subst drawn
    exact ⟨turn, found, shows⟩
  · have free : bot.settings.cost greeting.text = 0 := by decide +kernel
    refine deletions [(greeting, false), (roll, true)] ?_
    rw [List.forall_mem_cons, List.forall_mem_cons]
    exact ⟨fun _ => free, nofun, nofun⟩

end Bot
end DiceChat
