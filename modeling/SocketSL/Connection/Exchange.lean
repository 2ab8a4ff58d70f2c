import SocketSL.Connection.Conversation
import SocketSL.Lib.Interleaving
import SocketSL.Network.Handlers
import SocketSL.Router

/-!
# Sessions that route and answer

Two endpoints whose sessions pass what they read to a `message_router`.  The
handlers change the application's state and hand messages to `async_send` on
the session's socket, one locked section each, before the next read is issued;
users of either endpoint send at any time.  In every interleaving a session has
done what a plain loop over the received messages does, and what it has sent is
what that loop sends, mixed with what the users send.
-/

namespace SocketSL.Exchange

open SocketSL.Lib
open SocketSL.Network (BoostTcpSocket)
open SocketSL.Session (Pipe Move application asyncSend)
open SocketSL.Conversation (Side pong)

variable {App : Type}

/-- What a handler acts on: the application, and the messages the call hands to
`async_send`. -/
structure Turn (App : Type) where
  app : App
  sent : List Message := []

abbrev Service (App : Type) := List (MessageInfo Unit (Turn App))

/-- What a session has done with the messages it has received; `unknown` lists
the ids it has reported as unknown. -/
structure Served (App : Type) where
  app : App
  sent : List Message := []
  unknown : List UInt8 := []

namespace Served

variable (schema : Schema) (service : Service App)

/-- `handle_message` of a session with a router. -/
def handleMessage (served : Served App) (id : UInt8) (body : List UInt8) : Served App :=
  let (known, turn) := MessageRouter.dispatch service id () body { app := served.app }
  { app := turn.app
    sent := served.sent ++ turn.sent
    unknown := if known then served.unknown else served.unknown ++ [id] }

/-- What the callback of a completed read makes the session do. -/
def react (served : Served App) : Event → Served App
  | .reply _ => { served with sent := served.sent ++ [pong schema] }
  | .deliver id body => served.handleMessage service id body
  | _ => served

/-- The plain loop over the received messages. -/
def serve (app : App) (messages : List (UInt8 × List UInt8)) : Served App :=
  messages.foldl (fun served message => served.handleMessage service message.1 message.2) { app }

/-- The application messages among those sent. -/
def replies (served : Served App) : List Message :=
  served.sent.filter fun message => !message.isSystem

/-- Two sessions that differ in the pongs they have sent only. -/
structure Agrees (served other : Served App) : Prop where
  app : served.app = other.app
  replies : served.replies = other.replies
  unknown : served.unknown = other.unknown

variable {schema service} {served other : Served App}

theorem Agrees.refl (served : Served App) : served.Agrees served := ⟨rfl, rfl, rfl⟩

theorem Agrees.handleMessage (agrees : served.Agrees other) (id : UInt8) (body : List UInt8) :
    (served.handleMessage service id body).Agrees (other.handleMessage service id body) := by
  obtain ⟨app, repliesEq, unknown⟩ := agrees
  refine ⟨?_, ?_, ?_⟩
  · simp only [Served.handleMessage, app]
  · simp only [Served.replies] at repliesEq
    simp only [Served.handleMessage, Served.replies, List.filter_append, app, repliesEq]
  · simp only [Served.handleMessage, app, unknown]

/-- The events of a session's reads amount to the messages they deliver. -/
theorem Agrees.foldl_react (agrees : served.Agrees other) (events : List Event) :
    (events.foldl (react schema service) served).Agrees
      ((deliveries events).foldl
        (fun served message => served.handleMessage service message.1 message.2) other) := by
  induction events generalizing served other with
  | nil => exact agrees
  | cons event events inductionHypothesis =>
      cases event with
      | deliver id body => exact inductionHypothesis (agrees.handleMessage id body)
      | reply message =>
          refine inductionHypothesis ⟨agrees.app, ?_, agrees.unknown⟩
          have same := agrees.replies
          simp only [Served.replies] at same
          simp [react, Served.replies, pong, same]
      | allocate size => exact inductionHypothesis agrees
      | read size => exact inductionHypothesis agrees
      | fail => exact inductionHypothesis agrees

theorem sent_isPrefix_foldl_react (served : Served App) (events : List Event) :
    served.sent <+: (events.foldl (react schema service) served).sent := by
  induction events generalizing served with
  | nil => exact List.prefix_rfl
  | cons event events inductionHypothesis =>
      refine List.IsPrefix.trans ?_ (inductionHypothesis (served.react schema service event))
      cases event with
      | deliver id body => exact List.prefix_append _ _
      | reply message => exact List.prefix_append _ _
      | _ => exact List.prefix_rfl

end Served

/-- How an endpoint is set up. -/
structure Settings (App : Type) where
  maxMessageSize : Nat := 0
  maxPendingWrites : Nat := 0
  service : Service App
  app : App

/-- An endpoint: the stream it sends with the peer's reader at its end, what
its session has done and how much of what the handlers sent has been handed to
the socket; `users` lists what was sent from outside the handlers. -/
structure Party (App : Type) where
  pipe : Pipe
  served : Served App
  posted : Nat := 0
  users : List Message := []

abbrev Parties (App : Type) := Side → Party App

variable (schema : Schema) (settings : Side → Settings App)

/-- Both sockets are connected and both sessions have been started. -/
def connected : Parties App := fun side =>
  { pipe := Session.connected (settings side).maxPendingWrites
    served := { app := (settings side).app } }

inductive Action where
  | send (side : Side) (message : Message) (hasHandler : Bool)
  | post (side : Side)
  | write (side : Side) (move : Move)
  | arrive (side : Side) (count : Nat)
  | read (side : Side)
  | readError (side : Side)

/-- The endpoint's own stream moves. -/
def convey (parties : Parties App) (side : Side) (move : Move) : Option Pipe :=
  Session.move schema (settings side.other).maxMessageSize (parties side).pipe move

/-- A read of the endpoint's session, on the peer's stream. -/
def hear (parties : Parties App) (side : Side) (move : Move) : Option Pipe :=
  Session.move schema (settings side).maxMessageSize (parties side.other).pipe move

/-- The callback of the read has run. -/
def turn (parties : Parties App) (side : Side) (pipe : Pipe) : Parties App :=
  let events := pipe.events.drop (parties side.other).pipe.events.length
  Function.update (Function.update parties side.other { parties side.other with pipe }) side
    { parties side with
      served := events.foldl (Served.react schema (settings side).service) (parties side).served }

/-- The next read completes after the handlers of the last one have handed
over what they send. -/
def step (parties : Parties App) : Action → Option (Parties App)
  | .send side message hasHandler =>
      (convey schema settings parties side (.send message hasHandler)).map fun pipe =>
        Function.update parties side
          { parties side with pipe, users := (parties side).users ++ [message] }
  | .post side =>
      match (parties side).served.sent[(parties side).posted]? with
      | none => none
      | some message =>
          (convey schema settings parties side (.send message true)).map fun pipe =>
            Function.update parties side
              { parties side with pipe, posted := (parties side).posted + 1 }
  | .write side move =>
      if move.isWrite then
        (convey schema settings parties side move).map fun pipe =>
          Function.update parties side { parties side with pipe }
      else none
  | .arrive side count =>
      (convey schema settings parties side (.arrive count)).map fun pipe =>
        Function.update parties side { parties side with pipe }
  | .read side =>
      if (parties side).posted = (parties side).served.sent.length then
        (hear schema settings parties side .read).map (turn schema settings parties side)
      else none
  | .readError side =>
      if (parties side).posted = (parties side).served.sent.length then
        (hear schema settings parties side .readError).map (turn schema settings parties side)
      else none

/-- A stream whose queue drops messages only when it is capped. -/
structure Conveys (maxMessageSize maxPendingWrites : Nat) (pipe : Pipe) : Prop
    extends pipe.Aligned schema maxMessageSize where
  cap : pipe.sender.maxPendingWrites = maxPendingWrites
  subset : pipe.accepted.Sublist pipe.offered
  whole : maxPendingWrites = 0 → pipe.accepted = pipe.offered

section Conveys

variable {schema} {maxMessageSize maxPendingWrites : Nat} {pipe next : Pipe}

theorem Conveys.connected :
    Conveys schema maxMessageSize maxPendingWrites (Session.connected maxPendingWrites) where
  toAligned := .initial maxPendingWrites
  cap := rfl
  subset := .slnil
  whole _ := rfl

theorem asyncSend_accepted (socket : BoostTcpSocket) (message : Message) (hasHandler : Bool)
    (unlimited : socket.maxPendingWrites = 0) :
    (asyncSend schema socket message hasHandler).accepted = socket.accepted ++
      [⟨socket.calls, (message.toMessageT schema).header, (message.toMessageT schema).body,
        hasHandler⟩] := by
  simp [asyncSend, BoostTcpSocket.asyncWrite, unlimited]

theorem maxPendingWrites_of_write {move : Move} (writing : move.isWrite = true)
    (taken : Session.move schema maxMessageSize pipe move = some next) :
    next.sender.maxPendingWrites = pipe.sender.maxPendingWrites := by
  cases move with
  | runTask task =>
      obtain ⟨sender, moved, rfl⟩ := Option.map_eq_some_iff.mp taken
      exact BoostTcpSocket.step_maxPendingWrites moved
  | transfer flight count =>
      obtain ⟨-, mapped⟩ := Option.ite_none_right_eq_some.mp taken
      obtain ⟨sender, moved, rfl⟩ := Option.map_eq_some_iff.mp mapped
      exact BoostTcpSocket.step_maxPendingWrites moved
  | complete flight isValid =>
      obtain ⟨sender, moved, rfl⟩ := Option.map_eq_some_iff.mp taken
      exact BoostTcpSocket.step_maxPendingWrites moved
  | _ => cases writing

theorem Conveys.send (lawful : schema.Lawful)
    (conveys : Conveys schema maxMessageSize maxPendingWrites pipe) {message : Message}
    {hasHandler : Bool}
    (taken : Session.move schema maxMessageSize pipe (.send message hasHandler) = some next) :
    Conveys schema maxMessageSize maxPendingWrites next ∧
      next.offered = pipe.offered ++ [message] ∧ next.events = pipe.events := by
  have aligned := conveys.toAligned.of_move lawful taken
  cases taken
  refine ⟨⟨aligned, ?_, ?_, ?_⟩, rfl, rfl⟩
  · have moved : Network.step pipe.sender (.asyncWrite (message.toMessageT schema).header
        (message.toMessageT schema).body hasHandler) =
          some (asyncSend schema pipe.sender message hasHandler) := rfl
    exact (BoostTcpSocket.step_maxPendingWrites moved).trans conveys.cap
  · rcases conveys.accepted_of_send message hasHandler with rejected | accepted
    · rw [rejected]
      exact conveys.subset.trans (List.sublist_append_left _ _)
    · rw [accepted]
      exact conveys.subset.append (List.Sublist.refl _)
  · intro unlimited
    have accepted := @asyncSend_accepted schema pipe.sender message hasHandler
      (conveys.cap.trans unlimited)
    have kept : (pipe.sender.accepted.filterMap fun call =>
        (pipe.offered ++ [message])[call.id]?) = pipe.accepted :=
      List.filterMap_congr (conveys.offered_of_send message)
    rw [Pipe.accepted, accepted, List.filterMap_append, kept, conveys.whole unlimited]
    simp [conveys.last_of_send message]

theorem Conveys.write (lawful : schema.Lawful)
    (conveys : Conveys schema maxMessageSize maxPendingWrites pipe) {move : Move}
    (writing : move.isWrite = true)
    (taken : Session.move schema maxMessageSize pipe move = some next) :
    Conveys schema maxMessageSize maxPendingWrites next ∧ next.offered = pipe.offered ∧
      next.events = pipe.events := by
  have aligned := conveys.toAligned.of_move lawful taken
  have cap := (maxPendingWrites_of_write writing taken).trans conveys.cap
  obtain ⟨sender, rfl, same⟩ := Session.sender_of_write writing taken
  have accepted : ({ pipe with sender := sender } : Pipe).accepted = pipe.accepted := by
    rw [Pipe.accepted, same]
    rfl
  refine ⟨⟨aligned, cap, ?_, ?_⟩, rfl, rfl⟩
  · rw [accepted]
    exact conveys.subset
  · rw [accepted]
    exact conveys.whole

theorem Conveys.arrive (lawful : schema.Lawful)
    (conveys : Conveys schema maxMessageSize maxPendingWrites pipe) {count : Nat}
    (taken : Session.move schema maxMessageSize pipe (.arrive count) = some next) :
    Conveys schema maxMessageSize maxPendingWrites next ∧ next.offered = pipe.offered ∧
      next.events = pipe.events := by
  have aligned := conveys.toAligned.of_move lawful taken
  obtain ⟨-, moved⟩ := Option.ite_none_right_eq_some.mp taken
  cases moved
  exact ⟨⟨aligned, conveys.cap, conveys.subset, conveys.whole⟩, rfl, rfl⟩

theorem Conveys.hear (lawful : schema.Lawful)
    (conveys : Conveys schema maxMessageSize maxPendingWrites pipe) {move : Move}
    (reading : move = .read ∨ move = .readError)
    (taken : Session.move schema maxMessageSize pipe move = some next) :
    Conveys schema maxMessageSize maxPendingWrites next ∧ next.offered = pipe.offered ∧
      pipe.events <+: next.events := by
  have aligned := conveys.toAligned.of_move lawful taken
  rcases reading with rfl | rfl
  · cases outstanding : pipe.reading with
    | none => simp [Session.move, outstanding] at taken
    | some reading =>
        simp only [Session.move, outstanding] at taken
        obtain ⟨-, moved⟩ := Option.ite_none_right_eq_some.mp taken
        cases moved
        exact ⟨⟨aligned, conveys.cap, conveys.subset, conveys.whole⟩, rfl,
          List.prefix_append _ _⟩
  · cases outstanding : pipe.reading with
    | none => simp [Session.move, outstanding] at taken
    | some reading =>
        simp only [Session.move, outstanding] at taken
        cases taken
        exact ⟨⟨aligned, conveys.cap, conveys.subset, conveys.whole⟩, rfl,
          List.prefix_append _ _⟩

/-- The message a move hands to the queue. -/
def sent : Move → List Message
  | .send message _ => [message]
  | _ => []

theorem Conveys.of_move (lawful : schema.Lawful)
    (conveys : Conveys schema maxMessageSize maxPendingWrites pipe) {move : Move}
    (taken : Session.move schema maxMessageSize pipe move = some next) :
    Conveys schema maxMessageSize maxPendingWrites next ∧
      next.offered = pipe.offered ++ sent move := by
  have quiet : ∀ {other : Pipe}, other.offered = pipe.offered →
      other.offered = pipe.offered ++ [] :=
    fun same => same.trans (List.append_nil _).symm
  cases move with
  | send message hasHandler =>
      obtain ⟨kept, offered, -⟩ := conveys.send lawful taken
      exact ⟨kept, offered⟩
  | runTask task =>
      obtain ⟨kept, offered, -⟩ := conveys.write lawful rfl taken
      exact ⟨kept, quiet offered⟩
  | transfer flight count =>
      obtain ⟨kept, offered, -⟩ := conveys.write lawful rfl taken
      exact ⟨kept, quiet offered⟩
  | complete flight isValid =>
      obtain ⟨kept, offered, -⟩ := conveys.write lawful rfl taken
      exact ⟨kept, quiet offered⟩
  | arrive count =>
      obtain ⟨kept, offered, -⟩ := conveys.arrive lawful taken
      exact ⟨kept, quiet offered⟩
  | read =>
      obtain ⟨kept, offered, -⟩ := conveys.hear lawful (Or.inl rfl) taken
      exact ⟨kept, quiet offered⟩
  | readError =>
      obtain ⟨kept, offered, -⟩ := conveys.hear lawful (Or.inr rfl) taken
      exact ⟨kept, quiet offered⟩

/-- The cap of a queue may be set at any time; one without a cap must have had
none before. -/
theorem Conveys.capped (conveys : Conveys schema maxMessageSize maxPendingWrites pipe) {cap : Nat}
    (raised : cap = 0 → maxPendingWrites = 0) :
    Conveys schema maxMessageSize cap
      { pipe with sender := { pipe.sender with maxPendingWrites := cap } } where
  toAligned := conveys.toAligned.of_sender
    { conveys.transmits with writers := { conveys.transmits.writers with } } rfl rfl (Nat.le_refl _)
  cap := rfl
  subset := conveys.subset
  whole := fun unlimited => conveys.whole (raised unlimited)

theorem Conveys.delivered_isPrefix (conveys : Conveys schema maxMessageSize maxPendingWrites pipe) :
    pipe.delivered <+: application pipe.accepted := by
  obtain ⟨done, rest, split, -, delivered, -⟩ := conveys.reader
  rw [delivered, split, Session.application_append]
  exact List.prefix_append _ _

/-- The reader waits for a frame and there is none. -/
def Exhausted (schema : Schema) (pipe : Pipe) : Prop :=
  pipe.reading = some .frameSize ∧
    pipe.consumed = (pipe.accepted.flatMap (Message.frame schema)).length

theorem Conveys.delivered_of_exhausted
    (conveys : Conveys schema maxMessageSize maxPendingWrites pipe)
    (exhausted : Exhausted schema pipe) : pipe.delivered = application pipe.accepted := by
  obtain ⟨done, rest, split, -, delivered, position⟩ := conveys.reader
  obtain ⟨waiting, consumed⟩ := exhausted
  rw [waiting] at position
  rw [split] at consumed
  rw [delivered, split, position.rest_eq_nil consumed, List.append_nil]

end Conveys

/-- Both streams, and what ties the sessions to them. -/
structure Coupled (parties : Parties App) : Prop where
  conveys : ∀ side, Conveys schema (settings side.other).maxMessageSize
    (settings side).maxPendingWrites (parties side).pipe
  served : ∀ side, (parties side).served =
    (parties side.other).pipe.events.foldl (Served.react schema (settings side).service)
      { app := (settings side).app }
  woven : ∀ side, Interleaved (parties side).users
    ((parties side).served.sent.take (parties side).posted) (parties side).pipe.offered

section Coupled

variable {schema settings} {parties next : Parties App}

theorem Coupled.connected : Coupled schema settings (connected settings) where
  conveys _ := Conveys.connected
  served _ := rfl
  woven _ := .nil

@[simp]
theorem other_ne (side : Side) : side.other ≠ side := by
  cases side <;> simp [Side.other]

@[simp]
theorem other_other (side : Side) : side.other.other = side := by
  cases side <;> rfl

theorem eq_or_eq_other (side given : Side) : side = given ∨ side = given.other := by
  cases side <;> cases given <;> simp [Side.other]

theorem Coupled.of_sender (coupled : Coupled schema settings parties) (side : Side)
    (party : Party App)
    (conveys : Conveys schema (settings side.other).maxMessageSize
      (settings side).maxPendingWrites party.pipe)
    (events : party.pipe.events = (parties side).pipe.events)
    (served : party.served = (parties side).served)
    (woven : Interleaved party.users (party.served.sent.take party.posted) party.pipe.offered) :
    Coupled schema settings (Function.update parties side party) := by
  refine ⟨?_, ?_, ?_⟩
  · intro given
    rcases eq_or_eq_other given side with rfl | rfl
    · rw [Function.update_self]
      exact conveys
    · rw [Function.update_of_ne (other_ne side)]
      exact coupled.conveys side.other
  · intro given
    rcases eq_or_eq_other given side with rfl | rfl
    · rw [Function.update_self, Function.update_of_ne (other_ne given), served]
      exact coupled.served given
    · rw [Function.update_of_ne (other_ne side), other_other, Function.update_self, events]
      have before := coupled.served side.other
      rwa [other_other] at before
  · intro given
    rcases eq_or_eq_other given side with rfl | rfl
    · rw [Function.update_self]
      exact woven
    · rw [Function.update_of_ne (other_ne side)]
      exact coupled.woven side.other

theorem Coupled.of_turn (coupled : Coupled schema settings parties) (side : Side) {pipe : Pipe}
    (conveys : Conveys schema (settings side).maxMessageSize
      (settings side.other).maxPendingWrites pipe)
    (offered : pipe.offered = (parties side.other).pipe.offered)
    (events : (parties side.other).pipe.events <+: pipe.events)
    (idle : (parties side).posted = (parties side).served.sent.length) :
    Coupled schema settings (turn schema settings parties side pipe) := by
  obtain ⟨more, appended⟩ := events
  have fresh : pipe.events.drop (parties side.other).pipe.events.length = more := by
    rw [← appended, List.drop_left]
  refine ⟨?_, ?_, ?_⟩
  · intro given
    rcases eq_or_eq_other given side with rfl | rfl
    · rw [turn, Function.update_self]
      exact coupled.conveys given
    · rw [turn, Function.update_of_ne (other_ne side), Function.update_self, other_other]
      exact conveys
  · intro given
    rcases eq_or_eq_other given side with rfl | rfl
    · rw [turn, Function.update_self, Function.update_of_ne (other_ne given),
        Function.update_self, fresh, coupled.served given, ← appended, List.foldl_append]
    · have before := coupled.served side.other
      rw [other_other] at before
      rw [turn, Function.update_of_ne (other_ne side), Function.update_self, other_other,
        Function.update_self]
      exact before
  · intro given
    rcases eq_or_eq_other given side with rfl | rfl
    · have before := coupled.woven given
      have longer := @Served.sent_isPrefix_foldl_react App schema (settings given).service
        (parties given).served more
      rw [turn, Function.update_self, fresh]
      rw [idle, List.take_length] at before
      rw [idle, ← List.prefix_iff_eq_take.mp longer]
      exact before
    · rw [turn, Function.update_of_ne (other_ne side), Function.update_self]
      have before := coupled.woven side.other
      rw [← offered] at before
      exact before

theorem Coupled.of_step (lawful : schema.Lawful) (coupled : Coupled schema settings parties)
    {action : Action} (taken : step schema settings parties action = some next) :
    Coupled schema settings next := by
  cases action with
  | send side message hasHandler =>
      simp only [step] at taken
      obtain ⟨pipe, moved, rfl⟩ := Option.map_eq_some_iff.mp taken
      obtain ⟨conveys, offered, events⟩ := (coupled.conveys side).send lawful moved
      refine coupled.of_sender side _ conveys events rfl ?_
      rw [offered]
      exact (coupled.woven side).left message
  | post side =>
      simp only [step] at taken
      split at taken
      next => cases taken
      next message due =>
        obtain ⟨pipe, moved, rfl⟩ := Option.map_eq_some_iff.mp taken
        obtain ⟨conveys, offered, events⟩ := (coupled.conveys side).send lawful moved
        refine coupled.of_sender side _ conveys events rfl ?_
        rw [offered, List.take_add_one, due]
        exact (coupled.woven side).right message
  | write side move =>
      obtain ⟨writing, mapped⟩ := Option.ite_none_right_eq_some.mp taken
      obtain ⟨pipe, moved, rfl⟩ := Option.map_eq_some_iff.mp mapped
      obtain ⟨conveys, offered, events⟩ := (coupled.conveys side).write lawful writing moved
      refine coupled.of_sender side _ conveys events rfl ?_
      rw [offered]
      exact coupled.woven side
  | arrive side count =>
      obtain ⟨pipe, moved, rfl⟩ := Option.map_eq_some_iff.mp taken
      obtain ⟨conveys, offered, events⟩ := (coupled.conveys side).arrive lawful moved
      refine coupled.of_sender side _ conveys events rfl ?_
      rw [offered]
      exact coupled.woven side
  | read side =>
      obtain ⟨idle, mapped⟩ := Option.ite_none_right_eq_some.mp taken
      obtain ⟨pipe, moved, rfl⟩ := Option.map_eq_some_iff.mp mapped
      have before := coupled.conveys side.other
      rw [other_other] at before
      obtain ⟨conveys, offered, events⟩ := before.hear lawful (Or.inl rfl) moved
      exact coupled.of_turn side conveys offered events idle
  | readError side =>
      obtain ⟨idle, mapped⟩ := Option.ite_none_right_eq_some.mp taken
      obtain ⟨pipe, moved, rfl⟩ := Option.map_eq_some_iff.mp mapped
      have before := coupled.conveys side.other
      rw [other_other] at before
      obtain ⟨conveys, offered, events⟩ := before.hear lawful (Or.inr rfl) moved
      exact coupled.of_turn side conveys offered events idle

theorem coupled_of_run (lawful : schema.Lawful) {actions : List Action}
    (executed : Lib.run (step schema settings) (connected settings) actions = some parties) :
    Coupled schema settings parties :=
  run_invariant_of_step (Coupled schema settings)
    (fun _ _ _ coupled taken => coupled.of_step lawful taken) Coupled.connected executed

/-- A session has done what the plain loop does over the messages delivered. -/
theorem Coupled.agrees (coupled : Coupled schema settings parties) (side : Side) :
    (parties side).served.Agrees (Served.serve (settings side).service (settings side).app
      (parties side.other).pipe.delivered) := by
  rw [coupled.served side]
  exact (Served.Agrees.refl _).foldl_react _

/-- The message a user of an endpoint sends with an action. -/
def Action.sentBy (side : Side) : Action → Option Message
  | .send sender message _ => if sender = side then some message else none
  | _ => none

theorem users_of_step {action : Action} (taken : step schema settings parties action = some next)
    (side : Side) :
    (next side).users = (parties side).users ++ (action.sentBy side).toList := by
  have updated : ∀ (given : Side) (party : Party App), party.users = (parties given).users →
      (Function.update parties given party side).users = (parties side).users := by
    intro given party same
    by_cases here : side = given
    · subst here
      rw [Function.update_self, same]
    · rw [Function.update_of_ne here]
  have turned : ∀ (given : Side) (pipe : Pipe),
      (turn schema settings parties given pipe side).users = (parties side).users := by
    intro given pipe
    rcases eq_or_eq_other side given with rfl | rfl
    · rw [turn, Function.update_self]
    · rw [turn, Function.update_of_ne (other_ne given), Function.update_self]
  cases action with
  | send given message hasHandler =>
      simp only [step] at taken
      obtain ⟨pipe, -, rfl⟩ := Option.map_eq_some_iff.mp taken
      by_cases here : given = side
      · subst here
        simp [Action.sentBy]
      · simp [Action.sentBy, here, Function.update_of_ne (Ne.symm here)]
  | post given =>
      simp only [step] at taken
      split at taken
      next => cases taken
      next message due =>
        obtain ⟨pipe, -, rfl⟩ := Option.map_eq_some_iff.mp taken
        refine (updated given _ ?_).trans (List.append_nil _).symm
        rfl
  | write given move =>
      obtain ⟨-, mapped⟩ := Option.ite_none_right_eq_some.mp taken
      obtain ⟨pipe, -, rfl⟩ := Option.map_eq_some_iff.mp mapped
      refine (updated given _ ?_).trans (List.append_nil _).symm
      rfl
  | arrive given count =>
      obtain ⟨pipe, -, rfl⟩ := Option.map_eq_some_iff.mp taken
      refine (updated given _ ?_).trans (List.append_nil _).symm
      rfl
  | read given =>
      obtain ⟨-, mapped⟩ := Option.ite_none_right_eq_some.mp taken
      obtain ⟨pipe, -, rfl⟩ := Option.map_eq_some_iff.mp mapped
      exact (turned given pipe).trans (List.append_nil _).symm
  | readError given =>
      obtain ⟨-, mapped⟩ := Option.ite_none_right_eq_some.mp taken
      obtain ⟨pipe, -, rfl⟩ := Option.map_eq_some_iff.mp mapped
      exact (turned given pipe).trans (List.append_nil _).symm

theorem users_of_run {actions : List Action}
    (executed : Lib.run (step schema settings) (connected settings) actions = some parties)
    (side : Side) : (parties side).users = actions.filterMap (Action.sentBy side) := by
  have nothing : (connected settings side).users = [].filterMap (Action.sentBy side) := rfl
  refine run_invariant_past
    (fun parties past => (parties side).users = past.filterMap (Action.sentBy side))
    ?_ nothing (throughout_of_forall fun _ _ => trivial) executed
  intro parties past action next users _ taken
  rw [users_of_step taken side, users, List.filterMap_append]
  cases sent : action.sentBy side <;> simp [sent]

/-- In every interleaving of users, handlers, socket and network, a session has
handled a prefix of the application messages the peer's queue accepted, each
once and in order, with the effect of the plain loop over them.  What it has
offered to its own queue is what its handlers and its pongs sent so far, in
that order, mixed with what its users sent; a queue without a cap drops
nothing. -/
theorem sessions_serve_in_order (lawful : schema.Lawful) {actions : List Action}
    (executed : Lib.run (step schema settings) (connected settings) actions = some parties)
    (side : Side) :
    (parties side.other).pipe.delivered <+: application (parties side.other).pipe.accepted ∧
      (parties side).served.Agrees (Served.serve (settings side).service (settings side).app
        (parties side.other).pipe.delivered) ∧
      (∃ handed, handed <+: (parties side).served.sent ∧
        Interleaved (actions.filterMap (Action.sentBy side)) handed
          (parties side).pipe.offered) ∧
      (parties side).pipe.accepted.Sublist (parties side).pipe.offered ∧
      ((settings side).maxPendingWrites = 0 →
        (parties side).pipe.accepted = (parties side).pipe.offered) := by
  have coupled := coupled_of_run lawful executed
  refine ⟨(coupled.conveys side.other).delivered_isPrefix, coupled.agrees side, ?_,
    (coupled.conveys side).subset, (coupled.conveys side).whole⟩
  refine ⟨_, List.take_prefix (parties side).posted _, ?_⟩
  rw [← users_of_run executed side]
  exact coupled.woven side

end Coupled

/-- A message that no handler is registered for is reported as unknown. -/
theorem sessions_serve_unknown_message :
    let settings : Side → Settings Unit := fun _ => { service := [], app := () }
    let message : Message := ⟨42, ⟨[1, 2, 3, 4], by decide⟩, false⟩
    let call : Network.Call := ⟨0, (message.toMessageT flatbuffers).header, [1, 2, 3, 4], false⟩
    let actions : List Action := [.send .left message false, .write .left (.runTask .writeNext),
      .write .left (.runTask (.initiate call)), .write .left (.transfer ⟨call, 0⟩ 44),
      .arrive .left 44, .read .right, .read .right, .read .right]
    ∃ parties, Lib.run (step flatbuffers settings) (connected settings) actions = some parties ∧
      (parties .right).served.unknown = [42] ∧
      (parties .left).pipe.delivered <+: application (parties .left).pipe.accepted := by
  intro settings message call actions
  have unknown : (Lib.run (step flatbuffers settings) (connected settings) actions).map
      (fun parties => (parties .right).served.unknown) = some [42] := by decide +kernel
  obtain ⟨parties, executed, unknown⟩ := Option.map_eq_some_iff.mp unknown
  exact ⟨parties, executed, unknown,
    (sessions_serve_in_order flatbuffers_lawful executed .right).1⟩

end SocketSL.Exchange
