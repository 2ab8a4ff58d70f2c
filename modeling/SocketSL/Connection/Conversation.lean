import SocketSL.Connection.Delivery
import SocketSL.Lib.Log
import SocketSL.Network.Timers

/-!
# Two endpoints that ping each other

Both endpoints run the session read loop over a FIFO stream in each direction.
Their users send application messages, their heartbeat timers ping and their
sessions answer.  Expired waits stay queued as long as they like, also when the
timer is armed again.  Frames are conserved: an endpoint answers what it has
read, it has read what the peer's queue accepted, and that is part of what the
peer's timer pinged.
-/

namespace SocketSL.Timers

def Event.isPing : Event → Bool
  | .pinged _ _ => true
  | _ => false

def Event.isRead : Event → Bool
  | .readCompleted => true
  | _ => false

end SocketSL.Timers

namespace SocketSL.Conversation

open SocketSL.Lib
open SocketSL.Network (BoostTcpSocket)
open SocketSL.Session (PendingRead Pipe Move Position asyncSend)
open SocketSL.Timers

inductive Side where
  | left
  | right
  deriving DecidableEq

def Side.other : Side → Side
  | .left => .right
  | .right => .left

/-- How an endpoint is set up; `heartbeatTimer` is what the timer of its socket
holds when the handshake succeeds. -/
structure Settings where
  timeouts : Timeouts
  recalls : Bool
  maxPendingWrites : Nat
  maxMessageSize : Nat
  heartbeatTimer : SteadyTimer Nat := {}

/-- A session with its socket.  `offered` lists the messages handed to
`async_send` by the number of the call, `arrived` and `consumed` count the bytes
of the peer, and `frames` lists the kinds of the messages read. -/
structure Endpoint where
  socket : TimedSocket
  maxMessageSize : Nat
  offered : List Message := []
  arrived : Nat := 0
  consumed : Nat := 0
  reading : Option PendingRead
  events : List SocketSL.Event
  readFailed : Bool := false
  frames : List (UInt8 × Bool) := []

/-- The handshake has succeeded and the session has been started. -/
def started (settings : Settings) : Endpoint where
  socket := { TimedSocket.onHandshake
    { timeouts := settings.timeouts
      recalls := settings.recalls
      writes := { maxPendingWrites := settings.maxPendingWrites }
      phase := .handshaking
      heartbeatTimer := settings.heartbeatTimer } true with reads := 1 }
  maxMessageSize := settings.maxMessageSize
  reading := Session.start.reading
  events := Session.start.events

variable (schema : Schema)

def ping : Message := ⟨SystemId.hbPing.toId, schema.createHbPingRequest, true⟩

def pong : Message := ⟨SystemId.hbPong.toId, schema.createHbPongRequest, true⟩

namespace Endpoint

def offer (endpoint : Endpoint) (message : Message) (hasHandler : Bool) : Endpoint :=
  { endpoint with
    socket := { endpoint.socket with
      writes := asyncSend schema endpoint.socket.writes message hasHandler }
    offered := endpoint.offered ++ [message] }

/-- A reply is handed to the socket; the replies of a session are pongs. -/
def answer (endpoint : Endpoint) : SocketSL.Event → Endpoint
  | .reply message =>
      { endpoint with
        socket := { endpoint.socket with
          writes := endpoint.socket.writes.asyncWrite message.header message.body true }
        offered := endpoint.offered ++ [pong schema] }
  | _ => endpoint

/-- The read has completed: the timers are put off. -/
def completeRead (endpoint : Endpoint) (reading : PendingRead) (bytes : List UInt8) : Endpoint :=
  let outcome := Session.onRead schema endpoint.maxMessageSize reading (some bytes)
  let completed := { endpoint.socket with reads := endpoint.socket.reads - 1 }.onRead true
  { endpoint with
    socket := { completed with reads := completed.reads + outcome.reading.toList.length }
    consumed := endpoint.consumed + reading.size
    reading := outcome.reading
    events := endpoint.events ++ outcome.events
    frames := endpoint.frames ++ reading.frame }

/-- The callback of the read has run. -/
def onRead (endpoint : Endpoint) (reading : PendingRead) (bytes : List UInt8) : Endpoint :=
  (Session.onRead schema endpoint.maxMessageSize reading (some bytes)).events.foldl
    (answer schema) (endpoint.completeRead schema reading bytes)

def onReadError (endpoint : Endpoint) (reading : PendingRead) : Endpoint :=
  let outcome := Session.onRead schema endpoint.maxMessageSize reading none
  { endpoint with
    socket := { endpoint.socket with reads := endpoint.socket.reads - 1 }
    reading := outcome.reading
    events := endpoint.events ++ outcome.events
    readFailed := true }

/-- The handler of a timer has run. -/
def onTimer (endpoint : Endpoint) (timer : Timer) (socket : TimedSocket) : Endpoint :=
  { endpoint with
    socket
    offered := if timer = .heartbeat ∧ endpoint.socket.heartbeatSent = false then
        endpoint.offered ++ [ping schema]
      else endpoint.offered }

end Endpoint

abbrev Peers := Side → Endpoint

/-- The messages the endpoint's own queue accepted. -/
def Endpoint.accepted (endpoint : Endpoint) : List Message :=
  endpoint.socket.writes.accepted.filterMap fun call => endpoint.offered[call.id]?

/-- The stream from one endpoint to the other. -/
def stream (sender receiver : Endpoint) : Pipe where
  sender := sender.socket.writes
  offered := sender.offered
  arrived := receiver.arrived
  consumed := receiver.consumed
  reading := receiver.reading
  events := receiver.events
  readFailed := receiver.readFailed

/-- The sender has moved. -/
def Endpoint.sending (endpoint : Endpoint) (pipe : Pipe) : Endpoint :=
  { endpoint with
    socket := { endpoint.socket with writes := pipe.sender }
    offered := pipe.offered }

inductive Action where
  | send (side : Side) (message : Message) (hasHandler : Bool)
  | runTask (side : Side) (task : Network.Task)
  | transfer (side : Side) (flight : Network.Flight) (count : Nat)
  | complete (side : Side) (flight : Network.Flight) (isValid : Bool)
  | arrive (side : Side) (count : Nat)
  | read (side : Side)
  | readError (side : Side)
  | elapse (side : Side) (duration : Nat)
  | expire (side : Side) (timer : Timer)
  | run (side : Side) (timer : Timer) (wait : Wait Nat)

/-- A move of the sender of one side. -/
def write (peers : Peers) (side : Side) (move : Move) : Option Peers :=
  (Session.move schema (peers side.other).maxMessageSize
    (stream (peers side) (peers side.other)) move).map fun pipe =>
      Function.update peers side ((peers side).sending pipe)

/-- Users send application messages. -/
def step (peers : Peers) : Action → Option Peers
  | .send side message hasHandler =>
      if message.isSystem = false then write schema peers side (.send message hasHandler) else none
  | .runTask side task => write schema peers side (.runTask task)
  | .transfer side flight count => write schema peers side (.transfer flight count)
  | .complete side flight isValid => write schema peers side (.complete flight isValid)
  | .arrive side count =>
      if (peers side).arrived + count ≤ (peers side.other).socket.writes.bytes.length then
        some (Function.update peers side
          { peers side with arrived := (peers side).arrived + count })
      else none
  | .read side =>
      match (peers side).reading with
      | none => none
      | some reading =>
          if (peers side).consumed + reading.size ≤ (peers side).arrived then
            let bytes := ((peers side.other).socket.writes.bytes.drop
              (peers side).consumed).take reading.size
            some (Function.update peers side ((peers side).onRead schema reading bytes))
          else none
  | .readError side =>
      (peers side).reading.map fun reading =>
        Function.update peers side ((peers side).onReadError schema reading)
  | .elapse side duration =>
      (Timers.step schema (peers side).socket (.elapse duration)).map fun socket =>
        Function.update peers side { peers side with socket }
  | .expire side timer =>
      (Timers.step schema (peers side).socket (.expire timer)).map fun socket =>
        Function.update peers side { peers side with socket }
  | .run side timer wait =>
      (Timers.step schema (peers side).socket (.run timer wait)).map fun socket =>
        Function.update peers side ((peers side).onTimer schema timer socket)

/-- What the reader of a stream has read so far is the beginning of what the
queue accepted, and that is part of what was offered. -/
structure Carried (maxMessageSize : Nat) (pipe : Pipe) (frames : List (UInt8 × Bool)) : Prop
    extends pipe.Aligned schema maxMessageSize where
  subset : pipe.accepted.Sublist pipe.offered
  traced : ∃ done rest, pipe.accepted = done ++ rest ∧ done.map Message.kind = frames ∧
    Position schema maxMessageSize done rest pipe.consumed pipe.reading pipe.readFailed

section Carried

variable {schema} {maxMessageSize : Nat} {pipe next : Pipe} {frames : List (UInt8 × Bool)}

theorem Carried.connected (maxPendingWrites : Nat) :
    Carried schema maxMessageSize (Session.connected maxPendingWrites) [] where
  toAligned := .initial maxPendingWrites
  subset := .slnil
  traced := ⟨[], [], rfl, rfl, .frameSize []⟩

theorem Carried.send (carried : Carried schema maxMessageSize pipe frames) (message : Message)
    (hasHandler : Bool) :
    Carried schema maxMessageSize { pipe with
      sender := asyncSend schema pipe.sender message hasHandler
      offered := pipe.offered ++ [message] } frames := by
  obtain ⟨done, rest, split, read, position⟩ := carried.traced
  refine ⟨carried.toAligned.send message hasHandler, ?_, ?_⟩
  · rcases carried.accepted_of_send message hasHandler with rejected | accepted
    · rw [rejected]
      exact carried.subset.trans (List.sublist_append_left _ _)
    · rw [accepted]
      exact carried.subset.append (List.Sublist.refl _)
  · rcases carried.accepted_of_send message hasHandler with rejected | accepted
    · exact ⟨done, rest, rejected.trans split, read, position⟩
    · refine ⟨done, rest ++ [message], ?_, read, position.extend [message]⟩
      rw [accepted, split, List.append_assoc]

theorem Carried.write (lawful : schema.Lawful)
    (carried : Carried schema maxMessageSize pipe frames) {move : Move}
    (writing : move.isWrite = true)
    (taken : Session.move schema maxMessageSize pipe move = some next) :
    Carried schema maxMessageSize next frames := by
  have aligned := carried.toAligned.of_move lawful taken
  obtain ⟨sender, rfl, same⟩ := Session.sender_of_write writing taken
  have accepted : ({ pipe with sender := sender } : Pipe).accepted = pipe.accepted := by
    rw [Pipe.accepted, same]
    rfl
  refine ⟨aligned, ?_, ?_⟩
  · rw [accepted]
    exact carried.subset
  · rw [accepted]
    exact carried.traced

theorem Carried.arrive (carried : Carried schema maxMessageSize pipe frames) {count : Nat}
    (within : pipe.arrived + count ≤ pipe.sender.bytes.length) :
    Carried schema maxMessageSize { pipe with arrived := pipe.arrived + count } frames :=
  { carried with
    arrived := within
    consumed := carried.consumed.trans (Nat.le_add_right _ _) }

theorem Carried.read (lawful : schema.Lawful)
    (carried : Carried schema maxMessageSize pipe frames) {reading : PendingRead}
    (outstanding : pipe.reading = some reading)
    (enough : pipe.consumed + reading.size ≤ pipe.arrived) {bytes : List UInt8}
    (read : bytes = (pipe.sender.bytes.drop pipe.consumed).take reading.size) :
    Carried schema maxMessageSize { pipe with
      consumed := pipe.consumed + reading.size
      reading := (Session.onRead schema maxMessageSize reading (some bytes)).reading
      events := pipe.events ++ (Session.onRead schema maxMessageSize reading (some bytes)).events }
      (frames ++ reading.frame) := by
  obtain ⟨done, rest, split, traced, position⟩ := carried.traced
  rw [outstanding] at position
  obtain ⟨more, left, rfl, kinds, -, -, advanced⟩ :=
    carried.position_of_read lawful split position enough read
  refine { carried with
    consumed := enough
    reader := carried.reader_of_read lawful outstanding enough read
    traced := ⟨done ++ more, left, ?_, ?_, advanced⟩ }
  · exact split.trans (List.append_assoc _ _ _).symm
  · rw [List.map_append, traced, kinds]

theorem Carried.readError (lawful : schema.Lawful)
    (carried : Carried schema maxMessageSize pipe frames) {reading : PendingRead}
    (outstanding : pipe.reading = some reading) :
    Carried schema maxMessageSize { pipe with
      reading := (Session.onRead schema maxMessageSize reading none).reading
      events := pipe.events ++ (Session.onRead schema maxMessageSize reading none).events
      readFailed := true } frames := by
  have taken : Session.move schema maxMessageSize pipe .readError = some { pipe with
      reading := (Session.onRead schema maxMessageSize reading none).reading
      events := pipe.events ++ (Session.onRead schema maxMessageSize reading none).events
      readFailed := true } := by
    simp only [Session.move, outstanding]
  obtain ⟨done, rest, split, traced, position⟩ := carried.traced
  refine ⟨carried.toAligned.of_move lawful taken, carried.subset, done, rest, split, traced, ?_⟩
  cases reading <;> exact .failed rest _

end Carried

/-- An endpoint has offered a ping for each time its timer pinged, a pong for
each ping it has read, and no other system messages. -/
structure Measured (endpoint : Endpoint) : Prop where
  spaced : Spaced Event.isPing Event.isRead endpoint.socket.log
  trailing : Trailing Event.isPing Event.isRead endpoint.socket.log
    endpoint.socket.heartbeatSent.toNat
  pings : endpoint.offered.countP Message.isPing = endpoint.socket.log.countP Event.isPing
  pongs : endpoint.offered.countP Message.isPong =
    endpoint.frames.count (SystemId.hbPing.toId, true)
  system : endpoint.offered.countP Message.isSystem =
    endpoint.offered.countP Message.isPing + endpoint.offered.countP Message.isPong

/-- The read finishes a ping of the peer. -/
def readsPing (reading : PendingRead) : Prop :=
  reading.frame = [(SystemId.hbPing.toId, true)]

instance (reading : PendingRead) : Decidable (readsPing reading) :=
  inferInstanceAs (Decidable (_ = _))

section Measured

variable {schema} {endpoint : Endpoint}

/-- The session answers a ping with one pong and nothing else. -/
theorem answers_eq (maxMessageSize : Nat) (reading : PendingRead) (bytes : List UInt8)
    (endpoint : Endpoint) :
    (Session.onRead schema maxMessageSize reading (some bytes)).events.foldl
        (Endpoint.answer schema) endpoint =
      if readsPing reading then endpoint.offer schema (pong schema) true else endpoint := by
  cases reading with
  | frameSize =>
      have other : ¬ readsPing .frameSize := by simp [readsPing, PendingRead.frame]
      rw [if_neg other]
      simp only [Session.onRead, Session.readHeader]
      split <;> rfl
  | header size =>
      have other : ¬ readsPing (.header size) := by simp [readsPing, PendingRead.frame]
      rw [if_neg other]
      simp only [Session.onRead]
      split
      · rfl
      · simp only [Session.readBody]
        split <;> rfl
  | body type size isSystem =>
      cases isSystem with
      | false =>
          have other : ¬ readsPing (.body type size false) := by
            simp [readsPing, PendingRead.frame]
          rw [if_neg other]
          rfl
      | true =>
          by_cases answered : type = SystemId.hbPing.toId
          · have ping : readsPing (.body SystemId.hbPing.toId size true) := rfl
            rw [answered, if_pos ping]
            rfl
          · have other : ¬ readsPing (.body type size true) := by
              simpa [readsPing, PendingRead.frame] using answered
            rw [if_neg other]
            simp [Session.onRead, Session.handleSysMessage, answered, Session.readFrameSize,
              Endpoint.answer]

theorem count_frame (reading : PendingRead) :
    reading.frame.count (SystemId.hbPing.toId, true) = if readsPing reading then 1 else 0 := by
  cases reading with
  | body type size isSystem =>
      simp only [PendingRead.frame, readsPing, List.count_singleton, beq_iff_eq,
        List.cons.injEq, and_true]
  | _ => rfl

theorem completeRead_socket (endpoint : Endpoint) (reading : PendingRead) (bytes : List UInt8) :
    (endpoint.completeRead schema reading bytes).socket.writes = endpoint.socket.writes ∧
      (endpoint.completeRead schema reading bytes).socket.log =
        endpoint.socket.log ++ [.readCompleted] := by
  obtain ⟨_, _, _, equal⟩ := TimedSocket.restart_frame (TimedSocket.record
    { endpoint.socket with reads := endpoint.socket.reads - 1 } .readCompleted)
  have completed : { endpoint.socket with reads := endpoint.socket.reads - 1 }.onRead true = _ :=
    equal
  unfold Endpoint.completeRead
  rw [completed]
  exact ⟨rfl, rfl⟩

theorem onRead_eq (endpoint : Endpoint) (reading : PendingRead) (bytes : List UInt8) :
    endpoint.onRead schema reading bytes =
      if readsPing reading then
        (endpoint.completeRead schema reading bytes).offer schema (pong schema) true
      else endpoint.completeRead schema reading bytes :=
  answers_eq endpoint.maxMessageSize reading bytes _

theorem started_socket (settings : Settings) :
    (started settings).socket.writes = { maxPendingWrites := settings.maxPendingWrites } ∧
      (started settings).socket.log = [.handshakeCompleted true] := by
  let handshaken : TimedSocket :=
    { timeouts := settings.timeouts
      recalls := settings.recalls
      writes := { maxPendingWrites := settings.maxPendingWrites }
      phase := .established
      heartbeatTimer := settings.heartbeatTimer
      handshakeTimer := SteadyTimer.cancel {} settings.recalls
      log := [.handshakeCompleted true] }
  obtain ⟨_, _, _, equal⟩ := TimedSocket.restart_frame handshaken
  have socket : (started settings).socket =
      { handshaken.resetIdleTimer.resetHeartbeatTimer with reads := 1 } := rfl
  rw [socket, equal]
  exact ⟨rfl, rfl⟩

theorem Measured.started (settings : Settings) : Measured (started settings) := by
  have trailing (bound : Nat) : Trailing Event.isPing Event.isRead
      ([] ++ [.handshakeCompleted true]) bound := by
    have empty : Trailing Event.isPing Event.isRead [] 0 := .nil
    exact empty.append (Nat.zero_le bound)
  have log := (started_socket settings).2
  refine ⟨?_, ?_, ?_, rfl, rfl⟩
  · rw [log]
    exact Spaced.append .nil (trailing 1)
  · rw [log]
    exact trailing _
  · rw [log]
    rfl

theorem Measured.frame (measured : Measured endpoint) {other : Endpoint}
    (log : other.socket.log = endpoint.socket.log)
    (sent : other.socket.heartbeatSent = endpoint.socket.heartbeatSent)
    (offered : other.offered = endpoint.offered) (frames : other.frames = endpoint.frames) :
    Measured other := by
  obtain ⟨spaced, trailing, pings, pongs, system⟩ := measured
  rw [← log] at spaced trailing pings
  rw [← sent] at trailing
  rw [← offered] at pings pongs system
  rw [← frames] at pongs
  exact ⟨spaced, trailing, pings, pongs, system⟩

theorem Measured.send (measured : Measured endpoint) {message : Message}
    (application : message.isSystem = false) (hasHandler : Bool) :
    Measured (endpoint.offer schema message hasHandler) := by
  have isPing : message.isPing = false := by simp [Message.isPing, application]
  have isPong : message.isPong = false := by simp [Message.isPong, application]
  refine ⟨measured.spaced, measured.trailing, ?_, ?_, ?_⟩
  · rw [Endpoint.offer, countP_concat, isPing]
    exact measured.pings
  · rw [Endpoint.offer, countP_concat, isPong]
    exact measured.pongs
  · rw [Endpoint.offer, countP_concat, countP_concat, countP_concat, application, isPing, isPong]
    exact measured.system

theorem Measured.onRead (measured : Measured endpoint) (reading : PendingRead)
    (bytes : List UInt8) : Measured (endpoint.onRead schema reading bytes) := by
  obtain ⟨-, log⟩ := @completeRead_socket schema endpoint reading bytes
  have separate (bound : Nat) : Trailing Event.isPing Event.isRead
      (endpoint.completeRead schema reading bytes).socket.log bound := by
    rw [log]
    exact Trailing.separate rfl
  have spaced : Spaced Event.isPing Event.isRead
      (endpoint.completeRead schema reading bytes).socket.log := by
    rw [log]
    exact measured.spaced.append (Trailing.separate rfl)
  have pings : (endpoint.completeRead schema reading bytes).socket.log.countP Event.isPing =
      endpoint.socket.log.countP Event.isPing := by
    rw [log]
    simp [Event.isPing]
  have frames : (endpoint.completeRead schema reading bytes).frames =
      endpoint.frames ++ reading.frame := rfl
  rw [onRead_eq]
  split
  next answered =>
    have isPing : (pong schema).isPing = false := rfl
    have isPong : (pong schema).isPong = true := rfl
    have isSystem : (pong schema).isSystem = true := rfl
    refine ⟨spaced, separate _, ?_, ?_, ?_⟩
    · rw [Endpoint.offer, countP_concat, isPing]
      exact measured.pings.trans pings.symm
    · rw [Endpoint.offer, countP_concat, isPong, frames, List.count_append, count_frame,
        if_pos answered]
      exact congrArg Nat.succ measured.pongs
    · rw [Endpoint.offer, countP_concat, countP_concat, countP_concat, isPing, isPong, isSystem]
      exact congrArg Nat.succ measured.system
  next other =>
    refine ⟨spaced, separate _, measured.pings.trans pings.symm, ?_, measured.system⟩
    rw [frames, List.count_append, count_frame, if_neg other]
    exact measured.pongs

theorem Measured.closed (measured : Measured endpoint) (timer : Timer) (mark time : Nat) :
    Measured { endpoint with socket := endpoint.socket.record (.closed timer mark time) } := by
  have trailing {bound : Nat} (enough : endpoint.socket.heartbeatSent.toNat ≤ bound) :
      Trailing Event.isPing Event.isRead
        (endpoint.socket.log ++ [.closed timer mark time]) bound :=
    measured.trailing.append enough
  refine ⟨?_, ?_, ?_, measured.pongs, measured.system⟩
  · exact measured.spaced.append (trailing (Bool.toNat_le _))
  · exact trailing (Nat.le_refl _)
  · rw [TimedSocket.record, countP_concat]
    exact measured.pings

theorem Measured.pinged (measured : Measured endpoint) {socket : TimedSocket}
    (quiet : endpoint.socket.heartbeatSent = false) (sent : socket.heartbeatSent = true)
    {time : Nat} {accepted : Bool}
    (log : socket.log = endpoint.socket.log ++ [.pinged time accepted]) :
    Measured { endpoint with socket, offered := endpoint.offered ++ [ping schema] } := by
  have trailing : Trailing Event.isPing Event.isRead
      (endpoint.socket.log ++ [.pinged time accepted]) 1 := by
    apply measured.trailing.append
    rw [quiet]
    exact Nat.le_refl 1
  have isPing : (ping schema).isPing = true := rfl
  have isPong : (ping schema).isPong = false := rfl
  have isSystem : (ping schema).isSystem = true := rfl
  refine ⟨?_, ?_, ?_, ?_, ?_⟩
  · rw [log]
    exact measured.spaced.append trailing
  · rw [log, sent]
    exact trailing
  · rw [log, countP_concat, countP_concat, isPing]
    exact congrArg Nat.succ measured.pings
  · rw [countP_concat, isPong]
    exact measured.pongs
  · have system := measured.system
    rw [countP_concat, countP_concat, countP_concat, isPing, isPong, isSystem]
    simp only [Bool.toNat_true, Bool.toNat_false]
    omega

/-- The heartbeat's handler pings unless a ping is outstanding; the others close. -/
theorem Measured.onTimer (measured : Measured endpoint) {timer : Timer} {wait : Wait Nat}
    {socket : TimedSocket}
    (taken : Timers.step schema endpoint.socket (.run timer wait) = some socket) :
    Measured (endpoint.onTimer schema timer socket) := by
  cases Timers.step_cases taken with
  | runIdle wait steady removed =>
      exact (measured.closed .idle wait.mark endpoint.socket.now).frame rfl rfl rfl rfl
  | runHandshake wait steady removed =>
      exact (measured.closed .handshake wait.mark endpoint.socket.now).frame rfl rfl rfl rfl
  | runHeartbeat wait steady removed =>
      unfold Endpoint.onTimer TimedSocket.onHeartbeat
      cases sent : endpoint.socket.heartbeatSent with
      | true =>
          exact (measured.closed .heartbeat wait.mark endpoint.socket.now).frame rfl
            sent.symm rfl rfl
      | false => exact measured.pinged sent rfl rfl

end Measured

/-- The receiver has read what the stream carried. -/
def Linked (sender receiver : Endpoint) : Prop :=
  Carried schema receiver.maxMessageSize (stream sender receiver) receiver.frames

section Linked

variable {schema} {sender receiver : Endpoint}

theorem Linked.started (sender receiver : Settings) :
    Linked schema (started sender) (started receiver) := by
  have initial : stream (Conversation.started sender) (Conversation.started receiver) =
      Session.connected sender.maxPendingWrites := by
    rw [stream, (started_socket sender).1]
    rfl
  rw [Linked, initial]
  exact Carried.connected _

theorem Linked.of_writes (linked : Linked schema sender receiver) {other : Endpoint}
    (writes : other.socket.writes = sender.socket.writes)
    (offered : other.offered = sender.offered) : Linked schema other receiver := by
  have same : stream other receiver = stream sender receiver := by
    rw [stream, writes, offered]
    rfl
  rw [Linked, same]
  exact linked

theorem Linked.offer (linked : Linked schema sender receiver) (message : Message)
    (hasHandler : Bool) : Linked schema (sender.offer schema message hasHandler) receiver :=
  Carried.send linked message hasHandler

theorem Linked.write (lawful : schema.Lawful) (linked : Linked schema sender receiver)
    {move : Move} {next : Pipe} (writing : move.isWrite = true)
    (taken : Session.move schema receiver.maxMessageSize (stream sender receiver) move =
      some next) : Linked schema (sender.sending next) receiver := by
  have carried := Carried.write lawful linked writing taken
  obtain ⟨writes, rfl, -⟩ := Session.sender_of_write writing taken
  exact carried

theorem Linked.completeRead (lawful : schema.Lawful) (linked : Linked schema sender receiver)
    {reading : PendingRead} (outstanding : receiver.reading = some reading)
    (enough : receiver.consumed + reading.size ≤ receiver.arrived) :
    Linked schema sender (receiver.completeRead schema reading
      ((sender.socket.writes.bytes.drop receiver.consumed).take reading.size)) :=
  Carried.read lawful linked outstanding enough rfl

theorem Linked.onRead (lawful : schema.Lawful) (linked : Linked schema sender receiver)
    {reading : PendingRead} (outstanding : receiver.reading = some reading)
    (enough : receiver.consumed + reading.size ≤ receiver.arrived) :
    Linked schema sender (receiver.onRead schema reading
      ((sender.socket.writes.bytes.drop receiver.consumed).take reading.size)) := by
  have completed := linked.completeRead lawful outstanding enough
  rw [onRead_eq]
  split
  · exact completed
  · exact completed

theorem Linked.answered (linked : Linked schema sender receiver) (reading : PendingRead)
    (bytes : List UInt8) : Linked schema (sender.onRead schema reading bytes) receiver := by
  have kept : Linked schema (sender.completeRead schema reading bytes) receiver :=
    linked.of_writes (completeRead_socket sender reading bytes).1 rfl
  rw [onRead_eq]
  split
  · exact kept.offer (pong schema) true
  · exact kept

theorem Linked.onTimer (linked : Linked schema sender receiver) {timer : Timer}
    {wait : Wait Nat} {socket : TimedSocket}
    (taken : Timers.step schema sender.socket (.run timer wait) = some socket) :
    Linked schema (sender.onTimer schema timer socket) receiver := by
  cases Timers.step_cases taken with
  | runIdle wait steady removed => exact linked.of_writes rfl rfl
  | runHandshake wait steady removed => exact linked.of_writes rfl rfl
  | runHeartbeat wait steady removed =>
      unfold Endpoint.onTimer TimedSocket.onHeartbeat
      cases sent : sender.socket.heartbeatSent with
      | true => exact linked.of_writes rfl rfl
      | false => exact (linked.offer (ping schema) true).of_writes rfl rfl

theorem Linked.isPrefix (linked : Linked schema sender receiver) :
    receiver.frames <+: sender.accepted.map Message.kind := by
  obtain ⟨done, rest, split, read, -⟩ := linked.traced
  have accepted : sender.accepted = done ++ rest := split
  rw [accepted, List.map_append, read]
  exact List.prefix_append _ _

/-- No more system messages of a kind are read than the peer's queue accepted,
and no more of them accepted than offered. -/
theorem Linked.count_le (linked : Linked schema sender receiver) (id : UInt8) :
    receiver.frames.count (id, true) ≤
        sender.accepted.countP (fun message => message.isSystem && message.id == id) ∧
      sender.accepted.countP (fun message => message.isSystem && message.id == id) ≤
        sender.offered.countP fun message => message.isSystem && message.id == id := by
  constructor
  · have kinds : (sender.accepted.map Message.kind).count (id, true) =
        sender.accepted.countP fun message => message.isSystem && message.id == id := by
      rw [List.count, List.countP_map]
      apply List.countP_congr
      intro message member
      simp [Message.kind, and_comm]
    rw [← kinds]
    exact linked.isPrefix.sublist.count_le _
  · exact linked.subset.countP_le

end Linked

/-- Both streams carry what was offered, and both endpoints have offered what
they should have. -/
structure Balanced (peers : Peers) : Prop where
  linked : ∀ side, Linked schema (peers side) (peers side.other)
  measured : ∀ side, Measured (peers side)

section Balanced

variable {schema} {peers next : Peers}

theorem Side.other_other (side : Side) : side.other.other = side := by
  cases side <;> rfl

theorem Side.other_ne (side : Side) : side.other ≠ side := by
  cases side <;> nofun

theorem Side.eq_or_eq_other (side other : Side) : other = side ∨ other = side.other := by
  cases side with
  | left =>
      cases other with
      | left => exact Or.inl rfl
      | right => exact Or.inr rfl
  | right =>
      cases other with
      | left => exact Or.inr rfl
      | right => exact Or.inl rfl

theorem Balanced.incoming (balanced : Balanced schema peers) (side : Side) :
    Linked schema (peers side.other) (peers side) := by
  have linked := balanced.linked side.other
  rw [side.other_other] at linked
  exact linked

theorem Balanced.initial (settings : Side → Settings) :
    Balanced schema fun side => started (settings side) where
  linked := fun side => Linked.started (settings side) (settings side.other)
  measured := fun side => Measured.started (settings side)

theorem Balanced.update (balanced : Balanced schema peers) {side : Side} {endpoint : Endpoint}
    (outgoing : Linked schema endpoint (peers side.other))
    (incoming : Linked schema (peers side.other) endpoint) (measured : Measured endpoint) :
    Balanced schema (Function.update peers side endpoint) := by
  have same : Function.update peers side endpoint side = endpoint := Function.update_self _ _ _
  have kept : Function.update peers side endpoint side.other = peers side.other :=
    Function.update_of_ne side.other_ne _ _
  constructor
  · intro other
    rcases side.eq_or_eq_other other with rfl | rfl
    · rw [same, kept]
      exact outgoing
    · rw [side.other_other, same, kept]
      exact incoming
  · intro other
    rcases side.eq_or_eq_other other with rfl | rfl
    · rw [same]
      exact measured
    · rw [kept]
      exact balanced.measured side.other

theorem Balanced.write (lawful : schema.Lawful) (balanced : Balanced schema peers) {side : Side}
    {move : Move} (writing : move.isWrite = true)
    (taken : write schema peers side move = some next) : Balanced schema next := by
  obtain ⟨pipe, moved, rfl⟩ := Option.map_eq_some_iff.mp taken
  have outgoing := (balanced.linked side).write lawful writing moved
  obtain ⟨writes, rfl, -⟩ := Session.sender_of_write writing moved
  apply balanced.update outgoing
  · exact balanced.incoming side
  · exact (balanced.measured side).frame rfl rfl rfl rfl

theorem Balanced.read (lawful : schema.Lawful) (balanced : Balanced schema peers) {side : Side}
    {reading : PendingRead} (outstanding : (peers side).reading = some reading)
    (enough : (peers side).consumed + reading.size ≤ (peers side).arrived) :
    Balanced schema (Function.update peers side ((peers side).onRead schema reading
      (((peers side.other).socket.writes.bytes.drop (peers side).consumed).take
        reading.size))) := by
  apply balanced.update
  · exact (balanced.linked side).answered reading _
  · exact (balanced.incoming side).onRead lawful outstanding enough
  · exact (balanced.measured side).onRead reading _

theorem Balanced.clock (balanced : Balanced schema peers) {side : Side} {socket : TimedSocket}
    (writes : socket.writes = (peers side).socket.writes)
    (log : socket.log = (peers side).socket.log)
    (sent : socket.heartbeatSent = (peers side).socket.heartbeatSent) :
    Balanced schema (Function.update peers side { peers side with socket }) := by
  apply balanced.update
  · exact (balanced.linked side).of_writes writes rfl
  · exact balanced.incoming side
  · exact (balanced.measured side).frame log sent rfl rfl

theorem Balanced.step (lawful : schema.Lawful) (balanced : Balanced schema peers)
    {action : Action} (taken : Conversation.step schema peers action = some next) :
    Balanced schema next := by
  cases action with
  | send side message hasHandler =>
      obtain ⟨application, taken⟩ := Option.ite_none_right_eq_some.mp taken
      cases taken
      apply balanced.update
      · exact (balanced.linked side).offer message hasHandler
      · exact balanced.incoming side
      · exact (balanced.measured side).send application hasHandler
  | runTask side task => exact balanced.write lawful rfl taken
  | transfer side flight count => exact balanced.write lawful rfl taken
  | complete side flight isValid => exact balanced.write lawful rfl taken
  | arrive side count =>
      obtain ⟨within, taken⟩ := Option.ite_none_right_eq_some.mp taken
      cases taken
      apply balanced.update
      · exact (balanced.linked side).of_writes rfl rfl
      · exact Carried.arrive (balanced.incoming side) within
      · exact (balanced.measured side).frame rfl rfl rfl rfl
  | read side =>
      simp only [Conversation.step] at taken
      split at taken
      next => cases taken
      next reading outstanding =>
        obtain ⟨enough, taken⟩ := Option.ite_none_right_eq_some.mp taken
        cases taken
        exact balanced.read lawful outstanding enough
  | readError side =>
      obtain ⟨reading, outstanding, rfl⟩ := Option.map_eq_some_iff.mp taken
      apply balanced.update
      · exact (balanced.linked side).of_writes rfl rfl
      · exact Carried.readError lawful (balanced.incoming side) outstanding
      · exact (balanced.measured side).frame rfl rfl rfl rfl
  | elapse side duration =>
      cases taken
      exact balanced.clock rfl rfl rfl
  | expire side timer =>
      obtain ⟨socket, expired, rfl⟩ := Option.map_eq_some_iff.mp taken
      cases Timers.step_cases expired <;> exact balanced.clock rfl rfl rfl
  | run side timer wait =>
      obtain ⟨socket, handled, rfl⟩ := Option.map_eq_some_iff.mp taken
      apply balanced.update
      · exact (balanced.linked side).onTimer handled
      · exact balanced.incoming side
      · exact (balanced.measured side).onTimer handled

/-- The only system message a completed read calls for is the pong to a ping. -/
theorem read_eq_some {side : Side} (taken : step schema peers (.read side) = some next) :
    ∃ reading, (peers side).reading = some reading ∧
      (next side).frames = (peers side).frames ++ reading.frame ∧
      (next side).offered =
        (peers side).offered ++ if readsPing reading then [pong schema] else [] := by
  simp only [step] at taken
  split at taken
  next => cases taken
  next reading outstanding =>
    obtain ⟨enough, taken⟩ := Option.ite_none_right_eq_some.mp taken
    cases taken
    refine ⟨reading, outstanding, ?_⟩
    rw [Function.update_self, onRead_eq]
    split
    · exact ⟨rfl, rfl⟩
    · exact ⟨rfl, (List.append_nil _).symm⟩

theorem Balanced.pongs_le (balanced : Balanced schema peers) (side : Side) :
    (peers side).offered.countP Message.isPong ≤
      (peers side.other).socket.log.countP Event.isPing := by
  obtain ⟨read, accepted⟩ := (balanced.incoming side).count_le SystemId.hbPing.toId
  rw [(balanced.measured side).pongs, ← (balanced.measured side.other).pings]
  exact read.trans accepted

end Balanced

/-- For any interleaving of timers, reads, application sends and rejections: an
endpoint pings at most once between two completed reads, it answers each ping it
has read with one pong and reacts to nothing else, the pongs it reads are at most
the pings its own queue accepted, and all system messages of both are at most
twice the pings of their timers. -/
theorem heartbeats_bounded {schema : Schema} (lawful : schema.Lawful)
    {settings : Side → Settings} {actions : List Action} {peers : Peers}
    (executed : run (step schema) (fun side => started (settings side)) actions = some peers) :
    (∀ side, Spaced Event.isPing Event.isRead (peers side).socket.log) ∧
      (∀ side, (peers side).frames <+: (peers side.other).accepted.map Message.kind) ∧
      (∀ side, (peers side).offered.countP Message.isPong =
        (peers side).frames.count (SystemId.hbPing.toId, true)) ∧
      (∀ side next, step schema peers (.read side) = some next →
        ∃ reading, (peers side).reading = some reading ∧
          (next side).frames = (peers side).frames ++ reading.frame ∧
          (next side).offered =
            (peers side).offered ++ if readsPing reading then [pong schema] else []) ∧
      (∀ side, (peers side).frames.count (SystemId.hbPong.toId, true) ≤
        (peers side).accepted.countP Message.isPing) ∧
      (peers .left).offered.countP Message.isSystem +
          (peers .right).offered.countP Message.isSystem ≤
        2 * ((peers .left).socket.log.countP Event.isPing +
          (peers .right).socket.log.countP Event.isPing) := by
  have balanced : Balanced schema peers := run_invariant_of_step (Balanced schema)
    (fun _ _ _ balanced taken => balanced.step lawful taken) (.initial settings) executed
  refine ⟨?_, ?_, ?_, ?_, ?_, ?_⟩
  · exact fun side => (balanced.measured side).spaced
  · exact fun side => (balanced.incoming side).isPrefix
  · exact fun side => (balanced.measured side).pongs
  · exact fun side next taken => read_eq_some taken
  · intro side
    have incoming := (balanced.incoming side).count_le SystemId.hbPong.toId
    have outgoing := (balanced.linked side).count_le SystemId.hbPing.toId
    calc (peers side).frames.count (SystemId.hbPong.toId, true)
        ≤ (peers side.other).offered.countP Message.isPong := incoming.1.trans incoming.2
      _ = (peers side.other).frames.count (SystemId.hbPing.toId, true) :=
          (balanced.measured side.other).pongs
      _ ≤ (peers side).accepted.countP Message.isPing := outgoing.1
  · have left := balanced.measured .left
    have right := balanced.measured .right
    have answeredLeft := balanced.pongs_le .left
    have answeredRight := balanced.pongs_le .right
    rw [left.system, right.system, left.pings, right.pings]
    simp only [Side.other] at answeredLeft answeredRight
    omega

/-- The left endpoint pings and reads the answer of the right one. -/
theorem heartbeats_bounded_one_exchange :
    let settings : Settings :=
      { timeouts := { heartbeat := 5 }
        recalls := false
        maxPendingWrites := 4
        maxMessageSize := 0 }
    let pinging : Network.Call := ⟨0, (hbPing flatbuffers).header, (hbPing flatbuffers).body, true⟩
    let answering : Network.Call :=
      ⟨0, (hbPong flatbuffers).header, (hbPong flatbuffers).body, true⟩
    let actions : List Action := [.elapse .left 5, .expire .left .heartbeat,
      .run .left .heartbeat ⟨1, 5⟩, .runTask .left .writeNext, .runTask .left (.initiate pinging),
      .transfer .left ⟨pinging, 0⟩ 52, .arrive .right 52, .read .right, .read .right, .read .right,
      .runTask .right .writeNext, .runTask .right (.initiate answering),
      .transfer .right ⟨answering, 0⟩ 52, .arrive .left 52, .read .left, .read .left, .read .left]
    ∃ peers, run (step flatbuffers) (fun _ => started settings) actions = some peers ∧
      (peers .left).frames = [(SystemId.hbPong.toId, true)] ∧
      (peers .right).frames = [(SystemId.hbPing.toId, true)] ∧
      (peers .left).frames.count (SystemId.hbPong.toId, true) ≤
        (peers .left).accepted.countP Message.isPing := by
  intro settings pinging answering actions
  have exchanged : (run (step flatbuffers) (fun _ => started settings) actions).map
      (fun peers => ((peers .left).frames, (peers .right).frames)) =
        some ([(SystemId.hbPong.toId, true)], [(SystemId.hbPing.toId, true)]) := by
    decide +kernel
  obtain ⟨peers, executed, frames⟩ := Option.map_eq_some_iff.mp exchanged
  obtain ⟨left, right⟩ := Prod.mk.inj frames
  have bounded := (@heartbeats_bounded flatbuffers flatbuffers_lawful (fun _ => settings) actions
    peers executed).2.2.2.2.1
  exact ⟨peers, executed, left, right, bounded .left⟩

end SocketSL.Conversation
