import SocketSL.Connection.Exchange
import SocketSL.Network.Stalls

/-!
# Two endpoints over a link of bounded latency

The clocks of both endpoints go at one rate, handlers run without delay and a
message reaches the other host within a delay.  `Occurs` says what a step does
to one endpoint and which messages it posts, and `Posted` keeps the time of each
of them.  An endpoint with nothing to read has read all that was posted longer
ago than the delay, so a ping is answered within it.
-/

namespace SocketSL.Conversation

open SocketSL.Lib
open SocketSL.Network (BoostTcpSocket)
open SocketSL.Session (PendingRead Pipe Move Position asyncSend)
open SocketSL.Timers
open SocketSL.Exchange (Conveys)

/-- An action, or time that passes for both endpoints. -/
inductive Tick where
  | act (action : Action)
  | elapse (duration : Nat)

/-- A message that was handed to `async_send`. -/
structure Post where
  side : Side
  time : Nat
  message : Message

variable (schema : Schema)

def tick (peers : Peers) : Tick → Option Peers
  | .act (.elapse _ _) => none
  | .act action => step schema peers action
  | .elapse duration => run (step schema) peers [.elapse .left duration, .elapse .right duration]

/-- The messages that a step hands to `async_send`. -/
def posts (peers : Peers) (_ : Tick) (next : Peers) : List Post :=
  [Side.left, .right].flatMap fun side =>
    ((next side).offered.drop (peers side).offered.length).map fun message =>
      ⟨side, (peers side).socket.now, message⟩

def postedBy (side : Side) (past : List Post) : List Post :=
  past.filter fun post => post.side = side

/-- Time passes only when nothing is to be done: no handler is due, no read can
complete, and what was posted longer ago than the delay has arrived. -/
structure Passes (delay : Nat) (peers : Peers) (past : List Post) (duration : Nat) : Prop where
  urgent : ∀ side, Urgent (peers side).socket (.elapse duration)
  unread : ∀ side, ∀ reading ∈ (peers side).reading,
    (peers side).arrived < (peers side).consumed + reading.size
  arrived : ∀ side before post after, postedBy side past = before ++ post :: after →
    post.time + delay < (peers side).socket.now + duration →
      (((before ++ [post]).map Post.message).flatMap (Message.frame schema)).length ≤
        (peers side.other).arrived

/-- The link is as fast as that, no read of it fails, and users send what the
other endpoint accepts. -/
def Swift (delay : Nat) (observed : Peers × List Post) : Tick → Prop
  | .elapse duration => Passes schema delay observed.1 observed.2 duration
  | .act (.send side message _) => message.Fits schema (observed.1 side.other).maxMessageSize
  | .act (.readError _) => False
  | .act _ => True

/-- What a step does to the endpoint of one side, and the messages it posts. -/
inductive Occurs (peers : Peers) (side : Side) : Tick → Endpoint → List Message → Prop where
  | calm (ticked : Tick) (next : Endpoint) (still : ∀ duration, ticked ≠ .elapse duration)
      (timers : next.socket = { (peers side).socket with
        writes := next.socket.writes, reads := next.socket.reads })
      (cap : next.socket.writes.maxPendingWrites = (peers side).socket.writes.maxPendingWrites)
      (accepted : next.socket.writes.accepted = (peers side).socket.writes.accepted)
      (frames : next.frames = (peers side).frames)
      (limit : next.maxMessageSize = (peers side).maxMessageSize)
      (unfailed : next.readFailed = (peers side).readFailed ∨ ticked = .act (.readError side)) :
      Occurs peers side ticked next []
  | send (message : Message) (hasHandler : Bool) (application : message.isSystem = false) :
      Occurs peers side (.act (.send side message hasHandler))
        ((peers side).offer schema message hasHandler) [message]
  | read (reading : PendingRead) (bytes : List UInt8) :
      Occurs peers side (.act (.read side)) ((peers side).onRead schema reading bytes)
        (if readsPing reading then [pong schema] else [])
  | elapse (duration : Nat) :
      Occurs peers side (.elapse duration)
        { peers side with
          socket := { (peers side).socket with now := (peers side).socket.now + duration } } []
  | expire (timer : Timer) (socket : TimedSocket)
      (expired : Timers.step schema (peers side).socket (.expire timer) = some socket) :
      Occurs peers side (.act (.expire side timer)) { peers side with socket } []
  | run (timer : Timer) (wait : Wait Nat) (socket : TimedSocket)
      (handled : Timers.step schema (peers side).socket (.run timer wait) = some socket) :
      Occurs peers side (.act (.run side timer wait)) ((peers side).onTimer schema timer socket)
        (if timer = .heartbeat ∧ (peers side).socket.heartbeatSent = false then [ping schema]
          else [])

section Occurs

variable {schema} {peers next : Peers} {ticked : Tick}

theorem Occurs.update {side : Side} {endpoint : Endpoint} {posted : List Message}
    (occurs : Occurs schema peers side ticked endpoint posted)
    (still : ∀ duration, ticked ≠ .elapse duration)
    (offered : endpoint.offered = (peers side).offered ++ posted) (other : Side) :
    ∃ posted, (Function.update peers side endpoint other).offered =
        (peers other).offered ++ posted ∧
      Occurs schema peers other ticked (Function.update peers side endpoint other) posted := by
  rcases side.eq_or_eq_other other with rfl | rfl
  · rw [Function.update_self]
    exact ⟨posted, offered, occurs⟩
  · rw [Function.update_of_ne side.other_ne]
    exact ⟨[], (List.append_nil _).symm, .calm ticked _ still rfl rfl rfl rfl rfl (.inl rfl)⟩

theorem occurs_calm {side : Side} {endpoint : Endpoint}
    (still : ∀ duration, ticked ≠ .elapse duration)
    (timers : endpoint.socket = { (peers side).socket with
      writes := endpoint.socket.writes, reads := endpoint.socket.reads })
    (cap : endpoint.socket.writes.maxPendingWrites = (peers side).socket.writes.maxPendingWrites)
    (accepted : endpoint.socket.writes.accepted = (peers side).socket.writes.accepted)
    (frames : endpoint.frames = (peers side).frames)
    (limit : endpoint.maxMessageSize = (peers side).maxMessageSize)
    (unfailed : endpoint.readFailed = (peers side).readFailed ∨ ticked = .act (.readError side))
    (offered : endpoint.offered = (peers side).offered) (other : Side) :
    ∃ posted, (Function.update peers side endpoint other).offered =
        (peers other).offered ++ posted ∧
      Occurs schema peers other ticked (Function.update peers side endpoint other) posted := by
  apply Occurs.update (.calm ticked endpoint still timers cap accepted frames limit unfailed) still
  rw [offered, List.append_nil]

theorem occurs_of_write {side : Side} {move : Move} (writing : move.isWrite = true)
    (still : ∀ duration, ticked ≠ .elapse duration)
    (taken : write schema peers side move = some next) (other : Side) :
    ∃ posted, (next other).offered = (peers other).offered ++ posted ∧
      Occurs schema peers other ticked (next other) posted := by
  obtain ⟨pipe, moved, rfl⟩ := Option.map_eq_some_iff.mp taken
  have cap := Exchange.maxPendingWrites_of_write writing moved
  obtain ⟨writes, rfl, accepted⟩ := Session.sender_of_write writing moved
  refine occurs_calm still ?_ cap accepted ?_ ?_ (.inl ?_) ?_ other <;> rfl

theorem tick_occurs (taken : tick schema peers ticked = some next) (side : Side) :
    ∃ posted, (next side).offered = (peers side).offered ++ posted ∧
      Occurs schema peers side ticked (next side) posted := by
  cases ticked with
  | elapse duration =>
      cases taken
      refine ⟨[], ?_, ?_⟩
      · cases side <;> exact (List.append_nil _).symm
      · cases side <;> exact .elapse duration
  | act action =>
      have still : ∀ duration, Tick.act action ≠ .elapse duration := fun _ => Tick.noConfusion
      cases action with
      | send acting message hasHandler =>
          obtain ⟨application, taken⟩ := Option.ite_none_right_eq_some.mp taken
          cases taken
          exact (Occurs.send message hasHandler application).update still rfl side
      | runTask acting task => exact occurs_of_write rfl still taken side
      | transfer acting flight count => exact occurs_of_write rfl still taken side
      | complete acting flight isValid => exact occurs_of_write rfl still taken side
      | arrive acting count =>
          obtain ⟨within, taken⟩ := Option.ite_none_right_eq_some.mp taken
          cases taken
          refine occurs_calm still ?_ ?_ ?_ ?_ ?_ (.inl ?_) ?_ side <;> rfl
      | read acting =>
          simp only [tick, step] at taken
          split at taken
          next => cases taken
          next reading outstanding =>
            obtain ⟨enough, taken⟩ := Option.ite_none_right_eq_some.mp taken
            cases taken
            refine (Occurs.read reading _).update still ?_ side
            rw [onRead_eq]
            split
            · rfl
            · exact (List.append_nil _).symm
      | readError acting =>
          obtain ⟨reading, outstanding, rfl⟩ := Option.map_eq_some_iff.mp taken
          refine occurs_calm still ?_ ?_ ?_ ?_ ?_ (.inr ?_) ?_ side <;> rfl
      | elapse acting duration => cases taken
      | expire acting timer =>
          obtain ⟨socket, expired, rfl⟩ := Option.map_eq_some_iff.mp taken
          exact (Occurs.expire timer socket expired).update still (List.append_nil _).symm side
      | run acting timer wait =>
          obtain ⟨socket, handled, rfl⟩ := Option.map_eq_some_iff.mp taken
          refine (Occurs.run timer wait socket handled).update still ?_ side
          unfold Endpoint.onTimer
          split
          · rfl
          · exact (List.append_nil _).symm

end Occurs

/-- The queue has no cap and has dropped nothing. -/
structure Endpoint.Unlimited (endpoint : Endpoint) : Prop where
  cap : endpoint.socket.writes.maxPendingWrites = 0
  whole : endpoint.accepted = endpoint.offered

section Unlimited

variable {schema} {peers : Peers} {ticked : Tick} {sender receiver : Endpoint}

theorem Endpoint.Unlimited.offer (lawful : schema.Lawful) (linked : Linked schema sender receiver)
    (unlimited : sender.Unlimited) (message : Message) (hasHandler : Bool) :
    (sender.offer schema message hasHandler).Unlimited := by
  have conveys : Conveys schema receiver.maxMessageSize 0 (stream sender receiver) :=
    ⟨linked.toAligned, unlimited.cap, linked.subset, fun _ => unlimited.whole⟩
  have taken : Session.move schema receiver.maxMessageSize (stream sender receiver)
      (.send message hasHandler) =
        some (stream (sender.offer schema message hasHandler) receiver) := rfl
  obtain ⟨kept, -, -⟩ := conveys.send lawful taken
  exact ⟨kept.cap, kept.whole rfl⟩

theorem Endpoint.Unlimited.of_writes (unlimited : sender.Unlimited) {next : Endpoint}
    (cap : next.socket.writes.maxPendingWrites = sender.socket.writes.maxPendingWrites)
    (accepted : next.socket.writes.accepted = sender.socket.writes.accepted)
    (offered : next.offered = sender.offered) : next.Unlimited := by
  refine ⟨cap.trans unlimited.cap, ?_⟩
  have whole := unlimited.whole
  rw [Endpoint.accepted] at whole ⊢
  rw [accepted, offered]
  exact whole

theorem Endpoint.Unlimited.occurs (lawful : schema.Lawful) {side : Side} {next : Endpoint}
    {posted : List Message} (linked : Linked schema (peers side) receiver)
    (unlimited : (peers side).Unlimited) (occurs : Occurs schema peers side ticked next posted)
    (offered : next.offered = (peers side).offered ++ posted) : next.Unlimited := by
  cases occurs with
  | calm ticked next still timers cap accepted frames limit unfailed =>
      exact unlimited.of_writes cap accepted (offered.trans (List.append_nil _))
  | send message hasHandler application => exact unlimited.offer lawful linked message hasHandler
  | read reading bytes =>
      have writes := (@completeRead_socket schema (peers side) reading bytes).1
      have completed : ((peers side).completeRead schema reading bytes).Unlimited :=
        unlimited.of_writes (by rw [writes]) (by rw [writes]) rfl
      rw [onRead_eq]
      split
      · exact completed.offer lawful (linked.of_writes writes rfl) (pong schema) true
      · exact completed
  | elapse duration => exact unlimited.of_writes rfl rfl rfl
  | expire timer socket expired =>
      cases Timers.step_cases expired <;> exact unlimited.of_writes rfl rfl rfl
  | run timer wait socket handled =>
      cases Timers.step_cases handled with
      | runIdle wait steady removed => exact unlimited.of_writes rfl rfl rfl
      | runHandshake wait steady removed => exact unlimited.of_writes rfl rfl rfl
      | runHeartbeat wait steady removed =>
          unfold Endpoint.onTimer TimedSocket.onHeartbeat
          cases sent : (peers side).socket.heartbeatSent with
          | true => exact unlimited.of_writes rfl rfl rfl
          | false =>
              exact (unlimited.offer lawful linked (ping schema) true).of_writes rfl rfl rfl

end Unlimited

section Reading

variable {schema} {done rest : List Message} {consumed arrived maxMessageSize : Nat}
  {sender receiver : Endpoint}

theorem arrived_lt_of_position {message : Message} {reading : Option PendingRead}
    (position : Position schema maxMessageSize done (message :: rest) consumed reading false)
    (fits : message.Fits schema maxMessageSize)
    (unread : ∀ outstanding ∈ reading, arrived < consumed + outstanding.size) :
    arrived < ((done ++ [message]).flatMap (Message.frame schema)).length := by
  have total : ((done ++ [message]).flatMap (Message.frame schema)).length =
      (done.flatMap (Message.frame schema)).length + 8 + (message.headerBytes schema).length +
        message.body.bytes.length := by
    rw [List.flatMap_append, List.length_append, List.flatMap_singleton, message.frame_eq schema]
    simp [Nat.add_assoc]
  rw [total]
  cases position with
  | frameSize rest =>
      have incomplete : arrived < (done.flatMap (Message.frame schema)).length + 8 :=
        unread _ rfl
      omega
  | header message rest within =>
      have incomplete : arrived < (done.flatMap (Message.frame schema)).length + 8 +
          (message.headerBytes schema).length := unread _ rfl
      omega
  | body message rest fits => exact unread _ rfl
  | stopped message rest consumed exceeds => exact absurd fits exceeds

/-- An endpoint with nothing to read has read all that has arrived. -/
theorem Linked.read_of_arrived (linked : Linked schema sender receiver)
    (unlimited : sender.Unlimited)
    (fits : ∀ message ∈ sender.offered, message.Fits schema receiver.maxMessageSize)
    (unfailed : receiver.readFailed = false)
    (unread : ∀ reading ∈ receiver.reading,
      receiver.arrived < receiver.consumed + reading.size) :
    ∃ done rest, sender.offered = done ++ rest ∧ receiver.frames = done.map Message.kind ∧
      ∀ before after, sender.offered = before ++ after →
        (before.flatMap (Message.frame schema)).length ≤ receiver.arrived →
          before.length ≤ done.length := by
  obtain ⟨done, rest, split, frames, position⟩ := linked.traced
  have offered : sender.offered = done ++ rest := unlimited.whole.symm.trans split
  have position : Position schema receiver.maxMessageSize done rest receiver.consumed
      receiver.reading false := unfailed ▸ position
  refine ⟨done, rest, offered, frames.symm, ?_⟩
  intro before after divided arrived
  by_contra longer
  cases rest with
  | nil =>
      have lengths := congrArg List.length (offered.symm.trans divided)
      simp only [List.append_nil, List.length_append] at lengths
      omega
  | cons message rest =>
      have incomplete := arrived_lt_of_position position (fits message (by simp [offered])) unread
      have begins : done ++ [message] <+: before := by
        apply List.prefix_of_prefix_length_le _ (⟨after, divided.symm⟩ : before <+: sender.offered)
        · rw [List.length_append, List.length_singleton]
          omega
        · exact ⟨rest, by simp [offered]⟩
      obtain ⟨more, rfl⟩ := begins
      rw [List.flatMap_append, List.length_append] at arrived
      omega

end Reading

/-- The messages of a kind that were posted by then. -/
def postedUntil (counted : Message → Bool) (time : Nat) (posted : List Post) : Nat :=
  posted.countP fun post => counted post.message && decide (post.time ≤ time)

section Posts

variable {posted more : List Post} {counted : Message → Bool} {time : Nat}

theorem postedUntil_append_late (late : ∀ post ∈ more, time < post.time) :
    postedUntil counted time (posted ++ more) = postedUntil counted time posted := by
  have none : postedUntil counted time more = 0 := by
    apply List.countP_eq_zero.mpr
    intro post member
    have after := late post member
    simp [Nat.not_le.mpr after]
  rw [postedUntil, List.countP_append]
  exact congrArg (_ + ·) none

theorem postedUntil_eq_of_stamped (stamped : ∀ post ∈ posted, post.time ≤ time) :
    postedUntil counted time posted = (posted.map Post.message).countP counted := by
  rw [postedUntil, List.countP_map]
  apply List.countP_congr
  intro post member
  simp [stamped post member]

theorem postedUntil_le : postedUntil counted time posted ≤
    (posted.map Post.message).countP counted := by
  rw [postedUntil, List.countP_map]
  apply List.countP_mono_left
  intro post member holds
  exact (Bool.and_eq_true_iff.mp holds).1

theorem postedUntil_le_of_read {done rest : List Message}
    (split : posted.map Post.message = done ++ rest)
    (read : ∀ before post after, posted = before ++ post :: after → post.time ≤ time →
      before.length < done.length) :
    postedUntil counted time posted ≤ done.countP counted := by
  obtain ⟨first, second, rfl, rfl, -⟩ := List.map_eq_append_iff.mp split
  have late : ∀ post ∈ second, time < post.time := by
    intro post member
    obtain ⟨before, after, rfl⟩ := List.mem_iff_append.mp member
    by_contra early
    have within := read (first ++ before) post after (List.append_assoc _ _ _).symm
      (Nat.not_lt.mp early)
    rw [List.length_append, List.length_map] at within
    omega
  rw [postedUntil_append_late late]
  exact postedUntil_le

theorem count_kind (messages : List Message) (id : UInt8) :
    (messages.map Message.kind).count (id, true) =
      messages.countP fun message => message.isSystem && message.id == id := by
  rw [List.count, List.countP_map]
  apply List.countP_congr
  intro message member
  simp [Message.kind, and_comm]

end Posts

def Tick.duration : Tick → Nat
  | .act _ => 0
  | .elapse duration => duration

/-- The record has what was offered, with the times of one clock. -/
structure Posted (peers : Peers) (past : List Post) : Prop where
  clocks : ∀ side, (peers side.other).socket.now = (peers side).socket.now
  offered : ∀ side, (postedBy side past).map Post.message = (peers side).offered
  stamped : ∀ side, ∀ post ∈ postedBy side past, post.time ≤ (peers side).socket.now

section Posted

variable {schema} {peers next : Peers} {past : List Post} {ticked : Tick}

theorem postedBy_map (side acting : Side) (time : Nat) (messages : List Message) :
    postedBy side (messages.map fun message => ⟨acting, time, message⟩) =
      if acting = side then messages.map fun message => ⟨acting, time, message⟩ else [] := by
  split
  next same =>
    apply List.filter_eq_self.mpr
    intro post member
    obtain ⟨message, -, rfl⟩ := List.mem_map.mp member
    exact decide_eq_true same
  next different =>
    apply List.filter_eq_nil_iff.mpr
    intro post member
    obtain ⟨message, -, rfl⟩ := List.mem_map.mp member
    simpa using different

theorem postedBy_append {side : Side} {posted : List Message}
    (offered : (next side).offered = (peers side).offered ++ posted) :
    postedBy side (past ++ posts peers ticked next) =
      postedBy side past ++ posted.map fun message => ⟨side, (peers side).socket.now, message⟩ := by
  have fresh : (next side).offered.drop (peers side).offered.length = posted := by
    rw [offered, List.drop_left]
  have split : postedBy side (past ++ posts peers ticked next) =
      postedBy side past ++ postedBy side (posts peers ticked next) := List.filter_append ..
  rw [split, ← fresh]
  congr 1
  have each : postedBy side (posts peers ticked next) =
      [Side.left, .right].flatMap fun acting => postedBy side
        (((next acting).offered.drop (peers acting).offered.length).map fun message =>
          ⟨acting, (peers acting).socket.now, message⟩) := List.filter_flatMap ..
  simp only [postedBy_map] at each
  rw [each]
  cases side <;> simp

theorem completeRead_now (endpoint : Endpoint) (reading : PendingRead) (bytes : List UInt8) :
    (endpoint.completeRead schema reading bytes).socket.now = endpoint.socket.now := by
  obtain ⟨_, _, _, equal⟩ := TimedSocket.restart_frame (TimedSocket.record
    { endpoint.socket with reads := endpoint.socket.reads - 1 } .readCompleted)
  have completed : { endpoint.socket with reads := endpoint.socket.reads - 1 }.onRead true = _ :=
    equal
  unfold Endpoint.completeRead
  rw [completed]
  rfl

theorem Occurs.now {side : Side} {endpoint : Endpoint} {posted : List Message}
    (occurs : Occurs schema peers side ticked endpoint posted) :
    endpoint.socket.now = (peers side).socket.now + ticked.duration := by
  cases occurs with
  | calm ticked next still timers cap accepted frames limit unfailed =>
      cases ticked with
      | elapse duration => exact absurd rfl (still duration)
      | act action =>
          rw [timers]
          rfl
  | send message hasHandler application => rfl
  | read reading bytes =>
      rw [onRead_eq]
      split
      · exact @completeRead_now schema (peers side) reading bytes
      · exact completeRead_now (peers side) reading bytes
  | elapse duration => rfl
  | expire timer socket expired => cases Timers.step_cases expired <;> rfl
  | run timer wait socket handled =>
      cases Timers.step_cases handled with
      | runIdle wait steady removed => rfl
      | runHandshake wait steady removed => rfl
      | runHeartbeat wait steady removed =>
          unfold Endpoint.onTimer TimedSocket.onHeartbeat
          split <;> rfl

theorem Occurs.silent {side : Side} {endpoint : Endpoint} {posted : List Message}
    {duration : Nat} (occurs : Occurs schema peers side (.elapse duration) endpoint posted) :
    posted = [] := by
  cases occurs with
  | calm => rfl
  | elapse => rfl

theorem Posted.tick (recorded : Posted peers past)
    (taken : Conversation.tick schema peers ticked = some next) :
    Posted next (past ++ posts peers ticked next) := by
  refine ⟨?_, ?_, ?_⟩
  · intro side
    obtain ⟨_, _, own⟩ := tick_occurs taken side
    obtain ⟨_, _, other⟩ := tick_occurs taken side.other
    rw [own.now, other.now, recorded.clocks side]
  · intro side
    obtain ⟨posted, offered, -⟩ := tick_occurs taken side
    rw [postedBy_append offered, List.map_append, recorded.offered side, offered]
    simp [Function.comp_def]
  · intro side post member
    obtain ⟨posted, offered, occurs⟩ := tick_occurs taken side
    rw [postedBy_append offered] at member
    rw [occurs.now]
    rcases List.mem_append.mp member with earlier | latest
    · exact (recorded.stamped side post earlier).trans (Nat.le_add_right _ _)
    · obtain ⟨message, -, rfl⟩ := List.mem_map.mp latest
      exact Nat.le_add_right _ _

end Posted

/-- Nothing has gone wrong that the timers are not made for. -/
structure Healthy (peers : Peers) : Prop where
  unlimited : ∀ side, (peers side).Unlimited
  fits : ∀ side, ∀ message ∈ (peers side).offered,
    message.Fits schema (peers side.other).maxMessageSize
  ping : ∀ side, (ping schema).Fits schema (peers side).maxMessageSize
  pong : ∀ side, (pong schema).Fits schema (peers side).maxMessageSize
  unfailed : ∀ side, (peers side).readFailed = false

section Healthy

variable {schema} {peers next : Peers} {past : List Post} {ticked : Tick} {delay : Nat}

theorem Occurs.limit {side : Side} {endpoint : Endpoint} {posted : List Message}
    (occurs : Occurs schema peers side ticked endpoint posted) :
    endpoint.maxMessageSize = (peers side).maxMessageSize := by
  cases occurs with
  | calm ticked next still timers cap accepted frames limit unfailed => exact limit
  | read reading bytes =>
      rw [onRead_eq]
      split <;> rfl
  | _ => rfl

theorem Occurs.unfailed {side : Side} {endpoint : Endpoint} {posted : List Message}
    (occurs : Occurs schema peers side ticked endpoint posted)
    (swift : Swift schema delay (peers, past) ticked) :
    endpoint.readFailed = (peers side).readFailed := by
  cases occurs with
  | calm ticked next still timers cap accepted frames limit unfailed =>
      rcases unfailed with same | rfl
      · exact same
      · exact absurd swift id
  | read reading bytes =>
      rw [onRead_eq]
      split <;> rfl
  | _ => rfl

theorem Healthy.fits_posted (healthy : Healthy schema peers) {side : Side} {endpoint : Endpoint}
    {posted : List Message} (occurs : Occurs schema peers side ticked endpoint posted)
    (swift : Swift schema delay (peers, past) ticked) :
    ∀ message ∈ posted, message.Fits schema (peers side.other).maxMessageSize := by
  intro message member
  cases occurs with
  | send other hasHandler application =>
      cases List.mem_singleton.mp member
      exact swift
  | read reading bytes =>
      split at member
      · cases List.mem_singleton.mp member
        exact healthy.pong side.other
      · cases member
  | run timer wait socket handled =>
      split at member
      · cases List.mem_singleton.mp member
        exact healthy.ping side.other
      · cases member
  | _ => cases member

theorem Healthy.tick (lawful : schema.Lawful) (healthy : Healthy schema peers)
    (balanced : Balanced schema peers) (swift : Swift schema delay (peers, past) ticked)
    (taken : Conversation.tick schema peers ticked = some next) : Healthy schema next := by
  have limit : ∀ side, (next side).maxMessageSize = (peers side).maxMessageSize := by
    intro side
    obtain ⟨_, _, occurs⟩ := tick_occurs taken side
    exact occurs.limit
  refine ⟨?_, ?_, ?_, ?_, ?_⟩
  · intro side
    obtain ⟨posted, offered, occurs⟩ := tick_occurs taken side
    exact (healthy.unlimited side).occurs lawful (balanced.linked side) occurs offered
  · intro side message member
    obtain ⟨posted, offered, occurs⟩ := tick_occurs taken side
    rw [offered] at member
    rw [limit side.other]
    rcases List.mem_append.mp member with earlier | latest
    · exact healthy.fits side message earlier
    · exact healthy.fits_posted occurs swift message latest
  · intro side
    rw [limit side]
    exact healthy.ping side
  · intro side
    rw [limit side]
    exact healthy.pong side
  · intro side
    obtain ⟨_, _, occurs⟩ := tick_occurs taken side
    rw [occurs.unfailed swift]
    exact healthy.unfailed side

theorem Healthy.reading (healthy : Healthy schema peers) (balanced : Balanced schema peers)
    (side : Side) : (peers side).reading ≠ none := by
  have linked := balanced.incoming side
  have fits := healthy.fits side.other
  rw [side.other_other] at fits
  have unfailed := healthy.unfailed side
  obtain ⟨done, rest, split, -, position⟩ := linked.traced
  have offered : (peers side.other).offered = done ++ rest :=
    (healthy.unlimited side.other).whole.symm.trans split
  have stands : Position schema (peers side).maxMessageSize done rest (peers side).consumed
      (peers side).reading (peers side).readFailed := position
  intro stopped
  rw [stopped, unfailed] at stands
  generalize (peers side).consumed = consumed at stands
  cases stands with
  | stopped message rest consumed exceeds => exact exceeds (fits message (by simp [offered]))

/-- When time passes, the other endpoint has read what was posted longer ago
than the delay. -/
theorem Passes.read {duration : Nat} (passes : Passes schema delay peers past duration)
    (balanced : Balanced schema peers) (healthy : Healthy schema peers)
    (recorded : Posted peers past) (side : Side) (id : UInt8) {time : Nat}
    (early : time + delay < (peers side).socket.now + duration) :
    postedUntil (fun message => message.isSystem && message.id == id) time
      (postedBy side past) ≤ (peers side.other).frames.count (id, true) := by
  obtain ⟨done, rest, offered, frames, read⟩ := (balanced.linked side).read_of_arrived
    (healthy.unlimited side) (healthy.fits side) (healthy.unfailed side.other)
    (passes.unread side.other)
  rw [frames, count_kind]
  apply postedUntil_le_of_read ((recorded.offered side).trans offered)
  intro before post after split posted
  have arrived := passes.arrived side before post after split (by omega)
  have divided : (peers side).offered =
      (before ++ [post]).map Post.message ++ after.map Post.message := by
    rw [← recorded.offered side, split]
    simp
  have within := read _ _ divided arrived
  rw [List.length_map, List.length_append, List.length_singleton] at within
  omega

end Healthy

/-- A ping that was posted longer ago than the delay has been answered within
it. -/
def Answered (delay : Nat) (peers : Peers) (past : List Post) : Prop :=
  ∀ side time, time + delay < (peers side).socket.now →
    postedUntil Message.isPing time (postedBy side past) ≤
      postedUntil Message.isPong (time + delay) (postedBy side.other past)

section Answered

variable {schema} {peers next : Peers} {past : List Post} {ticked : Tick} {delay : Nat}

theorem posted_late {side : Side} (posted : List Message) {time : Nat}
    (before : time < (peers side).socket.now) :
    ∀ post ∈ posted.map (fun message => (⟨side, (peers side).socket.now, message⟩ : Post)),
      time < post.time := by
  intro post member
  obtain ⟨message, -, rfl⟩ := List.mem_map.mp member
  exact before

theorem Answered.passes (answered : Answered delay peers past) (balanced : Balanced schema peers)
    (healthy : Healthy schema peers) (recorded : Posted peers past) {duration : Nat}
    (passes : Passes schema delay peers past duration) (side : Side) {time : Nat}
    (early : time + delay < (peers side).socket.now + duration) :
    postedUntil Message.isPing time (postedBy side past) ≤
      postedUntil Message.isPong (time + delay) (postedBy side.other past) := by
  by_cases now : time + delay < (peers side).socket.now
  · exact answered side time now
  · have answers : postedUntil Message.isPong (time + delay) (postedBy side.other past) =
        (peers side.other).frames.count (SystemId.hbPing.toId, true) := by
      rw [postedUntil_eq_of_stamped, recorded.offered side.other]
      · exact (balanced.measured side.other).pongs
      · intro post member
        have clock := recorded.clocks side
        have stamped := recorded.stamped side.other post member
        omega
    rw [answers]
    exact passes.read balanced healthy recorded side SystemId.hbPing.toId early

theorem Answered.tick (answered : Answered delay peers past) (balanced : Balanced schema peers)
    (healthy : Healthy schema peers) (recorded : Posted peers past)
    (swift : Swift schema delay (peers, past) ticked)
    (taken : Conversation.tick schema peers ticked = some next) :
    Answered delay next (past ++ posts peers ticked next) := by
  intro side time early
  obtain ⟨posted, offered, occurs⟩ := tick_occurs taken side
  obtain ⟨answers, otherOffered, otherOccurs⟩ := tick_occurs taken side.other
  rw [occurs.now] at early
  rw [postedBy_append offered, postedBy_append otherOffered]
  cases ticked with
  | act action =>
      have clock := recorded.clocks side
      rw [Tick.duration] at early
      rw [postedUntil_append_late (posted_late posted (by omega)),
        postedUntil_append_late (posted_late answers (by omega))]
      exact answered side time early
  | elapse duration =>
      rw [occurs.silent, otherOccurs.silent, List.map_nil, List.append_nil, List.map_nil,
        List.append_nil]
      exact answered.passes balanced healthy recorded swift side early

end Answered

end SocketSL.Conversation
