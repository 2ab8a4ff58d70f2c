import SocketSL.Connection.Agreement
import SocketSL.Network.Transmission

/-!
# End-to-end delivery

One endpoint sends through `async_write` only, the other runs the session read
loop, and a FIFO byte stream between them hands over any part of what has been
written at any time.  What the reader passes to `handle_message` is a prefix of
the application messages the sender's queue accepted.
-/

namespace SocketSL.Session

open SocketSL.Endian SocketSL.Lib SocketSL.Network

/-- The two endpoints and the stream between them.  `offered` lists the
messages handed to `async_send` by the number of the call; `arrived` and
`consumed` count the bytes that have reached the reader's host and that its
reads have taken. -/
structure Pipe where
  sender : BoostTcpSocket
  offered : List Message := []
  arrived : Nat := 0
  consumed : Nat := 0
  reading : Option PendingRead
  events : List Event
  readFailed : Bool := false

/-- The messages the sender's queue accepted, in that order. -/
def Pipe.accepted (pipe : Pipe) : List Message :=
  pipe.sender.accepted.filterMap fun call => pipe.offered[call.id]?

/-- What the reader has passed to `handle_message`. -/
def Pipe.delivered (pipe : Pipe) : List (UInt8 × List UInt8) := deliveries pipe.events

inductive Move where
  /-- `async_send`, `async_send_view`, a ping or a pong, on any thread -/
  | send (message : Message) (hasHandler : Bool)
  | runTask (task : Task)
  | transfer (flight : Flight) (count : Nat)
  | complete (flight : Flight) (isValid : Bool)
  | arrive (count : Nat)
  | read
  | readError

/-- The sender works on what its queue has accepted. -/
def Move.isWrite : Move → Bool
  | .runTask _ => true
  | .transfer _ _ => true
  | .complete _ _ => true
  | _ => false

/-- The kind of the message that the completion of the read finishes. -/
def PendingRead.frame : PendingRead → List (UInt8 × Bool)
  | .body type _ isSystem => [(type, isSystem)]
  | _ => []

variable (schema : Schema) (maxMessageSize : Nat)

/-- `async_send_buffer`: the frame header and the body in one `async_write`. -/
def asyncSend (socket : BoostTcpSocket) (message : Message) (hasHandler : Bool) :
    BoostTcpSocket :=
  socket.asyncWrite (message.toMessageT schema).header (message.toMessageT schema).body hasHandler

/-- The sender's moves are those of its socket, except that nothing is
transmitted once a write has failed.  A read of the session completes when all
its bytes have arrived, or fails. -/
def move (pipe : Pipe) : Move → Option Pipe
  | .send message hasHandler =>
      some { pipe with
        sender := asyncSend schema pipe.sender message hasHandler
        offered := pipe.offered ++ [message] }
  | .runTask task =>
      (step pipe.sender (.runTask task)).map fun sender => { pipe with sender := sender }
  | .transfer flight count =>
      if pipe.sender.Unbroken then
        (step pipe.sender (.transfer flight count)).map fun sender => { pipe with sender := sender }
      else none
  | .complete flight isValid =>
      (step pipe.sender (.complete flight isValid)).map fun sender => { pipe with sender := sender }
  | .arrive count =>
      if pipe.arrived + count ≤ pipe.sender.bytes.length then
        some { pipe with arrived := pipe.arrived + count }
      else none
  | .read =>
      match pipe.reading with
      | none => none
      | some reading =>
          if pipe.consumed + reading.size ≤ pipe.arrived then
            let bytes := (pipe.sender.bytes.drop pipe.consumed).take reading.size
            let outcome := onRead schema maxMessageSize reading (some bytes)
            some { pipe with
              consumed := pipe.consumed + reading.size
              reading := outcome.reading
              events := pipe.events ++ outcome.events }
          else none
  | .readError =>
      match pipe.reading with
      | none => none
      | some reading =>
          let outcome := onRead schema maxMessageSize reading none
          some { pipe with
            reading := outcome.reading
            events := pipe.events ++ outcome.events
            readFailed := true }

/-- A fresh socket and a session that has just been started. -/
def connected (maxPendingWrites : Nat) : Pipe where
  sender := { maxPendingWrites := maxPendingWrites }
  reading := start.reading
  events := start.events

/-- Where the reader stands after the messages in `done`, with `rest` still to
come. -/
inductive Position (done : List Message) :
    List Message → Nat → Option PendingRead → Bool → Prop where
  | frameSize (rest : List Message) :
      Position done rest (done.flatMap (Message.frame schema)).length (some .frameSize) false
  | header (message : Message) (rest : List Message)
      (within : ¬ OverCap maxMessageSize (message.headerBytes schema).length) :
      Position done (message :: rest) ((done.flatMap (Message.frame schema)).length + 8)
        (some (.header (message.headerBytes schema).length)) false
  | body (message : Message) (rest : List Message)
      (fits : message.Fits schema maxMessageSize) :
      Position done (message :: rest)
        ((done.flatMap (Message.frame schema)).length + 8 + (message.headerBytes schema).length)
        (some (.body message.id message.body.bytes.length message.isSystem)) false
  | stopped (message : Message) (rest : List Message) (consumed : Nat)
      (exceeds : ¬ message.Fits schema maxMessageSize) :
      Position done (message :: rest) consumed none false
  | failed (rest : List Message) (consumed : Nat) : Position done rest consumed none true

/-- The application messages among those sent, as the reader hands them over. -/
def application (messages : List Message) : List (UInt8 × List UInt8) :=
  (messages.filter fun message => !message.isSystem).map Message.delivery

/-- Both endpoints and what they have in common. -/
structure Pipe.Aligned (pipe : Pipe) : Prop where
  transmits : pipe.sender.Transmits
  counted : pipe.offered.length = pipe.sender.calls
  carried : ∀ call ∈ pipe.sender.accepted, ∃ message, pipe.offered[call.id]? = some message ∧
    call.frame = message.frame schema
  arrived : pipe.arrived ≤ pipe.sender.bytes.length
  consumed : pipe.consumed ≤ pipe.arrived
  reader : ∃ done rest, pipe.accepted = done ++ rest ∧
    (∀ message ∈ done, message.Fits schema maxMessageSize) ∧
    pipe.delivered = application done ∧
    Position schema maxMessageSize done rest pipe.consumed pipe.reading pipe.readFailed

section Aligned

variable {schema maxMessageSize} {pipe : Pipe}

theorem Pipe.Aligned.map_frame (aligned : pipe.Aligned schema maxMessageSize) :
    pipe.sender.accepted.map Call.frame = pipe.accepted.map (Message.frame schema) := by
  have carried := aligned.carried
  unfold Pipe.accepted
  generalize pipe.sender.accepted = calls at carried
  induction calls with
  | nil => rfl
  | cons call calls inductionHypothesis =>
      obtain ⟨message, found, frame⟩ := carried call (by simp)
      have later := inductionHypothesis fun other member => carried other (by simp [member])
      simp only [List.filterMap_cons, found, List.map_cons, frame, later]

theorem Pipe.Aligned.next_bytes (aligned : pipe.Aligned schema maxMessageSize)
    {done rest : List Message} (split : pipe.accepted = done ++ rest) {offset size : Nat}
    (consumed : pipe.consumed = (done.flatMap (Message.frame schema)).length + offset)
    (enough : pipe.consumed + size ≤ pipe.arrived) :
    (pipe.sender.bytes.drop pipe.consumed).take size =
      ((rest.flatMap (Message.frame schema)).drop offset).take size ∧
      size ≤ ((rest.flatMap (Message.frame schema)).drop offset).length := by
  obtain ⟨unsent, total⟩ := aligned.transmits.isPrefix
  rw [List.flatMap_def, aligned.map_frame, ← List.flatMap_def, split,
    List.flatMap_append] at total
  have arrived := aligned.arrived
  have available : size ≤ (pipe.sender.bytes.drop pipe.consumed).length := by
    rw [List.length_drop]
    omega
  have dropped : (rest.flatMap (Message.frame schema)).drop offset =
      pipe.sender.bytes.drop pipe.consumed ++ unsent := by
    have shifted := congrArg (List.drop pipe.consumed) total
    rw [List.drop_append_of_le_length (by omega)] at shifted
    rw [shifted, consumed]
    simp [List.drop_append]
  rw [dropped, List.take_append_of_le_length available, List.length_append]
  exact ⟨rfl, by omega⟩

section Frame

variable (message : Message) (more : List UInt8)

theorem take_frameSize : (message.frame schema ++ more).take 8 =
    toLittle (UInt64.ofNat (message.headerBytes schema).length) := by
  rw [message.frame_eq, List.append_assoc, List.take_append_of_le_length (by simp)]
  exact List.take_of_length_le (by simp)

theorem take_header : ((message.frame schema ++ more).drop 8).take
    (message.headerBytes schema).length = message.headerBytes schema := by
  rw [message.frame_eq, List.append_assoc, List.append_assoc]
  simp

theorem take_body : ((message.frame schema ++ more).drop
    (8 + (message.headerBytes schema).length)).take message.body.bytes.length =
      message.body.bytes := by
  rw [message.frame_eq, List.append_assoc, List.append_assoc, ← List.drop_drop]
  simp

theorem onRead_frameSize : onRead schema maxMessageSize .frameSize
    (some (toLittle (UInt64.ofNat (message.headerBytes schema).length))) =
      readHeader maxMessageSize (message.headerBytes schema).length := by
  rw [onRead, fromLittle_toLittle, UInt64.toNat_ofNat_of_lt' (message.headerBytes_length_lt schema)]

theorem onRead_header (lawful : schema.Lawful) (size : Nat) :
    onRead schema maxMessageSize (.header size) (some (message.headerBytes schema)) =
      readBody maxMessageSize message.id message.body.bytes.length message.isSystem := by
  simp [onRead, parseHeader, Message.headerBytes, makeHeader, lawful.isValid_create,
    lawful.type_create, lawful.bodySize_create, lawful.isSystem_create]

end Frame

theorem deliveries_append (first second : List Event) :
    deliveries (first ++ second) = deliveries first ++ deliveries second :=
  List.filterMap_append

theorem application_append (first second : List Message) :
    application (first ++ second) = application first ++ application second := by
  simp [application]

theorem not_fits_iff (message : Message) : ¬ message.Fits schema maxMessageSize ↔
    OverCap maxMessageSize (message.headerBytes schema).length ∨
      OverCap maxMessageSize message.body.bytes.length := by
  simp only [Message.Fits, OverCap]
  omega

/-- The message that the callback of a completed read finishes, if any, and the
reader's position behind it. -/
theorem Pipe.Aligned.position_of_read (lawful : schema.Lawful)
    (aligned : pipe.Aligned schema maxMessageSize) {done rest : List Message}
    (split : pipe.accepted = done ++ rest) {reading : PendingRead}
    (position : Position schema maxMessageSize done rest pipe.consumed (some reading)
      pipe.readFailed)
    (enough : pipe.consumed + reading.size ≤ pipe.arrived) {bytes : List UInt8}
    (read : bytes = (pipe.sender.bytes.drop pipe.consumed).take reading.size) :
    ∃ more left, rest = more ++ left ∧ more.map Message.kind = reading.frame ∧
      (∀ message ∈ more, message.Fits schema maxMessageSize) ∧
      deliveries (onRead schema maxMessageSize reading (some bytes)).events =
        application more ∧
      Position schema maxMessageSize (done ++ more) left (pipe.consumed + reading.size)
        (onRead schema maxMessageSize reading (some bytes)).reading pipe.readFailed := by
  have nextBytes := @Pipe.Aligned.next_bytes schema maxMessageSize pipe aligned done rest split
  generalize pipe.consumed = consumed at *
  generalize pipe.readFailed = readFailed at *
  cases position with
  | frameSize rest =>
      obtain ⟨bytesEq, available⟩ := @nextBytes 0 8 rfl enough
      cases rest with
      | nil => simp at available
      | cons message rest =>
          rw [List.drop_zero, List.flatMap_cons, take_frameSize] at bytesEq
          rw [read.trans bytesEq, onRead_frameSize]
          refine ⟨[], message :: rest, rfl, rfl, nofun, ?_⟩
          rw [List.append_nil]
          by_cases overCap : OverCap maxMessageSize (message.headerBytes schema).length
          · rw [show readHeader maxMessageSize (message.headerBytes schema).length = onError
              from if_pos overCap]
            exact ⟨rfl, .stopped message rest _ ((not_fits_iff message).mpr (Or.inl overCap))⟩
          · rw [show readHeader maxMessageSize (message.headerBytes schema).length = _
              from if_neg overCap]
            exact ⟨rfl, .header message rest overCap⟩
  | header message rest within =>
      obtain ⟨bytesEq, -⟩ := @nextBytes 8 (message.headerBytes schema).length rfl enough
      rw [List.flatMap_cons, take_header] at bytesEq
      rw [read.trans bytesEq, onRead_header message lawful]
      refine ⟨[], message :: rest, rfl, rfl, nofun, ?_⟩
      rw [List.append_nil]
      by_cases overCap : OverCap maxMessageSize message.body.bytes.length
      · rw [show readBody maxMessageSize message.id message.body.bytes.length message.isSystem =
          onError from if_pos overCap]
        exact ⟨rfl, .stopped message rest _ ((not_fits_iff message).mpr (Or.inr overCap))⟩
      · rw [show readBody maxMessageSize message.id message.body.bytes.length message.isSystem =
          _ from if_neg overCap]
        have fitsNext : message.Fits schema maxMessageSize := by
          by_contra exceeds
          exact ((not_fits_iff message).mp exceeds).elim within overCap
        exact ⟨rfl, .body message rest fitsNext⟩
  | body message rest fitsNext =>
      obtain ⟨bytesEq, -⟩ := @nextBytes (8 + (message.headerBytes schema).length)
        message.body.bytes.length (Nat.add_assoc _ _ _) enough
      rw [List.flatMap_cons, take_body] at bytesEq
      rw [read.trans bytesEq]
      refine ⟨[message], rest, rfl, rfl, ?_, ?_, ?_⟩
      · intro other member
        cases List.mem_singleton.mp member
        exact fitsNext
      · cases system : message.isSystem with
        | true =>
            simp [onRead, application, system, deliveries, readFrameSize, handleSysMessage]
        | false => simp [onRead, application, system, deliveries, readFrameSize, Message.delivery]
      · have total : ((done ++ [message]).flatMap (Message.frame schema)).length =
            (done.flatMap (Message.frame schema)).length + 8 +
              (message.headerBytes schema).length + message.body.bytes.length := by
          rw [List.flatMap_append, List.length_append, List.flatMap_singleton,
            message.frame_eq schema]
          simp [Nat.add_assoc]
        have position := @Position.frameSize schema maxMessageSize (done ++ [message]) rest
        rw [total] at position
        exact position

theorem Pipe.Aligned.reader_of_read (lawful : schema.Lawful)
    (aligned : pipe.Aligned schema maxMessageSize) {reading : PendingRead}
    (outstanding : pipe.reading = some reading)
    (enough : pipe.consumed + reading.size ≤ pipe.arrived) {bytes : List UInt8}
    (read : bytes = (pipe.sender.bytes.drop pipe.consumed).take reading.size) :
    ∃ done rest, pipe.accepted = done ++ rest ∧
      (∀ message ∈ done, message.Fits schema maxMessageSize) ∧
      deliveries (pipe.events ++ (onRead schema maxMessageSize reading (some bytes)).events) =
        application done ∧
      Position schema maxMessageSize done rest (pipe.consumed + reading.size)
        (onRead schema maxMessageSize reading (some bytes)).reading pipe.readFailed := by
  obtain ⟨done, rest, split, fits, delivered, position⟩ := aligned.reader
  rw [outstanding] at position
  obtain ⟨more, left, rfl, -, fitsMore, deliveredMore, advanced⟩ :=
    aligned.position_of_read lawful split position enough read
  refine ⟨done ++ more, left, ?_, ?_, ?_, advanced⟩
  · rw [split, List.append_assoc]
  · intro message member
    rcases List.mem_append.mp member with earlier | last
    · exact fits message earlier
    · exact fitsMore message last
  · rw [deliveries_append, application_append, deliveredMore, ← delivered]
    rfl

theorem Position.extend {done rest : List Message} {consumed : Nat}
    {reading : Option PendingRead} {readFailed : Bool}
    (position : Position schema maxMessageSize done rest consumed reading readFailed)
    (more : List Message) :
    Position schema maxMessageSize done (rest ++ more) consumed reading readFailed := by
  cases position with
  | frameSize rest => exact .frameSize (rest ++ more)
  | header message rest within => exact .header message (rest ++ more) within
  | body message rest fits => exact .body message (rest ++ more) fits
  | stopped message rest consumed exceeds => exact .stopped message (rest ++ more) _ exceeds
  | failed rest consumed => exact .failed (rest ++ more) consumed

/-- A reader that still reads has at most the size of a frame that exceeds the
cap. -/
theorem Position.consumed_le {done rest : List Message} {consumed : Nat}
    {reading : Option PendingRead} {readFailed : Bool}
    (position : Position schema maxMessageSize done rest consumed reading readFailed)
    (active : reading ≠ none) :
    consumed ≤ (done.flatMap (Message.frame schema)).length +
      ((rest.takeWhile fun message => message.Fits schema maxMessageSize).flatMap
        (Message.frame schema)).length + 8 := by
  cases position with
  | frameSize rest => omega
  | header message rest within => omega
  | body message rest fits =>
      rw [List.takeWhile_cons_of_pos (by simpa using fits), List.flatMap_cons, List.length_append,
        message.frame_eq schema, List.length_append, List.length_append]
      omega
  | stopped message rest consumed exceeds => exact absurd rfl active
  | failed rest consumed => exact absurd rfl active

theorem Position.rest_eq_nil {done rest : List Message} {consumed : Nat} {readFailed : Bool}
    (position : Position schema maxMessageSize done rest consumed (some .frameSize) readFailed)
    (exhausted : consumed = ((done ++ rest).flatMap (Message.frame schema)).length) :
    rest = [] := by
  cases position with
  | frameSize rest =>
      rw [List.flatMap_append, List.length_append] at exhausted
      have nothing : rest.flatMap (Message.frame schema) = [] :=
        List.length_eq_zero_iff.mp (by omega)
      cases rest with
      | nil => rfl
      | cons message rest => simp [message.frame_ne_nil schema] at nothing

theorem Pipe.Aligned.of_sender (aligned : pipe.Aligned schema maxMessageSize)
    {sender : BoostTcpSocket} (transmits : sender.Transmits)
    (accepted : sender.accepted = pipe.sender.accepted) (calls : sender.calls = pipe.sender.calls)
    (longer : pipe.sender.bytes.length ≤ sender.bytes.length) :
    ({ pipe with sender := sender } : Pipe).Aligned schema maxMessageSize where
  transmits := transmits
  counted := aligned.counted.trans calls.symm
  carried := by
    rw [accepted]
    exact aligned.carried
  arrived := aligned.arrived.trans longer
  consumed := aligned.consumed
  reader := by
    obtain ⟨done, rest, split, reader⟩ := aligned.reader
    refine ⟨done, rest, ?_, reader⟩
    rw [← split, Pipe.accepted, Pipe.accepted, accepted]

theorem Pipe.Aligned.offered_of_send (aligned : pipe.Aligned schema maxMessageSize)
    (message : Message) : ∀ call ∈ pipe.sender.accepted,
      (pipe.offered ++ [message])[call.id]? = pipe.offered[call.id]? := by
  intro call member
  obtain ⟨carried, present, -⟩ := aligned.carried call member
  exact List.getElem?_append_left (List.getElem?_eq_some_iff.mp present).1

theorem Pipe.Aligned.last_of_send (aligned : pipe.Aligned schema maxMessageSize)
    (message : Message) : (pipe.offered ++ [message])[pipe.sender.calls]? = some message := by
  rw [← aligned.counted]
  simp

/-- The queue accepts the message as the last one or not at all. -/
theorem Pipe.Aligned.accepted_of_send (aligned : pipe.Aligned schema maxMessageSize)
    (message : Message) (hasHandler : Bool) :
    ({ pipe with
      sender := asyncSend schema pipe.sender message hasHandler
      offered := pipe.offered ++ [message] } : Pipe).accepted = pipe.accepted ∨
    ({ pipe with
      sender := asyncSend schema pipe.sender message hasHandler
      offered := pipe.offered ++ [message] } : Pipe).accepted = pipe.accepted ++ [message] := by
  have kept : (pipe.sender.accepted.filterMap fun call => (pipe.offered ++ [message])[call.id]?) =
      pipe.accepted := List.filterMap_congr (aligned.offered_of_send message)
  obtain ⟨accepted, -, -⟩ := pipe.sender.asyncWrite_accepted
    (message.toMessageT schema).header (message.toMessageT schema).body hasHandler
  rcases accepted with rejected | accepted
  · apply Or.inl
    rw [Pipe.accepted, asyncSend, rejected, kept]
  · apply Or.inr
    rw [Pipe.accepted, asyncSend, accepted, List.filterMap_append, kept]
    simp [aligned.last_of_send message]

theorem Pipe.Aligned.send (aligned : pipe.Aligned schema maxMessageSize) (message : Message)
    (hasHandler : Bool) :
    ({ pipe with
      sender := asyncSend schema pipe.sender message hasHandler
      offered := pipe.offered ++ [message] } : Pipe).Aligned schema maxMessageSize := by
  have transmits := aligned.transmits.asyncWrite (message.toMessageT schema).header
    (message.toMessageT schema).body hasHandler
  have carried : ∀ call ∈ pipe.sender.accepted, ∃ other,
      (pipe.offered ++ [message])[call.id]? = some other ∧ call.frame = other.frame schema := by
    intro call member
    rw [aligned.offered_of_send message call member]
    exact aligned.carried call member
  obtain ⟨accepted, calls, wire⟩ := pipe.sender.asyncWrite_accepted
    (message.toMessageT schema).header (message.toMessageT schema).body hasHandler
  refine ⟨transmits, ?_, ?_, ?_, aligned.consumed, ?_⟩
  · rw [asyncSend, calls, List.length_append, aligned.counted]
    rfl
  · rcases accepted with rejected | accepted
    · rw [asyncSend, rejected]
      exact carried
    · rw [asyncSend, accepted]
      intro call member
      rcases List.mem_append.mp member with earlier | now
      · exact carried call earlier
      · cases List.mem_singleton.mp now
        exact ⟨message, aligned.last_of_send message, rfl⟩
  · rw [BoostTcpSocket.bytes, asyncSend, wire]
    exact aligned.arrived
  · obtain ⟨done, rest, split, fits, delivered, position⟩ := aligned.reader
    rcases aligned.accepted_of_send message hasHandler with rejected | accepted
    · exact ⟨done, rest, rejected.trans split, fits, delivered, position⟩
    · refine ⟨done, rest ++ [message], ?_, fits, delivered, position.extend [message]⟩
      rw [accepted, split, List.append_assoc]

/-- What the sender does between two sends leaves the accepted messages as they
are. -/
theorem sender_of_write {step : Move} {next : Pipe} (writing : step.isWrite = true)
    (taken : move schema maxMessageSize pipe step = some next) :
    ∃ sender, next = { pipe with sender := sender } ∧ sender.accepted = pipe.sender.accepted := by
  cases step with
  | runTask task =>
      obtain ⟨sender, moved, rfl⟩ := Option.map_eq_some_iff.mp taken
      cases step_cases moved with
      | runTask task rest pending =>
          exact ⟨_, rfl, (BoostTcpSocket.runTask_accepted _ task).1⟩
  | transfer flight count =>
      obtain ⟨-, mapped⟩ := Option.ite_none_right_eq_some.mp taken
      obtain ⟨sender, moved, rfl⟩ := Option.map_eq_some_iff.mp mapped
      cases step_cases moved with
      | transfer flight count inFlight remains => exact ⟨_, rfl, rfl⟩
  | complete flight isValid =>
      obtain ⟨sender, moved, rfl⟩ := Option.map_eq_some_iff.mp taken
      cases step_cases moved with
      | complete flight isValid inFlight finished =>
          exact ⟨_, rfl, pipe.sender.complete_accepted flight isValid⟩
  | _ => cases writing

theorem Pipe.Aligned.of_move (lawful : schema.Lawful) (aligned : pipe.Aligned schema maxMessageSize)
    {step : Move} {next : Pipe} (taken : move schema maxMessageSize pipe step = some next) :
    next.Aligned schema maxMessageSize := by
  cases step with
  | send message hasHandler =>
      cases taken
      exact aligned.send message hasHandler
  | runTask task =>
      obtain ⟨sender, moved, rfl⟩ := Option.map_eq_some_iff.mp taken
      cases step_cases moved with
      | runTask task rest pending =>
          obtain ⟨accepted, calls, wire⟩ :=
            BoostTcpSocket.runTask_accepted { pipe.sender with tasks := rest } task
          apply aligned.of_sender (aligned.transmits.runTask pending) accepted calls
          rw [BoostTcpSocket.bytes, BoostTcpSocket.bytes, wire]
  | transfer flight count =>
      obtain ⟨unbroken, mapped⟩ := Option.ite_none_right_eq_some.mp taken
      obtain ⟨sender, moved, rfl⟩ := Option.map_eq_some_iff.mp mapped
      cases step_cases moved with
      | transfer flight count inFlight remains =>
          apply aligned.of_sender (aligned.transmits.transfer unbroken inFlight) rfl rfl
          simp [BoostTcpSocket.bytes, BoostTcpSocket.transfer]
  | complete flight isValid =>
      obtain ⟨sender, moved, rfl⟩ := Option.map_eq_some_iff.mp taken
      cases step_cases moved with
      | complete flight isValid inFlight finished =>
          have transmits := aligned.transmits.complete inFlight finished
          obtain ⟨-, -, behind, queue⟩ := aligned.transmits.writers.of_flight inFlight
          rw [BoostTcpSocket.complete_of_cons queue] at transmits ⊢
          exact aligned.of_sender transmits rfl rfl (Nat.le_refl _)
  | arrive count =>
      obtain ⟨within, moved⟩ := Option.ite_none_right_eq_some.mp taken
      cases moved
      exact { aligned with
        arrived := within
        consumed := aligned.consumed.trans (Nat.le_add_right _ _) }
  | read =>
      cases outstanding : pipe.reading with
      | none => simp [move, outstanding] at taken
      | some reading =>
          simp only [move, outstanding] at taken
          obtain ⟨enough, moved⟩ := Option.ite_none_right_eq_some.mp taken
          cases moved
          exact { aligned with
            consumed := enough
            reader := aligned.reader_of_read lawful outstanding enough rfl }
  | readError =>
      cases outstanding : pipe.reading with
      | none => simp [move, outstanding] at taken
      | some reading =>
          simp only [move, outstanding] at taken
          cases taken
          obtain ⟨done, rest, split, fits, delivered, position⟩ := aligned.reader
          refine { aligned with reader := ⟨done, rest, split, fits, ?_, ?_⟩ }
          · rw [Pipe.delivered, deliveries_append, ← delivered]
            cases reading <;> simp [onRead, onError, deliveries, Pipe.delivered]
          · cases reading <;> exact .failed rest _

theorem Pipe.Aligned.initial (maxPendingWrites : Nat) :
    (connected maxPendingWrites).Aligned schema maxMessageSize where
  transmits := BoostTcpSocket.Transmits.initial maxPendingWrites
  counted := rfl
  carried := by simp [connected]
  arrived := Nat.zero_le _
  consumed := Nat.le_refl _
  reader := ⟨[], [], rfl, by simp, rfl, .frameSize []⟩

/-- A session that has stopped reading does not deliver anything any more. -/
theorem stopped_for_good (stopped : pipe.reading = none) {step : Move} {next : Pipe}
    (taken : move schema maxMessageSize pipe step = some next) :
    next.reading = none ∧ next.delivered = pipe.delivered := by
  cases step with
  | send message hasHandler =>
      cases taken
      exact ⟨stopped, rfl⟩
  | runTask task =>
      obtain ⟨sender, -, rfl⟩ := Option.map_eq_some_iff.mp taken
      exact ⟨stopped, rfl⟩
  | transfer flight count =>
      obtain ⟨-, mapped⟩ := Option.ite_none_right_eq_some.mp taken
      obtain ⟨sender, -, rfl⟩ := Option.map_eq_some_iff.mp mapped
      exact ⟨stopped, rfl⟩
  | complete flight isValid =>
      obtain ⟨sender, -, rfl⟩ := Option.map_eq_some_iff.mp taken
      exact ⟨stopped, rfl⟩
  | arrive count =>
      obtain ⟨-, moved⟩ := Option.ite_none_right_eq_some.mp taken
      cases moved
      exact ⟨stopped, rfl⟩
  | read => simp [move, stopped] at taken
  | readError => simp [move, stopped] at taken

/-- In every reachable state the reader has delivered a prefix of the accepted
application messages, none from the first frame on that exceeds its cap.  When
it stops by itself it has delivered everything before that frame, and stays
stopped; while it reads it is not past the size of that frame; when it has read
everything it has delivered everything. -/
theorem delivered_in_order (lawful : schema.Lawful) {maxPendingWrites : Nat} {moves : List Move}
    (executed : Lib.run (move schema maxMessageSize) (connected maxPendingWrites) moves =
      some pipe) :
    pipe.sender.accepted.map Call.frame = pipe.accepted.map (Message.frame schema) ∧
      pipe.delivered <+: application pipe.accepted ∧
      pipe.delivered <+: application (pipe.accepted.takeWhile fun message =>
        message.Fits schema maxMessageSize) ∧
      (pipe.reading = none → pipe.readFailed = false →
        (∃ message ∈ pipe.accepted, ¬ message.Fits schema maxMessageSize) ∧
          pipe.delivered = application (pipe.accepted.takeWhile fun message =>
            message.Fits schema maxMessageSize)) ∧
      (pipe.reading = none → ∀ step next,
        move schema maxMessageSize pipe step = some next →
          next.reading = none ∧ next.delivered = pipe.delivered) ∧
      (pipe.reading ≠ none → pipe.consumed ≤ ((pipe.accepted.takeWhile fun message =>
        message.Fits schema maxMessageSize).flatMap (Message.frame schema)).length + 8) ∧
      (pipe.reading = some .frameSize →
        pipe.consumed = (pipe.accepted.flatMap (Message.frame schema)).length →
          pipe.delivered = application pipe.accepted) := by
  have aligned : pipe.Aligned schema maxMessageSize :=
    run_invariant_of_step (fun pipe => pipe.Aligned schema maxMessageSize)
      (fun state step next aligned taken => aligned.of_move lawful taken)
      (Pipe.Aligned.initial maxPendingWrites) executed
  obtain ⟨done, rest, split, fits, delivered, position⟩ := aligned.reader
  have allFit : ∀ message ∈ done, decide (message.Fits schema maxMessageSize) = true :=
    fun message member => decide_eq_true (fits message member)
  refine ⟨aligned.map_frame, ?_, ?_, ?_, ?_, ?_, ?_⟩
  · rw [delivered, split, application_append]
    exact List.prefix_append _ _
  · rw [delivered, split, List.takeWhile_append_of_pos allFit, application_append]
    exact List.prefix_append _ _
  · intro stopped byItself
    rw [stopped, byItself] at position
    generalize pipe.consumed = consumed at position
    cases position with
    | stopped message rest consumed exceeds =>
        refine ⟨⟨message, by simp [split], exceeds⟩, ?_⟩
        rw [delivered, split, List.takeWhile_append_of_pos allFit,
          List.takeWhile_cons_of_neg (by simpa using exceeds), List.append_nil]
  · intro stopped step next taken
    exact stopped_for_good stopped taken
  · intro active
    rw [split, List.takeWhile_append_of_pos allFit, List.flatMap_append, List.length_append]
    exact position.consumed_le active
  · intro atFrame consumed
    rw [atFrame] at position
    rw [split] at consumed
    rw [delivered, split, position.rest_eq_nil consumed, List.append_nil]

end Aligned

/-- One message, all of it transferred in two parts and read. -/
theorem delivered_in_order_one_message :
    let message : Message := ⟨42, ⟨[1, 2, 3, 4], by decide⟩, false⟩
    let call : Call := ⟨0, (message.toMessageT flatbuffers).header, [1, 2, 3, 4], false⟩
    let moves : List Move := [.send message false, .runTask .writeNext, .runTask (.initiate call),
      .transfer ⟨call, 0⟩ 10, .arrive 10, .read, .transfer ⟨call, 10⟩ 34, .arrive 34, .read, .read]
    ∃ pipe, Lib.run (move flatbuffers 0) (connected 0) moves = some pipe ∧
      pipe.delivered = [(42, [1, 2, 3, 4])] ∧ pipe.delivered <+: application pipe.accepted := by
  intro message call moves
  have delivers : (Lib.run (move flatbuffers 0) (connected 0) moves).map Pipe.delivered =
      some [(42, [1, 2, 3, 4])] := by decide +kernel
  obtain ⟨pipe, executed, delivered⟩ := Option.map_eq_some_iff.mp delivers
  exact ⟨pipe, executed, delivered, (delivered_in_order flatbuffers_lawful executed).2.1⟩

end SocketSL.Session
