import SocketSL.Message.Grammar

/-!
# Round trip over cut streams

A sender writes a list of messages with `send_buffer`; a receiver is given any
prefix of what was written.  It returns exactly the application messages whose
frames are complete in the prefix, answers exactly the complete pings and then
fails.
-/

namespace SocketSL

open SocketSL.Endian SocketSL.Lib

variable (schema : Schema)

/-- Send messages one after the other on a socket. -/
def sendAll : SyncSocket → List Message → SyncSocket
  | socket, [] => socket
  | socket, message :: messages =>
      sendAll (send socket (message.toMessageT schema)).2 messages

theorem sendAll_outgoing {socket : SyncSocket}
    (succeeds : ∀ n, socket.writeSucceeds n = true) (messages : List Message) :
    (sendAll schema socket messages).outgoing =
      socket.outgoing ++ messages.flatMap (Message.frame schema) := by
  induction messages generalizing socket with
  | nil => simp [sendAll]
  | cons message messages inductionHypothesis =>
      obtain ⟨-, outgoing, unchanged⟩ := send_outgoing _ succeeds (message.toMessageT schema)
      rw [sendAll, inductionHypothesis (by rw [unchanged]; exact succeeds), outgoing]
      simp [Message.frame]

section Lawful

variable {schema} (lawful : schema.Lawful) {maxMessageSize : Nat}

/-- A message that fits under the cap is sent as a well-formed frame. -/
def Message.wireFrame (message : Message) (fits : message.Fits schema maxMessageSize) :
    WireFrame schema maxMessageSize where
  header := message.headerBytes schema
  body := message.body.bytes
  headerBounded := message.headerBytes_length_lt schema
  verified := lawful.isValid_create _ _ _
  bodySized := by
    rw [Message.headerBytes, makeHeader, lawful.bodySize_create]
    exact message.body.toNat_size.symm
  withinCap := fits

variable (message : Message) (fits : message.Fits schema maxMessageSize)

@[simp]
theorem Message.wireFrame_bytes :
    (message.wireFrame lawful fits).bytes = message.frame schema :=
  (message.frame_eq schema).symm

@[simp]
theorem Message.wireFrame_type : (message.wireFrame lawful fits).type = message.id :=
  lawful.type_create _ _ _

@[simp]
theorem Message.wireFrame_isSystem :
    (message.wireFrame lawful fits).isSystem = message.isSystem :=
  lawful.isSystem_create _ _ _

@[simp]
theorem Message.wireFrame_isPing :
    (message.wireFrame lawful fits).isPing = message.isPing := by
  simp [WireFrame.isPing, Message.isPing]

include lawful in
/-- The reply to a ping is a well-formed system frame of its own type, wherever
it fits. -/
theorem exists_wireFrame_hbPong
    (admitted : Message.Fits schema maxMessageSize
      ⟨SystemId.hbPong.toId, schema.createHbPongRequest, true⟩) :
    ∃ frame : WireFrame schema maxMessageSize, frame.bytes = (hbPong schema).frame ∧
      frame.isSystem = true ∧ frame.type = SystemId.hbPong.toId ∧ frame.isPing = false := by
  refine ⟨Message.wireFrame lawful _ admitted, ?_, ?_, ?_, ?_⟩
  · exact Message.wireFrame_bytes lawful _ admitted
  · exact Message.wireFrame_isSystem lawful _ admitted
  · exact Message.wireFrame_type lawful _ admitted
  · exact (Message.wireFrame_isPing lawful _ admitted).trans rfl

include lawful fits in
theorem recvIteration_of_message {socket : SyncSocket}
    (cap : socket.maxMessageSize = maxMessageSize) {rest : List UInt8}
    (incoming : socket.incoming = message.frame schema ++ rest) (bodyBuffer : List UInt8) :
    ∃ events, recvIteration schema socket bodyBuffer =
      if message.isSystem = false then
        .return (some message.id) message.body.bytes { socket with incoming := rest } events
      else if message.isPing then
        .again message.body.bytes (send { socket with incoming := rest } (hbPong schema)).2 events
      else
        .again message.body.bytes { socket with incoming := rest } events := by
  have pass := recvIteration_of_frame schema (message.wireFrame lawful fits) cap
    (by simpa using incoming) bodyBuffer
  simp only [Message.wireFrame_isSystem, Message.wireFrame_type, Message.wireFrame_isPing] at pass
  rw [pass]
  split
  · exact ⟨_, rfl⟩
  · split
    · exact ⟨_, rfl⟩
    · exact ⟨_, rfl⟩

include lawful fits in
theorem recvIteration_of_cut {socket : SyncSocket}
    (cap : socket.maxMessageSize = maxMessageSize)
    (isPrefix : socket.incoming <+: message.frame schema)
    (shorter : socket.incoming.length < (message.frame schema).length)
    (bodyBuffer : List UInt8) :
    (recvIteration schema socket bodyBuffer).isFailure = true := by
  by_contra succeeded
  obtain ⟨frame, rest, incoming⟩ := exists_frame_of_pass schema cap bodyBuffer
    (Bool.eq_false_iff.mpr succeeded)
  obtain ⟨missing, equal⟩ := isPrefix
  rw [incoming, ← message.wireFrame_bytes lawful fits, List.append_assoc] at equal
  obtain ⟨rfl, nothing⟩ := WireFrame.selfDelimiting frame (message.wireFrame lawful fits)
    (rest ++ missing) [] (by simpa using equal)
  rw [incoming, Message.wireFrame_bytes] at shorter
  simp at shorter

end Lawful

theorem recvIteration_of_empty {socket : SyncSocket} (incoming : socket.incoming = [])
    (bodyBuffer : List UInt8) :
    (recvIteration schema socket bodyBuffer).isFailure = true := by
  have missing : socket.read 8 = none :=
    SyncSocket.read_eq_none_iff.mpr (by simp [incoming])
  simp [recvIteration, missing]

variable {schema} in
theorem recvAll_of_frames (lawful : schema.Lawful) {maxMessageSize : Nat}
    (messages : List Message) (fits : ∀ message ∈ messages, message.Fits schema maxMessageSize)
    (socket : SyncSocket) (cap : socket.maxMessageSize = maxMessageSize)
    (succeeds : ∀ n, socket.writeSucceeds n = true) {rest : List UInt8}
    (incoming : socket.incoming = messages.flatMap (Message.frame schema) ++ rest)
    (fails : ∀ (last : SyncSocket) (bodyBuffer : List UInt8),
      last.incoming = rest → last.maxMessageSize = maxMessageSize →
        (recvIteration schema last bodyBuffer).isFailure = true)
    (buffers : Nat → List UInt8) :
    (recvAll schema socket buffers).messages =
        (messages.filter fun message => !message.isSystem).map Message.delivery ∧
      (recvAll schema socket buffers).socket.outgoing =
        socket.outgoing ++
          (messages.filter Message.isPing).flatMap fun _ => (hbPong schema).frame := by
  induction messages generalizing socket buffers with
  | nil =>
      have failed := fails socket (buffers 0) (by simpa using incoming) cap
      have silent := (recvIteration_events schema socket (buffers 0)).2.2.2 failed
      revert failed silent
      cases pass : recvIteration schema socket (buffers 0) with
      | again buffer next events =>
          intro failed
          cases failed
      | «return» id buffer next events =>
          intro failed silent
          cases id with
          | some id => cases failed
          | none =>
              rw [recvAll_of_failure schema pass]
              exact ⟨rfl, by simpa using silent⟩
  | cons message messages inductionHypothesis =>
      rw [List.flatMap_cons, List.append_assoc] at incoming
      have fitsLater : ∀ later ∈ messages, later.Fits schema maxMessageSize :=
        fun later membership => fits later (by simp [membership])
      obtain ⟨events, pass⟩ := recvIteration_of_message lawful message (fits message (by simp))
        cap incoming (buffers 0)
      by_cases application : message.isSystem = false
      · rw [if_pos application] at pass
        obtain ⟨messagesEq, outgoingEq⟩ := inductionHypothesis fitsLater { socket with
          incoming := messages.flatMap (Message.frame schema) ++ rest } cap succeeds rfl
          (fun n => buffers (n + 1))
        rw [recvAll_of_message schema pass]
        simp [messagesEq, outgoingEq, application, Message.delivery, Message.isPing]
      · rw [if_neg application] at pass
        have system : message.isSystem = true := by simpa using application
        by_cases ping : message.isPing = true
        · rw [if_pos ping] at pass
          obtain ⟨-, sent, unchanged⟩ := send_outgoing { socket with
            incoming := messages.flatMap (Message.frame schema) ++ rest } succeeds (hbPong schema)
          obtain ⟨messagesEq, outgoingEq⟩ := inductionHypothesis fitsLater (send { socket with
            incoming := messages.flatMap (Message.frame schema) ++ rest }
            (hbPong schema)).2 (by simpa using cap) (by rw [unchanged]; exact succeeds)
            (send_incoming _ _) (Function.update buffers 0 message.body.bytes)
          rw [recvAll_of_again schema pass]
          simp [messagesEq, outgoingEq, sent, system, ping]
        · rw [if_neg ping] at pass
          obtain ⟨messagesEq, outgoingEq⟩ := inductionHypothesis fitsLater { socket with
            incoming := messages.flatMap (Message.frame schema) ++ rest } cap succeeds rfl
            (Function.update buffers 0 message.body.bytes)
          rw [recvAll_of_again schema pass]
          simp [messagesEq, outgoingEq, system, ping]

/-- Receiving any prefix of what was sent returns exactly the application
messages that are complete in it, answers exactly the complete pings and then
fails once. -/
theorem recvAll_of_prefix (lawful : schema.Lawful) (messages : List Message)
    (maxMessageSize : Nat)
    (fits : ∀ message ∈ messages, message.Fits schema maxMessageSize) (cut : List UInt8)
    (isPrefix : cut <+: (sendAll schema { incoming := [] } messages).outgoing)
    (buffers : Nat → List UInt8) :
    let received := recvAll schema { incoming := cut, maxMessageSize := maxMessageSize } buffers
    let inside := whole (Message.frame schema) messages cut.length
    received.messages = (inside.filter fun message => !message.isSystem).map Message.delivery ∧
      received.socket.outgoing =
        (inside.filter Message.isPing).flatMap (fun _ => (hbPong schema).frame) ∧
      ∃ events, received.events = events ++ [.fail] ∧ .fail ∉ events := by
  dsimp only
  rw [sendAll_outgoing schema (fun _ => rfl), List.nil_append] at isPrefix
  obtain ⟨remaining, tail, split, cutEq, last⟩ :=
    prefix_eq_whole_append (Message.frame schema) messages isPrefix
  generalize whole (Message.frame schema) messages cut.length = inside at *
  subst split cutEq
  have fitsInside : ∀ message ∈ inside, message.Fits schema maxMessageSize :=
    fun message membership => fits message (by simp [membership])
  have fails : ∀ (socket : SyncSocket) (bodyBuffer : List UInt8), socket.incoming = tail →
      socket.maxMessageSize = maxMessageSize →
        (recvIteration schema socket bodyBuffer).isFailure = true := by
    intro socket bodyBuffer incoming cap
    rcases last with ⟨-, rfl⟩ | ⟨next, later, rfl, tailPrefix, shorter⟩
    · exact recvIteration_of_empty schema incoming bodyBuffer
    · subst incoming
      exact recvIteration_of_cut lawful next (fits next (by simp)) cap tailPrefix shorter
        bodyBuffer
  obtain ⟨delivered, answered⟩ := recvAll_of_frames lawful inside fitsInside {
    incoming := inside.flatMap (Message.frame schema) ++ tail
    maxMessageSize := maxMessageSize } rfl (fun _ => rfl) rfl fails buffers
  exact ⟨delivered, by simpa using answered, recvAll_events schema _ _⟩

/-- A ping, a message and the first bytes of another one. -/
theorem recvAll_of_prefix_two_and_a_half :
    let messages : List Message := [⟨0, ⟨[1], by decide⟩, true⟩,
      ⟨42, ⟨[1, 2, 3, 4], by decide⟩, false⟩, ⟨7, ⟨[9], by decide⟩, false⟩]
    let cut := (sendAll flatbuffers { incoming := [] } messages).outgoing.take 100
    flatbuffers.Lawful ∧ (∀ message ∈ messages, message.Fits flatbuffers 1024) ∧
      cut <+: (sendAll flatbuffers { incoming := [] } messages).outgoing ∧
      (recvAll flatbuffers { incoming := cut, maxMessageSize := 1024 } fun _ => [5]).messages =
        [(42, [1, 2, 3, 4])] := by
  intro messages cut
  have fits : ∀ message ∈ messages, message.Fits flatbuffers 1024 := by decide
  have isPrefix : cut <+: (sendAll flatbuffers { incoming := [] } messages).outgoing :=
    List.take_prefix 100 _
  have received := recvAll_of_prefix flatbuffers flatbuffers_lawful messages 1024 fits cut
    isPrefix fun _ => [5]
  exact ⟨flatbuffers_lawful, fits, isPrefix, received.1.trans (by decide)⟩

end SocketSL
