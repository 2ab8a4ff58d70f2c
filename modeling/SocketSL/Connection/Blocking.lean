import SocketSL.Connection.ClientServer
import SocketSL.Message.Typed
import SocketSL.Network.Drain

/-!
# A blocking client and the server

The client of `run_sync_client` with any sequence of `send` and `recv`: a call
returns before the next one is made, and the pings of the server are answered
from within `recv` only.  The server is the asynchronous one.  Both directions
deliver what has been written a part at a time.  The runs are those of a
connection that lasts: no timer of the server closes it and no read, write or
send fails.
-/

namespace SocketSL.Blocking

open SocketSL.Endian SocketSL.Lib
open SocketSL.Network (BoostTcpSocket)
open SocketSL.Session (PendingRead Pipe Move application asyncSend)
open SocketSL.Conversation (ping pong)
open SocketSL.Exchange

/-- What the program of the client calls. -/
inductive Call where
  | send (message : Message)
  | recv

def Call.isRecv : Call → Bool
  | .send _ => false
  | .recv => true

def Call.message : Call → Option Message
  | .send message => some message
  | .recv => none

structure Settings where
  tables : Tables
  clientLimit : Nat := 0
  serverLimit : Nat := 0
  maxPendingWrites : Nat := 0

/-- The accepted connection on the server's side: its socket, its session, and
what has arrived of the client's stream. -/
structure Server where
  socket : BoostTcpSocket
  offered : List Message := []
  served : Served (List UInt64) := { app := [] }
  posted : Nat := 0
  arrived : Nat := 0
  consumed : Nat := 0
  reading : Option PendingRead
  events : List Event

/-- `incoming` of the client's socket is what has arrived and has not been
read, `handed` counts what has arrived in all, and `received` lists what the
calls of `recv` have returned. -/
structure Dialogue where
  client : SyncSocket
  buffer : List UInt8 := []
  calls : List Call
  received : List (Option UInt64) := []
  handed : Nat := 0
  server : Server

def connected (settings : Settings) (calls : List Call) : Dialogue where
  client := { incoming := [], maxMessageSize := settings.clientLimit }
  calls := calls
  server :=
    { socket := { maxPendingWrites := settings.maxPendingWrites }
      reading := Session.start.reading
      events := Session.start.events }

inductive Action where
  /-- the client's program goes on -/
  | call
  | arriveClient (count : Nat)
  | arriveServer (count : Nat)
  /-- a read of the server's session completes -/
  | read
  /-- a handler of the server hands a message to `async_send` -/
  | post
  | write (move : Network.Action)
  /-- the heartbeat timer of the server's socket -/
  | ping

variable (schema : Schema)

/-- The bytes that the reads of a pass ask for. -/
def asked (events : List Event) : Nat :=
  (events.map fun event => match event with
    | .read size => size
    | _ => 0).sum

/-- No read of the next pass through the loop of `recv_buffer` blocks. -/
def Ready (client : SyncSocket) (buffer : List UInt8) : Prop :=
  asked (recvIteration schema client buffer).events ≤ client.incoming.length

instance (client : SyncSocket) (buffer : List UInt8) : Decidable (Ready schema client buffer) :=
  inferInstanceAs (Decidable (_ ≤ _))

variable (settings : Settings)

/-- The last pass of a call of `recv` returns what the call does; the program
gives up on `nullptr`. -/
def pass (dialogue : Dialogue) (calls : List Call) : Dialogue :=
  match recvIteration schema dialogue.client dialogue.buffer with
  | .again buffer client _ => { dialogue with client := client, buffer := buffer }
  | .return _ _ _ _ =>
      let ended := recv schema settings.tables.testResponse dialogue.client dialogue.buffer
      { dialogue with
        client := ended.socket
        buffer := ended.buffer
        received := dialogue.received ++ [ended.value]
        calls := if ended.value.isSome then calls else [] }

def Server.offer (server : Server) (message : Message) (hasHandler : Bool) : Server :=
  { server with
    socket := asyncSend schema server.socket message hasHandler
    offered := server.offered ++ [message] }

/-- The callback of a read that has completed. -/
def Server.hear (server : Server) (reading : PendingRead) (bytes : List UInt8) : Server :=
  let outcome := Session.onRead schema settings.serverLimit reading (some bytes)
  { server with
    consumed := server.consumed + reading.size
    reading := outcome.reading
    events := server.events ++ outcome.events
    served := outcome.events.foldl (Served.react schema (requestRouter settings.tables))
      server.served }

/-- What a socket does by itself as long as the connection lasts. -/
def lasting : Network.Action → Bool
  | .complete _ isValid => isValid
  | action => action.isOwn

/-- The steps while the connection lasts: none of them closes it or fails. -/
def step (dialogue : Dialogue) : Action → Option Dialogue
  | .call =>
      match dialogue.calls with
      | [] => none
      | .send message :: calls =>
          some { dialogue with
            client := (send dialogue.client (message.toMessageT schema)).2
            calls := calls }
      | .recv :: calls =>
          if Ready schema dialogue.client dialogue.buffer then
            some (pass schema settings dialogue calls)
          else none
  | .arriveClient count =>
      if dialogue.handed + count ≤ dialogue.server.socket.bytes.length then
        some { dialogue with
          client := { dialogue.client with
            incoming := dialogue.client.incoming ++
              (dialogue.server.socket.bytes.drop dialogue.handed).take count }
          handed := dialogue.handed + count }
      else none
  | .arriveServer count =>
      if dialogue.server.arrived + count ≤ dialogue.client.outgoing.length then
        some { dialogue with
          server := { dialogue.server with arrived := dialogue.server.arrived + count } }
      else none
  | .read =>
      match dialogue.server.reading with
      | none => none
      | some reading =>
          if dialogue.server.posted = dialogue.server.served.sent.length ∧
              dialogue.server.consumed + reading.size ≤ dialogue.server.arrived then
            some { dialogue with
              server := dialogue.server.hear schema settings reading
                ((dialogue.client.outgoing.drop dialogue.server.consumed).take reading.size) }
          else none
  | .post =>
      match dialogue.server.served.sent[dialogue.server.posted]? with
      | none => none
      | some message =>
          some { dialogue with
            server := { dialogue.server.offer schema message true with
              posted := dialogue.server.posted + 1 } }
  | .write move =>
      if lasting move then
        (Network.step dialogue.server.socket move).map fun socket =>
          { dialogue with server := { dialogue.server with socket := socket } }
      else none
  | .ping => some { dialogue with server := dialogue.server.offer schema (ping schema) false }

/-- A step that is not a heartbeat of the server's. -/
def Action.isOwn : Action → Bool
  | .arriveClient count => decide (0 < count)
  | .arriveServer count => decide (0 < count)
  | .ping => false
  | _ => true

/-- The requests among the messages that some calls send, as the server's
router sees them. -/
def requested (tables : Tables) (calls : List Call) : List UInt64 :=
  keys tables.testRequest requestIdTest (application (calls.filterMap Call.message))

theorem requested_append (tables : Tables) (earlier later : List Call) :
    requested tables (earlier ++ later) = requested tables earlier ++ requested tables later := by
  rw [requested, List.filterMap_append, Session.application_append, keys_append]
  rfl

/-- No response is waited for that has not been asked for. -/
def Polite (tables : Tables) (calls : List Call) : Prop :=
  ∀ earlier later, calls = earlier ++ .recv :: later →
    earlier.countP Call.isRecv < (requested tables earlier).length

theorem polite_iff (tables : Tables) (calls : List Call) :
    Polite tables calls ↔ ∀ index < calls.length, calls[index]?.any Call.isRecv = true →
      (calls.take index).countP Call.isRecv < (requested tables (calls.take index)).length := by
  constructor
  · intro polite index within waits
    apply polite _ (calls.drop (index + 1))
    rw [List.getElem?_eq_getElem within, Option.any_some] at waits
    cases call : calls[index] with
    | send message =>
        rw [call] at waits
        cases waits
    | recv => rw [← call, List.getElem_cons_drop, List.take_append_drop]
  · rintro indexed earlier later rfl
    have before := indexed earlier.length (by simp) (by simp [Call.isRecv])
    rw [List.take_left] at before
    exact before

instance (tables : Tables) (calls : List Call) : Decidable (Polite tables calls) :=
  decidable_of_iff _ (polite_iff tables calls).symm

theorem Polite.concat {tables : Tables} {calls : List Call} (polite : Polite tables calls)
    {call : Call}
    (waits : call = .recv → calls.countP Call.isRecv < (requested tables calls).length) :
    Polite tables (calls ++ [call]) := by
  intro earlier later split
  rcases List.eq_nil_or_concat later with rfl | ⟨between, last, rfl⟩
  · obtain ⟨rfl, same⟩ := List.append_inj' split rfl
    exact waits (List.singleton_inj.mp same)
  · rw [List.concat_eq_append, ← List.cons_append, ← List.append_assoc] at split
    exact polite earlier between (List.append_inj' split rfl).1

section Ready

variable {schema} {client : SyncSocket} {buffer : List UInt8}

theorem ready_of_success
    (succeeded : (recvIteration schema client buffer).isFailure = false) :
    Ready schema client buffer := by
  have pass := recvIteration_pass schema client buffer
  unfold Ready
  revert pass succeeded
  generalize recvIteration schema client buffer = iteration
  intro succeeded pass
  cases pass with
  | complete size header body rest iteration incoming headerSized bodySized within valid
      bodyWithin result =>
      have issued : asked iteration.events =
          8 + size.toNat + (schema.bodySize header).toNat := by
        subst result
        dsimp only
        split
        · simp [asked, Nat.add_assoc]
        · split <;> simp [asked, Nat.add_assoc]
      rw [issued, incoming]
      simp only [List.length_append, length_toLittle, headerSized, bodySized]
      omega
  | _ => cases succeeded

/-- A pass over frames that fit goes on once the first of them has arrived as a
whole. -/
theorem frame_of_ready (lawful : schema.Lawful) {message : Message} {more : List UInt8}
    (fits : message.Fits schema client.maxMessageSize)
    (isPrefix : client.incoming <+: message.frame schema ++ more)
    (ready : Ready schema client buffer) :
    ∃ rest, client.incoming = message.frame schema ++ rest := by
  have pass := recvIteration_pass schema client buffer
  have parts := message.frame_eq schema
  have whole := isPrefix
  obtain ⟨missing, equal⟩ := isPrefix
  rw [parts, List.append_assoc, List.append_assoc] at equal
  have sized : ∀ {size : UInt64} {rest : List UInt8}, client.incoming = toLittle size ++ rest →
      size.toNat = (message.headerBytes schema).length ∧
        rest ++ missing = message.headerBytes schema ++ (message.body.bytes ++ more) := by
    intro size rest incoming
    rw [incoming, List.append_assoc] at equal
    obtain ⟨sizes, later⟩ := List.append_inj equal (by simp)
    rw [toLittle_injective sizes]
    exact ⟨UInt64.toNat_ofNat_of_lt' (message.headerBytes_length_lt schema), later⟩
  have headed : ∀ {size : UInt64} {header rest : List UInt8},
      client.incoming = toLittle size ++ (header ++ rest) → header.length = size.toNat →
      header = message.headerBytes schema := by
    intro size header rest incoming headerSized
    obtain ⟨same, later⟩ := sized incoming
    rw [List.append_assoc] at later
    exact (List.append_inj later (headerSized.trans same)).1
  have verified : schema.isValid (message.headerBytes schema) = true :=
    lawful.isValid_create _ _ _
  have bodySize : (schema.bodySize (message.headerBytes schema)).toNat =
      message.body.bytes.length := by
    rw [Message.headerBytes, makeHeader, lawful.bodySize_create]
    exact message.body.toNat_size
  unfold Ready at ready
  revert pass ready
  generalize recvIteration schema client buffer = iteration
  intro ready pass
  cases pass with
  | sizeMissing missing =>
      have short : 8 ≤ client.incoming.length := ready
      omega
  | sizeOverCap size rest incoming overCap =>
      rw [(sized incoming).1] at overCap
      exact absurd overCap (by simp only [OverCap, Message.Fits] at fits ⊢; omega)
  | headerMissing size rest incoming within missing =>
      rw [incoming] at ready
      simp [asked] at ready
      omega
  | headerInvalid size header rest incoming headerSized within invalid =>
      rw [headed incoming headerSized, verified] at invalid
      cases invalid
  | bodyOverCap size header rest incoming headerSized within valid overCap =>
      rw [headed incoming headerSized, bodySize] at overCap
      exact absurd overCap (by simp only [OverCap, Message.Fits] at fits ⊢; omega)
  | bodyMissing size header rest incoming headerSized within valid bodyWithin missing =>
      rw [incoming] at ready
      simp [asked, headerSized] at ready
      omega
  | complete size header body rest iteration incoming headerSized bodySized within valid
      bodyWithin result =>
      have same := (sized incoming).1
      rw [headed incoming headerSized, bodySize] at bodySized
      have long : (message.frame schema).length ≤ client.incoming.length := by
        rw [incoming, parts]
        simp only [List.length_append, length_toLittle, headerSized, bodySized, same]
        omega
      obtain ⟨later, joined⟩ := List.prefix_of_prefix_length_le (List.prefix_append _ _) whole long
      exact ⟨later, joined.symm⟩

end Ready

/-- The calls of an asynchronous client that sends these messages. -/
def sending (messages : List Message) : List Network.Call :=
  messages.zipIdx.map fun entry =>
    ⟨entry.2, (entry.1.toMessageT schema).header, (entry.1.toMessageT schema).body, false⟩

/-- The socket of that client when it has sent them all. -/
def written (messages : List Message) : BoostTcpSocket where
  maxPendingWrites := 0
  calls := messages.length
  accepted := sending schema messages
  started := sending schema messages
  completed := (sending schema messages).map fun call => (call, true)
  wire := (sending schema messages).flatMap Network.Call.tagged

/-- The stream to the server, as an asynchronous client would have it. -/
def Server.uplink (server : Server) (sent : List Message) : Pipe where
  sender := written schema sent
  offered := sent
  arrived := server.arrived
  consumed := server.consumed
  reading := server.reading
  events := server.events

section Written

variable {schema} {messages : List Message} {server : Server} {maxMessageSize : Nat}

theorem sending_append (messages : List Message) (message : Message) :
    sending schema (messages ++ [message]) = sending schema messages ++
      [⟨messages.length, (message.toMessageT schema).header, (message.toMessageT schema).body,
        false⟩] := by
  simp [sending, List.zipIdx_append]

theorem mem_sending {call : Network.Call} (member : call ∈ sending schema messages) :
    ∃ message, messages[call.id]? = some message ∧ call.frame = message.frame schema := by
  obtain ⟨⟨message, index⟩, indexed, rfl⟩ := List.mem_map.mp member
  exact ⟨message, List.mem_zipIdx_iff_getElem?.mp indexed, rfl⟩

theorem written_bytes (messages : List Message) :
    (written schema messages).bytes = messages.flatMap (Message.frame schema) := by
  induction messages using List.reverseRecOn with
  | nil => rfl
  | append_singleton messages message inductionHypothesis =>
      rw [List.flatMap_append, ← inductionHypothesis]
      simp [BoostTcpSocket.bytes, written, sending_append, Network.Call.tagged,
        Network.Call.frame, Message.frame, MessageT.frame, Function.comp_def]

theorem written_transmits (messages : List Message) : (written schema messages).Transmits where
  writers :=
    { one := rfl
      sound := rfl
      loaded := by simp [written]
      front := by simp [written]
      order := by simp [written, Function.comp_def]
      starts := List.prefix_rfl
      startCount := by simp [written] }
  isPrefix := by
    simp [BoostTcpSocket.bytes, written, List.map_flatMap, Network.Call.tagged,
      Function.comp_def]
  between := by
    intro _ _
    simp [BoostTcpSocket.bytes, BoostTcpSocket.completedFrames, written, List.map_flatMap,
      List.flatMap_map, Network.Call.tagged, Function.comp_def]
  during := by simp [written]

theorem uplink_accepted (server : Server) (sent : List Message) :
    (server.uplink schema sent).accepted = sent := by
  induction sent using List.reverseRecOn with
  | nil => rfl
  | append_singleton sent message inductionHypothesis =>
      have earlier : (sending schema sent).filterMap
          (fun call => (sent ++ [message])[call.id]?) = sent := by
        refine Eq.trans (List.filterMap_congr ?_) inductionHypothesis
        intro call member
        obtain ⟨carried, present, -⟩ := mem_sending member
        exact List.getElem?_append_left (List.getElem?_eq_some_iff.mp present).1
      simp only [Pipe.accepted, Server.uplink, written, sending_append, List.filterMap_append]
      rw [earlier]
      simp

theorem uplink_send {sent : List Message}
    (aligned : (server.uplink schema sent).Aligned schema maxMessageSize) (message : Message) :
    (server.uplink schema (sent ++ [message])).Aligned schema maxMessageSize := by
  refine ⟨written_transmits _, rfl, fun _ => mem_sending, ?_, aligned.consumed, ?_⟩
  · have longer : (written schema sent).bytes.length ≤
        (written schema (sent ++ [message])).bytes.length := by
      rw [written_bytes, written_bytes, List.flatMap_append, List.length_append]
      exact Nat.le_add_right _ _
    exact aligned.arrived.trans longer
  · obtain ⟨done, rest, split, fits, delivered, position⟩ := aligned.reader
    rw [uplink_accepted] at split
    refine ⟨done, rest ++ [message], ?_, fits, delivered, position.extend [message]⟩
    rw [uplink_accepted, split, List.append_assoc]

end Written

end SocketSL.Blocking
