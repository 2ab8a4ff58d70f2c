import SocketSL.Router
import SocketSL.Message.RoundTrip
import SocketSL.Connection.Agreement

/-!
# Typed messages on a synchronous socket

`send<CreateFn>` serialises a table and sends it, `recv<T>` receives one framed
message and reads its body as a table.  `recv` never looks at the id and
returns `nullptr` for a failed read and for a body that does not verify alike.
The two differ in what is left on the stream: a body that does not verify costs
its own message only.
-/

namespace SocketSL

open SocketSL.Lib

variable (schema : Schema) {Body : Type}

/-- `send<CreateFn, is_system>(socket, id, args...)` -/
def sendTyped (table : Table Body) (socket : SyncSocket) (id : UInt8) (isSystem : Bool)
    (value : Body) : Bool × SyncSocket :=
  send socket (make schema id (table.serialise value) isSystem)

/-- How a call of `recv` ends; `none` is `nullptr`. -/
structure ReceivedBody (Body : Type) where
  value : Option Body
  buffer : List UInt8
  socket : SyncSocket

def recv (table : Table Body) (socket : SyncSocket) (buffer : List UInt8) : ReceivedBody Body :=
  let received := recvBuffer schema socket buffer
  if received.id.isNone then
    ⟨none, received.bodyBuffer, received.socket⟩
  else if !table.isValid received.bodyBuffer then
    ⟨none, received.bodyBuffer, received.socket⟩
  else
    ⟨some (table.deserialise received.bodyBuffer), received.bodyBuffer, received.socket⟩

/-- One call of `recv` for each table, all with the same buffer. -/
def recvEach : List (Table Body) → SyncSocket → List UInt8 → List (Option Body) × SyncSocket
  | [], socket, _ => ([], socket)
  | table :: tables, socket, buffer =>
      let received := recv schema table socket buffer
      let later := recvEach tables received.socket received.buffer
      (received.value :: later.1, later.2)

theorem recv_of_message {table : Table Body} {socket : SyncSocket} {buffer : List UInt8}
    {id : UInt8} (returned : (recvBuffer schema socket buffer).id = some id) :
    recv schema table socket buffer =
      ⟨table.decode (recvBuffer schema socket buffer).bodyBuffer,
        (recvBuffer schema socket buffer).bodyBuffer,
        (recvBuffer schema socket buffer).socket⟩ := by
  cases valid : table.isValid (recvBuffer schema socket buffer).bodyBuffer with
  | true => simp [recv, returned, Table.decode, valid]
  | false => simp [recv, returned, Table.decode, valid]

/-- What a reception delivers does not depend on the buffers it is given. -/
theorem recvAll_messages_congr (socket : SyncSocket) (buffers others : Nat → List UInt8) :
    (recvAll schema socket buffers).messages = (recvAll schema socket others).messages := by
  have same := (run_eq_recvAll schema socket buffers).symm.trans
    (run_eq_recvAll schema socket others)
  have events : (recvAll schema socket buffers).events = (recvAll schema socket others).events :=
    congrArg Session.Run.events same
  rw [← deliveries_recvAll, ← deliveries_recvAll, events]

/-- As long as there are messages to come, every `recv` takes exactly the next
one, whether or not its body verifies and whatever its id, and leaves the
stream where the message after it begins. -/
theorem recv_stays_in_step (tables : List (Table Body)) (socket : SyncSocket)
    (buffer : List UInt8) (buffers : Nat → List UInt8)
    (enough : tables.length ≤ (recvAll schema socket buffers).messages.length) :
    (recvEach schema tables socket buffer).1 =
        List.zipWith (fun table message => table.decode message.2) tables
          (recvAll schema socket buffers).messages ∧
      (recvAll schema (recvEach schema tables socket buffer).2 buffers).messages =
        (recvAll schema socket buffers).messages.drop tables.length := by
  induction tables generalizing socket buffer buffers with
  | nil => simp [recvEach]
  | cons table tables inductionHypothesis =>
      rw [recvAll_messages_congr schema socket buffers fun _ => buffer] at enough ⊢
      cases returned : (recvBuffer schema socket buffer).id with
      | none =>
          rw [recvAll_of_none schema (by exact returned)] at enough
          simp at enough
      | some id =>
          rw [recvAll_of_some schema (by exact returned)] at enough ⊢
          rw [recvEach, recv_of_message schema returned]
          obtain ⟨values, rest⟩ := inductionHypothesis (recvBuffer schema socket buffer).socket
            (recvBuffer schema socket buffer).bodyBuffer (fun _ => buffer) (by simpa using enough)
          refine ⟨?_, ?_⟩
          · rw [List.zipWith_cons_cons, ← values]
          · rw [recvAll_messages_congr schema _ buffers fun _ => buffer]
            simpa using rest

/-- A body of one byte does not verify; the message behind it is received. -/
theorem recv_stays_in_step_behind_garbage :
    let messages : List Message :=
      [⟨7, ⟨[1], by decide⟩, false⟩, ⟨9, scalarTable.serialise 5, false⟩]
    let socket : SyncSocket := { incoming := messages.flatMap (Message.frame flatbuffers) }
    (recvEach flatbuffers [scalarTable, scalarTable] socket []).1 = [none, some 5] := by
  intro messages socket
  have received := (recvAll_of_frames flatbuffers_lawful messages (fun _ _ => Or.inl rfl) socket
    rfl (fun _ => rfl) (List.append_nil _).symm
    (fun last buffer incoming _ => recvIteration_of_empty flatbuffers incoming buffer)
    (fun _ => [])).1
  have inStep := recv_stays_in_step flatbuffers [scalarTable, scalarTable] socket [] (fun _ => [])
    (by rw [received]; decide)
  rw [inStep.1, received]
  decide +kernel

/-- A value on its way: what `send<CreateFn>` was called with. -/
structure Typed (Body : Type) where
  table : Table Body
  id : UInt8
  value : Body

def Typed.message (typed : Typed Body) : Message where
  id := typed.id
  body := typed.table.serialise typed.value
  isSystem := false

theorem sendTyped_eq (typed : Typed Body) (socket : SyncSocket) :
    sendTyped schema typed.table socket typed.id false typed.value =
      send socket (typed.message.toMessageT schema) :=
  rfl

section Lawful

variable {schema} {socket next : SyncSocket} {buffer body : List UInt8}

theorem recvEach_of_system {events : List Event}
    (pass : recvIteration schema socket buffer = .again body next events) (table : Table Body)
    (tables : List (Table Body)) :
    recvEach schema (table :: tables) socket buffer =
      recvEach schema (table :: tables) next body := by
  have received : recv schema table socket buffer = recv schema table next body := by
    simp only [recv, recvBuffer_of_again schema pass]
  rw [recvEach, recvEach, received]

theorem recvEach_of_application {events : List Event} {id : UInt8}
    (pass : recvIteration schema socket buffer = .return (some id) body next events)
    (table : Table Body) (tables : List (Table Body)) :
    recvEach schema (table :: tables) socket buffer =
      (table.decode body :: (recvEach schema tables next body).1,
        (recvEach schema tables next body).2) := by
  have received := recvBuffer_of_return schema pass
  rw [recvEach, recv_of_message schema (by rw [received]), received]

/-- The induction over the frames, with the stream split at the first of them. -/
theorem recvEach_of_frames (lawful : schema.Lawful) {maxMessageSize : Nat} {rest : List UInt8}
    (messages : List Message) (fits : ∀ message ∈ messages, message.Fits schema maxMessageSize)
    (values : List (Typed Body)) (tables : ∀ typed ∈ values, typed.table.Lawful)
    (sent : messages.filter (fun message => !message.isSystem) = values.map Typed.message)
    (socket : SyncSocket) (cap : socket.maxMessageSize = maxMessageSize)
    (incoming : socket.incoming = messages.flatMap (Message.frame schema) ++ rest)
    (buffer : List UInt8) :
    (recvEach schema (values.map Typed.table) socket buffer).1 =
      values.map fun typed => some typed.value := by
  induction messages generalizing socket buffer values with
  | nil =>
      obtain rfl : values = [] := by simpa using sent.symm
      rfl
  | cons message messages inductionHypothesis =>
      rw [List.flatMap_cons, List.append_assoc] at incoming
      have fitsLater : ∀ later ∈ messages, later.Fits schema maxMessageSize :=
        fun later member => fits later (by simp [member])
      obtain ⟨events, pass⟩ := recvIteration_of_message lawful message (fits message (by simp))
        cap incoming buffer
      cases values with
      | nil => rfl
      | cons typed values =>
          cases system : message.isSystem with
          | false =>
              rw [if_pos system] at pass
              obtain ⟨rfl, later⟩ : message = typed.message ∧
                  messages.filter (fun message => !message.isSystem) =
                    values.map Typed.message := by
                simpa [system] using sent
              have table := tables typed (by simp)
              have received := inductionHypothesis fitsLater values
                (fun other member => tables other (by simp [member])) later
                { socket with incoming := messages.flatMap (Message.frame schema) ++ rest }
                cap rfl typed.message.body.bytes
              rw [List.map_cons, recvEach_of_application pass, received]
              simp [Typed.message, table.decode_serialise]
          | true =>
              rw [if_neg (by simp [system])] at pass
              have later : messages.filter (fun message => !message.isSystem) =
                  (typed :: values).map Typed.message := by
                simpa [system] using sent
              have received := inductionHypothesis fitsLater (typed :: values) tables later
              by_cases ping : message.isPing = true
              · rw [if_pos ping] at pass
                rw [List.map_cons, recvEach_of_system pass]
                exact received _ (by simpa using cap) (by simp) message.body.bytes
              · rw [if_neg ping] at pass
                rw [List.map_cons, recvEach_of_system pass]
                exact received { socket with
                  incoming := messages.flatMap (Message.frame schema) ++ rest } cap rfl
                  message.body.bytes

/-- Values sent with `send<CreateFn>`, under any ids and between any system
frames, come back from as many calls of `recv` in the order they were sent,
whatever stands behind them on the stream, if the sender's writes succeed and no
frame exceeds the receiver's `max_message_size`. -/
theorem recv_returns_sent_values (lawful : schema.Lawful) (messages : List Message)
    (socket : SyncSocket)
    (fits : ∀ message ∈ messages, message.Fits schema socket.maxMessageSize)
    (values : List (Typed Body)) (tables : ∀ typed ∈ values, typed.table.Lawful)
    (sent : messages.filter (fun message => !message.isSystem) = values.map Typed.message)
    (sender : SyncSocket) (succeeds : ∀ n, sender.writeSucceeds n = true)
    (fresh : sender.outgoing = []) (rest : List UInt8)
    (incoming : socket.incoming = (sendAll schema sender messages).outgoing ++ rest)
    (buffer : List UInt8) :
    (recvEach schema (values.map Typed.table) socket buffer).1 =
      values.map fun typed => some typed.value := by
  rw [sendAll_outgoing schema succeeds, fresh, List.nil_append] at incoming
  exact recvEach_of_frames lawful messages fits values tables sent socket rfl incoming buffer

end Lawful

/-- A ping between two values of different ids. -/
theorem recv_returns_sent_values_around_ping :
    let values : List (Typed UInt64) := [⟨scalarTable, 3, 10⟩, ⟨scalarTable, 4, 0⟩]
    let messages : List Message :=
      [⟨3, scalarTable.serialise 10, false⟩, ⟨0, flatbuffers.createHbPingRequest, true⟩,
        ⟨4, scalarTable.serialise 0, false⟩]
    let sender : SyncSocket := { incoming := [] }
    let socket : SyncSocket := { incoming := (sendAll flatbuffers sender messages).outgoing ++ [1] }
    (recvEach flatbuffers (values.map Typed.table) socket []).1 = [some 10, some 0] := by
  intro values messages sender socket
  exact recv_returns_sent_values flatbuffers_lawful messages socket (fun _ _ => Or.inl rfl) values
    (by simp [values, scalarTable_lawful]) rfl sender (fun _ => rfl) rfl [1] rfl []

end SocketSL
