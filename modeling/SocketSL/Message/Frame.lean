import SocketSL.Serialisation
import SocketSL.Lib.Segments

/-!
# Frames and the synchronous socket

The wire frame of a message is the little-endian size of its `MessageHeader`
flatbuffer, the flatbuffer and the body.  `SyncSocket` is a socket as the
synchronous half of the message layer sees it: a read yields exactly the bytes
asked for or fails, a write appends to what the peer receives or fails.
-/

namespace SocketSL

open SocketSL.Endian SocketSL.Lib

/-- `System::MessageId` -/
inductive SystemId where
  | hbPing
  | hbPong
  deriving DecidableEq

def SystemId.toId : SystemId → UInt8
  | .hbPing => 0
  | .hbPong => 1

/-- `message_t`: the complete wire prefix and the body. -/
structure MessageT where
  header : List UInt8
  body : List UInt8
  deriving DecidableEq

variable (schema : Schema)

def makeHeader (id : UInt8) (bodySize : UInt64) (isSystem : Bool) : ByteVector :=
  schema.createMessageHeader id bodySize isSystem

def makeFrameHeader (id : UInt8) (bodySize : UInt64) (isSystem : Bool) : List UInt8 :=
  let header := makeHeader schema id bodySize isSystem
  toLittle header.size ++ header.bytes

def makeFromBody (id : UInt8) (body : ByteVector) (isSystem : Bool) : MessageT where
  header := makeFrameHeader schema id body.size isSystem
  body := body.bytes

/-- `make`: the body is what the lifted create function serialised. -/
def make (id : UInt8) (serialised : ByteVector) (isSystem : Bool) : MessageT where
  header := makeFrameHeader schema id serialised.size isSystem
  body := serialised.bytes

/-- `make<System::CreateHbPingRequest, true>(System::MessageId_HbPing)` -/
def hbPing : MessageT :=
  make schema SystemId.hbPing.toId schema.createHbPingRequest true

/-- `make<System::CreateHbPongRequest, true>(System::MessageId_HbPong)` -/
def hbPong : MessageT :=
  make schema SystemId.hbPong.toId schema.createHbPongRequest true

/-- The bytes a message occupies on the wire. -/
def MessageT.frame (message : MessageT) : List UInt8 :=
  message.header ++ message.body

/-- A socket with a peer that has already sent `incoming`.  The n-th write
succeeds when `writeSucceeds n` says so. -/
structure SyncSocket where
  incoming : List UInt8
  outgoing : List UInt8 := []
  maxMessageSize : Nat := 0
  writeSucceeds : Nat → Bool := fun _ => true
  writes : Nat := 0

namespace SyncSocket

/-- `socket::read` of a buffer of `size` bytes. -/
def read (socket : SyncSocket) (size : Nat) : Option (List UInt8 × SyncSocket) :=
  if size ≤ socket.incoming.length then
    some (socket.incoming.take size, { socket with incoming := socket.incoming.drop size })
  else
    none

/-- `socket::write` of a buffer. -/
def write (socket : SyncSocket) (buffer : List UInt8) : Bool × SyncSocket :=
  if socket.writeSucceeds socket.writes then
    (true, { socket with outgoing := socket.outgoing ++ buffer, writes := socket.writes + 1 })
  else
    (false, { socket with writes := socket.writes + 1 })

end SyncSocket

/-- `send_buffer`: header, then body unless it is empty. -/
def sendBuffer (socket : SyncSocket) (header body : List UInt8) : Bool × SyncSocket :=
  match socket.write header with
  | (false, written) => (false, written)
  | (true, written) => if body.isEmpty then (true, written) else written.write body

/-- `send`: the serialised message through `send_buffer`. -/
def send (socket : SyncSocket) (message : MessageT) : Bool × SyncSocket :=
  sendBuffer socket message.header message.body

def sendPing (socket : SyncSocket) : Bool × SyncSocket :=
  send socket (hbPing schema)

namespace SyncSocket

theorem read_append (socket : SyncSocket) {front rest : List UInt8} {size : Nat}
    (incoming : socket.incoming = front ++ rest) (sized : front.length = size) :
    socket.read size = some (front, { socket with incoming := rest }) := by
  subst sized
  simp [read, incoming]

theorem read_eq_none_iff {socket : SyncSocket} {size : Nat} :
    socket.read size = none ↔ socket.incoming.length < size := by
  simp [read]

theorem read_eq_some {socket next : SyncSocket} {size : Nat} {bytes : List UInt8}
    (result : socket.read size = some (bytes, next)) :
    ∃ rest, socket.incoming = bytes ++ rest ∧ bytes.length = size ∧
      next = { socket with incoming := rest } := by
  unfold read at result
  split at result
  next enough =>
    cases result
    exact ⟨_, (List.take_append_drop size socket.incoming).symm, by simp [enough], rfl⟩
  next short => cases result

@[simp]
theorem write_incoming (socket : SyncSocket) (buffer : List UInt8) :
    (socket.write buffer).2.incoming = socket.incoming := by
  unfold write
  split <;> rfl

@[simp]
theorem write_maxMessageSize (socket : SyncSocket) (buffer : List UInt8) :
    (socket.write buffer).2.maxMessageSize = socket.maxMessageSize := by
  unfold write
  split <;> rfl

end SyncSocket

@[simp]
theorem send_incoming (socket : SyncSocket) (message : MessageT) :
    (send socket message).2.incoming = socket.incoming := by
  have first := SyncSocket.write_incoming socket message.header
  unfold send sendBuffer
  split
  next written equation => simpa [equation] using first
  next written equation =>
    split
    · simpa [equation] using first
    · simpa [equation] using first

@[simp]
theorem send_maxMessageSize (socket : SyncSocket) (message : MessageT) :
    (send socket message).2.maxMessageSize = socket.maxMessageSize := by
  have first := SyncSocket.write_maxMessageSize socket message.header
  unfold send sendBuffer
  split
  next written equation => simpa [equation] using first
  next written equation =>
    split
    · simpa [equation] using first
    · simpa [equation] using first

theorem send_outgoing (socket : SyncSocket) (succeeds : ∀ n, socket.writeSucceeds n = true)
    (message : MessageT) :
    (send socket message).1 = true ∧
      (send socket message).2.outgoing = socket.outgoing ++ message.frame ∧
      (send socket message).2.writeSucceeds = socket.writeSucceeds := by
  by_cases empty : message.body = []
  · simp [send, sendBuffer, SyncSocket.write, succeeds, MessageT.frame, empty]
  · simp [send, sendBuffer, SyncSocket.write, succeeds, MessageT.frame, empty]

/-- A message as an application or the library itself offers it for sending. -/
structure Message where
  id : UInt8
  body : ByteVector
  isSystem : Bool
  deriving DecidableEq

namespace Message

/-- The two buffers the send functions hand to the socket. -/
def toMessageT (message : Message) : MessageT :=
  makeFromBody schema message.id message.body message.isSystem

/-- The `MessageHeader` flatbuffer of a message. -/
def headerBytes (message : Message) : List UInt8 :=
  (makeHeader schema message.id message.body.size message.isSystem).bytes

/-- The bytes of the whole frame. -/
def frame (message : Message) : List UInt8 :=
  (message.toMessageT schema).frame

/-- Neither the header nor the body exceeds a receiver's `max_message_size`. -/
def Fits (maxMessageSize : Nat) (message : Message) : Prop :=
  maxMessageSize = 0 ∨
    (message.headerBytes schema).length ≤ maxMessageSize ∧
      message.body.bytes.length ≤ maxMessageSize

instance (maxMessageSize : Nat) (message : Message) :
    Decidable (message.Fits schema maxMessageSize) :=
  inferInstanceAs (Decidable (_ ∨ _))

/-- What a receiver hands over to the application. -/
def delivery (message : Message) : UInt8 × List UInt8 :=
  (message.id, message.body.bytes)

/-- A heartbeat ping, which the receiver answers. -/
def isPing (message : Message) : Bool :=
  message.isSystem && message.id == SystemId.hbPing.toId

/-- The answer to a heartbeat ping. -/
def isPong (message : Message) : Bool :=
  message.isSystem && message.id == SystemId.hbPong.toId

/-- What a receiver looks at to tell what to do with a message. -/
def kind (message : Message) : UInt8 × Bool :=
  (message.id, message.isSystem)

theorem frame_eq (message : Message) :
    message.frame schema =
      toLittle (UInt64.ofNat (message.headerBytes schema).length) ++
        (message.headerBytes schema ++ message.body.bytes) := by
  simp [frame, toMessageT, makeFromBody, makeFrameHeader, MessageT.frame, headerBytes,
    ByteVector.size]

theorem headerBytes_length_lt (message : Message) :
    (message.headerBytes schema).length < 2 ^ 64 :=
  (makeHeader schema message.id message.body.size message.isSystem).bounded

theorem frame_ne_nil (message : Message) : message.frame schema ≠ [] := by
  intro empty
  have lengths := congrArg List.length empty
  simp [frame_eq] at lengths

end Message

end SocketSL
