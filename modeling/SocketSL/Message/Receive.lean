import SocketSL.Message.Frame
import Mathlib.Logic.Function.Basic

/-!
# The synchronous receiver

`recvIteration` is one pass through the loop of `recv_buffer`, `recvBuffer` the
loop and `recvAll` the caller that calls it until it returns `nullopt`.  Every
pass records the vector sizes it asks for, the reads it issues and the pong it
sends; a vector can be as large as it is asked to be.
-/

namespace SocketSL

open SocketSL.Endian

/-- What a receiver does, seen from outside. -/
inductive Event where
  /-- a `std::vector<std::uint8_t>` is given this size -/
  | allocate (size : Nat)
  /-- a read of this many bytes is issued -/
  | read (size : Nat)
  /-- a system message is handed to the socket in reply -/
  | reply (message : MessageT)
  /-- a message is returned to the caller, or passed to `handle_message` -/
  | deliver (id : UInt8) (body : List UInt8)
  /-- `nullopt` is returned, or `on_error` called -/
  | fail
  deriving DecidableEq

/-- `std::vector::resize` with value-initialised new elements. -/
def resize (buffer : List UInt8) (size : Nat) : List UInt8 :=
  buffer.take size ++ List.replicate (size - buffer.length) 0

/-- How one pass through the loop ends. -/
inductive Iteration where
  | return (id : Option UInt8) (bodyBuffer : List UInt8) (socket : SyncSocket)
      (events : List Event)
  | again (bodyBuffer : List UInt8) (socket : SyncSocket) (events : List Event)

@[simp]
def Iteration.socket : Iteration → SyncSocket
  | .return _ _ socket _ => socket
  | .again _ socket _ => socket

@[simp]
def Iteration.events : Iteration → List Event
  | .return _ _ _ events => events
  | .again _ _ events => events

@[simp]
def Iteration.isFailure : Iteration → Bool
  | .return none _ _ _ => true
  | _ => false

variable (schema : Schema)

def recvIteration (socket : SyncSocket) (bodyBuffer : List UInt8) : Iteration :=
  let maxMessageSize := socket.maxMessageSize
  match socket.read 8 with
  | none => .return none bodyBuffer socket [.read 8]
  | some (leHeaderSize, afterSize) =>
    let headerSize := (fromLittle leHeaderSize).toNat
    if maxMessageSize ≠ 0 ∧ headerSize > maxMessageSize then
      .return none bodyBuffer afterSize [.read 8]
    else
      let issued := [.read 8, .allocate headerSize, .read headerSize]
      match afterSize.read headerSize with
      | none => .return none bodyBuffer afterSize issued
      | some (header, afterHeader) =>
        if !schema.isValid header then
          .return none bodyBuffer afterHeader issued
        else
          let id := schema.type header
          let bodySize := (schema.bodySize header).toNat
          if maxMessageSize ≠ 0 ∧ bodySize > maxMessageSize then
            .return none bodyBuffer afterHeader issued
          else
            let issued := issued ++ [.allocate bodySize, .read bodySize]
            match afterHeader.read bodySize with
            | none => .return none (resize bodyBuffer bodySize) afterHeader issued
            | some (body, afterBody) =>
              if !schema.isSystem header then
                .return (some id) body afterBody issued
              else if id = SystemId.hbPing.toId then
                .again body (send afterBody (hbPong schema)).2
                  (issued ++ [.reply (hbPong schema)])
              else
                .again body afterBody issued

/-- A length read from the stream is over the receiver's cap. -/
def OverCap (maxMessageSize size : Nat) : Prop :=
  maxMessageSize ≠ 0 ∧ size > maxMessageSize

instance (maxMessageSize size : Nat) : Decidable (OverCap maxMessageSize size) :=
  inferInstanceAs (Decidable (_ ∧ _))

/-- The nine ways through the loop body, each with the part of the stream it
has looked at. -/
inductive Pass (socket : SyncSocket) (bodyBuffer : List UInt8) : Iteration → Prop where
  | sizeMissing :
      socket.incoming.length < 8 →
      Pass socket bodyBuffer (.return none bodyBuffer socket [.read 8])
  | sizeOverCap (size : UInt64) (rest : List UInt8) :
      socket.incoming = toLittle size ++ rest →
      OverCap socket.maxMessageSize size.toNat →
      Pass socket bodyBuffer
        (.return none bodyBuffer { socket with incoming := rest } [.read 8])
  | headerMissing (size : UInt64) (rest : List UInt8) :
      socket.incoming = toLittle size ++ rest →
      ¬ OverCap socket.maxMessageSize size.toNat → rest.length < size.toNat →
      Pass socket bodyBuffer (.return none bodyBuffer { socket with incoming := rest }
        [.read 8, .allocate size.toNat, .read size.toNat])
  | headerInvalid (size : UInt64) (header rest : List UInt8) :
      socket.incoming = toLittle size ++ (header ++ rest) → header.length = size.toNat →
      ¬ OverCap socket.maxMessageSize size.toNat → schema.isValid header = false →
      Pass socket bodyBuffer (.return none bodyBuffer { socket with incoming := rest }
        [.read 8, .allocate size.toNat, .read size.toNat])
  | bodyOverCap (size : UInt64) (header rest : List UInt8) :
      socket.incoming = toLittle size ++ (header ++ rest) → header.length = size.toNat →
      ¬ OverCap socket.maxMessageSize size.toNat → schema.isValid header = true →
      OverCap socket.maxMessageSize (schema.bodySize header).toNat →
      Pass socket bodyBuffer (.return none bodyBuffer { socket with incoming := rest }
        [.read 8, .allocate size.toNat, .read size.toNat])
  | bodyMissing (size : UInt64) (header rest : List UInt8) :
      socket.incoming = toLittle size ++ (header ++ rest) → header.length = size.toNat →
      ¬ OverCap socket.maxMessageSize size.toNat → schema.isValid header = true →
      ¬ OverCap socket.maxMessageSize (schema.bodySize header).toNat →
      rest.length < (schema.bodySize header).toNat →
      Pass socket bodyBuffer
        (.return none (resize bodyBuffer (schema.bodySize header).toNat)
          { socket with incoming := rest }
          [.read 8, .allocate size.toNat, .read size.toNat,
            .allocate (schema.bodySize header).toNat, .read (schema.bodySize header).toNat])
  | complete (size : UInt64) (header body rest : List UInt8) (iteration : Iteration) :
      socket.incoming = toLittle size ++ (header ++ (body ++ rest)) →
      header.length = size.toNat → body.length = (schema.bodySize header).toNat →
      ¬ OverCap socket.maxMessageSize size.toNat → schema.isValid header = true →
      ¬ OverCap socket.maxMessageSize (schema.bodySize header).toNat →
      iteration =
        (let afterBody := { socket with incoming := rest }
        let issued := [.read 8, .allocate size.toNat, .read size.toNat,
          .allocate (schema.bodySize header).toNat, .read (schema.bodySize header).toNat]
        if schema.isSystem header = false then
          .return (some (schema.type header)) body afterBody issued
        else if schema.type header = SystemId.hbPing.toId then
          .again body (send afterBody (hbPong schema)).2 (issued ++ [.reply (hbPong schema)])
        else
          .again body afterBody issued) →
      Pass socket bodyBuffer iteration

theorem recvIteration_pass (socket : SyncSocket) (bodyBuffer : List UInt8) :
    Pass schema socket bodyBuffer (recvIteration schema socket bodyBuffer) := by
  unfold recvIteration
  dsimp only
  split
  next missing => exact .sizeMissing (SyncSocket.read_eq_none_iff.mp missing)
  next leHeaderSize afterSize readSize =>
    obtain ⟨rest, incoming, sized, rfl⟩ := SyncSocket.read_eq_some readSize
    rw [← toLittle_fromLittle sized] at incoming
    split
    next overCap => exact .sizeOverCap _ _ incoming overCap
    next within =>
      split
      next missing =>
        exact .headerMissing _ _ incoming within (SyncSocket.read_eq_none_iff.mp missing)
      next header afterHeader readHeader =>
        obtain ⟨afterHeader, headerEq, headerSized, rfl⟩ := SyncSocket.read_eq_some readHeader
        obtain rfl : rest = header ++ afterHeader := headerEq
        split
        next invalid =>
          exact .headerInvalid _ _ _ incoming headerSized within (by simpa using invalid)
        next valid =>
          have valid : schema.isValid header = true := by simpa using valid
          split
          next overCap => exact .bodyOverCap _ _ _ incoming headerSized within valid overCap
          next bodyWithin =>
            split
            next missing =>
              exact .bodyMissing _ _ _ incoming headerSized within valid bodyWithin
                (SyncSocket.read_eq_none_iff.mp missing)
            next body afterBody readBody =>
              obtain ⟨rest, bodyEq, bodySized, rfl⟩ := SyncSocket.read_eq_some readBody
              obtain rfl : afterHeader = body ++ rest := bodyEq
              apply Pass.complete _ _ _ _ _ incoming headerSized bodySized within valid bodyWithin
              simp

theorem recvIteration_incoming_lt (socket : SyncSocket) (bodyBuffer : List UInt8)
    (succeeded : (recvIteration schema socket bodyBuffer).isFailure = false) :
    (recvIteration schema socket bodyBuffer).socket.incoming.length <
      socket.incoming.length := by
  have pass := recvIteration_pass schema socket bodyBuffer
  revert pass succeeded
  generalize recvIteration schema socket bodyBuffer = iteration
  intro succeeded pass
  cases pass with
  | complete size header body rest iteration incoming _ _ _ _ _ result =>
      have shorter : rest.length < socket.incoming.length := by
        rw [incoming]
        simp
        omega
      subst result
      dsimp only
      split
      next => simpa using shorter
      next => split <;> simpa using shorter
  | _ => simp at succeeded

/-- A pass reports no delivery and no failure of its own, keeps the cap, and
writes nothing when it fails. -/
theorem recvIteration_events (socket : SyncSocket) (bodyBuffer : List UInt8) :
    let iteration := recvIteration schema socket bodyBuffer
    .fail ∉ iteration.events ∧ (∀ id body, .deliver id body ∉ iteration.events) ∧
      iteration.socket.maxMessageSize = socket.maxMessageSize ∧
      (iteration.isFailure = true → iteration.socket.outgoing = socket.outgoing) := by
  dsimp only
  have pass := recvIteration_pass schema socket bodyBuffer
  revert pass
  generalize recvIteration schema socket bodyBuffer = iteration
  intro pass
  cases pass with
  | complete size header body rest iteration _ _ _ _ _ _ result =>
      subst result
      dsimp only
      split
      · simp
      · split <;> simp
  | _ => simp

/-- How a call of `recv_buffer` ends. -/
structure Received where
  id : Option UInt8
  bodyBuffer : List UInt8
  socket : SyncSocket
  events : List Event

def recvBuffer (socket : SyncSocket) (bodyBuffer : List UInt8) : Received :=
  match _pass : recvIteration schema socket bodyBuffer with
  | .return id buffer next events => ⟨id, buffer, next, events⟩
  | .again buffer next events =>
      let rest := recvBuffer next buffer
      { rest with events := events ++ rest.events }
termination_by socket.incoming.length
decreasing_by
  have shorter := recvIteration_incoming_lt schema socket bodyBuffer (by rw [_pass]; rfl)
  simpa [_pass, Iteration.socket] using shorter

theorem recvBuffer_of_return {socket next : SyncSocket} {bodyBuffer buffer : List UInt8}
    {id : Option UInt8} {events : List Event}
    (pass : recvIteration schema socket bodyBuffer = .return id buffer next events) :
    recvBuffer schema socket bodyBuffer = ⟨id, buffer, next, events⟩ := by
  rw [recvBuffer, pass]

theorem recvBuffer_of_again {socket next : SyncSocket} {bodyBuffer buffer : List UInt8}
    {events : List Event}
    (pass : recvIteration schema socket bodyBuffer = .again buffer next events) :
    recvBuffer schema socket bodyBuffer =
      { recvBuffer schema next buffer with
        events := events ++ (recvBuffer schema next buffer).events } := by
  rw [recvBuffer, pass]

/-- The rule for a call of `recv_buffer`: what the last pass establishes and
what each earlier pass carries back. -/
theorem recvBuffer_induction {motive : SyncSocket → List UInt8 → Received → Prop}
    (return_ : ∀ socket bodyBuffer id buffer next events,
      recvIteration schema socket bodyBuffer = .return id buffer next events →
        motive socket bodyBuffer ⟨id, buffer, next, events⟩)
    (again : ∀ socket bodyBuffer buffer next events rest,
      recvIteration schema socket bodyBuffer = .again buffer next events →
        motive next buffer rest →
          motive socket bodyBuffer { rest with events := events ++ rest.events })
    (socket : SyncSocket) (bodyBuffer : List UInt8) :
    motive socket bodyBuffer (recvBuffer schema socket bodyBuffer) := by
  induction size : socket.incoming.length using Nat.strong_induction_on
    generalizing socket bodyBuffer with
  | _ size inductionHypothesis =>
      cases pass : recvIteration schema socket bodyBuffer with
      | «return» id buffer next events =>
          rw [recvBuffer_of_return schema pass]
          exact return_ _ _ _ _ _ _ pass
      | again buffer next events =>
          rw [recvBuffer_of_again schema pass]
          have shorter := recvIteration_incoming_lt schema socket bodyBuffer
            (by rw [pass]; rfl)
          rw [pass, size] at shorter
          exact again _ _ _ _ _ _ pass (inductionHypothesis _ shorter next buffer rfl)

theorem recvBuffer_incoming_lt (socket : SyncSocket) (bodyBuffer : List UInt8) (id : UInt8)
    (returned : (recvBuffer schema socket bodyBuffer).id = some id) :
    (recvBuffer schema socket bodyBuffer).socket.incoming.length < socket.incoming.length := by
  revert returned
  refine recvBuffer_induction schema (motive := fun socket _ received =>
    received.id = some id → received.socket.incoming.length < socket.incoming.length)
    ?_ ?_ socket bodyBuffer
  · intro socket bodyBuffer result buffer next events pass returned
    obtain rfl : result = some id := returned
    have shorter := recvIteration_incoming_lt schema socket bodyBuffer (by rw [pass]; rfl)
    rwa [pass] at shorter
  · intro socket bodyBuffer buffer next events rest pass inductionHypothesis returned
    have shorter := recvIteration_incoming_lt schema socket bodyBuffer (by rw [pass]; rfl)
    rw [pass] at shorter
    exact (inductionHypothesis returned).trans shorter

/-- How a caller that receives until `nullopt` ends. -/
structure ReceivedAll where
  messages : List (UInt8 × List UInt8)
  socket : SyncSocket
  events : List Event

/-- Call `recv_buffer` until it returns `nullopt`; the n-th call is passed
`buffers n`, whatever the caller has left in its buffer. -/
def recvAll (socket : SyncSocket) (buffers : Nat → List UInt8) : ReceivedAll :=
  match _returned : (recvBuffer schema socket (buffers 0)).id with
  | none =>
      ⟨[], (recvBuffer schema socket (buffers 0)).socket,
        (recvBuffer schema socket (buffers 0)).events ++ [.fail]⟩
  | some id =>
      let received := recvBuffer schema socket (buffers 0)
      let rest := recvAll received.socket fun n => buffers (n + 1)
      ⟨(id, received.bodyBuffer) :: rest.messages, rest.socket,
        received.events ++ .deliver id received.bodyBuffer :: rest.events⟩
termination_by socket.incoming.length
decreasing_by exact recvBuffer_incoming_lt schema _ _ _ _returned

theorem recvAll_of_none {socket : SyncSocket} {buffers : Nat → List UInt8}
    (returned : (recvBuffer schema socket (buffers 0)).id = none) :
    recvAll schema socket buffers =
      ⟨[], (recvBuffer schema socket (buffers 0)).socket,
        (recvBuffer schema socket (buffers 0)).events ++ [.fail]⟩ := by
  rw [recvAll]
  split
  next => rfl
  next id other =>
    rw [returned] at other
    cases other

theorem recvAll_of_some {socket : SyncSocket} {buffers : Nat → List UInt8} {id : UInt8}
    (returned : (recvBuffer schema socket (buffers 0)).id = some id) :
    recvAll schema socket buffers =
      let received := recvBuffer schema socket (buffers 0)
      let rest := recvAll schema received.socket fun n => buffers (n + 1)
      ⟨(id, received.bodyBuffer) :: rest.messages, rest.socket,
        received.events ++ .deliver id received.bodyBuffer :: rest.events⟩ := by
  rw [recvAll]
  split
  next other =>
    rw [returned] at other
    cases other
  next id' other =>
    rw [returned] at other
    cases other
    rfl

section Flattened

variable {socket next : SyncSocket} {buffers : Nat → List UInt8} {buffer : List UInt8}
  {events : List Event}

theorem recvAll_of_failure
    (pass : recvIteration schema socket (buffers 0) = .return none buffer next events) :
    recvAll schema socket buffers = ⟨[], next, events ++ [.fail]⟩ := by
  have received := recvBuffer_of_return schema pass
  rw [recvAll_of_none schema (by rw [received]), received]

theorem recvAll_of_message {id : UInt8}
    (pass : recvIteration schema socket (buffers 0) = .return (some id) buffer next events) :
    recvAll schema socket buffers =
      let rest := recvAll schema next fun n => buffers (n + 1)
      ⟨(id, buffer) :: rest.messages, rest.socket,
        events ++ .deliver id buffer :: rest.events⟩ := by
  have received := recvBuffer_of_return schema pass
  rw [recvAll_of_some schema (by rw [received]), received]

/-- A pass that swallows a system frame goes on within the same call, with the
frame's body left in the caller's buffer. -/
theorem recvAll_of_again
    (pass : recvIteration schema socket (buffers 0) = .again buffer next events) :
    recvAll schema socket buffers =
      let rest := recvAll schema next (Function.update buffers 0 buffer)
      { rest with events := events ++ rest.events } := by
  have first := recvBuffer_of_again schema pass
  have unchanged : (Function.update buffers 0 buffer) 0 = buffer := by simp
  have shifted : (fun n => Function.update buffers 0 buffer (n + 1)) =
      fun n => buffers (n + 1) := by
    funext n
    simp
  cases returned : (recvBuffer schema next buffer).id with
  | none =>
      rw [recvAll_of_none schema (by rw [first]; exact returned),
        recvAll_of_none schema (by rw [unchanged]; exact returned), first, unchanged]
      simp
  | some id =>
      rw [recvAll_of_some schema (by rw [first]; exact returned),
        recvAll_of_some schema (by rw [unchanged]; exact returned), first, unchanged, shifted]
      simp

/-- The rule for a whole reception, pass by pass. -/
theorem recvAll_induction
    {motive : SyncSocket → (Nat → List UInt8) → ReceivedAll → Prop}
    (failure : ∀ socket buffers buffer next events,
      recvIteration schema socket (buffers 0) = .return none buffer next events →
        motive socket buffers ⟨[], next, events ++ [.fail]⟩)
    (message : ∀ socket buffers id buffer next events rest,
      recvIteration schema socket (buffers 0) = .return (some id) buffer next events →
        motive next (fun n => buffers (n + 1)) rest →
          motive socket buffers ⟨(id, buffer) :: rest.messages, rest.socket,
            events ++ .deliver id buffer :: rest.events⟩)
    (again : ∀ socket buffers buffer next events rest,
      recvIteration schema socket (buffers 0) = .again buffer next events →
        motive next (Function.update buffers 0 buffer) rest →
          motive socket buffers { rest with events := events ++ rest.events })
    (socket : SyncSocket) (buffers : Nat → List UInt8) :
    motive socket buffers (recvAll schema socket buffers) := by
  induction size : socket.incoming.length using Nat.strong_induction_on
    generalizing socket buffers with
  | _ size inductionHypothesis =>
      cases pass : recvIteration schema socket (buffers 0) with
      | «return» result buffer next events =>
          cases result with
          | none =>
              rw [recvAll_of_failure schema pass]
              exact failure _ _ _ _ _ pass
          | some id =>
              have shorter := recvIteration_incoming_lt schema socket (buffers 0)
                (by rw [pass]; rfl)
              rw [pass, size] at shorter
              rw [recvAll_of_message schema pass]
              exact message _ _ _ _ _ _ _ pass (inductionHypothesis _ shorter next _ rfl)
      | again buffer next events =>
          have shorter := recvIteration_incoming_lt schema socket (buffers 0)
            (by rw [pass]; rfl)
          rw [pass, size] at shorter
          rw [recvAll_of_again schema pass]
          exact again _ _ _ _ _ _ pass (inductionHypothesis _ shorter next _ rfl)

end Flattened

/-- A reception fails exactly once, at its very end. -/
theorem recvAll_events (socket : SyncSocket) (buffers : Nat → List UInt8) :
    ∃ events, (recvAll schema socket buffers).events = events ++ [.fail] ∧ .fail ∉ events := by
  refine recvAll_induction schema
    (motive := fun _ _ received => ∃ events, received.events = events ++ [.fail] ∧ .fail ∉ events)
    ?_ ?_ ?_ socket buffers
  · intro socket buffers buffer next events pass
    have silent := (recvIteration_events schema socket (buffers 0)).1
    rw [pass] at silent
    exact ⟨events, rfl, silent⟩
  · rintro socket buffers id buffer next events rest pass ⟨later, equal, laterSilent⟩
    have silent := (recvIteration_events schema socket (buffers 0)).1
    rw [pass] at silent
    refine ⟨events ++ .deliver id buffer :: later, by simp [equal], ?_⟩
    simpa [laterSilent] using silent
  · rintro socket buffers buffer next events rest pass ⟨later, equal, laterSilent⟩
    have silent := (recvIteration_events schema socket (buffers 0)).1
    rw [pass] at silent
    refine ⟨events ++ later, by simp [equal], ?_⟩
    simpa [laterSilent] using silent

end SocketSL
