import SocketSL.Message.RoundTrip

/-!
# Rejected frames

A call of `recv_buffer` that returns `nullopt` has swallowed some system frames
and met a frame that it rejects or that the stream does not hold completely.
The caller's buffer is also where the bodies of the system frames are read to,
so what it holds behind a rejected frame depends on the frames before it.
-/

namespace SocketSL

open SocketSL.Endian

variable (schema : Schema) {maxMessageSize : Nat}

/-- The stream goes on with a frame that is rejected: its size or its body size
is over the cap, or its header does not verify. -/
inductive Rejected (maxMessageSize : Nat) : List UInt8 → Prop where
  | sizeOverCap (size : UInt64) (rest : List UInt8)
      (overCap : OverCap maxMessageSize size.toNat) :
      Rejected maxMessageSize (toLittle size ++ rest)
  | headerInvalid (size : UInt64) (header rest : List UInt8)
      (sized : header.length = size.toNat) (within : ¬ OverCap maxMessageSize size.toNat)
      (invalid : schema.isValid header = false) :
      Rejected maxMessageSize (toLittle size ++ (header ++ rest))
  | bodyOverCap (size : UInt64) (header rest : List UInt8)
      (sized : header.length = size.toNat) (within : ¬ OverCap maxMessageSize size.toNat)
      (valid : schema.isValid header = true)
      (overCap : OverCap maxMessageSize (schema.bodySize header).toNat) :
      Rejected maxMessageSize (toLittle size ++ (header ++ rest))

/-- The stream ends inside the size, the header or the body of a frame. -/
inductive Truncated (maxMessageSize : Nat) : List UInt8 → Prop where
  | sizeMissing (rest : List UInt8) (short : rest.length < 8) : Truncated maxMessageSize rest
  | headerMissing (size : UInt64) (rest : List UInt8)
      (within : ¬ OverCap maxMessageSize size.toNat) (short : rest.length < size.toNat) :
      Truncated maxMessageSize (toLittle size ++ rest)
  | bodyMissing (size : UInt64) (header rest : List UInt8)
      (sized : header.length = size.toNat) (within : ¬ OverCap maxMessageSize size.toNat)
      (valid : schema.isValid header = true)
      (bodyWithin : ¬ OverCap maxMessageSize (schema.bodySize header).toNat)
      (short : rest.length < (schema.bodySize header).toNat) :
      Truncated maxMessageSize (toLittle size ++ (header ++ rest))

variable {schema} in
/-- The stream starts with these system frames. -/
structure Swallows (stream : List UInt8) (systems : List (WireFrame schema maxMessageSize))
    (rest : List UInt8) : Prop where
  stream : stream = systems.flatMap WireFrame.bytes ++ rest
  systems : ∀ frame ∈ systems, frame.isSystem = true

variable {schema} in
theorem Swallows.nil (stream : List UInt8) :
    Swallows stream ([] : List (WireFrame schema maxMessageSize)) stream where
  stream := rfl
  systems := nofun

variable {schema} in
theorem Swallows.cons {stream rest : List UInt8}
    {systems : List (WireFrame schema maxMessageSize)} (swallows : Swallows stream systems rest)
    {frame : WireFrame schema maxMessageSize} (system : frame.isSystem = true) :
    Swallows (frame.bytes ++ stream) (frame :: systems) rest := by
  constructor
  · rw [swallows.stream, List.flatMap_cons, List.append_assoc]
  · intro other membership
    rcases List.mem_cons.mp membership with rfl | later
    · exact system
    · exact swallows.systems other later

theorem recvIteration_of_headerInvalid {socket : SyncSocket} {size : UInt64}
    {header rest : List UInt8}
    (incoming : socket.incoming = toLittle size ++ (header ++ rest))
    (sized : header.length = size.toNat) (within : ¬ OverCap socket.maxMessageSize size.toNat)
    (invalid : schema.isValid header = false) (bodyBuffer : List UInt8) :
    recvIteration schema socket bodyBuffer =
      .return none bodyBuffer { socket with incoming := rest }
        [.read 8, .allocate size.toNat, .read size.toNat] := by
  have readSize := SyncSocket.read_append _ incoming (length_toLittle _)
  have readHeader := SyncSocket.read_append
    { socket with incoming := header ++ rest } rfl sized
  simp only [OverCap] at within
  simp only [recvIteration, readSize, fromLittle_toLittle, if_neg within, readHeader, invalid,
    Bool.not_false, if_true]

theorem recvIteration_of_rejected {socket : SyncSocket} {stream : List UInt8}
    (incoming : socket.incoming = stream)
    (rejected : Rejected schema socket.maxMessageSize stream) (bodyBuffer : List UInt8) :
    ∃ next events,
      recvIteration schema socket bodyBuffer = .return none bodyBuffer next events := by
  cases rejected with
  | sizeOverCap size rest overCap =>
      exact ⟨_, _, recvIteration_of_sizeOverCap schema incoming overCap bodyBuffer⟩
  | headerInvalid size header rest sized within invalid =>
      exact ⟨_, _, recvIteration_of_headerInvalid schema incoming sized within invalid
        bodyBuffer⟩
  | bodyOverCap size header rest sized within valid overCap =>
      exact ⟨_, _, recvIteration_of_bodyOverCap schema incoming sized within valid overCap
        bodyBuffer⟩

/-- A call that comes to a rejected frame fails with the body of the last system
frame before it. -/
theorem recvBuffer_of_rejected (socket : SyncSocket)
    {systems : List (WireFrame schema socket.maxMessageSize)} {rest : List UInt8}
    (swallows : Swallows socket.incoming systems rest)
    (rejected : Rejected schema socket.maxMessageSize rest) (bodyBuffer : List UInt8) :
    (recvBuffer schema socket bodyBuffer).id = none ∧
      (recvBuffer schema socket bodyBuffer).bodyBuffer = leftover bodyBuffer systems := by
  obtain ⟨next, events, after, passes⟩ := recvBuffer_of_systems schema systems
    swallows.systems socket rfl swallows.stream bodyBuffer
  rw [← after.cap] at rejected
  obtain ⟨final, last, pass⟩ := recvIteration_of_rejected schema after.incoming rejected
    (leftover bodyBuffer systems)
  rw [passes, recvBuffer_of_return schema pass]
  exact ⟨rfl, rfl⟩

/-- The pass that fails has met a frame that is rejected or not complete. -/
theorem reason_of_failure {socket : SyncSocket} {bodyBuffer : List UInt8}
    (failed : (recvIteration schema socket bodyBuffer).isFailure = true) :
    Rejected schema socket.maxMessageSize socket.incoming ∨
      Truncated schema socket.maxMessageSize socket.incoming := by
  have pass := recvIteration_pass schema socket bodyBuffer
  revert pass failed
  generalize recvIteration schema socket bodyBuffer = iteration
  intro failed pass
  cases pass with
  | sizeMissing short => exact Or.inr (.sizeMissing _ short)
  | sizeOverCap size rest incoming overCap =>
      rw [incoming]
      exact Or.inl (.sizeOverCap size rest overCap)
  | headerMissing size rest incoming within short =>
      rw [incoming]
      exact Or.inr (.headerMissing size rest within short)
  | headerInvalid size header rest incoming sized within invalid =>
      rw [incoming]
      exact Or.inl (.headerInvalid size header rest sized within invalid)
  | bodyOverCap size header rest incoming sized within valid overCap =>
      rw [incoming]
      exact Or.inl (.bodyOverCap size header rest sized within valid overCap)
  | bodyMissing size header rest incoming sized within valid bodyWithin short =>
      rw [incoming]
      exact Or.inr (.bodyMissing size header rest sized within valid bodyWithin short)
  | complete size header body rest iteration incoming sized bodySized within valid bodyWithin
      result =>
      subst result
      dsimp only at failed
      split at failed
      · cases failed
      · split at failed <;> cases failed

/-- A call fails because of the frame behind the system frames it has swallowed. -/
theorem exists_reason_of_none (socket : SyncSocket) (bodyBuffer : List UInt8)
    (cap : socket.maxMessageSize = maxMessageSize)
    (failed : (recvBuffer schema socket bodyBuffer).id = none) :
    ∃ (systems : List (WireFrame schema maxMessageSize)) (rest : List UInt8),
      Swallows socket.incoming systems rest ∧
        (Rejected schema maxMessageSize rest ∨ Truncated schema maxMessageSize rest) := by
  revert cap failed
  refine recvBuffer_induction schema (motive := fun socket _ received =>
    socket.maxMessageSize = maxMessageSize → received.id = none →
      ∃ (systems : List (WireFrame schema maxMessageSize)) (rest : List UInt8),
        Swallows socket.incoming systems rest ∧
          (Rejected schema maxMessageSize rest ∨ Truncated schema maxMessageSize rest))
    ?_ ?_ socket bodyBuffer
  · rintro socket bodyBuffer result buffer next events pass rfl failed
    obtain rfl : result = none := failed
    have fails : (recvIteration schema socket bodyBuffer).isFailure = true := by
      rw [pass]
      rfl
    exact ⟨[], socket.incoming, .nil _, reason_of_failure schema fails⟩
  · intro socket bodyBuffer buffer next events received pass inductionHypothesis cap failed
    obtain ⟨frame, system, incoming, capNext⟩ := exists_system_of_again schema cap pass
    obtain ⟨systems, rest, swallows, reason⟩ := inductionHypothesis capNext failed
    refine ⟨frame :: systems, rest, ?_, reason⟩
    rw [incoming]
    exact swallows.cons system

theorem leftover_eq_iff (bodyBuffer : List UInt8)
    (systems : List (WireFrame schema maxMessageSize)) :
    leftover bodyBuffer systems = bodyBuffer ↔
      ∀ frame, systems.getLast? = some frame → frame.body = bodyBuffer := by
  unfold leftover
  cases systems.getLast? with
  | none => simp
  | some frame => simp

/-- Every call that fails has come to a frame that is rejected or cut off; and
where it is rejected, the caller's buffer is what it was if and only if no
system frame was swallowed or the last one had that very body. -/
theorem rejection_leaves_buffer_iff (socket : SyncSocket) (bodyBuffer : List UInt8) :
    let received := recvBuffer schema socket bodyBuffer
    (received.id = none →
      ∃ (systems : List (WireFrame schema socket.maxMessageSize)) (rest : List UInt8),
        Swallows socket.incoming systems rest ∧
          (Rejected schema socket.maxMessageSize rest ∨
            Truncated schema socket.maxMessageSize rest)) ∧
    ∀ (systems : List (WireFrame schema socket.maxMessageSize)) (rest : List UInt8),
      Swallows socket.incoming systems rest → Rejected schema socket.maxMessageSize rest →
        received.id = none ∧
          (received.bodyBuffer = bodyBuffer ↔
            ∀ frame, systems.getLast? = some frame → frame.body = bodyBuffer) := by
  intro received
  refine ⟨exists_reason_of_none schema socket bodyBuffer rfl, ?_⟩
  intro systems rest swallows rejected
  obtain ⟨failed, buffer⟩ := recvBuffer_of_rejected schema socket swallows rejected bodyBuffer
  refine ⟨failed, ?_⟩
  rw [show received.bodyBuffer = leftover bodyBuffer systems from buffer]
  exact leftover_eq_iff schema bodyBuffer systems

/-- The header of a frame without any system frame before it announces a body of
1 GiB; the receiver takes 1024 bytes. -/
theorem rejection_of_oversized_body :
    let header := (flatbuffers.createMessageHeader 1 1073741824 false).bytes
    let stream := toLittle (UInt64.ofNat header.length) ++ header
    let received := recvBuffer flatbuffers { incoming := stream, maxMessageSize := 1024 } [7]
    received.id = none ∧ received.bodyBuffer = [7] := by
  intro header stream received
  have rejected : Rejected flatbuffers 1024 stream := by
    have oversized := @Rejected.bodyOverCap flatbuffers 1024 (UInt64.ofNat header.length) header
      [] (by decide +kernel) (by decide +kernel) (by decide +kernel) (by decide +kernel)
    rwa [List.append_nil] at oversized
  have kept := (rejection_leaves_buffer_iff flatbuffers
    { incoming := stream, maxMessageSize := 1024 } [7]).2 [] stream (.nil stream) rejected
  exact ⟨kept.1, kept.2.mpr nofun⟩

/-- A pong, then a frame whose size is over the cap: the call fails and leaves
the body of the pong in the caller's buffer. -/
theorem swallowed_body_surfaces :
    let pong := hbPong flatbuffers
    let stream := pong.frame ++ toLittle 2048
    let received := recvBuffer flatbuffers { incoming := stream, maxMessageSize := 1024 } []
    received.id = none ∧ received.bodyBuffer = pong.body ∧ received.bodyBuffer ≠ [] := by
  intro pong stream received
  let message : Message := ⟨SystemId.hbPong.toId, flatbuffers.createHbPongRequest, true⟩
  have fits : message.Fits flatbuffers 1024 := by decide
  let frame := message.wireFrame flatbuffers_lawful fits
  have swallows : Swallows stream [frame] (toLittle 2048) := by
    have swallowed := @Swallows.cons flatbuffers 1024 _ _ _ (.nil (toLittle 2048)) frame
      (message.wireFrame_isSystem flatbuffers_lawful fits)
    rwa [message.wireFrame_bytes] at swallowed
  have rejected : Rejected flatbuffers 1024 (toLittle 2048) := by
    have oversized := @Rejected.sizeOverCap flatbuffers 1024 2048 [] (by decide)
    rwa [List.append_nil] at oversized
  obtain ⟨failed, buffer⟩ := recvBuffer_of_rejected flatbuffers
    { incoming := stream, maxMessageSize := 1024 } swallows rejected []
  refine ⟨failed, buffer, ?_⟩
  rw [show received.bodyBuffer = pong.body from buffer]
  decide

end SocketSL
