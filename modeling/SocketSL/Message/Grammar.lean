import SocketSL.Message.Receive

/-!
# The frame grammar

`WireFrame` is a frame that is well-formed under a receiver's cap.  A stream is
accepted by `recv_buffer` exactly when it starts with well-formed system frames
followed by a well-formed application frame; that split is unique because the
size field makes the frames self-delimiting.
-/

namespace SocketSL

open SocketSL.Endian SocketSL.Lib

/-- A frame that is well-formed under `maxMessageSize`: a verified header, and
a body of the size the header states, neither of them over the cap. -/
@[ext]
structure WireFrame (schema : Schema) (maxMessageSize : Nat) where
  header : List UInt8
  body : List UInt8
  headerBounded : header.length < 2 ^ 64
  verified : schema.isValid header = true
  bodySized : body.length = (schema.bodySize header).toNat
  withinCap : maxMessageSize = 0 ∨
    header.length ≤ maxMessageSize ∧ body.length ≤ maxMessageSize

namespace WireFrame

variable {schema : Schema} {maxMessageSize : Nat}

def bytes (frame : WireFrame schema maxMessageSize) : List UInt8 :=
  toLittle (UInt64.ofNat frame.header.length) ++ (frame.header ++ frame.body)

def type (frame : WireFrame schema maxMessageSize) : UInt8 :=
  schema.type frame.header

def isSystem (frame : WireFrame schema maxMessageSize) : Bool :=
  schema.isSystem frame.header

def isPing (frame : WireFrame schema maxMessageSize) : Bool :=
  frame.isSystem && frame.type == SystemId.hbPing.toId

theorem toNat_size (frame : WireFrame schema maxMessageSize) :
    (UInt64.ofNat frame.header.length).toNat = frame.header.length :=
  UInt64.toNat_ofNat_of_lt' frame.headerBounded

theorem not_overCap (frame : WireFrame schema maxMessageSize) :
    ¬ OverCap maxMessageSize frame.header.length ∧
      ¬ OverCap maxMessageSize (schema.bodySize frame.header).toNat := by
  rw [← frame.bodySized]
  rcases frame.withinCap with unlimited | ⟨headerWithin, bodyWithin⟩
  · simp [OverCap, unlimited]
  · exact ⟨fun overCap => absurd headerWithin (Nat.not_le.mpr overCap.2),
      fun overCap => absurd bodyWithin (Nat.not_le.mpr overCap.2)⟩

/-- The size field and the header's `body_size` delimit the frame. -/
theorem selfDelimiting :
    SelfDelimiting (bytes : WireFrame schema maxMessageSize → List UInt8) := by
  intro first second restFirst restSecond equal
  simp only [bytes, List.append_assoc] at equal
  obtain ⟨sizes, afterSize⟩ := List.append_inj equal (by simp)
  have lengths : first.header.length = second.header.length := by
    rw [← first.toNat_size, toLittle_injective sizes, second.toNat_size]
  obtain ⟨headers, afterHeader⟩ := List.append_inj afterSize lengths
  obtain ⟨bodies, rests⟩ := List.append_inj afterHeader (by
    rw [first.bodySized, second.bodySized, headers])
  exact ⟨WireFrame.ext headers bodies, rests⟩

end WireFrame

variable (schema : Schema) {maxMessageSize : Nat}

section Pass

variable {schema} in
def frameEvents (frame : WireFrame schema maxMessageSize) : List Event :=
  [.read 8, .allocate frame.header.length, .read frame.header.length,
    .allocate frame.body.length, .read frame.body.length]

theorem recvIteration_of_frame (frame : WireFrame schema maxMessageSize)
    {socket : SyncSocket} (cap : socket.maxMessageSize = maxMessageSize) {rest : List UInt8}
    (incoming : socket.incoming = frame.bytes ++ rest) (bodyBuffer : List UInt8) :
    recvIteration schema socket bodyBuffer =
      if frame.isSystem = false then
        .return (some frame.type) frame.body { socket with incoming := rest } (frameEvents frame)
      else if frame.isPing then
        .again frame.body (send { socket with incoming := rest } (hbPong schema)).2
          (frameEvents frame ++ [.reply (hbPong schema)])
      else
        .again frame.body { socket with incoming := rest } (frameEvents frame) := by
  subst cap
  simp only [WireFrame.bytes, List.append_assoc] at incoming
  have readSize := SyncSocket.read_append _ incoming (length_toLittle _)
  have readHeader := SyncSocket.read_append
    { socket with incoming := frame.header ++ (frame.body ++ rest) }
    rfl (rfl : frame.header.length = _)
  have readBody := SyncSocket.read_append
    { socket with incoming := frame.body ++ rest } rfl frame.bodySized
  have headerWithin := frame.not_overCap.1
  have bodyWithin := frame.not_overCap.2
  simp only [OverCap] at headerWithin bodyWithin
  simp only [recvIteration, readSize, fromLittle_toLittle, frame.toNat_size, headerWithin,
    readHeader, frame.verified, bodyWithin, readBody, if_false, Bool.not_true,
    Bool.false_eq_true]
  by_cases system : schema.isSystem frame.header = true
  · by_cases ping : schema.type frame.header = SystemId.hbPing.toId
    · simp [WireFrame.isSystem, WireFrame.isPing, WireFrame.type, system, ping, frameEvents,
        frame.bodySized]
    · simp [WireFrame.isSystem, WireFrame.isPing, WireFrame.type, system, ping, frameEvents,
        frame.bodySized]
  · simp [WireFrame.isSystem, WireFrame.type, system, frameEvents, frame.bodySized]

/-- A pass that does not fail has read a whole frame. -/
theorem exists_frame_of_pass {socket : SyncSocket}
    (cap : socket.maxMessageSize = maxMessageSize) (bodyBuffer : List UInt8)
    (succeeded : (recvIteration schema socket bodyBuffer).isFailure = false) :
    ∃ (frame : WireFrame schema maxMessageSize) (rest : List UInt8),
      socket.incoming = frame.bytes ++ rest := by
  subst cap
  have pass := recvIteration_pass schema socket bodyBuffer
  revert pass succeeded
  generalize recvIteration schema socket bodyBuffer = iteration
  intro succeeded pass
  cases pass with
  | complete size header body rest iteration incoming headerSized bodySized within valid
      bodyWithin result =>
      have sizeEq : UInt64.ofNat header.length = size := by
        rw [headerSized]
        exact UInt64.ofNat_toNat
      refine ⟨⟨header, body, ?_, valid, bodySized, ?_⟩, rest, ?_⟩
      · rw [headerSized]
        exact size.toNat_lt
      · simp only [OverCap, not_and, ne_eq] at within bodyWithin
        rw [headerSized, bodySized]
        by_cases unlimited : socket.maxMessageSize = 0
        · exact Or.inl unlimited
        · exact Or.inr ⟨Nat.not_lt.mp (within unlimited), Nat.not_lt.mp (bodyWithin unlimited)⟩
      · simpa [WireFrame.bytes, sizeEq] using incoming
  | _ => simp at succeeded

end Pass

section Systems

/-- The bytes a receiver answers system frames with: a pong for every ping. -/
def pongs (systems : List (WireFrame schema maxMessageSize)) : List UInt8 :=
  (systems.filter WireFrame.isPing).flatMap fun _ => (hbPong schema).frame

/-- The socket, once it has read `systems` and answered the pings among them. -/
structure AfterSystems (systems : List (WireFrame schema maxMessageSize))
    (socket next : SyncSocket) (rest : List UInt8) : Prop where
  incoming : next.incoming = rest
  cap : next.maxMessageSize = maxMessageSize
  writeSucceeds : (∀ n, socket.writeSucceeds n = true) → ∀ n, next.writeSucceeds n = true
  outgoing : (∀ n, socket.writeSucceeds n = true) →
    next.outgoing = socket.outgoing ++ pongs schema systems

theorem recvBuffer_of_system (frame : WireFrame schema maxMessageSize)
    (system : frame.isSystem = true) {socket : SyncSocket}
    (cap : socket.maxMessageSize = maxMessageSize) {rest : List UInt8}
    (incoming : socket.incoming = frame.bytes ++ rest) (bodyBuffer : List UInt8) :
    ∃ next events, AfterSystems schema [frame] socket next rest ∧
      recvBuffer schema socket bodyBuffer =
        { recvBuffer schema next frame.body with
          events := events ++ (recvBuffer schema next frame.body).events } := by
  have pass := recvIteration_of_frame schema frame cap incoming bodyBuffer
  rw [if_neg (by simp [system])] at pass
  by_cases ping : frame.isPing = true
  · rw [if_pos ping] at pass
    refine ⟨_, _, ⟨?_, ?_, ?_, ?_⟩, recvBuffer_of_again schema pass⟩
    · simp
    · simpa using cap
    · intro succeeds n
      rw [(send_outgoing { socket with incoming := rest } succeeds _).2.2]
      exact succeeds n
    · intro succeeds
      rw [(send_outgoing { socket with incoming := rest } succeeds _).2.1]
      simp [pongs, ping]
  · rw [if_neg ping] at pass
    refine ⟨{ socket with incoming := rest }, _, ⟨rfl, cap, id, ?_⟩,
      recvBuffer_of_again schema pass⟩
    simp [pongs, ping]

variable {schema} in
/-- What the buffer holds behind the system frames: the body of the last one, or
what the caller passed in. -/
def leftover (bodyBuffer : List UInt8) (systems : List (WireFrame schema maxMessageSize)) :
    List UInt8 :=
  (systems.getLast?.map WireFrame.body).getD bodyBuffer

variable {schema} in
theorem leftover_cons (bodyBuffer : List UInt8) (frame : WireFrame schema maxMessageSize)
    (systems : List (WireFrame schema maxMessageSize)) :
    leftover bodyBuffer (frame :: systems) = leftover frame.body systems := by
  cases systems with
  | nil => rfl
  | cons next systems => simp [leftover, List.getLast?_cons]

/-- A run of system frames is swallowed pass by pass. -/
theorem recvBuffer_of_systems (systems : List (WireFrame schema maxMessageSize))
    (allSystem : ∀ frame ∈ systems, frame.isSystem = true) (socket : SyncSocket)
    (cap : socket.maxMessageSize = maxMessageSize) {rest : List UInt8}
    (incoming : socket.incoming = systems.flatMap WireFrame.bytes ++ rest)
    (bodyBuffer : List UInt8) :
    ∃ next events, AfterSystems schema systems socket next rest ∧
      recvBuffer schema socket bodyBuffer =
        { recvBuffer schema next (leftover bodyBuffer systems) with
          events := events ++
            (recvBuffer schema next (leftover bodyBuffer systems)).events } := by
  induction systems generalizing socket bodyBuffer with
  | nil =>
      refine ⟨socket, [], ⟨by simpa using incoming, cap, id, ?_⟩, rfl⟩
      simp [pongs]
  | cons frame systems inductionHypothesis =>
      rw [List.flatMap_cons, List.append_assoc] at incoming
      obtain ⟨middle, first, afterFirst, firstPass⟩ := recvBuffer_of_system schema frame
        (allSystem frame (by simp)) cap incoming bodyBuffer
      obtain ⟨next, later, afterLater, laterPasses⟩ := inductionHypothesis
        (fun other membership => allSystem other (by simp [membership])) middle
        afterFirst.cap afterFirst.incoming frame.body
      refine ⟨next, first ++ later, ⟨afterLater.incoming, afterLater.cap,
        fun succeeds => afterLater.writeSucceeds (afterFirst.writeSucceeds succeeds), ?_⟩, ?_⟩
      · intro succeeds
        rw [afterLater.outgoing (afterFirst.writeSucceeds succeeds),
          afterFirst.outgoing succeeds, List.append_assoc]
        by_cases ping : frame.isPing = true <;> simp [pongs, ping]
      · rw [firstPass, laterPasses, leftover_cons]
        simp

theorem exists_system_of_again {socket next : SyncSocket} {bodyBuffer buffer : List UInt8}
    {events : List Event} (cap : socket.maxMessageSize = maxMessageSize)
    (pass : recvIteration schema socket bodyBuffer = .again buffer next events) :
    ∃ frame : WireFrame schema maxMessageSize, frame.isSystem = true ∧
      socket.incoming = frame.bytes ++ next.incoming ∧
      next.maxMessageSize = maxMessageSize := by
  obtain ⟨frame, remaining, incoming⟩ := exists_frame_of_pass schema cap bodyBuffer
    (by rw [pass]; rfl)
  have known := recvIteration_of_frame schema frame cap incoming bodyBuffer
  rw [pass] at known
  by_cases system : frame.isSystem = true
  · rw [if_neg (by simp [system])] at known
    refine ⟨frame, system, ?_⟩
    split at known
    · cases known
      exact ⟨by simpa using incoming, by simpa using cap⟩
    · cases known
      exact ⟨incoming, cap⟩
  · rw [if_pos (by simpa using system)] at known
    cases known

end Systems

section Acceptance

variable {schema} in
/-- A stream that starts with system frames followed by an application frame. -/
structure Splits (stream : List UInt8) (systems : List (WireFrame schema maxMessageSize))
    (frame : WireFrame schema maxMessageSize) (rest : List UInt8) : Prop where
  stream : stream = systems.flatMap WireFrame.bytes ++ (frame.bytes ++ rest)
  systems : ∀ system ∈ systems, system.isSystem = true
  application : frame.isSystem = false

variable {schema} in
theorem Splits.unique {stream : List UInt8}
    {systems systems' : List (WireFrame schema maxMessageSize)}
    {frame frame' : WireFrame schema maxMessageSize} {rest rest' : List UInt8}
    (first : Splits stream systems frame rest) (second : Splits stream systems' frame' rest') :
    systems = systems' ∧ frame = frame' ∧ rest = rest' :=
  WireFrame.selfDelimiting.split_unique (fun item => item.isSystem = false)
    (fun item membership => by simp [first.systems item membership]) first.application
    (fun item membership => by simp [second.systems item membership]) second.application
    (first.stream.symm.trans second.stream)

/-- A stream of the grammar is accepted, with its pings answered. -/
theorem recvBuffer_of_splits (socket : SyncSocket)
    (cap : socket.maxMessageSize = maxMessageSize)
    {systems : List (WireFrame schema maxMessageSize)}
    {frame : WireFrame schema maxMessageSize} {rest : List UInt8}
    (split : Splits socket.incoming systems frame rest) (bodyBuffer : List UInt8) :
    (recvBuffer schema socket bodyBuffer).id = some frame.type ∧
      (recvBuffer schema socket bodyBuffer).bodyBuffer = frame.body ∧
      (recvBuffer schema socket bodyBuffer).socket.incoming = rest ∧
      ((∀ n, socket.writeSucceeds n = true) →
        (recvBuffer schema socket bodyBuffer).socket.outgoing =
          socket.outgoing ++ pongs schema systems) := by
  obtain ⟨next, events, after, passes⟩ := recvBuffer_of_systems schema systems
    split.systems socket cap split.stream bodyBuffer
  have last := recvIteration_of_frame schema frame after.cap after.incoming
    (leftover bodyBuffer systems)
  rw [if_pos split.application] at last
  rw [passes, recvBuffer_of_return schema last]
  exact ⟨rfl, rfl, rfl, after.outgoing⟩

/-- Whatever `recv_buffer` accepts is of the grammar. -/
theorem exists_splits_of_recvBuffer (socket : SyncSocket) (bodyBuffer : List UInt8)
    (cap : socket.maxMessageSize = maxMessageSize) {id : UInt8}
    (returned : (recvBuffer schema socket bodyBuffer).id = some id) :
    ∃ (systems : List (WireFrame schema maxMessageSize))
      (frame : WireFrame schema maxMessageSize),
      Splits socket.incoming systems frame
        (recvBuffer schema socket bodyBuffer).socket.incoming := by
  revert cap returned
  refine recvBuffer_induction schema (motive := fun socket _ received =>
    socket.maxMessageSize = maxMessageSize → received.id = some id →
      ∃ (systems : List (WireFrame schema maxMessageSize))
        (frame : WireFrame schema maxMessageSize),
        Splits socket.incoming systems frame received.socket.incoming)
    ?_ ?_ socket bodyBuffer
  · intro socket bodyBuffer result buffer next events pass cap returned
    obtain rfl : result = some id := returned
    obtain ⟨frame, rest, incoming⟩ := exists_frame_of_pass schema cap bodyBuffer
      (by rw [pass]; rfl)
    have known := recvIteration_of_frame schema frame cap incoming bodyBuffer
    rw [pass] at known
    by_cases application : frame.isSystem = false
    · rw [if_pos application] at known
      cases known
      exact ⟨[], frame, by simpa using incoming, by simp, application⟩
    · rw [if_neg application] at known
      split at known <;> cases known
  · intro socket bodyBuffer buffer next events rest pass inductionHypothesis cap returned
    obtain ⟨frame, system, incoming, capNext⟩ := exists_system_of_again schema cap pass
    obtain ⟨systems, last, split⟩ := inductionHypothesis capNext returned
    refine ⟨frame :: systems, last, ?_, ?_, split.application⟩
    · rw [incoming, split.stream]
      simp
    · intro other membership
      rcases List.mem_cons.mp membership with rfl | later
      · exact system
      · exact split.systems other later

end Acceptance

section Cap

theorem recvIteration_of_sizeOverCap {socket : SyncSocket} {size : UInt64} {rest : List UInt8}
    (incoming : socket.incoming = toLittle size ++ rest)
    (overCap : OverCap socket.maxMessageSize size.toNat) (bodyBuffer : List UInt8) :
    recvIteration schema socket bodyBuffer =
      .return none bodyBuffer { socket with incoming := rest } [.read 8] := by
  have readSize := SyncSocket.read_append _ incoming (length_toLittle _)
  simp only [OverCap] at overCap
  simp only [recvIteration, readSize, fromLittle_toLittle, if_pos overCap]

theorem recvIteration_of_bodyOverCap {socket : SyncSocket} {size : UInt64}
    {header rest : List UInt8}
    (incoming : socket.incoming = toLittle size ++ (header ++ rest))
    (sized : header.length = size.toNat) (within : ¬ OverCap socket.maxMessageSize size.toNat)
    (valid : schema.isValid header = true)
    (overCap : OverCap socket.maxMessageSize (schema.bodySize header).toNat)
    (bodyBuffer : List UInt8) :
    recvIteration schema socket bodyBuffer =
      .return none bodyBuffer { socket with incoming := rest }
        [.read 8, .allocate size.toNat, .read size.toNat] := by
  have readSize := SyncSocket.read_append _ incoming (length_toLittle _)
  have readHeader := SyncSocket.read_append
    { socket with incoming := header ++ rest } rfl sized
  simp only [OverCap] at within overCap
  simp only [recvIteration, readSize, fromLittle_toLittle, if_neg within, readHeader, valid,
    if_pos overCap, Bool.not_true, Bool.false_eq_true, if_false]

/-- No pass sizes a buffer above a non-zero cap. -/
theorem recvIteration_allocate (socket : SyncSocket) (bodyBuffer : List UInt8) (size : Nat)
    (allocated : .allocate size ∈ (recvIteration schema socket bodyBuffer).events) :
    ¬ OverCap socket.maxMessageSize size := by
  have pass := recvIteration_pass schema socket bodyBuffer
  revert pass allocated
  generalize recvIteration schema socket bodyBuffer = iteration
  intro allocated pass
  cases pass with
  | sizeMissing _ => simp at allocated
  | sizeOverCap _ _ _ _ => simp at allocated
  | headerMissing _ _ _ within _ =>
      obtain rfl : size = _ := by simpa using allocated
      exact within
  | headerInvalid _ _ _ _ _ within _ =>
      obtain rfl : size = _ := by simpa using allocated
      exact within
  | bodyOverCap _ _ _ _ _ within _ _ =>
      obtain rfl : size = _ := by simpa using allocated
      exact within
  | bodyMissing _ _ _ _ _ within _ bodyWithin _ =>
      obtain rfl | rfl : size = _ ∨ size = _ := by simpa using allocated
      · exact within
      · exact bodyWithin
  | complete _ header _ _ _ _ _ _ within _ bodyWithin result =>
      obtain rfl | rfl : size = _ ∨ size = (schema.bodySize header).toNat := by
        subst result
        dsimp only at allocated
        split at allocated
        · simpa using allocated
        · split at allocated <;> simpa using allocated
      · exact within
      · exact bodyWithin

theorem recvBuffer_allocate (socket : SyncSocket) (bodyBuffer : List UInt8) (size : Nat)
    (allocated : .allocate size ∈ (recvBuffer schema socket bodyBuffer).events) :
    ¬ OverCap socket.maxMessageSize size := by
  revert allocated
  refine recvBuffer_induction schema (motive := fun socket _ received =>
    .allocate size ∈ received.events → ¬ OverCap socket.maxMessageSize size)
    ?_ ?_ socket bodyBuffer
  · intro socket bodyBuffer id buffer next events pass allocated
    have bound := recvIteration_allocate schema socket bodyBuffer size
    rw [pass] at bound
    exact bound allocated
  · intro socket bodyBuffer buffer next events rest pass inductionHypothesis allocated
    have bound := recvIteration_allocate schema socket bodyBuffer size
    have capEq := (recvIteration_events schema socket bodyBuffer).2.2.1
    rw [pass] at bound capEq
    rcases List.mem_append.mp allocated with now | later
    · exact bound now
    · rw [← show next.maxMessageSize = socket.maxMessageSize from capEq]
      exact inductionHypothesis later

end Cap

/-- `recv_buffer` accepts exactly the frame grammar under the cap: it returns a
message if and only if the stream splits, the split is unique, the pings in it
are answered and nothing else is written, no buffer is sized above a cap and
nothing after an offending length is consumed. -/
theorem recvBuffer_accepts_exactly (maxMessageSize : Nat) (stream bodyBuffer : List UInt8) :
    (∀ (systems systems' : List (WireFrame schema maxMessageSize))
      (frame frame' : WireFrame schema maxMessageSize) (rest rest' : List UInt8),
      Splits stream systems frame rest → Splits stream systems' frame' rest' →
        systems = systems' ∧ frame = frame' ∧ rest = rest') ∧
    let received := recvBuffer schema
      { incoming := stream, maxMessageSize := maxMessageSize } bodyBuffer
    (∀ id body rest,
      (received.id = some id ∧ received.bodyBuffer = body ∧
          received.socket.incoming = rest) ↔
        ∃ (systems : List (WireFrame schema maxMessageSize))
          (frame : WireFrame schema maxMessageSize),
          Splits stream systems frame rest ∧ frame.type = id ∧ frame.body = body) ∧
    (received.id = none ↔
      ¬ ∃ (systems : List (WireFrame schema maxMessageSize))
        (frame : WireFrame schema maxMessageSize) (rest : List UInt8),
        Splits stream systems frame rest) ∧
    (∀ (systems : List (WireFrame schema maxMessageSize))
      (frame : WireFrame schema maxMessageSize) (rest : List UInt8),
      Splits stream systems frame rest →
        received.socket.outgoing =
          (systems.filter WireFrame.isPing).flatMap fun _ => (hbPong schema).frame) ∧
    (maxMessageSize ≠ 0 → ∀ size, .allocate size ∈ received.events → size ≤ maxMessageSize) ∧
    (∀ (systems : List (WireFrame schema maxMessageSize)) (size : UInt64)
      (rest : List UInt8), (∀ frame ∈ systems, frame.isSystem = true) →
      stream = systems.flatMap WireFrame.bytes ++ (toLittle size ++ rest) →
      maxMessageSize ≠ 0 → size.toNat > maxMessageSize →
        received.id = none ∧ received.socket.incoming = rest) ∧
    (∀ (systems : List (WireFrame schema maxMessageSize)) (size : UInt64)
      (header rest : List UInt8), (∀ frame ∈ systems, frame.isSystem = true) →
      stream = systems.flatMap WireFrame.bytes ++ (toLittle size ++ (header ++ rest)) →
      header.length = size.toNat → size.toNat ≤ maxMessageSize →
      schema.isValid header = true → maxMessageSize ≠ 0 →
      (schema.bodySize header).toNat > maxMessageSize →
        received.id = none ∧ received.socket.incoming = rest) := by
  dsimp only
  refine ⟨?_, ?_, ?_, ?_, ?_, ?_, ?_⟩
  · intro systems systems' frame frame' rest rest' first second
    exact first.unique second
  · intro id body rest
    constructor
    · rintro ⟨returned, rfl, rfl⟩
      obtain ⟨systems, frame, split⟩ := exists_splits_of_recvBuffer schema _ bodyBuffer rfl returned
      have accepted := recvBuffer_of_splits schema _ rfl split bodyBuffer
      exact ⟨systems, frame, split, Option.some.inj (accepted.1.symm.trans returned),
        accepted.2.1.symm⟩
    · rintro ⟨systems, frame, split, rfl, rfl⟩
      have accepted := recvBuffer_of_splits schema
        { incoming := stream, maxMessageSize := maxMessageSize } rfl split bodyBuffer
      exact ⟨accepted.1, accepted.2.1, accepted.2.2.1⟩
  · constructor
    · rintro failed ⟨systems, frame, rest, split⟩
      have accepted := recvBuffer_of_splits schema
        { incoming := stream, maxMessageSize := maxMessageSize } rfl split bodyBuffer
      rw [accepted.1] at failed
      cases failed
    · intro unsplit
      apply Option.eq_none_iff_forall_ne_some.mpr
      intro id returned
      obtain ⟨systems, frame, split⟩ := exists_splits_of_recvBuffer schema _ bodyBuffer rfl returned
      exact unsplit ⟨systems, frame, _, split⟩
  · intro systems frame rest split
    have accepted := recvBuffer_of_splits schema
      { incoming := stream, maxMessageSize := maxMessageSize } rfl split bodyBuffer
    simpa [pongs] using accepted.2.2.2 fun _ => rfl
  · intro capped size allocated
    have bound := recvBuffer_allocate schema _ bodyBuffer size allocated
    exact Nat.not_lt.mp fun overCap => bound ⟨capped, overCap⟩
  · intro systems size rest allSystem split capped overCap
    obtain ⟨next, events, after, passes⟩ := recvBuffer_of_systems schema systems
      allSystem { incoming := stream, maxMessageSize := maxMessageSize } rfl split
      bodyBuffer
    have last := recvIteration_of_sizeOverCap schema after.incoming
      (by rw [after.cap]; exact ⟨capped, overCap⟩) (leftover bodyBuffer systems)
    rw [passes, recvBuffer_of_return schema last]
    exact ⟨rfl, rfl⟩
  · intro systems size header rest allSystem split sized within valid capped overCap
    obtain ⟨next, events, after, passes⟩ := recvBuffer_of_systems schema systems
      allSystem { incoming := stream, maxMessageSize := maxMessageSize } rfl split
      bodyBuffer
    have last := recvIteration_of_bodyOverCap schema after.incoming sized
      (by rw [after.cap]; exact fun exceeded => absurd within (Nat.not_le.mpr exceeded.2)) valid
      (by rw [after.cap]; exact ⟨capped, overCap⟩) (leftover bodyBuffer systems)
    rw [passes, recvBuffer_of_return schema last]
    exact ⟨rfl, rfl⟩

end SocketSL
