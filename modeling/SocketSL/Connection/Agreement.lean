import SocketSL.Connection.Session

/-!
# The two receivers agree

The session's callback chain and a caller of `recv_buffer` do the same things
in the same order on every stream: the reads and their sizes, the vectors they
size, the pongs, the deliveries and the failure at the end.
-/

namespace SocketSL

open SocketSL.Endian

variable (schema : Schema)

/-- The messages handed over, in order. -/
def deliveries (events : List Event) : List (UInt8 × List UInt8) :=
  events.filterMap fun
    | .deliver id body => some (id, body)
    | _ => none

namespace Session

theorem run_eq (maxMessageSize : Nat) (incoming : List UInt8) :
    run schema maxMessageSize incoming =
      { receive schema maxMessageSize .frameSize incoming with
        events := .read 8 :: (receive schema maxMessageSize .frameSize incoming).events } :=
  rfl

/-- What the chain does after the pass of `recv_buffer` that ended so. -/
def continuation (maxMessageSize : Nat) : Iteration → Run
  | .return none _ socket _ => ⟨[.fail], socket.incoming⟩
  | .return (some id) body socket _ =>
      let later := run schema maxMessageSize socket.incoming
      { later with events := .deliver id body :: later.events }
  | .again _ socket _ => run schema maxMessageSize socket.incoming

section Stages

variable {maxMessageSize : Nat} {rest : List UInt8}

theorem receive_sizeOverCap {size : UInt64} (overCap : OverCap maxMessageSize size.toNat) :
    receive schema maxMessageSize .frameSize (toLittle size ++ rest) = ⟨[.fail], rest⟩ := by
  have outcome : onRead schema maxMessageSize .frameSize (some (toLittle size)) = onError := by
    simp only [OverCap] at overCap
    simp only [onRead, fromLittle_toLittle, readHeader, if_pos overCap]
  rw [receive_of_end schema (length_toLittle size) (by rw [outcome]; rfl), outcome]
  rfl

theorem receive_size {size : UInt64} (within : ¬ OverCap maxMessageSize size.toNat) :
    receive schema maxMessageSize .frameSize (toLittle size ++ rest) =
      let later := receive schema maxMessageSize (.header size.toNat) rest
      { later with events := .allocate size.toNat :: .read size.toNat :: later.events } := by
  have outcome : onRead schema maxMessageSize .frameSize (some (toLittle size)) =
      ⟨some (.header size.toNat), [.allocate size.toNat, .read size.toNat]⟩ := by
    simp only [OverCap] at within
    simp only [onRead, fromLittle_toLittle, readHeader, if_neg within]
  rw [receive_of_next schema (.header size.toNat) (length_toLittle size) (by rw [outcome]),
    outcome]
  rfl

theorem receive_headerInvalid {header : List UInt8} (invalid : schema.isValid header = false) :
    receive schema maxMessageSize (.header header.length) (header ++ rest) =
      ⟨[.fail], rest⟩ := by
  have outcome : onRead schema maxMessageSize (.header header.length) (some header) =
      onError := by
    simp [onRead, parseHeader, invalid]
  rw [receive_of_end schema rfl (by rw [outcome]; rfl), outcome]
  rfl

theorem receive_bodyOverCap {header : List UInt8} (valid : schema.isValid header = true)
    (overCap : OverCap maxMessageSize (schema.bodySize header).toNat) :
    receive schema maxMessageSize (.header header.length) (header ++ rest) =
      ⟨[.fail], rest⟩ := by
  have outcome : onRead schema maxMessageSize (.header header.length) (some header) =
      onError := by
    simp only [OverCap] at overCap
    simp [onRead, parseHeader, valid, readBody, overCap]
  rw [receive_of_end schema rfl (by rw [outcome]; rfl), outcome]
  rfl

theorem receive_header {header : List UInt8} (valid : schema.isValid header = true)
    (within : ¬ OverCap maxMessageSize (schema.bodySize header).toNat) :
    receive schema maxMessageSize (.header header.length) (header ++ rest) =
      let later := receive schema maxMessageSize (.body (schema.type header)
        (schema.bodySize header).toNat (schema.isSystem header)) rest
      { later with
        events := .allocate (schema.bodySize header).toNat ::
          .read (schema.bodySize header).toNat :: later.events } := by
  have outcome : onRead schema maxMessageSize (.header header.length) (some header) =
      ⟨some (.body (schema.type header) (schema.bodySize header).toNat
        (schema.isSystem header)),
        [.allocate (schema.bodySize header).toNat, .read (schema.bodySize header).toNat]⟩ := by
    simp only [OverCap] at within
    simp only [onRead, parseHeader, valid, readBody, if_neg within, Bool.not_true,
      Bool.false_eq_true, if_false]
  rw [receive_of_next schema _ rfl (by rw [outcome]), outcome]
  rfl

theorem receive_body {type : UInt8} {isSystem : Bool} {body : List UInt8} :
    receive schema maxMessageSize (.body type body.length isSystem) (body ++ rest) =
      let later := run schema maxMessageSize rest
      { later with
        events := (if isSystem then handleSysMessage schema type
          else [.deliver type body]) ++ later.events } := by
  rw [receive_of_next schema .frameSize rfl rfl, run_eq]
  simp [onRead, readFrameSize]

end Stages

/-- One pass of the synchronous loop, then the chain from where it stopped, is
the chain from where the pass began. -/
theorem run_of_pass (socket : SyncSocket) (bodyBuffer : List UInt8) :
    run schema socket.maxMessageSize socket.incoming =
      let later := continuation schema socket.maxMessageSize
        (recvIteration schema socket bodyBuffer)
      { later with events := (recvIteration schema socket bodyBuffer).events ++ later.events } := by
  have pass := recvIteration_pass schema socket bodyBuffer
  revert pass
  generalize recvIteration schema socket bodyBuffer = iteration
  intro pass
  rw [run_eq]
  cases pass with
  | sizeMissing short =>
      rw [receive_of_short schema short]
      rfl
  | sizeOverCap size rest incoming overCap =>
      rw [incoming, receive_sizeOverCap schema overCap]
      rfl
  | headerMissing size rest incoming within short =>
      rw [incoming, receive_size schema within, receive_of_short schema short]
      rfl
  | headerInvalid size header rest incoming sized within invalid =>
      rw [incoming, receive_size schema within, ← sized, receive_headerInvalid schema invalid]
      rfl
  | bodyOverCap size header rest incoming sized within valid overCap =>
      rw [incoming, receive_size schema within, ← sized, receive_bodyOverCap schema valid overCap]
      rfl
  | bodyMissing size header rest incoming sized within valid bodyWithin short =>
      rw [incoming, receive_size schema within, ← sized, receive_header schema valid bodyWithin,
        receive_of_short schema short]
      rfl
  | complete size header body rest iteration incoming sized bodySized within valid bodyWithin
      result =>
      rw [incoming, receive_size schema within, ← sized, receive_header schema valid bodyWithin,
        ← bodySized, receive_body, result, bodySized]
      by_cases system : schema.isSystem header = true
      · by_cases ping : schema.type header = SystemId.hbPing.toId
        · simp [system, ping, handleSysMessage, continuation, sized]
        · simp [system, ping, handleSysMessage, continuation, sized]
      · simp [system, continuation, sized]

end Session

theorem deliveries_recvIteration (socket : SyncSocket) (bodyBuffer : List UInt8) :
    deliveries (recvIteration schema socket bodyBuffer).events = [] := by
  apply List.filterMap_eq_nil_iff.mpr
  intro event membership
  cases event with
  | deliver id body =>
      exact absurd membership ((recvIteration_events schema socket bodyBuffer).2.1 id body)
  | _ => rfl

theorem deliveries_recvAll (socket : SyncSocket) (buffers : Nat → List UInt8) :
    deliveries (recvAll schema socket buffers).events =
      (recvAll schema socket buffers).messages := by
  refine recvAll_induction schema
    (motive := fun _ _ received => deliveries received.events = received.messages)
    ?_ ?_ ?_ socket buffers
  · intro socket buffers buffer next events pass
    have none := deliveries_recvIteration schema socket (buffers 0)
    rw [pass] at none
    simpa [deliveries] using none
  · intro socket buffers id buffer next events rest pass inductionHypothesis
    have none := deliveries_recvIteration schema socket (buffers 0)
    rw [pass] at none
    simp only [deliveries, Iteration.events] at none inductionHypothesis ⊢
    simp [none, inductionHypothesis]
  · intro socket buffers buffer next events rest pass inductionHypothesis
    have none := deliveries_recvIteration schema socket (buffers 0)
    rw [pass] at none
    simp only [deliveries, Iteration.events] at none inductionHypothesis ⊢
    simp [none, inductionHypothesis]

/-- The chain and the caller of `recv_buffer` agree from any point on. -/
theorem run_eq_recvAll (socket : SyncSocket) (buffers : Nat → List UInt8) :
    Session.run schema socket.maxMessageSize socket.incoming =
      ⟨(recvAll schema socket buffers).events,
        (recvAll schema socket buffers).socket.incoming⟩ := by
  refine recvAll_induction schema
    (motive := fun socket _ received =>
      Session.run schema socket.maxMessageSize socket.incoming =
        ⟨received.events, received.socket.incoming⟩)
    ?_ ?_ ?_ socket buffers
  · intro socket buffers buffer next events pass
    rw [Session.run_of_pass schema socket (buffers 0), pass]
    rfl
  · intro socket buffers id buffer next events rest pass inductionHypothesis
    have cap := (recvIteration_events schema socket (buffers 0)).2.2.1
    rw [pass] at cap
    rw [Session.run_of_pass schema socket (buffers 0), pass, ← cap]
    simp only [Session.continuation, Iteration.socket, inductionHypothesis, Iteration.events]
  · intro socket buffers buffer next events rest pass inductionHypothesis
    have cap := (recvIteration_events schema socket (buffers 0)).2.2.1
    rw [pass] at cap
    rw [Session.run_of_pass schema socket (buffers 0), pass, ← cap]
    simp only [Session.continuation, Iteration.socket, inductionHypothesis, Iteration.events]

/-- The asynchronous and the synchronous receiver do the same, event by event,
on every stream, under every cap and whatever becomes of the pongs. -/
theorem session_agrees_with_recvBuffer (socket : SyncSocket) (buffers : Nat → List UInt8) :
    let asynchronous := Session.run schema socket.maxMessageSize socket.incoming
    let synchronous := recvAll schema socket buffers
    asynchronous.events = synchronous.events ∧
      asynchronous.rest = synchronous.socket.incoming ∧
      deliveries asynchronous.events = synchronous.messages ∧
      ∃ before, asynchronous.events = before ++ [.fail] ∧ .fail ∉ before := by
  dsimp only
  rw [run_eq_recvAll schema socket buffers]
  exact ⟨rfl, rfl, deliveries_recvAll schema socket buffers, recvAll_events schema socket buffers⟩

end SocketSL
