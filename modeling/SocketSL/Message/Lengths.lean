import SocketSL.Message.Grammar
import SocketSL.Connection.Agreement
import Mathlib.Data.UInt

/-!
# Lengths that no vector can hold

Both receivers size a `std::vector` from a length on the wire before they read
into it.  A request above `max_size` throws, and an event list in which one is
made is what the code does up to that point only.  Such a request is made
exactly on the streams that reach a length which the cap lets through and a
vector does not.  A request up to `max_size` is taken to be served; whether the
memory is there is not asked.
-/

namespace SocketSL

open SocketSL.Endian

/-- `std::vector<std::uint8_t>::max_size()` -/
def maxSize : Nat := 2 ^ 63 - 1

/-- `std::length_error`: a vector is asked for more than `max_size`. -/
def Throws (events : List Event) : Prop :=
  ∃ size, .allocate size ∈ events ∧ maxSize < size

/-- After any number of good frames comes a frame size, or a verified header
with a body size, that is within the cap and above `max_size`. -/
inductive Oversized (schema : Schema) (maxMessageSize : Nat) : List UInt8 → Prop where
  | frameSize (size : UInt64) (rest : List UInt8)
      (within : ¬ OverCap maxMessageSize size.toNat) (large : maxSize < size.toNat) :
      Oversized schema maxMessageSize (toLittle size ++ rest)
  | bodySize (size : UInt64) (header rest : List UInt8) (sized : header.length = size.toNat)
      (within : ¬ OverCap maxMessageSize size.toNat) (valid : schema.isValid header = true)
      (bodyWithin : ¬ OverCap maxMessageSize (schema.bodySize header).toNat)
      (large : maxSize < (schema.bodySize header).toNat) :
      Oversized schema maxMessageSize (toLittle size ++ (header ++ rest))
  | later (frame : WireFrame schema maxMessageSize) (rest : List UInt8)
      (oversized : Oversized schema maxMessageSize rest) :
      Oversized schema maxMessageSize (frame.bytes ++ rest)

section Throws

theorem throws_append (first second : List Event) :
    Throws (first ++ second) ↔ Throws first ∨ Throws second := by
  simp only [Throws, List.mem_append, or_and_right, exists_or]

@[simp]
theorem throws_nil : ¬ Throws [] := by
  rintro ⟨size, requested, -⟩
  cases requested

theorem throws_cons (event : Event) (events : List Event) :
    Throws (event :: events) ↔ (∃ size, event = .allocate size ∧ maxSize < size) ∨
      Throws events := by
  constructor
  · rintro ⟨size, requested, large⟩
    rcases List.mem_cons.mp requested with rfl | later
    · exact Or.inl ⟨size, rfl, large⟩
    · exact Or.inr ⟨size, later, large⟩
  · rintro (⟨size, rfl, large⟩ | ⟨size, later, large⟩)
    · exact ⟨size, List.mem_cons_self, large⟩
    · exact ⟨size, List.mem_cons_of_mem _ later, large⟩

@[simp]
theorem throws_allocate (size : Nat) (events : List Event) :
    Throws (.allocate size :: events) ↔ maxSize < size ∨ Throws events := by
  simp [throws_cons]

@[simp]
theorem throws_read (size : Nat) (events : List Event) :
    Throws (.read size :: events) ↔ Throws events := by
  simp [throws_cons]

@[simp]
theorem throws_reply (message : MessageT) (events : List Event) :
    Throws (.reply message :: events) ↔ Throws events := by
  simp [throws_cons]

@[simp]
theorem throws_deliver (id : UInt8) (body : List UInt8) (events : List Event) :
    Throws (.deliver id body :: events) ↔ Throws events := by
  simp [throws_cons]

@[simp]
theorem throws_fail : ¬ Throws [.fail] := by
  simp [throws_cons]

end Throws

section Oversized

variable {schema : Schema} {maxMessageSize : Nat}

theorem Oversized.length_ge {stream : List UInt8}
    (oversized : Oversized schema maxMessageSize stream) : 8 ≤ stream.length := by
  cases oversized with
  | frameSize size rest within large => simp
  | bodySize size header rest sized within valid bodyWithin large => simp
  | later frame rest oversized => simp [WireFrame.bytes]

theorem oversized_size_iff {size : UInt64} {rest : List UInt8} :
    Oversized schema maxMessageSize (toLittle size ++ rest) ↔
      ¬ OverCap maxMessageSize size.toNat ∧
        (maxSize < size.toNat ∨ ∃ header tail, rest = header ++ tail ∧
          header.length = size.toNat ∧ schema.isValid header = true ∧
          ¬ OverCap maxMessageSize (schema.bodySize header).toNat ∧
          (maxSize < (schema.bodySize header).toNat ∨ ∃ body after, tail = body ++ after ∧
            body.length = (schema.bodySize header).toNat ∧
            Oversized schema maxMessageSize after)) := by
  constructor
  · intro oversized
    generalize stream : toLittle size ++ rest = bytes at oversized
    cases oversized with
    | frameSize size' rest' within large =>
        obtain ⟨sizes, rfl⟩ := List.append_inj stream (by simp)
        cases toLittle_injective sizes
        exact ⟨within, Or.inl large⟩
    | bodySize size' header tail sized within valid bodyWithin large =>
        obtain ⟨sizes, rfl⟩ := List.append_inj stream (by simp)
        cases toLittle_injective sizes
        exact ⟨within, Or.inr ⟨header, tail, rfl, sized, valid, bodyWithin, Or.inl large⟩⟩
    | later frame after oversized =>
        rw [WireFrame.bytes, List.append_assoc, List.append_assoc] at stream
        obtain ⟨sizes, rfl⟩ := List.append_inj stream (by simp)
        cases toLittle_injective sizes
        obtain ⟨within, bodyWithin⟩ := frame.not_overCap
        refine ⟨frame.toNat_size.symm ▸ within, Or.inr ⟨frame.header, _, rfl,
          frame.toNat_size.symm, frame.verified, bodyWithin, Or.inr ?_⟩⟩
        exact ⟨frame.body, after, rfl, frame.bodySized, oversized⟩
  · rintro ⟨within, large | ⟨header, tail, rfl, sized, valid, bodyWithin, large | later⟩⟩
    · exact .frameSize size rest within large
    · exact .bodySize size header tail sized within valid bodyWithin large
    · obtain ⟨body, after, rfl, bodySized, oversized⟩ := later
      have bounded : header.length < 2 ^ 64 := sized ▸ size.toNat_lt
      have withinCap : maxMessageSize = 0 ∨
          header.length ≤ maxMessageSize ∧ body.length ≤ maxMessageSize := by
        simp only [OverCap] at within bodyWithin
        omega
      have frameEq : toLittle size ++ (header ++ (body ++ after)) = WireFrame.bytes
          (⟨header, body, bounded, valid, bodySized, withinCap⟩ :
            WireFrame schema maxMessageSize) ++ after := by
        simp [WireFrame.bytes, sized]
      rw [frameEq]
      exact .later _ after oversized

theorem oversized_header_iff {size : UInt64} {header rest : List UInt8}
    (sized : header.length = size.toNat) (within : ¬ OverCap maxMessageSize size.toNat) :
    Oversized schema maxMessageSize (toLittle size ++ (header ++ rest)) ↔
      maxSize < size.toNat ∨ schema.isValid header = true ∧
        ¬ OverCap maxMessageSize (schema.bodySize header).toNat ∧
        (maxSize < (schema.bodySize header).toNat ∨ ∃ body after, rest = body ++ after ∧
          body.length = (schema.bodySize header).toNat ∧
          Oversized schema maxMessageSize after) := by
  rw [oversized_size_iff]
  constructor
  · rintro ⟨-, large | ⟨header', tail, split, sized', verified⟩⟩
    · exact Or.inl large
    · obtain ⟨rfl, rfl⟩ := List.append_inj split (sized.trans sized'.symm)
      exact Or.inr verified
  · rintro (large | verified)
    · exact ⟨within, Or.inl large⟩
    · exact ⟨within, Or.inr ⟨header, rest, rfl, sized, verified⟩⟩

theorem exists_body_iff {size : Nat} {body rest : List UInt8} (sized : body.length = size) :
    (∃ body' after, body ++ rest = body' ++ after ∧ body'.length = size ∧
      Oversized schema maxMessageSize after) ↔ Oversized schema maxMessageSize rest := by
  constructor
  · rintro ⟨body', after, split, sized', oversized⟩
    obtain ⟨-, rfl⟩ := List.append_inj split (sized.trans sized'.symm)
    exact oversized
  · intro oversized
    exact ⟨body, rest, rfl, sized, oversized⟩

/-- A pass asks for too much itself, or leaves the rest of the stream to the
next one. -/
theorem oversized_pass_iff (schema : Schema) (socket : SyncSocket) (bodyBuffer : List UInt8) :
    Oversized schema socket.maxMessageSize socket.incoming ↔
      Throws (recvIteration schema socket bodyBuffer).events ∨
        (recvIteration schema socket bodyBuffer).isFailure = false ∧
          Oversized schema socket.maxMessageSize
            (recvIteration schema socket bodyBuffer).socket.incoming := by
  have pass := recvIteration_pass schema socket bodyBuffer
  revert pass
  generalize recvIteration schema socket bodyBuffer = iteration
  intro pass
  cases pass with
  | sizeMissing short =>
      simp only [Iteration.events, Iteration.isFailure, throws_read, throws_nil, false_or,
        Bool.true_eq_false, false_and, iff_false]
      intro oversized
      exact absurd oversized.length_ge (Nat.not_le.mpr short)
  | sizeOverCap size rest incoming overCap =>
      rw [incoming, oversized_size_iff]
      simp [overCap]
  | headerMissing size rest incoming within short =>
      rw [incoming, oversized_size_iff]
      have missing : ¬ ∃ header tail, rest = header ++ tail ∧ header.length = size.toNat ∧
          schema.isValid header = true ∧
          ¬ OverCap socket.maxMessageSize (schema.bodySize header).toNat ∧
          (maxSize < (schema.bodySize header).toNat ∨ ∃ body after, tail = body ++ after ∧
            body.length = (schema.bodySize header).toNat ∧
            Oversized schema socket.maxMessageSize after) := by
        rintro ⟨header, tail, rfl, sized, -⟩
        rw [List.length_append] at short
        omega
      simp [within, missing]
  | headerInvalid size header rest incoming sized within invalid =>
      rw [incoming, oversized_header_iff sized within]
      simp [invalid]
  | bodyOverCap size header rest incoming sized within valid overCap =>
      rw [incoming, oversized_header_iff sized within]
      simp [overCap]
  | bodyMissing size header rest incoming sized within valid bodyWithin short =>
      rw [incoming, oversized_header_iff sized within]
      have missing : ¬ ∃ body after, rest = body ++ after ∧
          body.length = (schema.bodySize header).toNat ∧
          Oversized schema socket.maxMessageSize after := by
        rintro ⟨body, after, rfl, bodySized, -⟩
        rw [List.length_append] at short
        omega
      simp [valid, bodyWithin, missing]
  | complete size header body rest iteration incoming sized bodySized within valid bodyWithin
      result =>
      rw [incoming, oversized_header_iff sized within, exists_body_iff bodySized]
      subst result
      dsimp only
      split
      · simp [valid, bodyWithin, or_assoc]
      · split <;> simp [valid, bodyWithin, or_assoc]

/-- A reception asks for too much exactly on the streams that say so. -/
theorem recvAll_throws_iff (schema : Schema) (socket : SyncSocket)
    (buffers : Nat → List UInt8) :
    Throws (recvAll schema socket buffers).events ↔
      Oversized schema socket.maxMessageSize socket.incoming := by
  refine recvAll_induction schema
    (motive := fun socket _ received =>
      Throws received.events ↔ Oversized schema socket.maxMessageSize socket.incoming)
    ?_ ?_ ?_ socket buffers
  · intro socket buffers buffer next events pass
    rw [oversized_pass_iff schema socket (buffers 0), pass, throws_append]
    simp
  · intro socket buffers id buffer next events rest pass inductionHypothesis
    have cap := (recvIteration_events schema socket (buffers 0)).2.2.1
    rw [pass] at cap
    rw [oversized_pass_iff schema socket (buffers 0), pass, throws_append, throws_deliver,
      inductionHypothesis, ← cap]
    simp
  · intro socket buffers buffer next events rest pass inductionHypothesis
    have cap := (recvIteration_events schema socket (buffers 0)).2.2.1
    rw [pass] at cap
    rw [oversized_pass_iff schema socket (buffers 0), pass, throws_append, inductionHypothesis,
      ← cap]
    simp

end Oversized

variable (schema : Schema)

/-- Neither receiver asks for a vector that cannot exist, and both end by
reporting a failure, if and only if the stream reaches no length above
`max_size` that the cap lets through.  Of an event list that goes on past such a
request the two failures at its end say nothing: they hold of every stream. -/
theorem lengths_never_throw_iff (socket : SyncSocket) (buffers : Nat → List UInt8) :
    (¬ Throws (recvAll schema socket buffers).events ∧
      ¬ Throws (Session.run schema socket.maxMessageSize socket.incoming).events ∧
      (∃ before, (recvAll schema socket buffers).events = before ++ [.fail]) ∧
      ∃ before, (Session.run schema socket.maxMessageSize socket.incoming).events =
        before ++ [.fail]) ↔
      ¬ Oversized schema socket.maxMessageSize socket.incoming := by
  obtain ⟨before, ends, -⟩ := recvAll_events schema socket buffers
  rw [run_eq_recvAll schema socket buffers]
  dsimp only
  rw [recvAll_throws_iff]
  constructor
  · rintro ⟨fine, -⟩
    exact fine
  · intro fine
    exact ⟨fine, fine, ⟨before, ends⟩, before, ends⟩

/-- Eight bytes make a receiver without a cap ask for a vector of 2^63 bytes. -/
theorem length_of_two_pow_63_throws :
    let stream := toLittle (2 ^ 63)
    stream = [0, 0, 0, 0, 0, 0, 0, 128] ∧
      Throws (recvAll flatbuffers { incoming := stream } fun _ => []).events ∧
      Throws (Session.run flatbuffers 0 stream).events := by
  have oversized : Oversized flatbuffers 0 (toLittle (2 ^ 63)) := by
    have large := @Oversized.frameSize flatbuffers 0 (2 ^ 63) []
      (by simp [OverCap]) (by decide +kernel)
    simpa using large
  have throws := (recvAll_throws_iff flatbuffers { incoming := toLittle (2 ^ 63) }
    fun _ => []).mpr oversized
  refine ⟨by decide +kernel, throws, ?_⟩
  have same := run_eq_recvAll flatbuffers { incoming := toLittle (2 ^ 63) } fun _ => []
  rw [show Session.run flatbuffers 0 (toLittle (2 ^ 63)) = _ from same]
  exact throws

end SocketSL
