import SocketSL.Network.Discipline

/-!
# What asynchronous sends put on the wire

A socket that is written to through the queue only, over a stream that
transmits nothing after a failed write, has put a prefix of the accepted frames
on the wire: the frames of the completed writes and the part of the front entry
that asio has transferred.
-/

namespace SocketSL.Network

namespace BoostTcpSocket

/-- The bytes on the wire, as the peer sees them. -/
def bytes (socket : BoostTcpSocket) : List UInt8 := socket.wire.map Prod.snd

/-- No write has failed so far. -/
def Unbroken (socket : BoostTcpSocket) : Prop := ∀ entry ∈ socket.completed, entry.2 = true

instance (socket : BoostTcpSocket) : Decidable socket.Unbroken :=
  inferInstanceAs (Decidable (∀ entry ∈ socket.completed, entry.2 = true))

/-- The frames asio has been done with. -/
def completedFrames (socket : BoostTcpSocket) : List UInt8 :=
  socket.completed.flatMap fun entry => entry.1.frame

structure Transmits (socket : BoostTcpSocket) : Prop where
  writers : socket.Writers
  isPrefix : socket.bytes <+: socket.accepted.flatMap Call.frame
  between : socket.Unbroken → socket.flights = 0 → socket.bytes = socket.completedFrames
  during : socket.Unbroken → ∀ flight ∈ socket.flights,
    socket.bytes = socket.completedFrames ++ flight.call.frame.take flight.transferred

theorem Transmits.initial (maxPendingWrites : Nat) :
    Transmits { maxPendingWrites := maxPendingWrites } where
  writers := Writers.initial maxPendingWrites
  isPrefix := by simp [bytes]
  between := by simp [bytes, completedFrames]
  during := by simp

section Transmits

variable {socket : BoostTcpSocket} (transmits : socket.Transmits)
include transmits

theorem Transmits.asyncWrite (head body : List UInt8) (hasHandler : Bool) :
    (socket.asyncWrite head body hasHandler).Transmits := by
  have writers := transmits.writers.asyncWrite head body hasHandler
  unfold BoostTcpSocket.asyncWrite at writers ⊢
  dsimp only at writers ⊢
  split at writers
  next full =>
    rw [if_pos full]
    exact { transmits with writers := writers }
  next room =>
    rw [if_neg room]
    refine { transmits with writers := writers, isPrefix := ?_ }
    apply transmits.isPrefix.trans
    rw [List.flatMap_append]
    exact List.prefix_append _ _

theorem Transmits.runTask {task : Task} {rest : Multiset Task}
    (pending : socket.tasks = task ::ₘ rest) :
    ({ socket with tasks := rest }.runTask task).Transmits := by
  have writers := transmits.writers.runTask pending
  cases task with
  | reject call => exact { transmits with writers := writers }
  | writeNext =>
      obtain ⟨-, -, nonempty⟩ := transmits.writers.of_due pending rfl
      obtain ⟨front, behind, queue⟩ := List.exists_cons_of_ne_nil nonempty
      rw [runTask_writeNext (by exact queue)] at writers ⊢
      exact { transmits with writers := writers }
  | initiate call =>
      obtain ⟨noFlight, -, -⟩ := transmits.writers.of_due pending rfl
      refine { transmits with writers := writers, between := ?_, during := ?_ }
      · intro unbroken none
        exact absurd none (Multiset.cons_ne_zero)
      · intro unbroken flight inFlight
        obtain rfl : flight = ⟨call, 0⟩ := by
          simpa [BoostTcpSocket.runTask, noFlight] using inFlight
        have before := transmits.between unbroken noFlight
        rw [List.take_zero, List.append_nil]
        exact before
  | finish call isValid more => exact { transmits with writers := writers }

theorem Transmits.transfer {flight : Flight} {count : Nat} (unbroken : socket.Unbroken)
    (inFlight : flight ∈ socket.flights) : (socket.transfer flight count).Transmits := by
  obtain ⟨single, -, behind, queue⟩ := transmits.writers.of_flight inFlight
  have before := transmits.during unbroken flight inFlight
  have now : (socket.transfer flight count).bytes =
      socket.completedFrames ++ flight.call.frame.take (flight.transferred + count) := by
    simp only [bytes] at before
    rw [List.take_add, ← List.append_assoc, ← before]
    simp [bytes, BoostTcpSocket.transfer, Call.tagged, List.map_take, List.map_drop,
      Function.comp_def]
  refine { transmits with
    writers := transmits.writers.transfer inFlight count
    isPrefix := ?_, between := ?_, during := ?_ }
  · have allFrames : socket.accepted.flatMap Call.frame = socket.completedFrames ++
        (flight.call.frame ++ behind.flatMap Call.frame) := by
      simp [transmits.writers.order, queue, completedFrames, List.flatMap_map]
    rw [now, show (socket.transfer flight count).accepted = socket.accepted from rfl, allFrames]
    apply (List.prefix_append_right_inj _).mpr
    exact (List.take_prefix _ _).trans (List.prefix_append _ _)
  · intro unbroken none
    exact absurd none (Multiset.cons_ne_zero)
  · intro unbroken other inFlightNow
    obtain rfl : other = { flight with transferred := flight.transferred + count } := by
      simpa [BoostTcpSocket.transfer, single] using inFlightNow
    exact now

theorem Transmits.complete {flight : Flight} {isValid : Bool}
    (inFlight : flight ∈ socket.flights)
    (finished : isValid = true → flight.transferred = flight.call.frame.length) :
    (socket.complete flight isValid).Transmits := by
  obtain ⟨single, -, behind, queue⟩ := transmits.writers.of_flight inFlight
  have writers := transmits.writers.complete inFlight isValid
  rw [complete_of_cons queue] at writers ⊢
  refine { transmits with writers := writers, between := ?_, during := ?_ }
  · intro unbroken none
    have succeeded : isValid = true := unbroken (flight.call, isValid) (by simp)
    have unbrokenBefore : socket.Unbroken := fun entry member =>
      unbroken entry (List.mem_append_left _ member)
    have before := transmits.during unbrokenBefore flight inFlight
    rw [finished succeeded, List.take_length] at before
    simpa [bytes, completedFrames] using before
  · simp [single]

end Transmits

end BoostTcpSocket

end SocketSL.Network
