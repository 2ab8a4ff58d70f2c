import SocketSL.Network.WriteQueue

/-!
# The discipline of the write queue

Counting a write that is only intended, because its thread has left the lock
and not yet reached asio, together with the writes asio is working on, there is
exactly one writer while the queue holds an entry and none while it is empty.
Everything else about the queue follows from that count.  Handlers return: after
one that throws `write_next` would not be called.
-/

namespace SocketSL.Network

open SocketSL.Lib

/-- Calls of `write_next` that are due and writes it has not handed to asio. -/
def dueWrites (tasks : Multiset Task) : Nat :=
  tasks.countP fun task => task.dueWrite = true

@[simp]
theorem dueWrites_zero : dueWrites 0 = 0 := Multiset.countP_zero _

@[simp]
theorem dueWrites_cons (task : Task) (tasks : Multiset Task) :
    dueWrites (task ::ₘ tasks) = dueWrites tasks + if task.dueWrite then 1 else 0 :=
  Multiset.countP_cons _ _ _

theorem dueWrites_pos {tasks : Multiset Task} {task : Task} (pending : task ∈ tasks)
    (due : task.dueWrite = true) : 0 < dueWrites tasks :=
  Multiset.countP_pos.mpr ⟨task, pending, due⟩

namespace BoostTcpSocket

/-- One writer for a non-empty queue, and what the writer is working on. -/
structure Writers (socket : BoostTcpSocket) : Prop where
  one : socket.flights.card + dueWrites socket.tasks = if socket.writeQueue = [] then 0 else 1
  sound : socket.fault = false
  loaded : ∀ call, .initiate call ∈ socket.tasks → socket.writeQueue.head? = some call
  front : ∀ flight ∈ socket.flights, socket.writeQueue.head? = some flight.call
  order : socket.accepted = socket.completed.map Prod.fst ++ socket.writeQueue
  starts : socket.started <+: socket.accepted
  startCount : socket.started.length = socket.completed.length + socket.flights.card

theorem Writers.initial (maxPendingWrites : Nat) :
    Writers { maxPendingWrites := maxPendingWrites } := by
  constructor <;> simp

section Writers

variable {socket : BoostTcpSocket} (writers : socket.Writers)
include writers

theorem Writers.quiet_of_empty (empty : socket.writeQueue = []) :
    socket.flights = 0 ∧ dueWrites socket.tasks = 0 := by
  have one := writers.one
  rw [if_pos empty] at one
  exact ⟨Multiset.card_eq_zero.mp (by omega), by omega⟩

theorem Writers.of_due {task : Task} {rest : Multiset Task}
    (pending : socket.tasks = task ::ₘ rest) (due : task.dueWrite = true) :
    socket.flights = 0 ∧ dueWrites rest = 0 ∧ socket.writeQueue ≠ [] := by
  have one := writers.one
  rw [pending, dueWrites_cons, if_pos due] at one
  split at one
  next => omega
  next nonempty => exact ⟨Multiset.card_eq_zero.mp (by omega), by omega, nonempty⟩

theorem Writers.of_flight {flight : Flight} (inFlight : flight ∈ socket.flights) :
    socket.flights = {flight} ∧ dueWrites socket.tasks = 0 ∧
      ∃ rest, socket.writeQueue = flight.call :: rest := by
  have one := writers.one
  have positive := Multiset.card_pos_iff_exists_mem.mpr ⟨flight, inFlight⟩
  have front := writers.front flight inFlight
  obtain ⟨rest, queue⟩ := List.head?_eq_some_iff.mp front
  rw [queue, if_neg (by simp)] at one
  obtain ⟨only, single⟩ := Multiset.card_eq_one.mp (show socket.flights.card = 1 by omega)
  rw [single, Multiset.mem_singleton] at inFlight
  exact ⟨by rw [single, inFlight], by omega, rest, queue⟩

theorem Writers.asyncWrite (head body : List UInt8) (hasHandler : Bool) :
    (socket.asyncWrite head body hasHandler).Writers := by
  have one := writers.one
  unfold BoostTcpSocket.asyncWrite
  dsimp only
  split
  next full =>
    refine { writers with one := ?_, loaded := ?_ }
    · simpa using one
    · intro call pending
      exact writers.loaded call (by simpa using pending)
  next room =>
    have starts := writers.starts.trans
      (List.prefix_append _ [(⟨socket.calls, head, body, hasHandler⟩ : Call)])
    by_cases idle : socket.writeQueue = []
    · obtain ⟨noFlight, nothingDue⟩ := writers.quiet_of_empty idle
      refine { writers with one := ?_, loaded := ?_, front := ?_, order := ?_, starts := starts }
      · simp [idle, noFlight, nothingDue]
      · intro call pending
        have pending : .initiate call ∈ socket.tasks := by simpa [idle] using pending
        exact absurd (dueWrites_pos pending rfl) (by omega)
      · simp [noFlight]
      · simp [writers.order]
    · have headEq : ∀ later : List Call,
          (socket.writeQueue ++ later).head? = socket.writeQueue.head? :=
        fun later => List.head?_append_of_ne_nil _ idle
      refine { writers with one := ?_, loaded := ?_, front := ?_, order := ?_, starts := starts }
      · simpa [idle] using one
      · intro call pending
        exact (headEq _).trans (writers.loaded call (by simpa [idle] using pending))
      · intro flight inFlight
        exact (headEq _).trans (writers.front flight inFlight)
      · simp [writers.order]

theorem Writers.runTask {task : Task} {rest : Multiset Task}
    (pending : socket.tasks = task ::ₘ rest) :
    ({ socket with tasks := rest }.runTask task).Writers := by
  have one := writers.one
  have loaded : ∀ call, .initiate call ∈ rest → socket.writeQueue.head? = some call :=
    fun call later => writers.loaded call (by simp [pending, later])
  rw [pending, dueWrites_cons] at one
  cases task with
  | reject call => exact { writers with one := one, loaded := loaded }
  | writeNext =>
      obtain ⟨noFlight, nothingDue, nonempty⟩ := writers.of_due pending rfl
      obtain ⟨front, behind, queue⟩ := List.exists_cons_of_ne_nil nonempty
      rw [runTask_writeNext (by exact queue)]
      refine { writers with one := ?_, loaded := ?_ }
      · simpa using one
      · intro call later
        rcases Multiset.mem_cons.mp later with same | earlier
        · cases same
          exact List.head?_eq_some_iff.mpr ⟨behind, queue⟩
        · exact loaded call earlier
  | initiate call =>
      obtain ⟨noFlight, nothingDue, nonempty⟩ := writers.of_due pending rfl
      have front := writers.loaded call (by simp [pending])
      obtain ⟨behind, queue⟩ := List.head?_eq_some_iff.mp front
      have startedEq : socket.started = socket.completed.map Prod.fst := by
        have shorter := writers.starts
        rw [writers.order] at shorter
        apply (List.prefix_of_prefix_length_le shorter (List.prefix_append _ _) ?_).eq_of_length
        · simp [writers.startCount, noFlight]
        · simp [writers.startCount, noFlight]
      refine { writers with
        one := ?_, loaded := loaded, front := ?_, starts := ?_, startCount := ?_ }
      · simpa [BoostTcpSocket.runTask, noFlight, nothingDue] using nonempty
      · intro flight inFlight
        obtain rfl : flight = ⟨call, 0⟩ := by
          simpa [BoostTcpSocket.runTask, noFlight] using inFlight
        exact front
      · refine ⟨behind, ?_⟩
        simp [BoostTcpSocket.runTask, startedEq, writers.order, queue]
      · simp [BoostTcpSocket.runTask, noFlight, startedEq]
  | finish call isValid more =>
      cases more with
      | true =>
          refine { writers with one := ?_, loaded := ?_ }
          · simpa [BoostTcpSocket.runTask] using one
          · intro other later
            exact loaded other (by simpa [BoostTcpSocket.runTask] using later)
      | false => exact { writers with one := one, loaded := loaded }

theorem Writers.transfer {flight : Flight} (inFlight : flight ∈ socket.flights) (count : Nat) :
    (socket.transfer flight count).Writers := by
  obtain ⟨single, nothingDue, behind, queue⟩ := writers.of_flight inFlight
  have one := writers.one
  refine { writers with one := ?_, front := ?_, startCount := ?_ }
  · simpa [BoostTcpSocket.transfer, single] using one
  · intro other inFlightNow
    obtain rfl : other = { flight with transferred := flight.transferred + count } := by
      simpa [BoostTcpSocket.transfer, single] using inFlightNow
    exact writers.front flight inFlight
  · simpa [BoostTcpSocket.transfer, single] using writers.startCount

theorem Writers.complete {flight : Flight} (inFlight : flight ∈ socket.flights)
    (isValid : Bool) : (socket.complete flight isValid).Writers := by
  obtain ⟨single, nothingDue, behind, queue⟩ := writers.of_flight inFlight
  have order := writers.order
  have startCount := writers.startCount
  rw [complete_of_cons queue]
  refine { writers with
    one := ?_, loaded := ?_, front := ?_, order := ?_, startCount := ?_ }
  · cases behind <;> simp [single, nothingDue]
  · intro call pending
    have pending : .initiate call ∈ socket.tasks := by simpa using pending
    exact absurd (dueWrites_pos pending rfl) (by omega)
  · simp [single]
  · simpa [queue] using order
  · simpa [single] using startCount

end Writers

/-- Every action keeps the writers in order; synchronous sends do not touch
the queue. -/
theorem Writers.step {socket next : BoostTcpSocket} (writers : socket.Writers)
    (action : Action) (taken : step socket action = some next) : next.Writers := by
  cases step_cases taken with
  | asyncWrite head body hasHandler => exact writers.asyncWrite head body hasHandler
  | runTask task rest pending => exact writers.runTask pending
  | transfer flight count inFlight remains => exact writers.transfer inFlight count
  | complete flight isValid inFlight finished => exact writers.complete inFlight isValid
  | writeHeader header body => exact { writers with }
  | writeBody call due => exact { writers with }

end BoostTcpSocket

end SocketSL.Network
