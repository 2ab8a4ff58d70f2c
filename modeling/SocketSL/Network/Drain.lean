import SocketSL.Network.Handlers
import Mathlib.Algebra.Ring.Nat

/-!
# The write queue empties itself

Left to itself the socket runs its tasks, asio transfers bytes and completes
writes.  Every such step uses up part of a finite amount of work, and as long
as an entry is queued or a handler is owed some step is enabled.  So whatever
order the steps come in and whichever writes fail, the queue ends up empty and
every handler has been called, as long as each handler returns.
-/

namespace SocketSL.Network

open SocketSL.Lib

/-- A step the socket makes without being asked. -/
def Action.isOwn : Action → Bool
  | .runTask _ => true
  | .transfer _ count => decide (0 < count)
  | .complete _ _ => true
  | _ => false

/-- The steps a task that is not a write still takes. -/
@[simp]
def Task.remaining : Task → Nat
  | .reject _ => 1
  | .finish _ _ _ => 1
  | _ => 0

/-- The step of the front entry that a task has behind it. -/
@[simp]
def Task.begun : Task → Nat
  | .initiate _ => 1
  | _ => 0

def remainingSteps (tasks : Multiset Task) : Nat := (tasks.map Task.remaining).sum

def begunSteps (tasks : Multiset Task) : Nat := (tasks.map Task.begun).sum

/-- The steps that the writes in flight have behind them. -/
def flownSteps (flights : Multiset Flight) : Nat :=
  (flights.map fun flight => flight.transferred + 2).sum

@[simp]
theorem remainingSteps_cons (task : Task) (tasks : Multiset Task) :
    remainingSteps (task ::ₘ tasks) = task.remaining + remainingSteps tasks := by
  rw [remainingSteps, Multiset.map_cons, Multiset.sum_cons, remainingSteps]

@[simp]
theorem begunSteps_cons (task : Task) (tasks : Multiset Task) :
    begunSteps (task ::ₘ tasks) = task.begun + begunSteps tasks := by
  rw [begunSteps, Multiset.map_cons, Multiset.sum_cons, begunSteps]

@[simp]
theorem flownSteps_zero : flownSteps 0 = 0 := rfl

@[simp]
theorem flownSteps_cons (flight : Flight) (flights : Multiset Flight) :
    flownSteps (flight ::ₘ flights) = flight.transferred + 2 + flownSteps flights := by
  rw [flownSteps, Multiset.map_cons, Multiset.sum_cons, flownSteps]

@[simp]
theorem flownSteps_singleton (flight : Flight) :
    flownSteps {flight} = flight.transferred + 2 := by
  rw [flownSteps, Multiset.map_singleton, Multiset.sum_singleton]

theorem begunSteps_le_dueWrites (tasks : Multiset Task) : begunSteps tasks ≤ dueWrites tasks := by
  induction tasks using Multiset.induction_on with
  | empty => simp [begunSteps]
  | cons task tasks inductionHypothesis =>
      rw [begunSteps_cons, dueWrites_cons]
      cases task with
      | initiate call =>
          simp only [Task.begun, Task.dueWrite, if_true]
          omega
      | _ =>
          simp only [Task.begun]
          omega

namespace BoostTcpSocket

/-- The most steps the entries in the queue and the other tasks can take. -/
def capacity (socket : BoostTcpSocket) : Nat :=
  (socket.writeQueue.map fun call => call.frame.length + 4).sum + remainingSteps socket.tasks

/-- The steps the front entry has taken. -/
def progress (socket : BoostTcpSocket) : Nat :=
  begunSteps socket.tasks + flownSteps socket.flights

/-- A bound on the steps the socket makes by itself. -/
def work (socket : BoostTcpSocket) : Nat := socket.capacity - socket.progress

/-- The writers are in order and no write has transferred more than it has. -/
structure Draining (socket : BoostTcpSocket) : Prop extends socket.Writers where
  fits : ∀ flight ∈ socket.flights, flight.transferred ≤ flight.call.frame.length

theorem Draining.initial (maxPendingWrites : Nat) :
    Draining { maxPendingWrites := maxPendingWrites } where
  toWriters := Writers.initial maxPendingWrites
  fits := by simp

section Draining

variable {socket next : BoostTcpSocket}

theorem Draining.step (draining : socket.Draining) {action : Action}
    (taken : step socket action = some next) : next.Draining := by
  refine ⟨draining.toWriters.step action taken, ?_⟩
  have fits := draining.fits
  cases step_cases taken with
  | asyncWrite head body hasHandler =>
      unfold BoostTcpSocket.asyncWrite
      dsimp only
      split <;> exact fits
  | runTask task rest pending =>
      cases task with
      | reject call => exact fits
      | writeNext =>
          obtain ⟨-, -, nonempty⟩ := draining.of_due pending rfl
          obtain ⟨front, behind, queue⟩ := List.exists_cons_of_ne_nil nonempty
          rw [runTask_writeNext (by exact queue)]
          exact fits
      | initiate call =>
          intro flight inFlight
          rcases Multiset.mem_cons.mp inFlight with rfl | earlier
          · exact Nat.zero_le _
          · exact fits flight earlier
      | finish call isValid more => exact fits
  | transfer flight count inFlight remains =>
      intro other inFlightNow
      rcases Multiset.mem_cons.mp inFlightNow with rfl | earlier
      · exact remains
      · exact fits other (Multiset.mem_of_mem_erase earlier)
  | complete flight isValid inFlight finished =>
      obtain ⟨-, -, behind, queue⟩ := draining.of_flight inFlight
      rw [complete_of_cons queue]
      intro other earlier
      exact fits other (Multiset.mem_of_mem_erase earlier)
  | writeHeader header body => exact fits
  | writeBody call due => exact fits

/-- Nothing has been begun on an empty queue, and the last two steps of the
front entry are always to come. -/
theorem Draining.progress_le (draining : socket.Draining) :
    (socket.writeQueue = [] → socket.progress = 0) ∧
      (socket.writeQueue ≠ [] → socket.progress + 2 ≤ socket.capacity) := by
  have begun := begunSteps_le_dueWrites socket.tasks
  refine ⟨?_, ?_⟩
  · intro empty
    obtain ⟨noFlight, nothingDue⟩ := draining.quiet_of_empty empty
    rw [progress, noFlight, flownSteps_zero]
    omega
  · intro nonempty
    obtain ⟨front, behind, queue⟩ := List.exists_cons_of_ne_nil nonempty
    have one := draining.one
    rw [if_neg nonempty] at one
    rw [progress, capacity, queue, List.map_cons, List.sum_cons]
    rcases Multiset.empty_or_exists_mem socket.flights with noFlight | ⟨flight, inFlight⟩
    · rw [noFlight, Multiset.card_zero] at one
      rw [noFlight, flownSteps_zero]
      omega
    · obtain ⟨single, nothingDue, behind', queue'⟩ := draining.of_flight inFlight
      have fits := draining.fits flight inFlight
      rw [queue] at queue'
      cases queue'
      rw [single, flownSteps_singleton]
      omega

/-- A task is one step less to make, or one more that the front entry has
behind it. -/
theorem Draining.runTask_work (draining : socket.Draining) {task : Task} {rest : Multiset Task}
    (pending : socket.tasks = task ::ₘ rest) :
    ({ socket with tasks := rest }.runTask task).work < socket.work := by
  obtain ⟨idle, busy⟩ := draining.progress_le
  have whole : socket.capacity = (socket.writeQueue.map fun call => call.frame.length + 4).sum +
      (task.remaining + remainingSteps rest) := by
    rw [capacity, pending, remainingSteps_cons]
  have taken : socket.progress = task.begun + begunSteps rest + flownSteps socket.flights := by
    rw [progress, pending, begunSteps_cons]
  -- a task that is not a write leaves the front entry alone, and with it the slack of two steps
  have slack : socket.progress = 0 ∨ socket.progress + 2 ≤ socket.capacity := by
    by_cases empty : socket.writeQueue = []
    · exact Or.inl (idle empty)
    · exact Or.inr (busy empty)
  rw [whole, taken] at slack
  rw [work, work, whole, taken]
  cases task with
  | reject call =>
      simp only [capacity, progress, BoostTcpSocket.runTask, Task.remaining, Task.begun] at slack ⊢
      omega
  | writeNext =>
      obtain ⟨-, -, nonempty⟩ := draining.of_due pending rfl
      have bound := busy nonempty
      rw [whole, taken] at bound
      obtain ⟨front, behind, queue⟩ := List.exists_cons_of_ne_nil nonempty
      rw [runTask_writeNext (by exact queue)]
      simp only [capacity, progress, remainingSteps_cons, begunSteps_cons, Task.remaining,
        Task.begun] at bound ⊢
      omega
  | initiate call =>
      obtain ⟨noFlight, -, nonempty⟩ := draining.of_due pending rfl
      have bound := busy nonempty
      rw [whole, taken] at bound
      simp only [capacity, progress, BoostTcpSocket.runTask, flownSteps_cons, Task.remaining,
        Task.begun] at bound ⊢
      omega
  | finish call isValid more =>
      cases more with
      | true =>
          simp only [capacity, progress, BoostTcpSocket.runTask, if_true, remainingSteps_cons,
            begunSteps_cons, Task.remaining, Task.begun] at slack ⊢
          omega
      | false =>
          simp only [capacity, progress, BoostTcpSocket.runTask, Bool.false_eq_true, if_false,
            Task.remaining, Task.begun] at slack ⊢
          omega

/-- Every step of the socket's own uses up some of the work. -/
theorem Draining.work_lt (draining : socket.Draining) {action : Action}
    (own : action.isOwn = true) (taken : Network.step socket action = some next) :
    next.work < socket.work := by
  obtain ⟨idle, busy⟩ := draining.progress_le
  cases step_cases taken with
  | asyncWrite head body hasHandler => cases own
  | runTask task rest pending => exact draining.runTask_work pending
  | transfer flight count inFlight remains =>
      obtain ⟨single, -, behind, queue⟩ := draining.of_flight inFlight
      have bound := busy (by simp [queue])
      have positive : 0 < count := by simpa [Action.isOwn] using own
      have further : (socket.transfer flight count).progress = socket.progress + count := by
        simp only [progress, BoostTcpSocket.transfer, single, Multiset.erase_singleton,
          flownSteps_cons, flownSteps_zero, flownSteps_singleton]
        omega
      have same : (socket.transfer flight count).capacity = socket.capacity := rfl
      rw [work, work, further, same]
      omega
  | complete flight isValid inFlight finished =>
      obtain ⟨single, -, behind, queue⟩ := draining.of_flight inFlight
      have bound := busy (by simp [queue])
      have fits := draining.fits flight inFlight
      have smaller : (socket.complete flight isValid).capacity +
          (flight.call.frame.length + 3) = socket.capacity := by
        rw [complete_of_cons queue]
        simp only [capacity, queue, List.map_cons, List.sum_cons, remainingSteps_cons,
          Task.remaining]
        omega
      have finished : (socket.complete flight isValid).progress +
          (flight.transferred + 2) = socket.progress := by
        rw [complete_of_cons queue]
        simp only [progress, single, Multiset.erase_singleton, flownSteps_zero,
          flownSteps_singleton, begunSteps_cons, Task.begun]
        omega
      rw [work, work]
      omega
  | writeHeader header body => cases own
  | writeBody call due => cases own

theorem own_accepted {action : Action} (own : action.isOwn = true)
    (taken : Network.step socket action = some next) :
    next.accepted = socket.accepted ∧ next.rejected = socket.rejected := by
  cases step_cases taken with
  | asyncWrite head body hasHandler => cases own
  | runTask task rest pending =>
      cases task with
      | writeNext => cases queue : socket.writeQueue <;> simp [BoostTcpSocket.runTask]
      | _ => exact ⟨rfl, rfl⟩
  | transfer flight count inFlight remains => exact ⟨rfl, rfl⟩
  | complete flight isValid inFlight finished =>
      cases queue : socket.writeQueue <;> simp [BoostTcpSocket.complete, queue]
  | writeHeader header body => cases own
  | writeBody call due => cases own

theorem Draining.resting (draining : socket.Draining)
    (rest : ∀ action : Action, action.isOwn = true → Network.step socket action = none) :
    socket.tasks = 0 ∧ socket.flights = 0 ∧ socket.writeQueue = [] := by
  have tasks : socket.tasks = 0 := by
    refine Multiset.eq_zero_of_forall_notMem ?_
    intro task pending
    have stuck := rest (.runTask task) rfl
    simp [Network.step, pending] at stuck
  have flights : socket.flights = 0 := by
    refine Multiset.eq_zero_of_forall_notMem ?_
    intro flight inFlight
    have stuck := rest (.complete flight false) rfl
    simp [Network.step, inFlight] at stuck
  refine ⟨tasks, flights, ?_⟩
  by_contra nonempty
  have one := draining.one
  rw [if_neg nonempty, tasks, flights] at one
  simp at one

end Draining

/-- What a socket owes when it comes to rest: nothing.  The handlers called are
those of the calls it was given, once each. -/
theorem Accounts.handlers_of_resting {socket : BoostTcpSocket} (accounts : socket.Accounts)
    (writers : socket.Writers) (noTask : socket.tasks = 0) (empty : socket.writeQueue = []) :
    (socket.invoked.map Prod.fst).Perm
      ((socket.accepted ++ socket.rejected).filter Call.hasHandler) := by
  have order := writers.order
  rw [empty, List.append_nil] at order
  have handlers := accounts.handlers
  rw [invocations, noTask, owedHandlers, Multiset.zero_bind, Multiset.add_zero, outcomes,
    Multiset.filter_coe, Multiset.coe_eq_coe] at handlers
  have calls : (socket.completed ++ socket.rejected.map fun call => (call, false)).map Prod.fst =
      socket.accepted ++ socket.rejected := by
    rw [List.map_append, order, List.map_map]
    simp [Function.comp_def]
  have kept : (fun entry : Call × Bool => decide (entry.1.hasHandler = true)) =
      Call.hasHandler ∘ Prod.fst := by
    funext entry
    simp
  rw [kept] at handlers
  rw [← calls, List.filter_map]
  exact handlers.map Prod.fst

/-- From every reachable state, whatever the order in which threads and asio
proceed and whichever writes fail, the socket comes to rest after a bounded
number of steps, if nobody calls `async_write` in the meantime.  At rest the
queue is empty, every accepted call has completed in order and every handler
has been called exactly once. -/
theorem writeQueue_drains {maxPendingWrites : Nat} {actions : List Action}
    {socket : BoostTcpSocket}
    (executed : run Network.step { maxPendingWrites := maxPendingWrites } actions = some socket) :
    (∀ own final, (∀ action ∈ own, action.isOwn = true) →
      run Network.step socket own = some final → own.length ≤ socket.work) ∧
    (∀ own final, (∀ action ∈ own, action.isOwn = true) →
      run Network.step socket own = some final →
      (∀ action, action.isOwn = true → Network.step final action = none) →
        final.writeQueue = [] ∧ final.completed.map Prod.fst = socket.accepted ∧
          (final.invoked.map Prod.fst).Perm
            ((socket.accepted ++ socket.rejected).filter Call.hasHandler)) ∧
    ∃ own final, (∀ action ∈ own, action.isOwn = true) ∧
      run Network.step socket own = some final ∧
      ∀ action, action.isOwn = true → Network.step final action = none := by
  have draining : socket.Draining := run_invariant_of_step Draining
    (fun _ _ _ draining taken => draining.step taken) (Draining.initial maxPendingWrites) executed
  have lowers : ∀ (state : BoostTcpSocket) (action : Action) (next : BoostTcpSocket),
      state.Draining → action.isOwn = true → Network.step state action = some next →
        next.work < state.work :=
    fun _ _ _ draining own taken => draining.work_lt own taken
  have preserved : ∀ (state : BoostTcpSocket) (action : Action) (next : BoostTcpSocket),
      state.Draining → action.isOwn = true → Network.step state action = some next →
        next.Draining :=
    fun _ _ _ draining _ taken => draining.step taken
  refine ⟨?_, ?_, exists_run_to_rest preserved lowers draining⟩
  · intro own final all continued
    have bound := run_length_le preserved lowers draining all continued
    omega
  · intro own final all continued rest
    have reached : run Network.step { maxPendingWrites := maxPendingWrites } (actions ++ own) =
        some final := by
      rw [run_append, executed]
      exact continued
    obtain ⟨writers, accounts⟩ := writers_and_accounts reached
    have finalDraining : final.Draining :=
      run_invariant_of_step Draining (fun _ _ _ draining taken => draining.step taken) draining
        continued
    obtain ⟨noTask, -, empty⟩ := finalDraining.resting rest
    obtain ⟨accepted, rejected⟩ := run_invariant
      (fun state => state.accepted = socket.accepted ∧ state.rejected = socket.rejected)
      (fun state action next same (own : action.isOwn = true) taken =>
        ⟨(own_accepted own taken).1.trans same.1, (own_accepted own taken).2.trans same.2⟩)
      ⟨rfl, rfl⟩ (throughout_of_forall all) continued
    have order := writers.order
    rw [empty, List.append_nil] at order
    have called := accounts.handlers_of_resting writers noTask empty
    rw [accepted, rejected] at called
    exact ⟨empty, order.symm.trans accepted, called⟩

/-- Two calls with handlers are accepted and one of them is about to be
written: from there the queue empties. -/
theorem writeQueue_drains_two_calls :
    let actions : List Action := [.asyncWrite [1] [2] true, .asyncWrite [3] [] true,
      .runTask .writeNext]
    ∃ socket, run Network.step { maxPendingWrites := 0 } actions = some socket ∧
      ∃ own final, run Network.step socket own = some final ∧ final.writeQueue = [] ∧
        (final.invoked.map Prod.fst).Perm [⟨0, [1], [2], true⟩, ⟨1, [3], [], true⟩] := by
  intro actions
  obtain ⟨-, atRest, own, final, all, continued, rest⟩ := @writeQueue_drains 0 actions _ rfl
  obtain ⟨empty, -, called⟩ := atRest own final all continued rest
  exact ⟨_, rfl, own, final, continued, empty, called⟩

end BoostTcpSocket

end SocketSL.Network
