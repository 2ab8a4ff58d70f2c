import SocketSL.Network.Discipline
import Mathlib.Data.Multiset.Bind

/-!
# Calls and their handlers

Every call of `async_write` has a number of its own and is recorded once, as
accepted or as rejected.  Once its result is decided the handler has been
invoked with it or some thread is about to; the two together make up exactly
the decided results.
-/

namespace SocketSL.Network

open SocketSL.Lib

/-- Handler invocations that some thread still has to make. -/
def owedHandlers (tasks : Multiset Task) : Multiset (Call × Bool) :=
  tasks.bind fun task => (task.owedHandler : Multiset (Call × Bool))

@[simp]
theorem owedHandlers_cons (task : Task) (tasks : Multiset Task) :
    owedHandlers (task ::ₘ tasks) = ↑task.owedHandler + owedHandlers tasks :=
  Multiset.cons_bind _ _ _

namespace BoostTcpSocket

/-- Every call the socket has numbered. -/
def issued (socket : BoostTcpSocket) : List Call :=
  socket.accepted ++ (socket.rejected ++ socket.synchronous)

/-- Every call of `async_write` whose result is decided, with that result. -/
def outcomes (socket : BoostTcpSocket) : Multiset (Call × Bool) :=
  ↑(socket.completed ++ socket.rejected.map fun call => (call, false))

/-- Handler invocations that were made or are still owed. -/
def invocations (socket : BoostTcpSocket) : Multiset (Call × Bool) :=
  ↑socket.invoked + owedHandlers socket.tasks

/-- What the calls and their handlers add up to. -/
structure Accounts (socket : BoostTcpSocket) : Prop where
  numbered : (socket.issued.map Call.id).Perm (List.range socket.calls)
  handlers : socket.invocations = socket.outcomes.filter fun entry => entry.1.hasHandler
  bounded : socket.maxPendingWrites ≠ 0 → socket.writeQueue.length ≤ socket.maxPendingWrites
  bodies : ∀ call ∈ socket.bodiesDue, call ∈ socket.synchronous
  origin : ∀ byte ∈ socket.wire, ∃ call ∈ socket.accepted ++ socket.synchronous,
    byte ∈ call.tagged

theorem Accounts.initial (maxPendingWrites : Nat) :
    Accounts { maxPendingWrites := maxPendingWrites } := by
  constructor <;> simp [issued, invocations, owedHandlers, outcomes]

section Accounts

variable {socket : BoostTcpSocket} (accounts : socket.Accounts)
include accounts

theorem Accounts.nodup : (socket.issued.map Call.id).Nodup :=
  accounts.numbered.nodup_iff.mpr List.nodup_range

theorem Accounts.numbered_of_perm {call : Call} {calls : List Call}
    (number : call.id = socket.calls) (recorded : calls.Perm (call :: socket.issued)) :
    (calls.map Call.id).Perm (List.range (socket.calls + 1)) := by
  refine (recorded.map Call.id).trans ?_
  rw [List.map_cons, number, List.range_succ]
  exact (accounts.numbered.cons _).trans (List.perm_append_singleton _ _).symm

theorem Accounts.handlers_of_decided {next : BoostTcpSocket} {call : Call} {isValid : Bool}
    (invocations : next.invocations = ↑(call.invocation isValid) + socket.invocations)
    (outcomes : next.outcomes = (call, isValid) ::ₘ socket.outcomes) :
    next.invocations = next.outcomes.filter fun entry => entry.1.hasHandler := by
  rw [invocations, outcomes, accounts.handlers]
  cases callable : call.hasHandler with
  | true => simp [Call.invocation, callable]
  | false => simp [Call.invocation, callable]

theorem Accounts.asyncWrite (head body : List UInt8) (hasHandler : Bool) :
    (socket.asyncWrite head body hasHandler).Accounts := by
  have numbered := @Accounts.numbered_of_perm socket accounts
    ⟨socket.calls, head, body, hasHandler⟩
  unfold BoostTcpSocket.asyncWrite
  dsimp only
  split
  next full =>
    refine { accounts with numbered := ?_, handlers := ?_ }
    · apply numbered rfl
      apply List.perm_iff_count.mpr
      intro other
      simp only [issued, List.count_append, List.count_cons, List.count_nil]
      omega
    · apply accounts.handlers_of_decided
      · simp only [invocations, owedHandlers_cons, Task.owedHandler]
        exact add_left_comm _ _ _
      · simp only [outcomes, List.map_append, List.map_cons, List.map_nil, ← List.append_assoc]
        exact Multiset.coe_eq_coe.mpr (List.perm_append_singleton _ _)
  next room =>
    refine { accounts with numbered := ?_, handlers := ?_, bounded := ?_, origin := ?_ }
    · apply numbered rfl
      apply List.perm_iff_count.mpr
      intro other
      simp only [issued, List.count_append, List.count_cons, List.count_nil]
      omega
    · refine Eq.trans ?_ accounts.handlers
      unfold invocations
      split
      next idle => simp
      next busy => rfl
    · intro limited
      have shorter : socket.writeQueue.length < socket.maxPendingWrites :=
        Nat.not_le.mp fun full => room ⟨limited, full⟩
      simpa using Nat.succ_le_of_lt shorter
    · intro byte onWire
      obtain ⟨call, member, tagged⟩ := accounts.origin byte onWire
      refine ⟨call, ?_, tagged⟩
      rcases List.mem_append.mp member with accepted | synchronous
      · simp [accepted]
      · simp [synchronous]

theorem Accounts.runTask (writers : socket.Writers) {task : Task} {rest : Multiset Task}
    (pending : socket.tasks = task ::ₘ rest) :
    ({ socket with tasks := rest }.runTask task).Accounts := by
  have handlers := accounts.handlers
  simp only [invocations, pending, owedHandlers_cons, Task.owedHandler] at handlers
  cases task with
  | reject call =>
      refine { accounts with handlers := ?_ }
      rw [← add_assoc] at handlers
      exact handlers
  | writeNext =>
      obtain ⟨-, -, nonempty⟩ := writers.of_due pending rfl
      obtain ⟨front, behind, queue⟩ := List.exists_cons_of_ne_nil nonempty
      rw [runTask_writeNext (by exact queue)]
      refine { accounts with handlers := ?_ }
      refine Eq.trans ?_ handlers
      simp [invocations]
  | initiate call =>
      refine { accounts with handlers := ?_ }
      refine Eq.trans ?_ handlers
      simp [invocations, BoostTcpSocket.runTask]
  | finish call isValid more =>
      refine { accounts with handlers := ?_ }
      refine Eq.trans ?_ handlers
      rw [← add_assoc]
      cases more with
      | true => simp [invocations, BoostTcpSocket.runTask]
      | false => rfl

theorem Accounts.transfer (writers : socket.Writers) {flight : Flight}
    (inFlight : flight ∈ socket.flights) (count : Nat) :
    (socket.transfer flight count).Accounts := by
  obtain ⟨-, -, behind, queue⟩ := writers.of_flight inFlight
  refine { accounts with origin := ?_ }
  intro byte onWire
  rcases List.mem_append.mp onWire with earlier | now
  · exact accounts.origin byte earlier
  · refine ⟨flight.call, ?_, List.mem_of_mem_drop (List.mem_of_mem_take now)⟩
    simp [BoostTcpSocket.transfer, writers.order, queue]

theorem Accounts.complete (writers : socket.Writers) {flight : Flight}
    (inFlight : flight ∈ socket.flights) (isValid : Bool) :
    (socket.complete flight isValid).Accounts := by
  obtain ⟨-, -, behind, queue⟩ := writers.of_flight inFlight
  rw [complete_of_cons queue]
  refine { accounts with handlers := ?_, bounded := ?_ }
  · apply accounts.handlers_of_decided
    · simp only [invocations, owedHandlers_cons, Task.owedHandler]
      exact add_left_comm _ _ _
    · simp only [outcomes, List.append_assoc]
      exact Multiset.coe_eq_coe.mpr List.perm_middle
  · intro limited
    have bounded := accounts.bounded limited
    rw [queue, List.length_cons] at bounded
    exact Nat.le_of_succ_le bounded

theorem Accounts.writeHeader (header body : List UInt8) :
    (socket.writeHeader header body).Accounts := by
  have numbered := @Accounts.numbered_of_perm socket accounts ⟨socket.calls, header, body, false⟩
  refine { accounts with numbered := ?_, bodies := ?_, origin := ?_ }
  · apply numbered rfl
    apply List.perm_iff_count.mpr
    intro other
    simp only [issued, BoostTcpSocket.writeHeader, List.count_append, List.count_cons,
      List.count_nil]
    omega
  · intro call due
    simp only [BoostTcpSocket.writeHeader] at due ⊢
    split at due
    next => exact List.mem_append_left _ (accounts.bodies call due)
    next =>
      rcases Multiset.mem_cons.mp due with rfl | earlier
      · exact List.mem_append_right _ (List.mem_singleton_self _)
      · exact List.mem_append_left _ (accounts.bodies call earlier)
  · intro byte onWire
    rcases List.mem_append.mp onWire with earlier | now
    · obtain ⟨call, member, tagged⟩ := accounts.origin byte earlier
      refine ⟨call, ?_, tagged⟩
      simp only [BoostTcpSocket.writeHeader, ← List.append_assoc]
      exact List.mem_append_left _ member
    · refine ⟨⟨socket.calls, header, body, false⟩, by simp [BoostTcpSocket.writeHeader], ?_⟩
      simp only [Call.tagged, Call.frame, List.map_append]
      exact List.mem_append_left _ now

theorem Accounts.writeBody {call : Call} (due : call ∈ socket.bodiesDue) :
    (socket.writeBody call).Accounts := by
  refine { accounts with bodies := ?_, origin := ?_ }
  · intro other dueStill
    exact accounts.bodies other (Multiset.mem_of_mem_erase dueStill)
  · intro byte onWire
    rcases List.mem_append.mp onWire with earlier | now
    · exact accounts.origin byte earlier
    · refine ⟨call, List.mem_append_right _ (accounts.bodies call due), ?_⟩
      simp only [Call.tagged, Call.frame, List.map_append]
      exact List.mem_append_right _ now

end Accounts

theorem Accounts.step {socket next : BoostTcpSocket} (accounts : socket.Accounts)
    (writers : socket.Writers) (action : Action) (taken : step socket action = some next) :
    next.Accounts := by
  cases step_cases taken with
  | asyncWrite head body hasHandler => exact accounts.asyncWrite head body hasHandler
  | runTask task rest pending => exact accounts.runTask writers pending
  | transfer flight count inFlight remains => exact accounts.transfer writers inFlight count
  | complete flight isValid inFlight finished => exact accounts.complete writers inFlight isValid
  | writeHeader header body => exact accounts.writeHeader header body
  | writeBody call due => exact accounts.writeBody due

/-- Both invariants hold of every state a fresh socket can reach. -/
theorem writers_and_accounts {maxPendingWrites : Nat} {actions : List Action}
    {socket : BoostTcpSocket}
    (executed : run Network.step { maxPendingWrites := maxPendingWrites } actions = some socket) :
    socket.Writers ∧ socket.Accounts := by
  refine run_invariant_of_step (fun socket => socket.Writers ∧ socket.Accounts) ?_
    ⟨Writers.initial maxPendingWrites, Accounts.initial maxPendingWrites⟩ executed
  intro state action next holds taken
  exact ⟨holds.1.step action taken, holds.2.step holds.1 action taken⟩

/-- The arguments a call's handler has been or will be invoked with. -/
def handlerCalls (socket : BoostTcpSocket) (call : Call) : Multiset Bool :=
  (socket.invocations.filter fun entry => entry.1 = call).map Prod.snd

section HandlerCalls

variable {socket : BoostTcpSocket} (writers : socket.Writers) (accounts : socket.Accounts)
include writers accounts

theorem Accounts.issued_nodup :
    (socket.completed.map Prod.fst ++ (socket.writeQueue ++ socket.rejected)).Nodup := by
  have nodup := accounts.nodup.of_map
  rw [issued, writers.order, List.append_assoc, ← List.append_assoc socket.writeQueue,
    ← List.append_assoc] at nodup
  exact nodup.of_append_left

theorem Accounts.handlerCalls_of_queued {call : Call} (queued : call ∈ socket.writeQueue) :
    socket.handlerCalls call = 0 := by
  have nodup := accounts.issued_nodup writers
  have undecided : ∀ entry ∈ socket.outcomes, entry.1 ≠ call := by
    rintro ⟨other, isValid⟩ decided rfl
    rcases List.mem_append.mp (Multiset.mem_coe.mp decided) with completed | rejected
    · exact (List.disjoint_of_nodup_append nodup) (List.mem_map_of_mem completed)
        (List.mem_append_left _ queued)
    · obtain ⟨same, member, equal⟩ := List.mem_map.mp rejected
      cases equal
      exact (List.disjoint_of_nodup_append nodup.of_append_right) queued member
  rw [handlerCalls, accounts.handlers, Multiset.map_eq_zero, Multiset.filter_eq_nil]
  intro entry kept
  exact undecided entry (Multiset.mem_of_mem_filter kept)

theorem Accounts.handlerCalls_of_decided {call : Call} {isValid : Bool}
    (decided : (call, isValid) ∈ socket.outcomes) :
    socket.handlerCalls call = if call.hasHandler then {isValid} else 0 := by
  have nodup : (socket.outcomes.map Prod.fst).Nodup := by
    have nodup := accounts.issued_nodup writers
    have fewer : (socket.completed.map Prod.fst ++ socket.rejected).Nodup :=
      nodup.sublist ((List.sublist_append_right _ _).append_left _)
    simpa [outcomes, Function.comp_def] using fewer
  have own : ∀ entry ∈ socket.outcomes,
      (entry.1 = call ∧ entry.1.hasHandler = true ↔
        entry = (call, isValid) ∧ call.hasHandler = true) := by
    intro entry member
    constructor
    · rintro ⟨rfl, callable⟩
      exact ⟨Multiset.inj_on_of_nodup_map nodup entry member _ decided rfl, callable⟩
    · rintro ⟨rfl, callable⟩
      exact ⟨rfl, callable⟩
  rw [handlerCalls, accounts.handlers, Multiset.filter_filter, Multiset.filter_congr own]
  cases callable : call.hasHandler with
  | true =>
      simp only [and_true, Multiset.filter_eq', if_true]
      rw [Multiset.count_eq_one_of_mem nodup.of_map decided]
      rfl
  | false => simp

end HandlerCalls

/-- What the write queue promises.  A handler invocation that is due is one
that a thread can make next. -/
structure Disciplined (socket : BoostTcpSocket) : Prop where
  oneWriter : socket.flights.card + dueWrites socket.tasks =
    if socket.writeQueue = [] then 0 else 1
  frontExists : socket.fault = false
  frontInFlight : ∀ flight ∈ socket.flights, socket.writeQueue.head? = some flight.call
  startOrder : socket.started <+: socket.accepted
  completionOrder : socket.accepted = socket.completed.map Prod.fst ++ socket.writeQueue
  distinct : (socket.issued.map Call.id).Nodup
  queuedHandler : ∀ call ∈ socket.writeQueue, socket.handlerCalls call = 0
  completedHandler : ∀ call isValid, (call, isValid) ∈ socket.completed →
    socket.handlerCalls call = if call.hasHandler then {isValid} else 0
  rejectedHandler : ∀ call ∈ socket.rejected,
    socket.handlerCalls call = if call.hasHandler then {false} else 0
  dueHandler : ∀ task ∈ socket.tasks, ∃ next, step socket (.runTask task) = some next ∧
    next.invoked = socket.invoked ++ task.owedHandler
  rejectedAbsent : ∀ call ∈ socket.rejected,
    call ∉ socket.writeQueue ∧ ∀ byte ∈ socket.wire, byte.1 ≠ call.id
  rejectedUnchanged : ∀ head body hasHandler next,
    step socket (.asyncWrite head body hasHandler) = some next →
      next.accepted = socket.accepted →
        next.writeQueue = socket.writeQueue ∧ next.wire = socket.wire ∧
          next.rejected = socket.rejected ++ [⟨socket.calls, head, body, hasHandler⟩]
  bounded : socket.maxPendingWrites ≠ 0 → socket.writeQueue.length ≤ socket.maxPendingWrites

theorem runTask_invoked (socket : BoostTcpSocket) (task : Task) :
    (socket.runTask task).invoked = socket.invoked ++ task.owedHandler := by
  cases task with
  | writeNext => cases queue : socket.writeQueue <;> simp [runTask, queue]
  | _ => simp [runTask]

/-- The bytes of a rejected call never reach the wire. -/
theorem Accounts.rejected_absent {socket : BoostTcpSocket} (accounts : socket.Accounts)
    (writers : socket.Writers) {call : Call} (rejected : call ∈ socket.rejected) :
    call ∉ socket.writeQueue ∧ ∀ byte ∈ socket.wire, byte.1 ≠ call.id := by
  constructor
  · intro queued
    have nodup := (accounts.issued_nodup writers).of_append_right
    exact List.disjoint_of_nodup_append nodup queued rejected
  · intro byte onWire same
    obtain ⟨sender, sent, tagged⟩ := accounts.origin byte onWire
    obtain ⟨value, -, rfl⟩ := List.mem_map.mp tagged
    have nodup := accounts.nodup.of_map
    have member : call ∈ socket.issued := by simp [issued, rejected]
    rcases List.mem_append.mp sent with accepted | synchronous
    · obtain rfl := List.inj_on_of_nodup_map accounts.nodup
        (List.mem_append_left _ accepted) member same
      exact List.disjoint_of_nodup_append nodup accepted (List.mem_append_left _ rejected)
    · obtain rfl := List.inj_on_of_nodup_map accounts.nodup
        (List.mem_append_right _ (List.mem_append_right _ synchronous)) member same
      exact List.disjoint_of_nodup_append nodup.of_append_right rejected synchronous

theorem step_maxPendingWrites {socket next : BoostTcpSocket} {action : Action}
    (taken : Network.step socket action = some next) :
    next.maxPendingWrites = socket.maxPendingWrites := by
  cases step_cases taken with
  | asyncWrite head body hasHandler =>
      unfold BoostTcpSocket.asyncWrite
      dsimp only
      split <;> rfl
  | runTask task rest pending =>
      cases task with
      | writeNext => cases queue : socket.writeQueue <;> simp [runTask]
      | _ => rfl
  | transfer flight count inFlight remains => rfl
  | complete flight isValid inFlight finished =>
      cases queue : socket.writeQueue <;> simp [complete, queue]
  | writeHeader header body => rfl
  | writeBody call due => rfl

/-- In every reachable state the write queue is disciplined. -/
theorem writeQueue_disciplined {maxPendingWrites : Nat} {actions : List Action}
    {socket : BoostTcpSocket}
    (executed : run Network.step { maxPendingWrites := maxPendingWrites } actions = some socket) :
    socket.Disciplined ∧ socket.maxPendingWrites = maxPendingWrites := by
  obtain ⟨writers, accounts⟩ := writers_and_accounts executed
  refine ⟨{
    oneWriter := writers.one
    frontExists := writers.sound
    frontInFlight := writers.front
    startOrder := writers.starts
    completionOrder := writers.order
    distinct := accounts.nodup
    queuedHandler := fun call => accounts.handlerCalls_of_queued writers
    completedHandler := ?_
    rejectedHandler := ?_
    dueHandler := ?_
    rejectedAbsent := fun call => accounts.rejected_absent writers
    rejectedUnchanged := ?_
    bounded := accounts.bounded }, ?_⟩
  · intro call isValid completed
    exact accounts.handlerCalls_of_decided writers (List.mem_append_left _ completed)
  · intro call rejected
    apply accounts.handlerCalls_of_decided writers
    exact List.mem_append_right _ (List.mem_map_of_mem rejected)
  · intro task pending
    exact ⟨_, if_pos pending, runTask_invoked _ task⟩
  · intro head body hasHandler next taken unchanged
    cases taken
    unfold BoostTcpSocket.asyncWrite at unchanged ⊢
    dsimp only at unchanged ⊢
    split at unchanged
    next full => simp [full]
    next room => simp at unchanged
  · exact run_invariant_of_step (fun state => state.maxPendingWrites = maxPendingWrites)
      (fun state action next kept taken => (step_maxPendingWrites taken).trans kept) rfl executed

/-- Two calls on a queue for one: the second is rejected and told so before the
first is written. -/
theorem writeQueue_disciplined_two_calls :
    let first : Call := ⟨0, [1], [2], true⟩
    let second : Call := ⟨1, [3], [], true⟩
    let actions : List Action := [.asyncWrite [1] [2] true, .asyncWrite [3] [] true,
      .runTask (.reject second), .runTask .writeNext, .runTask (.initiate first),
      .transfer ⟨first, 0⟩ 2, .complete ⟨first, 2⟩ true, .runTask (.finish first true false)]
    ∃ socket, run Network.step { maxPendingWrites := 1 } actions = some socket ∧
      socket.invoked = [(second, false), (first, true)] ∧ socket.Disciplined := by
  intro first second actions
  exact ⟨_, rfl, rfl, (@writeQueue_disciplined 1 actions _ rfl).1⟩

end BoostTcpSocket

end SocketSL.Network
