import SocketSL.Lib.Transition
import Mathlib.Data.Multiset.Filter

/-!
# The write side of `boost_tcp_socket`

`async_write`, `write_next` and the completion of asio's composed write take
the lock for a short section and act on what they saw after releasing it.  Each
locked section is one action here.  What a thread still has to do after such a
section is a `Task`; tasks of any number of threads are pending at once and any
of them may run next, so a handler that calls `async_write` again is an
`asyncWrite` action between the handler's invocation and the next task.

Synchronous sends bypass the queue: `send_buffer` makes two `write` calls, each
one action.  The bytes on the wire carry the number of the call they belong to.
-/

namespace SocketSL.Network

/-- One call of `async_write`, or one synchronous send, with a number of its
own; `hasHandler` says whether the `std::function` it was given is callable. -/
structure Call where
  id : Nat
  head : List UInt8
  body : List UInt8
  hasHandler : Bool
  deriving DecidableEq

def Call.frame (call : Call) : List UInt8 := call.head ++ call.body

def Call.tagged (call : Call) : List (Nat × UInt8) := call.frame.map fun byte => (call.id, byte)

/-- What a thread has left to do outside the lock. -/
inductive Task where
  /-- `async_write` was rejected: `handler(false)` -/
  | reject (call : Call)
  /-- call `write_next` -/
  | writeNext
  /-- `write_next` has copied the front entry: `boost::asio::async_write` -/
  | initiate (call : Call)
  /-- the completion has popped the front entry: `handler(!error_code)`, then
  `write_next` if there was more -/
  | finish (call : Call) (isValid more : Bool)
  deriving DecidableEq

/-- The task includes a write that has not been handed to asio yet. -/
@[simp]
def Task.dueWrite : Task → Bool
  | .reject _ => false
  | .writeNext => true
  | .initiate _ => true
  | .finish _ _ more => more

/-- `if (handler) handler(is_valid)` -/
def Call.invocation (call : Call) (isValid : Bool) : List (Call × Bool) :=
  if call.hasHandler then [(call, isValid)] else []

/-- The handler invocation a task still owes. -/
@[simp]
def Task.owedHandler : Task → List (Call × Bool)
  | .reject call => call.invocation false
  | .finish call isValid _ => call.invocation isValid
  | _ => []

/-- A composed write that asio is working on. -/
structure Flight where
  call : Call
  transferred : Nat
  deriving DecidableEq

/-- The write side of the socket.  `accepted`, `rejected`, `started`,
`completed`, `invoked` and `synchronous` record what has happened so far;
`fault` is set when `front()` is read of an empty queue. -/
structure BoostTcpSocket where
  maxPendingWrites : Nat
  writeQueue : List Call := []
  tasks : Multiset Task := 0
  flights : Multiset Flight := 0
  bodiesDue : Multiset Call := 0
  wire : List (Nat × UInt8) := []
  fault : Bool := false
  calls : Nat := 0
  accepted : List Call := []
  rejected : List Call := []
  started : List Call := []
  completed : List (Call × Bool) := []
  invoked : List (Call × Bool) := []
  synchronous : List Call := []

namespace BoostTcpSocket

/-- The locked section of `async_write`. -/
def asyncWrite (socket : BoostTcpSocket) (head body : List UInt8) (hasHandler : Bool) :
    BoostTcpSocket :=
  let call : Call := ⟨socket.calls, head, body, hasHandler⟩
  if socket.maxPendingWrites ≠ 0 ∧ socket.writeQueue.length ≥ socket.maxPendingWrites then
    { socket with
      calls := socket.calls + 1
      rejected := socket.rejected ++ [call]
      tasks := .reject call ::ₘ socket.tasks }
  else
    let idle := socket.writeQueue.isEmpty
    { socket with
      calls := socket.calls + 1
      accepted := socket.accepted ++ [call]
      writeQueue := socket.writeQueue ++ [call]
      tasks := if idle then .writeNext ::ₘ socket.tasks else socket.tasks }

/-- The overload for a single buffer. -/
def asyncWriteBuffer (socket : BoostTcpSocket) (buffer : List UInt8) (hasHandler : Bool) :
    BoostTcpSocket :=
  socket.asyncWrite buffer [] hasHandler

/-- Run a task that has been taken off `tasks`. -/
def runTask (socket : BoostTcpSocket) : Task → BoostTcpSocket
  | .reject call => { socket with invoked := socket.invoked ++ call.invocation false }
  | .writeNext =>
      match socket.writeQueue with
      | [] => { socket with fault := true }
      | front :: _ => { socket with tasks := .initiate front ::ₘ socket.tasks }
  | .initiate call =>
      { socket with flights := ⟨call, 0⟩ ::ₘ socket.flights, started := socket.started ++ [call] }
  | .finish call isValid more =>
      { socket with
        invoked := socket.invoked ++ call.invocation isValid
        tasks := if more then .writeNext ::ₘ socket.tasks else socket.tasks }

/-- asio moves further bytes of a composed write. -/
def transfer (socket : BoostTcpSocket) (flight : Flight) (count : Nat) : BoostTcpSocket :=
  { socket with
    flights := { flight with transferred := flight.transferred + count } ::ₘ
      socket.flights.erase flight
    wire := socket.wire ++ (flight.call.tagged.drop flight.transferred).take count }

/-- The locked section of the completion handler. -/
def complete (socket : BoostTcpSocket) (flight : Flight) (isValid : Bool) : BoostTcpSocket :=
  match socket.writeQueue with
  | [] => { socket with flights := socket.flights.erase flight, fault := true }
  | front :: rest =>
      { socket with
        flights := socket.flights.erase flight
        completed := socket.completed ++ [(flight.call, isValid)]
        writeQueue := rest
        tasks := .finish front isValid (!rest.isEmpty) ::ₘ socket.tasks }

/-- The first `write` of a synchronous send. -/
def writeHeader (socket : BoostTcpSocket) (header body : List UInt8) : BoostTcpSocket :=
  let call : Call := ⟨socket.calls, header, body, false⟩
  { socket with
    calls := socket.calls + 1
    synchronous := socket.synchronous ++ [call]
    wire := socket.wire ++ header.map fun byte => (call.id, byte)
    bodiesDue := if body.isEmpty then socket.bodiesDue else call ::ₘ socket.bodiesDue }

/-- The second `write` of a synchronous send. -/
def writeBody (socket : BoostTcpSocket) (call : Call) : BoostTcpSocket :=
  { socket with
    bodiesDue := socket.bodiesDue.erase call
    wire := socket.wire ++ call.body.map fun byte => (call.id, byte) }

/-- A call is accepted at the end or not at all, and writes nothing itself. -/
theorem asyncWrite_accepted (socket : BoostTcpSocket) (head body : List UInt8)
    (hasHandler : Bool) :
    ((socket.asyncWrite head body hasHandler).accepted = socket.accepted ∨
      (socket.asyncWrite head body hasHandler).accepted =
        socket.accepted ++ [⟨socket.calls, head, body, hasHandler⟩]) ∧
      (socket.asyncWrite head body hasHandler).calls = socket.calls + 1 ∧
      (socket.asyncWrite head body hasHandler).wire = socket.wire := by
  unfold asyncWrite
  dsimp only
  split
  next => exact ⟨Or.inl rfl, rfl, rfl⟩
  next => exact ⟨Or.inr rfl, rfl, rfl⟩

theorem runTask_accepted (socket : BoostTcpSocket) (task : Task) :
    (socket.runTask task).accepted = socket.accepted ∧
      (socket.runTask task).calls = socket.calls ∧ (socket.runTask task).wire = socket.wire := by
  cases task with
  | writeNext => cases queue : socket.writeQueue <;> simp [runTask, queue]
  | _ => exact ⟨rfl, rfl, rfl⟩

theorem complete_accepted (socket : BoostTcpSocket) (flight : Flight) (isValid : Bool) :
    (socket.complete flight isValid).accepted = socket.accepted := by
  unfold complete
  split <;> rfl

theorem runTask_writeNext {socket : BoostTcpSocket} {front : Call} {behind : List Call}
    (queue : socket.writeQueue = front :: behind) :
    socket.runTask .writeNext =
      { socket with tasks := .initiate front ::ₘ socket.tasks } := by
  rw [runTask, queue]

theorem complete_of_cons {socket : BoostTcpSocket} {front : Call} {behind : List Call}
    (queue : socket.writeQueue = front :: behind) (flight : Flight) (isValid : Bool) :
    socket.complete flight isValid =
      { socket with
        flights := socket.flights.erase flight
        completed := socket.completed ++ [(flight.call, isValid)]
        writeQueue := behind
        tasks := .finish front isValid (!behind.isEmpty) ::ₘ socket.tasks } := by
  rw [complete, queue]

end BoostTcpSocket

inductive Action where
  | asyncWrite (head body : List UInt8) (hasHandler : Bool)
  | runTask (task : Task)
  | transfer (flight : Flight) (count : Nat)
  | complete (flight : Flight) (isValid : Bool)
  | writeHeader (header body : List UInt8)
  | writeBody (call : Call)
  deriving DecidableEq

/-- An action in any state it is enabled in.  asio reports success only for a
write it has transferred in full. -/
def step (socket : BoostTcpSocket) : Action → Option BoostTcpSocket
  | .asyncWrite head body hasHandler => some (socket.asyncWrite head body hasHandler)
  | .runTask task =>
      if task ∈ socket.tasks then
        some ({ socket with tasks := socket.tasks.erase task }.runTask task)
      else none
  | .transfer flight count =>
      if flight ∈ socket.flights ∧ flight.transferred + count ≤ flight.call.frame.length then
        some (socket.transfer flight count)
      else none
  | .complete flight isValid =>
      if flight ∈ socket.flights ∧
          (isValid = true → flight.transferred = flight.call.frame.length) then
        some (socket.complete flight isValid)
      else none
  | .writeHeader header body => some (socket.writeHeader header body)
  | .writeBody call =>
      if call ∈ socket.bodiesDue then some (socket.writeBody call) else none

/-- The actions that are enabled in a state, with what they do to it. -/
inductive Step (socket : BoostTcpSocket) : Action → BoostTcpSocket → Prop where
  | asyncWrite (head body : List UInt8) (hasHandler : Bool) :
      Step socket (.asyncWrite head body hasHandler) (socket.asyncWrite head body hasHandler)
  | runTask (task : Task) (rest : Multiset Task) (pending : socket.tasks = task ::ₘ rest) :
      Step socket (.runTask task) ({ socket with tasks := rest }.runTask task)
  | transfer (flight : Flight) (count : Nat) (inFlight : flight ∈ socket.flights)
      (remains : flight.transferred + count ≤ flight.call.frame.length) :
      Step socket (.transfer flight count) (socket.transfer flight count)
  | complete (flight : Flight) (isValid : Bool) (inFlight : flight ∈ socket.flights)
      (finished : isValid = true → flight.transferred = flight.call.frame.length) :
      Step socket (.complete flight isValid) (socket.complete flight isValid)
  | writeHeader (header body : List UInt8) :
      Step socket (.writeHeader header body) (socket.writeHeader header body)
  | writeBody (call : Call) (due : call ∈ socket.bodiesDue) :
      Step socket (.writeBody call) (socket.writeBody call)

theorem step_cases {socket next : BoostTcpSocket} {action : Action}
    (taken : step socket action = some next) : Step socket action next := by
  cases action with
  | asyncWrite head body hasHandler =>
      cases taken
      exact .asyncWrite head body hasHandler
  | runTask task =>
      obtain ⟨pending, taken⟩ := Option.ite_none_right_eq_some.mp taken
      cases taken
      obtain ⟨rest, tasks⟩ := Multiset.exists_cons_of_mem pending
      rw [tasks, Multiset.erase_cons_head]
      exact .runTask task rest tasks
  | transfer flight count =>
      obtain ⟨enabled, taken⟩ := Option.ite_none_right_eq_some.mp taken
      cases taken
      exact .transfer flight count enabled.1 enabled.2
  | complete flight isValid =>
      obtain ⟨enabled, taken⟩ := Option.ite_none_right_eq_some.mp taken
      cases taken
      exact .complete flight isValid enabled.1 enabled.2
  | writeHeader header body =>
      cases taken
      exact .writeHeader header body
  | writeBody call =>
      obtain ⟨due, taken⟩ := Option.ite_none_right_eq_some.mp taken
      cases taken
      exact .writeBody call due

end SocketSL.Network
