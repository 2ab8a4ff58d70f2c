import SocketSL.Lib.SteadyTimer
import SocketSL.Message.Frame
import SocketSL.Network.WriteQueue

/-!
# The three timers of `boost_tcp_socket`

The idle, heartbeat and handshake timers with everything that arms, cancels or
re-arms them: `async_connect`, `async_handshake` and its completion, the
completions of reads, and the handlers of the timers themselves.  Completions
and expired waits are handled in any order and with any delay.  Every wait is
marked with the length of the log when it was armed.

Timeouts are documented for asynchronous sessions only, and the socket is used
as one: there is no synchronous read, and the synchronous handshake, which arms
nothing, comes first on its socket if it comes at all.
-/

namespace SocketSL.Timers

open SocketSL.Lib
open SocketSL.Network

/-- The deadlines set on a socket; 0 is none. -/
structure Timeouts where
  idle : Nat := 0
  heartbeat : Nat := 0
  handshake : Nat := 0

inductive Phase where
  | fresh
  | dialing
  | connected
  | handshaking
  | established
  | failed
  deriving DecidableEq

inductive Timer where
  | idle
  | heartbeat
  | handshake
  deriving DecidableEq

/-- What happens to a connection: completions, pings handed to `async_write`,
and a timer's handler that closes, with the mark of its wait and the time. -/
inductive Event where
  | handshakeCompleted (isValid : Bool)
  | readCompleted
  | pinged (time : Nat) (accepted : Bool)
  | closed (timer : Timer) (since time : Nat)
  deriving DecidableEq

/-- `recalls` says whether re-arming or cancelling a timer takes back an expired
wait whose handler is queued; `dialedAt` is the time of `async_connect`. -/
structure TimedSocket where
  timeouts : Timeouts
  recalls : Bool
  writes : BoostTcpSocket
  now : Nat := 0
  phase : Phase := .fresh
  dialedAt : Option Nat := none
  idleTimer : SteadyTimer Nat := {}
  heartbeatTimer : SteadyTimer Nat := {}
  handshakeTimer : SteadyTimer Nat := {}
  heartbeatSent : Bool := false
  reads : Nat := 0
  log : List Event := []

/-- `async_write` would accept one more entry. -/
def HasRoom (socket : BoostTcpSocket) : Prop :=
  ¬ (socket.maxPendingWrites ≠ 0 ∧ socket.writeQueue.length ≥ socket.maxPendingWrites)

instance (socket : BoostTcpSocket) : Decidable (HasRoom socket) :=
  inferInstanceAs (Decidable (¬ (_ ∧ _)))

namespace TimedSocket

def record (socket : TimedSocket) (event : Event) : TimedSocket :=
  { socket with log := socket.log ++ [event] }

/-- The wait that begins now. -/
def wait (socket : TimedSocket) (timeout : Nat) : Wait Nat :=
  ⟨socket.log.length, socket.now + timeout⟩

def resetIdleTimer (socket : TimedSocket) : TimedSocket :=
  if socket.timeouts.idle = 0 then
    socket
  else
    { socket with
      idleTimer := socket.idleTimer.arm socket.recalls (socket.wait socket.timeouts.idle) }

def armHeartbeat (socket : TimedSocket) : TimedSocket :=
  { socket with
    heartbeatTimer :=
      socket.heartbeatTimer.arm socket.recalls (socket.wait socket.timeouts.heartbeat) }

def resetHeartbeatTimer (socket : TimedSocket) : TimedSocket :=
  if socket.timeouts.heartbeat = 0 then
    socket
  else
    { socket with heartbeatSent := false }.armHeartbeat

def resetHandshakeTimer (socket : TimedSocket) : TimedSocket :=
  if socket.timeouts.handshake = 0 then
    socket
  else
    { socket with
      handshakeTimer :=
        socket.handshakeTimer.arm socket.recalls (socket.wait socket.timeouts.handshake) }

def cancelHandshakeTimer (socket : TimedSocket) : TimedSocket :=
  { socket with handshakeTimer := socket.handshakeTimer.cancel socket.recalls }

def asyncConnect (socket : TimedSocket) : TimedSocket :=
  { socket with phase := .dialing, dialedAt := some socket.now }.resetIdleTimer.resetHeartbeatTimer

def asyncHandshake (socket : TimedSocket) : TimedSocket :=
  { socket with phase := .handshaking }.resetHandshakeTimer

/-- The completion of `async_handshake`. -/
def onHandshake (socket : TimedSocket) (isValid : Bool) : TimedSocket :=
  let completed := { socket with
    phase := if isValid then .established else .failed
  }.record (.handshakeCompleted isValid)
  let cancelled := completed.cancelHandshakeTimer
  if isValid then cancelled.resetIdleTimer.resetHeartbeatTimer else cancelled

/-- The completion of `async_read`. -/
def onRead (socket : TimedSocket) (isValid : Bool) : TimedSocket :=
  if isValid then (socket.record .readCompleted).resetIdleTimer.resetHeartbeatTimer else socket

/-- The handler of the heartbeat timer. -/
def onHeartbeat (schema : Schema) (socket : TimedSocket) (wait : Wait Nat) : TimedSocket :=
  if socket.heartbeatSent then
    socket.record (.closed .heartbeat wait.mark socket.now)
  else
    let pinged := { socket with
      writes := socket.writes.asyncWrite (hbPing schema).header (hbPing schema).body true
      heartbeatSent := true
    }.record (.pinged socket.now (decide (HasRoom socket.writes)))
    pinged.armHeartbeat

/-- The handlers of the idle and the handshake timer. -/
def close (socket : TimedSocket) (timer : Timer) (wait : Wait Nat) : TimedSocket :=
  socket.record (.closed timer wait.mark socket.now)

theorem resetIdleTimer_frame (socket : TimedSocket) :
    ∃ idleTimer, socket.resetIdleTimer = { socket with idleTimer } := by
  unfold resetIdleTimer
  split
  · exact ⟨socket.idleTimer, rfl⟩
  · exact ⟨_, rfl⟩

theorem resetHeartbeatTimer_eq {socket : TimedSocket} (enabled : socket.timeouts.heartbeat ≠ 0) :
    socket.resetHeartbeatTimer = { socket with heartbeatSent := false }.armHeartbeat :=
  if_neg enabled

theorem restart_frame (socket : TimedSocket) :
    ∃ idleTimer heartbeatTimer heartbeatSent, socket.resetIdleTimer.resetHeartbeatTimer =
      { socket with idleTimer, heartbeatTimer, heartbeatSent } := by
  obtain ⟨idleTimer, equal⟩ := socket.resetIdleTimer_frame
  rw [equal]
  unfold resetHeartbeatTimer
  split
  · exact ⟨_, _, _, rfl⟩
  · exact ⟨_, _, _, rfl⟩

@[simp]
theorem resetIdleTimer_phase (socket : TimedSocket) :
    socket.resetIdleTimer.phase = socket.phase := by
  unfold resetIdleTimer
  split <;> rfl

@[simp]
theorem resetIdleTimer_log (socket : TimedSocket) : socket.resetIdleTimer.log = socket.log := by
  unfold resetIdleTimer
  split <;> rfl

@[simp]
theorem resetHeartbeatTimer_log (socket : TimedSocket) :
    socket.resetHeartbeatTimer.log = socket.log := by
  unfold resetHeartbeatTimer
  split <;> rfl

@[simp]
theorem resetIdleTimer_timeouts (socket : TimedSocket) :
    socket.resetIdleTimer.timeouts = socket.timeouts := by
  unfold resetIdleTimer
  split <;> rfl

@[simp]
theorem resetHeartbeatTimer_timeouts (socket : TimedSocket) :
    socket.resetHeartbeatTimer.timeouts = socket.timeouts := by
  unfold resetHeartbeatTimer
  split <;> rfl

theorem asyncHandshake_timeouts (socket : TimedSocket) :
    socket.asyncHandshake.timeouts = socket.timeouts := by
  unfold asyncHandshake resetHandshakeTimer
  split <;> rfl

theorem onHandshake_timeouts (socket : TimedSocket) (isValid : Bool) :
    (socket.onHandshake isValid).timeouts = socket.timeouts := by
  cases isValid with
  | false => rfl
  | true => simp [onHandshake, cancelHandshakeTimer, record]

theorem onRead_timeouts (socket : TimedSocket) (isValid : Bool) :
    (socket.onRead isValid).timeouts = socket.timeouts := by
  cases isValid with
  | false => rfl
  | true => simp [onRead, record]

theorem onHeartbeat_timeouts (schema : Schema) (socket : TimedSocket) (wait : Wait Nat) :
    (socket.onHeartbeat schema wait).timeouts = socket.timeouts := by
  unfold onHeartbeat
  split <;> rfl

end TimedSocket

inductive Action where
  | elapse (duration : Nat)
  | asyncConnect
  | connected (isValid : Bool)
  | asyncHandshake
  | onHandshake (isValid : Bool)
  | handshake
  | asyncRead
  | onRead (isValid : Bool)
  | write (action : Network.Action)
  | expire (timer : Timer)
  | run (timer : Timer) (wait : Wait Nat)

/-- A read yields data only over an established connection; `handshake` is the
synchronous one, which arms nothing. -/
def step (schema : Schema) (socket : TimedSocket) : Action → Option TimedSocket
  | .elapse duration => some { socket with now := socket.now + duration }
  | .asyncConnect => if socket.phase = .fresh then some socket.asyncConnect else none
  | .connected isValid =>
      if socket.phase = .dialing then
        some { socket with phase := if isValid then .connected else .failed }
      else none
  | .asyncHandshake =>
      if socket.phase = .fresh ∨ socket.phase = .connected then some socket.asyncHandshake
      else none
  | .onHandshake isValid =>
      if socket.phase = .handshaking then some (socket.onHandshake isValid) else none
  | .handshake =>
      if socket.phase = .fresh then
        some ({ socket with phase := .established }.record (.handshakeCompleted true))
      else none
  | .asyncRead => some { socket with reads := socket.reads + 1 }
  | .onRead isValid =>
      if 0 < socket.reads ∧ (isValid = true → socket.phase = .established) then
        some ({ socket with reads := socket.reads - 1 }.onRead isValid)
      else none
  | .write action =>
      (Network.step socket.writes action).map fun writes => { socket with writes := writes }
  | .expire .idle =>
      (socket.idleTimer.expire socket.now).map fun timer => { socket with idleTimer := timer }
  | .expire .heartbeat =>
      (socket.heartbeatTimer.expire socket.now).map fun timer =>
        { socket with heartbeatTimer := timer }
  | .expire .handshake =>
      (socket.handshakeTimer.expire socket.now).map fun timer =>
        { socket with handshakeTimer := timer }
  | .run .idle wait =>
      (socket.idleTimer.take wait).map fun timer =>
        { socket with idleTimer := timer }.close .idle wait
  | .run .heartbeat wait =>
      (socket.heartbeatTimer.take wait).map fun timer =>
        { socket with heartbeatTimer := timer }.onHeartbeat schema wait
  | .run .handshake wait =>
      (socket.handshakeTimer.take wait).map fun timer =>
        { socket with handshakeTimer := timer }.close .handshake wait

/-- What each action does, guards included. -/
inductive Step (schema : Schema) (socket : TimedSocket) : Action → TimedSocket → Prop where
  | elapse (duration : Nat) :
      Step schema socket (.elapse duration) { socket with now := socket.now + duration }
  | asyncConnect (fresh : socket.phase = .fresh) :
      Step schema socket .asyncConnect socket.asyncConnect
  | connected (isValid : Bool) (dialing : socket.phase = .dialing) :
      Step schema socket (.connected isValid)
        { socket with phase := if isValid then .connected else .failed }
  | asyncHandshake (ready : socket.phase = .fresh ∨ socket.phase = .connected) :
      Step schema socket .asyncHandshake socket.asyncHandshake
  | onHandshake (isValid : Bool) (handshaking : socket.phase = .handshaking) :
      Step schema socket (.onHandshake isValid) (socket.onHandshake isValid)
  | handshake (fresh : socket.phase = .fresh) :
      Step schema socket .handshake
        (TimedSocket.record { socket with phase := .established } (.handshakeCompleted true))
  | asyncRead : Step schema socket .asyncRead { socket with reads := socket.reads + 1 }
  | onRead (isValid : Bool) (established : isValid = true → socket.phase = .established) :
      Step schema socket (.onRead isValid)
        (TimedSocket.onRead { socket with reads := socket.reads - 1 } isValid)
  | write (action : Network.Action) (writes : BoostTcpSocket)
      (written : Network.step socket.writes action = some writes) :
      Step schema socket (.write action) { socket with writes := writes }
  | expireIdle (timer : SteadyTimer Nat)
      (expired : socket.idleTimer.expire socket.now = some timer) :
      Step schema socket (.expire .idle) { socket with idleTimer := timer }
  | expireHeartbeat (timer : SteadyTimer Nat)
      (expired : socket.heartbeatTimer.expire socket.now = some timer) :
      Step schema socket (.expire .heartbeat) { socket with heartbeatTimer := timer }
  | expireHandshake (timer : SteadyTimer Nat)
      (expired : socket.handshakeTimer.expire socket.now = some timer) :
      Step schema socket (.expire .handshake) { socket with handshakeTimer := timer }
  | runIdle (wait : Wait Nat) (timer : SteadyTimer Nat)
      (taken : socket.idleTimer.take wait = some timer) :
      Step schema socket (.run .idle wait)
        (TimedSocket.close { socket with idleTimer := timer } .idle wait)
  | runHeartbeat (wait : Wait Nat) (timer : SteadyTimer Nat)
      (taken : socket.heartbeatTimer.take wait = some timer) :
      Step schema socket (.run .heartbeat wait)
        (TimedSocket.onHeartbeat schema { socket with heartbeatTimer := timer } wait)
  | runHandshake (wait : Wait Nat) (timer : SteadyTimer Nat)
      (taken : socket.handshakeTimer.take wait = some timer) :
      Step schema socket (.run .handshake wait)
        (TimedSocket.close { socket with handshakeTimer := timer } .handshake wait)

theorem step_cases {schema : Schema} {socket next : TimedSocket} {action : Action}
    (taken : step schema socket action = some next) : Step schema socket action next := by
  cases action with
  | elapse duration =>
      cases taken
      exact .elapse duration
  | asyncConnect =>
      obtain ⟨fresh, taken⟩ := Option.ite_none_right_eq_some.mp taken
      cases taken
      exact .asyncConnect fresh
  | connected isValid =>
      obtain ⟨dialing, taken⟩ := Option.ite_none_right_eq_some.mp taken
      cases taken
      exact .connected isValid dialing
  | asyncHandshake =>
      obtain ⟨ready, taken⟩ := Option.ite_none_right_eq_some.mp taken
      cases taken
      exact .asyncHandshake ready
  | onHandshake isValid =>
      obtain ⟨handshaking, taken⟩ := Option.ite_none_right_eq_some.mp taken
      cases taken
      exact .onHandshake isValid handshaking
  | handshake =>
      obtain ⟨fresh, taken⟩ := Option.ite_none_right_eq_some.mp taken
      cases taken
      exact .handshake fresh
  | asyncRead =>
      cases taken
      exact .asyncRead
  | onRead isValid =>
      obtain ⟨⟨-, established⟩, taken⟩ := Option.ite_none_right_eq_some.mp taken
      cases taken
      exact .onRead isValid established
  | write action =>
      obtain ⟨writes, written, rfl⟩ := Option.map_eq_some_iff.mp taken
      exact .write action writes written
  | expire timer =>
      cases timer with
      | idle =>
          obtain ⟨timer, expired, rfl⟩ := Option.map_eq_some_iff.mp taken
          exact .expireIdle timer expired
      | heartbeat =>
          obtain ⟨timer, expired, rfl⟩ := Option.map_eq_some_iff.mp taken
          exact .expireHeartbeat timer expired
      | handshake =>
          obtain ⟨timer, expired, rfl⟩ := Option.map_eq_some_iff.mp taken
          exact .expireHandshake timer expired
  | run timer wait =>
      cases timer with
      | idle =>
          obtain ⟨timer, removed, rfl⟩ := Option.map_eq_some_iff.mp taken
          exact .runIdle wait timer removed
      | heartbeat =>
          obtain ⟨timer, removed, rfl⟩ := Option.map_eq_some_iff.mp taken
          exact .runHeartbeat wait timer removed
      | handshake =>
          obtain ⟨timer, removed, rfl⟩ := Option.map_eq_some_iff.mp taken
          exact .runHandshake wait timer removed

theorem step_timeouts {schema : Schema} {socket next : TimedSocket} {action : Action}
    (taken : step schema socket action = some next) : next.timeouts = socket.timeouts := by
  cases step_cases taken with
  | asyncConnect fresh => simp [TimedSocket.asyncConnect]
  | asyncHandshake ready => exact socket.asyncHandshake_timeouts
  | onHandshake isValid handshaking => exact socket.onHandshake_timeouts isValid
  | onRead isValid established => exact TimedSocket.onRead_timeouts _ isValid
  | runHeartbeat wait timer removed => exact TimedSocket.onHeartbeat_timeouts schema _ wait
  | _ => rfl

theorem timeouts_of_run {schema : Schema} {initial socket : TimedSocket} {actions : List Action}
    (executed : run (step schema) initial actions = some socket) :
    socket.timeouts = initial.timeouts :=
  run_invariant_of_step (fun socket => socket.timeouts = initial.timeouts)
    (fun _ _ _ same taken => (step_timeouts taken).trans same) rfl executed

end SocketSL.Timers
