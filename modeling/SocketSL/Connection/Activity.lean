import SocketSL.Connection.Session
import SocketSL.Lib.Log
import SocketSL.Network.Timers

/-!
# An active peer

A started session reads frames from an established connection while the bytes of
the peer arrive at any time and in any pieces.  Re-arming a timer recalls its
previous wait and handlers run without delay.  The timers are put off by reads
that complete, not by bytes that arrive: a connection is closed under an active
peer exactly when the bytes of a read that is not complete are the activity.
-/

namespace SocketSL.Activity

open SocketSL.Lib
open SocketSL.Network
open SocketSL.Timers
open SocketSL.Session (PendingRead)

/-- What an observer of the connection sees. -/
inductive Sign where
  | arrived (time : Nat)
  | closed (timer : Timer) (time : Nat)
  deriving DecidableEq

/-- A session on its socket; `incoming` holds the bytes that have arrived and
that no read has taken yet, with the time each arrived. -/
structure Listener where
  socket : TimedSocket
  maxMessageSize : Nat
  reading : Option PendingRead
  incoming : List (UInt8 × Nat) := []
  isOpen : Bool := true
  log : List Sign := []

/-- The session has just been started on a connection whose handshake has just
succeeded. -/
def connected (timeouts : Timeouts) (writes : BoostTcpSocket) : TimedSocket :=
  TimedSocket.resetHeartbeatTimer (TimedSocket.resetIdleTimer
    { timeouts, writes
      recalls := true
      phase := .established
      reads := 1
      log := [.handshakeCompleted true] })

def started (timeouts : Timeouts) (writes : BoostTcpSocket) (maxMessageSize : Nat) :
    Listener where
  socket := connected timeouts writes
  maxMessageSize := maxMessageSize
  reading := Session.start.reading

/-- The replies of a session go to `async_write`. -/
def answer (writes : BoostTcpSocket) : SocketSL.Event → BoostTcpSocket
  | .reply message => writes.asyncWrite message.header message.body true
  | _ => writes

namespace Listener

def now (listener : Listener) : Nat := listener.socket.now

/-- No read can complete, and no wait expires for the duration. -/
def Free (listener : Listener) (duration : Nat) : Prop :=
  (∀ reading ∈ listener.reading, listener.incoming.length < reading.size) ∧
    (∀ wait ∈ listener.socket.idleTimer.waiting, listener.now + duration ≤ wait.deadline) ∧
    ∀ wait ∈ listener.socket.heartbeatTimer.waiting, listener.now + duration ≤ wait.deadline

instance (listener : Listener) (duration : Nat) : Decidable (listener.Free duration) :=
  inferInstanceAs (Decidable (_ ∧ _ ∧ _))

def arrive (listener : Listener) (bytes : List UInt8) : Listener :=
  { listener with
    incoming := listener.incoming ++ bytes.map fun byte => (byte, listener.now)
    log := listener.log ++ [.arrived listener.now] }

def elapse (listener : Listener) (duration : Nat) : Listener :=
  { listener with socket := { listener.socket with now := listener.now + duration } }

/-- The completion of a read: the timers are put off, the callback runs. -/
def onRead (schema : Schema) (listener : Listener) (reading : PendingRead) : Listener :=
  let bytes := (listener.incoming.take reading.size).map Prod.fst
  let outcome := Session.onRead schema listener.maxMessageSize reading (some bytes)
  let completed := { listener.socket with reads := listener.socket.reads - 1 }.onRead true
  { listener with
    socket := { completed with
      writes := outcome.events.foldl answer completed.writes
      reads := completed.reads + outcome.reading.toList.length }
    reading := outcome.reading
    incoming := listener.incoming.drop reading.size }

def onReadError (schema : Schema) (listener : Listener) (reading : PendingRead) : Listener :=
  { listener with
    socket := { listener.socket with reads := listener.socket.reads - 1 }
    reading := (Session.onRead schema listener.maxMessageSize reading none).reading }

/-- A timer's handler closes; only the first of them closes a connection. -/
def close (listener : Listener) (timer : Timer) (socket : TimedSocket) : Listener :=
  { listener with
    socket
    isOpen := false
    log := if listener.isOpen then listener.log ++ [.closed timer listener.now]
      else listener.log }

end Listener

inductive Action where
  | arrive (bytes : List UInt8)
  | elapse (duration : Nat)
  | read
  | readError
  | write (action : Network.Action)
  | idle (wait : Wait Nat)
  | heartbeat (wait : Wait Nat)

/-- A timer that expires runs its handler at once. -/
def step (schema : Schema) (listener : Listener) : Action → Option Listener
  | .arrive bytes =>
      if listener.isOpen ∧ bytes ≠ [] then some (listener.arrive bytes) else none
  | .elapse duration =>
      if listener.Free duration then some (listener.elapse duration) else none
  | .read =>
      match listener.reading with
      | none => none
      | some reading =>
          if reading.size ≤ listener.incoming.length then some (listener.onRead schema reading)
          else none
  | .readError => listener.reading.map (listener.onReadError schema)
  | .write action =>
      (Network.step listener.socket.writes action).map fun writes =>
        { listener with socket := { listener.socket with writes := writes } }
  | .idle wait =>
      (run (Timers.step schema) listener.socket [.expire .idle, .run .idle wait]).map
        (listener.close .idle)
  | .heartbeat wait =>
      (run (Timers.step schema) listener.socket [.expire .heartbeat, .run .heartbeat wait]).map
        fun socket =>
          if listener.socket.heartbeatSent then listener.close .heartbeat socket
          else { listener with socket := socket }

/-- What each action does, guards included. -/
inductive Step (schema : Schema) (listener : Listener) : Action → Listener → Prop where
  | arrive (bytes : List UInt8) (isOpen : listener.isOpen = true) (received : bytes ≠ []) :
      Step schema listener (.arrive bytes) (listener.arrive bytes)
  | elapse (duration : Nat) (free : listener.Free duration) :
      Step schema listener (.elapse duration) (listener.elapse duration)
  | read (reading : PendingRead) (outstanding : listener.reading = some reading)
      (enough : reading.size ≤ listener.incoming.length) :
      Step schema listener .read (listener.onRead schema reading)
  | readError (reading : PendingRead) (outstanding : listener.reading = some reading) :
      Step schema listener .readError (listener.onReadError schema reading)
  | write (action : Network.Action) (writes : BoostTcpSocket)
      (written : Network.step listener.socket.writes action = some writes) :
      Step schema listener (.write action)
        { listener with socket := { listener.socket with writes := writes } }
  | idle (wait : Wait Nat) (socket : TimedSocket)
      (fired : run (Timers.step schema) listener.socket [.expire .idle, .run .idle wait] =
        some socket) :
      Step schema listener (.idle wait) (listener.close .idle socket)
  | lost (wait : Wait Nat) (socket : TimedSocket) (sent : listener.socket.heartbeatSent = true)
      (fired : run (Timers.step schema) listener.socket
        [.expire .heartbeat, .run .heartbeat wait] = some socket) :
      Step schema listener (.heartbeat wait) (listener.close .heartbeat socket)
  | ping (wait : Wait Nat) (socket : TimedSocket) (quiet : listener.socket.heartbeatSent = false)
      (fired : run (Timers.step schema) listener.socket
        [.expire .heartbeat, .run .heartbeat wait] = some socket) :
      Step schema listener (.heartbeat wait) { listener with socket := socket }

theorem step_cases {schema : Schema} {listener next : Listener} {action : Action}
    (taken : step schema listener action = some next) : Step schema listener action next := by
  cases action with
  | arrive bytes =>
      obtain ⟨⟨isOpen, received⟩, taken⟩ := Option.ite_none_right_eq_some.mp taken
      cases taken
      exact .arrive bytes isOpen received
  | elapse duration =>
      obtain ⟨free, taken⟩ := Option.ite_none_right_eq_some.mp taken
      cases taken
      exact .elapse duration free
  | read =>
      simp only [step] at taken
      split at taken
      next => cases taken
      next reading outstanding =>
        obtain ⟨enough, taken⟩ := Option.ite_none_right_eq_some.mp taken
        cases taken
        exact .read reading outstanding enough
  | readError =>
      obtain ⟨reading, outstanding, rfl⟩ := Option.map_eq_some_iff.mp taken
      exact .readError reading outstanding
  | write action =>
      obtain ⟨writes, written, rfl⟩ := Option.map_eq_some_iff.mp taken
      exact .write action writes written
  | idle wait =>
      obtain ⟨socket, fired, rfl⟩ := Option.map_eq_some_iff.mp taken
      exact .idle wait socket fired
  | heartbeat wait =>
      obtain ⟨socket, fired, rfl⟩ := Option.map_eq_some_iff.mp taken
      split
      next sent => exact .lost wait socket sent fired
      next quiet => exact .ping wait socket (Bool.eq_false_of_not_eq_true quiet) fired

theorem idle_fired {schema : Schema} {socket next : TimedSocket} {wait : Wait Nat}
    (settled : socket.idleTimer.queued = 0)
    (fired : run (Timers.step schema) socket [.expire .idle, .run .idle wait] = some next) :
    socket.idleTimer.waiting = some wait ∧ wait.deadline ≤ socket.now ∧
      next = TimedSocket.close { socket with idleTimer := {} } .idle wait := by
  obtain ⟨expired, first, rest⟩ := run_cons_eq_some.mp fired
  obtain ⟨last, second, same⟩ := run_cons_eq_some.mp rest
  cases same
  cases Timers.step_cases first with
  | expireIdle timer expires =>
      cases Timers.step_cases second with
      | runIdle wait final removed =>
          obtain ⟨waiting, reached, rfl⟩ :=
            SteadyTimer.expire_take_of_settled settled expires removed
          exact ⟨waiting, reached, rfl⟩

theorem heartbeat_fired {schema : Schema} {socket next : TimedSocket} {wait : Wait Nat}
    (settled : socket.heartbeatTimer.queued = 0)
    (fired : run (Timers.step schema) socket [.expire .heartbeat, .run .heartbeat wait] =
      some next) :
    socket.heartbeatTimer.waiting = some wait ∧ wait.deadline ≤ socket.now ∧
      next = TimedSocket.onHeartbeat schema { socket with heartbeatTimer := {} } wait := by
  obtain ⟨expired, first, rest⟩ := run_cons_eq_some.mp fired
  obtain ⟨last, second, same⟩ := run_cons_eq_some.mp rest
  cases same
  cases Timers.step_cases first with
  | expireHeartbeat timer expires =>
      cases Timers.step_cases second with
      | runHeartbeat wait final removed =>
          obtain ⟨waiting, reached, rfl⟩ :=
            SteadyTimer.expire_take_of_settled settled expires removed
          exact ⟨waiting, reached, rfl⟩

theorem restart_reads (socket : TimedSocket) (reads : Nat) :
    TimedSocket.resetHeartbeatTimer (TimedSocket.resetIdleTimer { socket with reads := reads }) =
      { socket.resetIdleTimer.resetHeartbeatTimer with reads := reads } := by
  unfold TimedSocket.resetIdleTimer
  split
  · unfold TimedSocket.resetHeartbeatTimer
    split <;> rfl
  · unfold TimedSocket.resetHeartbeatTimer
    split <;> rfl

theorem fired_frame {schema : Schema} {socket next : TimedSocket} {timer : Timer}
    {wait : Wait Nat}
    (fired : run (Timers.step schema) socket [.expire timer, .run timer wait] = some next) :
    next.phase = socket.phase ∧ next.reads = socket.reads := by
  obtain ⟨expired, first, rest⟩ := run_cons_eq_some.mp fired
  obtain ⟨last, second, same⟩ := run_cons_eq_some.mp rest
  cases same
  have kept : expired.phase = socket.phase ∧ expired.reads = socket.reads := by
    cases Timers.step_cases first <;> exact ⟨rfl, rfl⟩
  rw [← kept.1, ← kept.2]
  cases Timers.step_cases second with
  | runHeartbeat wait timer removed =>
      unfold TimedSocket.onHeartbeat
      split <;> exact ⟨rfl, rfl⟩
  | _ => exact ⟨rfl, rfl⟩

theorem connected_reached (schema : Schema) (timeouts : Timeouts) (writes : BoostTcpSocket) :
    run (Timers.step schema) { timeouts, recalls := true, writes }
      [.asyncHandshake, .onHandshake true, .asyncRead] = some (connected timeouts writes) := by
  obtain ⟨idle, heartbeat, handshake⟩ := timeouts
  let established : TimedSocket :=
    { timeouts := ⟨idle, heartbeat, handshake⟩, writes
      recalls := true
      phase := .established
      log := [.handshakeCompleted true] }
  have reached : run (Timers.step schema)
      { timeouts := ⟨idle, heartbeat, handshake⟩, recalls := true, writes }
      [.asyncHandshake, .onHandshake true] =
        some established.resetIdleTimer.resetHeartbeatTimer := by
    by_cases none : handshake = 0
    · subst none
      rfl
    · simp only [run_cons, Timers.step, TimedSocket.asyncHandshake,
        TimedSocket.resetHandshakeTimer, none]
      rfl
  have unread : established.resetIdleTimer.resetHeartbeatTimer.reads = 0 := by
    obtain ⟨_, _, _, equal⟩ := TimedSocket.restart_frame established
    rw [equal]
  have split : [.asyncHandshake, .onHandshake true, .asyncRead] =
      [.asyncHandshake, .onHandshake true] ++ [Timers.Action.asyncRead] := rfl
  rw [split, run_append, reached]
  simp only [Option.bind_some, run_cons, Timers.step, unread, run_nil]
  exact congrArg some (restart_reads established 1).symm

/-- An open read is outstanding on the socket. -/
structure Sound (listener : Listener) : Prop where
  established : listener.socket.phase = .established
  reads : listener.socket.reads = listener.reading.toList.length

theorem answers_written {schema : Schema} (socket : TimedSocket) (events : List SocketSL.Event) :
    ∃ actions, run (Timers.step schema) socket actions =
      some { socket with writes := events.foldl answer socket.writes } := by
  induction events generalizing socket with
  | nil => exact ⟨[], rfl⟩
  | cons event rest inductionHypothesis =>
      obtain ⟨actions, executed⟩ :=
        inductionHypothesis { socket with writes := answer socket.writes event }
      cases event with
      | reply message =>
          exact ⟨.write (.asyncWrite message.header message.body true) :: actions, executed⟩
      | _ => exact ⟨actions, executed⟩

theorem reads_issued {schema : Schema} (socket : TimedSocket) (count : Nat) :
    run (Timers.step schema) socket (List.replicate count .asyncRead) =
      some { socket with reads := socket.reads + count } := by
  induction count generalizing socket with
  | zero => rfl
  | succ count inductionHypothesis =>
      have issued := inductionHypothesis { socket with reads := socket.reads + 1 }
      rw [List.replicate_succ, run_cons]
      simp only [Timers.step, Option.bind_some]
      rw [issued, Nat.add_assoc, Nat.add_comm 1]

section Sound

variable {schema : Schema} {listener next : Listener}

theorem Sound.started (timeouts : Timeouts) (writes : BoostTcpSocket) (maxMessageSize : Nat) :
    Sound (started timeouts writes maxMessageSize) := by
  unfold Activity.started connected
  obtain ⟨_, _, _, equal⟩ := TimedSocket.restart_frame
    { timeouts, writes, recalls := true, phase := .established, reads := 1
      log := [.handshakeCompleted true] }
  rw [equal]
  exact ⟨rfl, rfl⟩

theorem Sound.counted (sound : Sound listener) {reading : PendingRead}
    (outstanding : listener.reading = some reading) : listener.socket.reads = 1 := by
  rw [sound.reads, outstanding]
  rfl

theorem Sound.onRead (sound : Sound listener) {reading : PendingRead}
    (outstanding : listener.reading = some reading) :
    Sound (listener.onRead schema reading) := by
  obtain ⟨_, _, _, equal⟩ := TimedSocket.restart_frame (TimedSocket.record
    { listener.socket with reads := listener.socket.reads - 1 } .readCompleted)
  have completed : { listener.socket with reads := listener.socket.reads - 1 }.onRead true = _ :=
    equal
  unfold Listener.onRead
  rw [completed]
  refine ⟨sound.established, ?_⟩
  simp [TimedSocket.record, sound.counted outstanding]

theorem Sound.onRead_moves (sound : Sound listener) {reading : PendingRead}
    (outstanding : listener.reading = some reading) :
    ∃ moves, run (Timers.step schema) listener.socket moves =
      some (listener.onRead schema reading).socket := by
  let completed := { listener.socket with reads := listener.socket.reads - 1 }.onRead true
  have first : Timers.step schema listener.socket (.onRead true) = some completed := by
    refine if_pos ⟨?_, fun _ => sound.established⟩
    rw [sound.counted outstanding]
    exact Nat.one_pos
  let outcome := Session.onRead schema listener.maxMessageSize reading
    (some ((listener.incoming.take reading.size).map Prod.fst))
  obtain ⟨writes, second⟩ := @answers_written schema completed outcome.events
  have third := @reads_issued schema
    { completed with writes := outcome.events.foldl answer completed.writes }
    outcome.reading.toList.length
  refine ⟨.onRead true ::
    (writes ++ List.replicate outcome.reading.toList.length .asyncRead), ?_⟩
  rw [run_cons, first, Option.bind_some, run_append, second, Option.bind_some, third]
  rfl

theorem Sound.step (sound : Sound listener) {action : Action}
    (taken : Activity.step schema listener action = some next) :
    Sound next ∧ ∃ moves, run (Timers.step schema) listener.socket moves = some next.socket := by
  cases step_cases taken with
  | arrive bytes isOpen received => exact ⟨⟨sound.established, sound.reads⟩, [], rfl⟩
  | elapse duration free =>
      exact ⟨⟨sound.established, sound.reads⟩, [.elapse duration], rfl⟩
  | read reading outstanding enough =>
      exact ⟨sound.onRead outstanding, sound.onRead_moves outstanding⟩
  | readError reading outstanding =>
      have counted := sound.counted outstanding
      refine ⟨⟨sound.established, ?_⟩, [.onRead false], ?_⟩
      · simp [Listener.onReadError, counted, Session.onRead, Session.onError]
      · simp [Timers.step, counted, TimedSocket.onRead, Listener.onReadError]
  | write action writes written =>
      refine ⟨⟨sound.established, sound.reads⟩, [.write action], ?_⟩
      simp [Timers.step, written]
  | idle wait socket fired =>
      obtain ⟨phase, reads⟩ := fired_frame fired
      exact ⟨⟨phase.trans sound.established, reads.trans sound.reads⟩, _, fired⟩
  | lost wait socket sent fired =>
      obtain ⟨phase, reads⟩ := fired_frame fired
      exact ⟨⟨phase.trans sound.established, reads.trans sound.reads⟩, _, fired⟩
  | ping wait socket quiet fired =>
      obtain ⟨phase, reads⟩ := fired_frame fired
      exact ⟨⟨phase.trans sound.established, reads.trans sound.reads⟩, _, fired⟩

end Sound

/-- The socket of a session behaves as the socket does on its own. -/
theorem socket_of_run {schema : Schema} {timeouts : Timeouts} {writes : BoostTcpSocket}
    {maxMessageSize : Nat} {actions : List Action} {listener : Listener}
    (executed : run (step schema) (started timeouts writes maxMessageSize) actions =
      some listener) :
    ∃ moves, run (Timers.step schema) { timeouts, recalls := true, writes } moves =
      some listener.socket := by
  have simulated : Sound listener ∧ ∃ moves, run (Timers.step schema)
      { timeouts, recalls := true, writes } moves = some listener.socket := by
    refine run_invariant_of_step (fun listener => Sound listener ∧ ∃ moves,
      run (Timers.step schema) { timeouts, recalls := true, writes } moves =
        some listener.socket) ?_ ?_ executed
    · rintro listener action next ⟨sound, moves, reached⟩ taken
      obtain ⟨kept, further, continued⟩ := sound.step taken
      refine ⟨kept, moves ++ further, ?_⟩
      rw [run_append, reached, Option.bind_some, continued]
    · exact ⟨Sound.started timeouts writes maxMessageSize, _,
        connected_reached schema timeouts writes⟩
  exact simulated.2

def timeout (timeouts : Timeouts) : Timer → Nat
  | .idle => timeouts.idle
  | .heartbeat => timeouts.heartbeat
  | .handshake => timeouts.handshake

/-- A timer closes the connection only if no byte arrived during the timeout
before. -/
def Silent (timeouts : Timeouts) (before : List Sign) : Sign → Prop
  | .arrived _ => True
  | .closed timer time =>
      ∀ arrival, .arrived arrival ∈ before → arrival + timeout timeouts timer ≤ time

/-- Every byte that waits for the rest of its read arrived a whole timeout ago. -/
def Listener.Stale (listener : Listener) (timer : Timer) : Prop :=
  ∀ byte ∈ listener.incoming, byte.2 + timeout listener.socket.timeouts timer ≤ listener.now

/-- A timer's handler that closes an open connection finds no fresh bytes of a
read that is not complete. -/
def Drained (listener : Listener) : Action → Prop
  | .idle _ => listener.isOpen = true → listener.Stale .idle
  | .heartbeat _ =>
      listener.isOpen = true → listener.socket.heartbeatSent = true → listener.Stale .heartbeat
  | _ => True

/-- A timer that an operation has just restarted, with every earlier wait
recalled. -/
def restarted (socket : TimedSocket) (timeout : Nat) : SteadyTimer Nat :=
  if timeout = 0 then {} else SteadyTimer.arm {} true (socket.wait timeout)

theorem restart_eq {socket : TimedSocket} (recalls : socket.recalls = true)
    (idle : socket.timeouts.idle = 0 → socket.idleTimer = {})
    (heartbeat : socket.timeouts.heartbeat = 0 → socket.heartbeatTimer = {}) :
    ∃ heartbeatSent, socket.resetIdleTimer.resetHeartbeatTimer = { socket with
      idleTimer := restarted socket socket.timeouts.idle
      heartbeatTimer := restarted socket socket.timeouts.heartbeat
      heartbeatSent } := by
  have idleArmed : socket.resetIdleTimer =
      { socket with idleTimer := restarted socket socket.timeouts.idle } := by
    unfold TimedSocket.resetIdleTimer restarted
    split
    next none => rw [← idle none]
    next enabled => rw [recalls]; rfl
  rw [idleArmed]
  unfold TimedSocket.resetHeartbeatTimer
  split
  next none =>
    refine ⟨socket.heartbeatSent, ?_⟩
    have same : restarted socket socket.timeouts.heartbeat = socket.heartbeatTimer := by
      rw [restarted, if_pos none, heartbeat none]
    rw [same]
  next enabled =>
    refine ⟨false, ?_⟩
    have same : restarted socket socket.timeouts.heartbeat =
        socket.heartbeatTimer.arm true (socket.wait socket.timeouts.heartbeat) :=
      if_neg enabled
    rw [same, TimedSocket.armHeartbeat, recalls]
    rfl

/-- Nothing is queued, a timer that is switched off holds nothing, and a wait
ends a whole timeout after every arrival whose bytes have all been read. -/
structure Watched (listener : Listener) (timeout : Nat) (timer : SteadyTimer Nat) : Prop where
  settled : timer.queued = 0
  disabled : timeout = 0 → timer = {}
  covered : ∀ wait, timer.Holds wait → ∀ arrival, .arrived arrival ∈ listener.log →
    arrival ∈ listener.incoming.map Prod.snd ∨ arrival + timeout ≤ wait.deadline

section Watched

variable {listener : Listener} {timeout : Nat} {timer : SteadyTimer Nat}

theorem Watched.empty : Watched listener timeout {} where
  settled := rfl
  disabled := fun _ => rfl
  covered := fun _ holds => absurd holds SteadyTimer.not_holds_empty

/-- A wait that begins now ends a whole timeout after everything so far. -/
theorem Watched.armed {wait : Wait Nat} (enabled : timeout ≠ 0)
    (later : wait.deadline = listener.now + timeout)
    (past : ∀ arrival, .arrived arrival ∈ listener.log → arrival ≤ listener.now) :
    Watched listener timeout (SteadyTimer.arm {} true wait) where
  settled := rfl
  disabled := fun none => absurd none enabled
  covered := by
    intro other holds arrival logged
    rcases SteadyTimer.holds_of_arm holds with rfl | ⟨recalls, -⟩
    · have earlier := past arrival logged
      exact Or.inr (by omega)
    · cases recalls

theorem Watched.restarted {socket : TimedSocket} (same : socket.now = listener.now)
    (past : ∀ arrival, .arrived arrival ∈ listener.log → arrival ≤ listener.now) :
    Watched listener timeout (restarted socket timeout) := by
  unfold Activity.restarted
  split
  next => exact .empty
  next enabled =>
    apply Watched.armed enabled
    · rw [TimedSocket.wait, same]
    · exact past

/-- Only arrivals matter of what is logged, and bytes that arrive are unread. -/
theorem Watched.frame (watched : Watched listener timeout timer) {other : Listener}
    (unread : ∀ byte ∈ listener.incoming, byte ∈ other.incoming)
    (logged : ∀ arrival, .arrived arrival ∈ other.log →
      .arrived arrival ∈ listener.log ∨ arrival ∈ other.incoming.map Prod.snd) :
    Watched other timeout timer where
  settled := watched.settled
  disabled := watched.disabled
  covered := by
    intro wait holds arrival member
    rcases logged arrival member with earlier | fresh
    · rcases watched.covered wait holds arrival earlier with pending | late
      · obtain ⟨byte, waiting, rfl⟩ := List.mem_map.mp pending
        exact Or.inl (List.mem_map_of_mem (unread byte waiting))
      · exact Or.inr late
    · exact Or.inl fresh

end Watched

/-- Re-arming recalls, bytes that wait were logged as they arrived, and both
timers are put off by every byte that has been read. -/
structure Attentive (listener : Listener) : Prop where
  recalls : listener.socket.recalls = true
  past : ∀ arrival, .arrived arrival ∈ listener.log → arrival ≤ listener.now
  logged : ∀ byte ∈ listener.incoming, .arrived byte.2 ∈ listener.log
  idle : Watched listener listener.socket.timeouts.idle listener.socket.idleTimer
  heartbeat : Watched listener listener.socket.timeouts.heartbeat listener.socket.heartbeatTimer
  silent : Justified (Silent listener.socket.timeouts) listener.log

section Attentive

variable {schema : Schema} {listener next : Listener}

theorem Attentive.started (timeouts : Timeouts) (writes : BoostTcpSocket)
    (maxMessageSize : Nat) : Attentive (started timeouts writes maxMessageSize) := by
  unfold Activity.started connected
  obtain ⟨heartbeatSent, equal⟩ := @restart_eq
    { timeouts, writes, recalls := true, phase := .established, reads := 1
      log := [.handshakeCompleted true] } rfl (fun _ => rfl) fun _ => rfl
  rw [equal]
  exact {
    recalls := rfl
    past := nofun
    logged := nofun
    idle := .restarted rfl nofun
    heartbeat := .restarted rfl nofun
    silent := .nil }

theorem Attentive.arrive (attentive : Attentive listener) (bytes : List UInt8)
    (received : bytes ≠ []) : Attentive (listener.arrive bytes) := by
  have unread : ∀ byte ∈ listener.incoming, byte ∈ (listener.arrive bytes).incoming :=
    fun byte member => List.mem_append_left _ member
  have fresh : listener.now ∈ (listener.arrive bytes).incoming.map Prod.snd := by
    obtain ⟨byte, rest, rfl⟩ := List.exists_cons_of_ne_nil received
    simp [Listener.arrive]
  have arrivals : ∀ arrival, .arrived arrival ∈ (listener.arrive bytes).log →
      .arrived arrival ∈ listener.log ∨ arrival = listener.now := by
    simp [Listener.arrive]
  have logged : ∀ arrival, .arrived arrival ∈ (listener.arrive bytes).log →
      .arrived arrival ∈ listener.log ∨
        arrival ∈ (listener.arrive bytes).incoming.map Prod.snd := by
    intro arrival member
    rcases arrivals arrival member with earlier | rfl
    · exact Or.inl earlier
    · exact Or.inr fresh
  exact {
    recalls := attentive.recalls
    past := by
      intro arrival member
      rcases arrivals arrival member with earlier | rfl
      · exact attentive.past arrival earlier
      · exact Nat.le_refl _
    logged := by
      intro byte member
      rcases List.mem_append.mp member with earlier | new
      · exact List.mem_append_left _ (attentive.logged byte earlier)
      · obtain ⟨value, -, rfl⟩ := List.mem_map.mp new
        exact List.mem_append_right _ (List.mem_singleton_self _)
    idle := attentive.idle.frame unread logged
    heartbeat := attentive.heartbeat.frame unread logged
    silent := attentive.silent.append trivial }

theorem Attentive.elapse (attentive : Attentive listener) (duration : Nat) :
    Attentive (listener.elapse duration) :=
  { attentive with
    past := by
      intro arrival member
      have earlier := attentive.past arrival member
      exact Nat.le_trans earlier (Nat.le_add_right _ _)
    idle := attentive.idle.frame (fun _ member => member) fun _ member => Or.inl member
    heartbeat := attentive.heartbeat.frame (fun _ member => member) fun _ member => Or.inl member }

theorem Attentive.onRead (attentive : Attentive listener) (reading : PendingRead) :
    Attentive (listener.onRead schema reading) := by
  obtain ⟨heartbeatSent, equal⟩ := @restart_eq
    (TimedSocket.record { listener.socket with reads := listener.socket.reads - 1 } .readCompleted)
    attentive.recalls attentive.idle.disabled attentive.heartbeat.disabled
  have completed : { listener.socket with reads := listener.socket.reads - 1 }.onRead true = _ :=
    equal
  unfold Listener.onRead
  rw [completed]
  exact {
    recalls := attentive.recalls
    past := attentive.past
    logged := fun byte member => attentive.logged byte (List.mem_of_mem_drop member)
    idle := .restarted rfl attentive.past
    heartbeat := .restarted rfl attentive.past
    silent := attentive.silent }

theorem Attentive.onReadError (attentive : Attentive listener) (reading : PendingRead) :
    Attentive (listener.onReadError schema reading) :=
  { attentive with
    idle := attentive.idle.frame (fun _ member => member) fun _ member => Or.inl member
    heartbeat := attentive.heartbeat.frame (fun _ member => member) fun _ member => Or.inl member }

theorem Attentive.withSocket (attentive : Attentive listener) {socket : TimedSocket}
    (recalls : socket.recalls = listener.socket.recalls)
    (timeouts : socket.timeouts = listener.socket.timeouts) (now : socket.now = listener.now)
    (idle : Watched listener socket.timeouts.idle socket.idleTimer)
    (heartbeat : Watched listener socket.timeouts.heartbeat socket.heartbeatTimer) :
    Attentive { listener with socket := socket } where
  recalls := recalls.trans attentive.recalls
  past := by
    intro arrival member
    have earlier := attentive.past arrival member
    rw [← now] at earlier
    exact earlier
  logged := attentive.logged
  idle := idle.frame (fun _ member => member) fun _ member => Or.inl member
  heartbeat := heartbeat.frame (fun _ member => member) fun _ member => Or.inl member
  silent := by
    have silent := attentive.silent
    rw [← timeouts] at silent
    exact silent

theorem Attentive.close {socket : TimedSocket} {timer : Timer}
    (attentive : Attentive { listener with socket := socket })
    (silent : listener.isOpen = true →
      Silent socket.timeouts listener.log (.closed timer listener.now)) :
    Attentive (listener.close timer socket) := by
  have same : ∀ arrival, .arrived arrival ∈ (listener.close timer socket).log →
      .arrived arrival ∈ listener.log := by
    intro arrival member
    unfold Listener.close at member
    split at member
    · simpa using member
    · exact member
  exact {
    recalls := attentive.recalls
    past := fun arrival member => attentive.past arrival (same arrival member)
    logged := by
      intro byte member
      have earlier := attentive.logged byte member
      unfold Listener.close
      split
      · exact List.mem_append_left _ earlier
      · exact earlier
    idle := attentive.idle.frame (fun _ member => member)
      fun arrival member => Or.inl (same arrival member)
    heartbeat := attentive.heartbeat.frame (fun _ member => member)
      fun arrival member => Or.inl (same arrival member)
    silent := by
      unfold Listener.close
      split
      next isOpen => exact attentive.silent.append (silent isOpen)
      next => exact attentive.silent }

theorem Watched.silent {timer : Timer} {steady : SteadyTimer Nat} {wait : Wait Nat}
    (watched : Watched listener (timeout listener.socket.timeouts timer) steady)
    (waiting : steady.waiting = some wait) (reached : wait.deadline ≤ listener.now)
    (stale : listener.Stale timer) :
    Silent listener.socket.timeouts listener.log (.closed timer listener.now) := by
  intro arrival member
  rcases watched.covered wait (Or.inl waiting) arrival member with pending | late
  · obtain ⟨byte, unread, rfl⟩ := List.mem_map.mp pending
    exact stale byte unread
  · exact Nat.le_trans late reached

theorem Attentive.stale (attentive : Attentive listener) {timer : Timer}
    (silent : Silent listener.socket.timeouts listener.log (.closed timer listener.now)) :
    listener.Stale timer :=
  fun byte unread => silent byte.2 (attentive.logged byte unread)

theorem Attentive.idleClosed (attentive : Attentive listener) {wait : Wait Nat}
    {socket : TimedSocket} (stale : listener.isOpen = true → listener.Stale .idle)
    (fired : run (Timers.step schema) listener.socket [.expire .idle, .run .idle wait] =
      some socket) : Attentive (listener.close .idle socket) := by
  obtain ⟨waiting, reached, rfl⟩ := idle_fired attentive.idle.settled fired
  apply Attentive.close
  · exact attentive.withSocket rfl rfl rfl .empty attentive.heartbeat
  · exact fun isOpen => attentive.idle.silent waiting reached (stale isOpen)

theorem Attentive.heartbeatClosed (attentive : Attentive listener) {wait : Wait Nat}
    {socket : TimedSocket} (sent : listener.socket.heartbeatSent = true)
    (stale : listener.isOpen = true → listener.Stale .heartbeat)
    (fired : run (Timers.step schema) listener.socket [.expire .heartbeat, .run .heartbeat wait] =
      some socket) : Attentive (listener.close .heartbeat socket) := by
  obtain ⟨waiting, reached, rfl⟩ := heartbeat_fired attentive.heartbeat.settled fired
  rw [TimedSocket.onHeartbeat, if_pos sent]
  apply Attentive.close
  · exact attentive.withSocket rfl rfl rfl attentive.idle .empty
  · exact fun isOpen => attentive.heartbeat.silent waiting reached (stale isOpen)

theorem Attentive.pinged (attentive : Attentive listener) {wait : Wait Nat}
    {socket : TimedSocket} (quiet : listener.socket.heartbeatSent = false)
    (fired : run (Timers.step schema) listener.socket [.expire .heartbeat, .run .heartbeat wait] =
      some socket) : Attentive { listener with socket := socket } := by
  obtain ⟨waiting, reached, rfl⟩ := heartbeat_fired attentive.heartbeat.settled fired
  have enabled : listener.socket.timeouts.heartbeat ≠ 0 := by
    intro none
    rw [attentive.heartbeat.disabled none] at waiting
    cases waiting
  rw [TimedSocket.onHeartbeat, if_neg (Bool.eq_false_iff.mp quiet)]
  refine attentive.withSocket rfl rfl rfl attentive.idle ?_
  simp only [TimedSocket.armHeartbeat, TimedSocket.record, attentive.recalls]
  exact .armed enabled rfl attentive.past

theorem Attentive.step (attentive : Attentive listener) {action : Action}
    (drained : Drained listener action) (taken : Activity.step schema listener action = some next) :
    Attentive next := by
  cases step_cases taken with
  | arrive bytes isOpen received => exact attentive.arrive bytes received
  | elapse duration free => exact attentive.elapse duration
  | read reading outstanding enough => exact attentive.onRead reading
  | readError reading outstanding => exact attentive.onReadError reading
  | write action writes written =>
      exact attentive.withSocket rfl rfl rfl attentive.idle attentive.heartbeat
  | idle wait socket fired => exact attentive.idleClosed drained fired
  | lost wait socket sent fired =>
      exact attentive.heartbeatClosed sent (fun isOpen => drained isOpen sent) fired
  | ping wait socket quiet fired => exact attentive.pinged quiet fired

/-- A close that nothing fresh preceded leaves nothing fresh unread. -/
theorem Attentive.stale_of_close (attentive : Attentive listener) {timer : Timer}
    {socket : TimedSocket} {actions : List Timers.Action} (isOpen : listener.isOpen = true)
    (fired : run (Timers.step schema) listener.socket actions = some socket)
    (silent : Justified (Silent socket.timeouts) (listener.close timer socket).log) :
    listener.Stale timer := by
  rw [timeouts_of_run fired, Listener.close, if_pos isOpen] at silent
  exact attentive.stale silent.last

theorem Attentive.drained (attentive : Attentive listener) {action : Action}
    (taken : Activity.step schema listener action = some next)
    (silent : Justified (Silent next.socket.timeouts) next.log) : Drained listener action := by
  cases step_cases taken with
  | idle wait socket fired =>
      intro isOpen
      exact attentive.stale_of_close isOpen fired silent
  | lost wait socket sent fired =>
      intro isOpen _
      exact attentive.stale_of_close isOpen fired silent
  | ping wait socket quiet fired =>
      intro _ sent
      exact nomatch quiet.symm.trans sent
  | _ => trivial

end Attentive

/-- A run keeps both timers from closing under an active peer if and only if no
timer's handler that closes finds fresh bytes of a read that is not complete. -/
theorem active_peer_kept {schema : Schema} {timeouts : Timeouts} {writes : BoostTcpSocket}
    {maxMessageSize : Nat} {actions : List Action} {listener : Listener}
    (executed : run (step schema) (started timeouts writes maxMessageSize) actions =
      some listener) :
    Always (step schema)
        (fun listener => Justified (Silent listener.socket.timeouts) listener.log)
        (started timeouts writes maxMessageSize) actions ↔
      Throughout (step schema) Drained (started timeouts writes maxMessageSize) actions := by
  apply @always_iff_throughout _ _ _ Attentive _ fun _ => True
  · exact fun listener attentive => attentive.silent
  · exact fun listener action next attentive _ drained taken => attentive.step drained taken
  · exact fun listener action next attentive _ taken silent => attentive.drained taken silent
  · exact Attentive.started timeouts writes maxMessageSize
  · exact fun _ _ => trivial
  · exact executed

/-- One byte arrives at the start and nothing more until the connection is
closed. -/
theorem active_peer_kept_silent :
    let actions : List Action := [.arrive [1], .elapse 5, .idle ⟨1, 5⟩]
    let initial := started { idle := 5 } { maxPendingWrites := 0 } 0
    ∃ listener, run (step flatbuffers) initial actions = some listener ∧
      listener.log = [.arrived 0, .closed .idle 5] ∧
      Always (step flatbuffers)
        (fun listener => Justified (Silent listener.socket.timeouts) listener.log) initial
        actions := by
  intro actions initial
  refine ⟨_, rfl, rfl, ?_⟩
  refine (@active_peer_kept flatbuffers { idle := 5 } { maxPendingWrites := 0 } 0 actions _
    rfl).mpr ?_
  refine (throughout_cons rfl).mpr ⟨trivial, ?_⟩
  refine (throughout_cons rfl).mpr ⟨trivial, ?_⟩
  refine (throughout_cons rfl).mpr ⟨?_, trivial⟩
  intro isOpen byte unread
  cases List.mem_singleton.mp unread
  exact Nat.le_refl _

/-- A byte of the size of a frame arrives two units before the idle timer closes,
and one byte of the answer to a ping one unit before the heartbeat timer does. -/
theorem closed_under_active_peer :
    (∃ listener, run (step flatbuffers) (started { idle := 5 } { maxPendingWrites := 0 } 0)
        [.elapse 3, .arrive [1], .elapse 2, .idle ⟨1, 5⟩] = some listener ∧
      listener.log = [.arrived 3, .closed .idle 5] ∧
      ¬ Justified (Silent listener.socket.timeouts) listener.log) ∧
    ∃ listener, run (step flatbuffers) (started { heartbeat := 5 } { maxPendingWrites := 0 } 0)
        [.elapse 5, .heartbeat ⟨1, 5⟩, .elapse 4, .arrive [1], .elapse 1, .heartbeat ⟨2, 10⟩] =
        some listener ∧
      listener.log = [.arrived 9, .closed .heartbeat 10] ∧
      ¬ Justified (Silent listener.socket.timeouts) listener.log := by
  constructor
  · refine ⟨_, rfl, rfl, ?_⟩
    intro justified
    have silent := justified [.arrived 3] (.closed .idle 5) [] rfl
    exact absurd (silent 3 (by simp)) (by decide)
  · refine ⟨_, rfl, rfl, ?_⟩
    intro justified
    have silent := justified [.arrived 9] (.closed .heartbeat 10) [] rfl
    exact absurd (silent 9 (by simp)) (by decide)

end SocketSL.Activity
