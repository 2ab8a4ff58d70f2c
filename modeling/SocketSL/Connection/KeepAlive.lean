import SocketSL.Connection.Activity

/-!
# A connection in time

Handlers run without delay and re-arming a timer recalls its previous wait.
Then what the timers do is determined by the times at which reads complete: an
open connection is pinged one heartbeat after the last read, and closed two
heartbeats after it or one idle timeout after it, whichever is earlier, neither
sooner nor later.  A peer whose answer to a ping is read in time keeps the
connection.
-/

namespace SocketSL.Activity

open SocketSL.Lib
open SocketSL.Network
open SocketSL.Timers
open SocketSL.Session (PendingRead)

/-- What happens to an open connection, and the reads. -/
inductive Beat where
  | read (time : Nat)
  | pinged (time : Nat)
  | closed (timer : Timer) (time : Nat)
  deriving DecidableEq

def Beat.time : Beat → Nat
  | .read time => time
  | .pinged time => time
  | .closed _ time => time

def Beat.isRead : Beat → Bool
  | .read _ => true
  | _ => false

/-- What an action adds to the record. -/
def beats (listener : Listener) (action : Action) (_ : Listener) : List Beat :=
  match action with
  | .read => [.read listener.now]
  | .idle _ => if listener.isOpen then [.closed .idle listener.now] else []
  | .heartbeat _ =>
      if listener.isOpen then
        if listener.socket.heartbeatSent then [.closed .heartbeat listener.now]
        else [.pinged listener.now]
      else []
  | _ => []

/-- The time of the last read, or of the start. -/
def lastRead (past : List Beat) : Nat :=
  past.foldl (fun last beat => if beat.isRead then beat.time else last) 0

@[simp]
theorem lastRead_read (past : List Beat) (time : Nat) : lastRead (past ++ [.read time]) = time := by
  simp [lastRead, List.foldl_append, Beat.isRead, Beat.time]

theorem lastRead_other (past : List Beat) {beat : Beat} (other : beat.isRead = false) :
    lastRead (past ++ [beat]) = lastRead past := by
  simp [lastRead, List.foldl_append, other]

variable (timeouts : Timeouts)

/-- The ping that the last read made due has been sent. -/
def PingedSince (past : List Beat) : Prop :=
  ∃ before after, past = before ++ .pinged (lastRead past + timeouts.heartbeat) :: after ∧
    ∀ beat ∈ after, beat.isRead = false

/-- Pings and closes come exactly when they are due. -/
def OnTime (before : List Beat) : Beat → Prop
  | .read _ => True
  | .pinged time => time = lastRead before + timeouts.heartbeat
  | .closed .idle time => time = lastRead before + timeouts.idle ∧
      (timeouts.heartbeat ≠ 0 → timeouts.heartbeat < timeouts.idle → PingedSince timeouts before)
  | .closed .heartbeat time =>
      time = lastRead before + 2 * timeouts.heartbeat ∧ PingedSince timeouts before
  | .closed .handshake _ => False

/-- The timer waits for this time, which has not passed. -/
def Due (timer : SteadyTimer Nat) (now deadline : Nat) : Prop :=
  now ≤ deadline ∧ ∃ wait, timer.waiting = some wait ∧ wait.deadline = deadline

theorem Due.reached {timer : SteadyTimer Nat} {now deadline : Nat} (due : Due timer now deadline)
    {wait : Wait Nat} (waiting : timer.waiting = some wait) (passed : wait.deadline ≤ now) :
    now = deadline := by
  obtain ⟨before, armed, waitingToo, same⟩ := due
  cases waiting.symm.trans waitingToo
  omega

theorem due_restarted {socket : TimedSocket} {timeout : Nat} (enabled : timeout ≠ 0) :
    Due (restarted socket timeout) socket.now (socket.now + timeout) := by
  rw [restarted, if_neg enabled]
  exact ⟨Nat.le_add_right _ _, _, rfl, rfl⟩

theorem queued_restarted (socket : TimedSocket) (timeout : Nat) :
    (restarted socket timeout).queued = 0 := by
  unfold restarted
  split <;> rfl

theorem restarted_off {socket : TimedSocket} {timeout : Nat} (off : timeout = 0) :
    restarted socket timeout = {} :=
  if_pos off

theorem restart_heartbeatSent (socket : TimedSocket) :
    socket.resetIdleTimer.resetHeartbeatTimer.heartbeatSent =
      if socket.timeouts.heartbeat = 0 then socket.heartbeatSent else false := by
  obtain ⟨idleTimer, equal⟩ := socket.resetIdleTimer_frame
  rw [equal, TimedSocket.resetHeartbeatTimer]
  split <;> rfl

/-- Both timers of an open connection wait for what the last read made due. -/
structure Timely (listener : Listener) (past : List Beat) : Prop where
  configured : listener.socket.timeouts = timeouts
  recalls : listener.socket.recalls = true
  idleSettled : listener.socket.idleTimer.queued = 0
  heartbeatSettled : listener.socket.heartbeatTimer.queued = 0
  idleOff : timeouts.idle = 0 → listener.socket.idleTimer = {}
  heartbeatOff : timeouts.heartbeat = 0 →
    listener.socket.heartbeatTimer = {} ∧ listener.socket.heartbeatSent = false
  idle : listener.isOpen = true → timeouts.idle ≠ 0 →
    Due listener.socket.idleTimer listener.now (lastRead past + timeouts.idle)
  heartbeat : listener.isOpen = true → timeouts.heartbeat ≠ 0 →
    Due listener.socket.heartbeatTimer listener.now (lastRead past +
      if listener.socket.heartbeatSent then 2 * timeouts.heartbeat else timeouts.heartbeat)
  pinged : listener.isOpen = true → listener.socket.heartbeatSent = true →
    PingedSince timeouts past
  onTime : Justified (OnTime timeouts) past

section Timely

variable {timeouts} {schema : Schema} {listener next : Listener} {past : List Beat}

theorem Timely.started (writes : BoostTcpSocket) (maxMessageSize : Nat) :
    Timely timeouts (started timeouts writes maxMessageSize) [] := by
  have sent := restart_heartbeatSent
    { timeouts, writes, recalls := true, phase := .established, reads := 1
      log := [.handshakeCompleted true] }
  unfold Activity.started connected
  obtain ⟨heartbeatSent, equal⟩ := @restart_eq
    { timeouts, writes, recalls := true, phase := .established, reads := 1
      log := [.handshakeCompleted true] } rfl (fun _ => rfl) fun _ => rfl
  rw [equal] at sent ⊢
  obtain rfl : heartbeatSent = false := by simpa using sent
  exact {
    configured := rfl
    recalls := rfl
    idleSettled := queued_restarted _ _
    heartbeatSettled := queued_restarted _ _
    idleOff := restarted_off
    heartbeatOff := fun off => ⟨restarted_off off, rfl⟩
    idle := fun _ enabled => due_restarted enabled
    heartbeat := fun _ enabled => due_restarted enabled
    pinged := fun _ sent => absurd sent Bool.false_ne_true
    onTime := .nil }

theorem Timely.onRead (timely : Timely timeouts listener past) (reading : PendingRead) :
    Timely timeouts (listener.onRead schema reading) (past ++ [.read listener.now]) := by
  let completed : TimedSocket :=
    TimedSocket.record { listener.socket with reads := listener.socket.reads - 1 } .readCompleted
  have configured : completed.timeouts = timeouts := timely.configured
  have sent := restart_heartbeatSent completed
  obtain ⟨heartbeatSent, equal⟩ := @restart_eq completed timely.recalls
    (by rw [configured]; exact timely.idleOff)
    (by rw [configured]; exact fun off => (timely.heartbeatOff off).1)
  rw [equal, configured] at sent
  obtain rfl : heartbeatSent = false := by
    refine sent.trans ?_
    split
    next off => exact (timely.heartbeatOff off).2
    next => rfl
  have onRead : { listener.socket with reads := listener.socket.reads - 1 }.onRead true =
      { completed with
        idleTimer := restarted completed completed.timeouts.idle
        heartbeatTimer := restarted completed completed.timeouts.heartbeat
        heartbeatSent := false } := equal
  unfold Listener.onRead
  rw [onRead, configured]
  exact {
    configured := rfl
    recalls := timely.recalls
    idleSettled := queued_restarted _ _
    heartbeatSettled := queued_restarted _ _
    idleOff := restarted_off
    heartbeatOff := fun off => ⟨restarted_off off, rfl⟩
    idle := by
      intro _ enabled
      rw [lastRead_read]
      exact due_restarted enabled
    heartbeat := by
      intro _ enabled
      rw [lastRead_read]
      exact due_restarted enabled
    pinged := fun _ sent => absurd sent Bool.false_ne_true
    onTime := timely.onTime.append trivial }

theorem Due.elapse {timer : SteadyTimer Nat} {now deadline duration : Nat}
    (due : Due timer now deadline)
    (free : ∀ wait ∈ timer.waiting, now + duration ≤ wait.deadline) :
    Due timer (now + duration) deadline := by
  obtain ⟨-, wait, waiting, same⟩ := due
  have within := free wait waiting
  exact ⟨by omega, wait, waiting, same⟩

theorem Timely.elapse (timely : Timely timeouts listener past) {duration : Nat}
    (free : listener.Free duration) : Timely timeouts (listener.elapse duration) past :=
  { timely with
    idle := fun isOpen enabled => (timely.idle isOpen enabled).elapse free.2.1
    heartbeat := fun isOpen enabled => (timely.heartbeat isOpen enabled).elapse free.2.2 }

theorem Timely.closed (timely : Timely timeouts listener past) {timer : Timer}
    {socket : TimedSocket} (configured : socket.timeouts = timeouts)
    (recalls : socket.recalls = true) (idleSettled : socket.idleTimer.queued = 0)
    (heartbeatSettled : socket.heartbeatTimer.queued = 0)
    (idleOff : timeouts.idle = 0 → socket.idleTimer = {})
    (heartbeatOff : timeouts.heartbeat = 0 →
      socket.heartbeatTimer = {} ∧ socket.heartbeatSent = false)
    (due : listener.isOpen = true → OnTime timeouts past (.closed timer listener.now)) :
    Timely timeouts (listener.close timer socket)
      (past ++ if listener.isOpen then [.closed timer listener.now] else []) where
  configured := configured
  recalls := recalls
  idleSettled := idleSettled
  heartbeatSettled := heartbeatSettled
  idleOff := idleOff
  heartbeatOff := heartbeatOff
  idle := fun isOpen => absurd isOpen Bool.false_ne_true
  heartbeat := fun isOpen => absurd isOpen Bool.false_ne_true
  pinged := fun isOpen => absurd isOpen Bool.false_ne_true
  onTime := by
    split
    next isOpen => exact timely.onTime.append (due isOpen)
    next =>
      rw [List.append_nil]
      exact timely.onTime

theorem Timely.idle_enabled (timely : Timely timeouts listener past) {wait : Wait Nat}
    (waiting : listener.socket.idleTimer.waiting = some wait) : timeouts.idle ≠ 0 := by
  intro off
  rw [timely.idleOff off] at waiting
  cases waiting

theorem Timely.heartbeat_enabled (timely : Timely timeouts listener past) {wait : Wait Nat}
    (waiting : listener.socket.heartbeatTimer.waiting = some wait) : timeouts.heartbeat ≠ 0 := by
  intro off
  rw [(timely.heartbeatOff off).1] at waiting
  cases waiting

/-- When the idle timer fires the last read was one idle timeout ago, and the
ping that came due in the meantime has been sent. -/
theorem Timely.idle_onTime (timely : Timely timeouts listener past) {wait : Wait Nat}
    (waiting : listener.socket.idleTimer.waiting = some wait)
    (reached : wait.deadline ≤ listener.now) (isOpen : listener.isOpen = true) :
    OnTime timeouts past (.closed .idle listener.now) := by
  have now := (timely.idle isOpen (timely.idle_enabled waiting)).reached waiting reached
  refine ⟨now, ?_⟩
  intro pinging sooner
  obtain ⟨before, -⟩ := timely.heartbeat isOpen pinging
  apply timely.pinged isOpen
  by_contra quiet
  rw [if_neg quiet] at before
  omega

theorem Timely.heartbeat_onTime (timely : Timely timeouts listener past) {wait : Wait Nat}
    (waiting : listener.socket.heartbeatTimer.waiting = some wait)
    (reached : wait.deadline ≤ listener.now) (isOpen : listener.isOpen = true) :
    listener.now = lastRead past +
      if listener.socket.heartbeatSent then 2 * timeouts.heartbeat else timeouts.heartbeat :=
  (timely.heartbeat isOpen (timely.heartbeat_enabled waiting)).reached waiting reached

/-- The ping is sent one heartbeat after the last read, and the close is due one
heartbeat later. -/
theorem Timely.ping (timely : Timely timeouts listener past) {wait : Wait Nat}
    {socket : TimedSocket} (quiet : listener.socket.heartbeatSent = false)
    (fired : run (Timers.step schema) listener.socket [.expire .heartbeat, .run .heartbeat wait] =
      some socket) :
    Timely timeouts { listener with socket := socket }
      (past ++ beats listener (.heartbeat wait) { listener with socket := socket }) := by
  obtain ⟨waiting, reached, rfl⟩ := heartbeat_fired timely.heartbeatSettled fired
  have enabled := timely.heartbeat_enabled waiting
  have onTime : listener.isOpen = true → listener.now = lastRead past + timeouts.heartbeat := by
    intro isOpen
    have now := timely.heartbeat_onTime waiting reached isOpen
    rwa [if_neg (Bool.eq_false_iff.mp quiet)] at now
  rw [TimedSocket.onHeartbeat, if_neg (Bool.eq_false_iff.mp quiet)]
  generalize recorded : past ++ beats listener (.heartbeat wait) _ = longer
  have opened : listener.isOpen = true → longer = past ++ [.pinged listener.now] := by
    intro isOpen
    rw [← recorded]
    simp [beats, isOpen, quiet]
  have shut : listener.isOpen = false → longer = past := by
    intro isClosed
    rw [← recorded]
    simp [beats, isClosed]
  have unchanged : listener.isOpen = true → lastRead longer = lastRead past := by
    intro isOpen
    rw [opened isOpen, lastRead_other past rfl]
  exact {
    configured := timely.configured
    recalls := timely.recalls
    idleSettled := timely.idleSettled
    heartbeatSettled := by
      simp only [TimedSocket.armHeartbeat, TimedSocket.record, timely.recalls]
      rfl
    idleOff := timely.idleOff
    heartbeatOff := fun off => absurd off enabled
    idle := by
      intro isOpen idling
      rw [unchanged isOpen]
      exact timely.idle isOpen idling
    heartbeat := by
      intro isOpen _
      have now := onTime isOpen
      have configured := timely.configured
      rw [unchanged isOpen]
      refine ⟨?_, _, rfl, ?_⟩
      · change listener.now ≤ lastRead past + 2 * timeouts.heartbeat
        omega
      · change listener.now + listener.socket.timeouts.heartbeat =
          lastRead past + 2 * timeouts.heartbeat
        rw [configured]
        omega
    pinged := by
      intro isOpen _
      refine ⟨past, [], ?_, ?_⟩
      · rw [unchanged isOpen, ← onTime isOpen]
        exact opened isOpen
      · intro beat member
        cases member
    onTime := by
      cases isOpen : listener.isOpen with
      | true =>
          rw [opened isOpen]
          exact timely.onTime.append (onTime isOpen)
      | false =>
          rw [shut isOpen]
          exact timely.onTime }

theorem Timely.step (timely : Timely timeouts listener past) {action : Action}
    (taken : Activity.step schema listener action = some next) :
    Timely timeouts next (past ++ beats listener action next) := by
  cases step_cases taken with
  | arrive bytes isOpen received =>
      simp only [beats, List.append_nil]
      exact { timely with }
  | elapse duration free =>
      simp only [beats, List.append_nil]
      exact timely.elapse free
  | read reading outstanding enough => exact timely.onRead reading
  | readError reading outstanding =>
      simp only [beats, List.append_nil]
      exact { timely with }
  | write action writes written =>
      simp only [beats, List.append_nil]
      exact { timely with }
  | idle wait socket fired =>
      obtain ⟨waiting, reached, rfl⟩ := idle_fired timely.idleSettled fired
      exact timely.closed timely.configured timely.recalls rfl timely.heartbeatSettled
        (fun _ => rfl) timely.heartbeatOff (timely.idle_onTime waiting reached)
  | lost wait socket sent fired =>
      obtain ⟨waiting, reached, rfl⟩ := heartbeat_fired timely.heartbeatSettled fired
      have enabled := timely.heartbeat_enabled waiting
      simp only [beats, if_pos sent]
      rw [TimedSocket.onHeartbeat, if_pos sent]
      refine timely.closed timely.configured timely.recalls timely.idleSettled rfl
        timely.idleOff (fun off => absurd off enabled) ?_
      intro isOpen
      have now := timely.heartbeat_onTime waiting reached isOpen
      rw [if_pos sent] at now
      exact ⟨now, timely.pinged isOpen sent⟩
  | ping wait socket quiet fired => exact timely.ping quiet fired

end Timely

/-- While a ping is unanswered, it was sent no more than the delay ago. -/
def Answered (delay : Nat) (listener : Listener) (past : List Beat) : Prop :=
  listener.socket.heartbeatSent = true → ∀ before time after,
    past = before ++ .pinged time :: after → (∀ beat ∈ after, beat.isRead = false) →
      listener.now ≤ time + delay

end SocketSL.Activity
