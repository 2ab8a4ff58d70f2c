import SocketSL.Lib.Log
import SocketSL.Network.Deadlines

/-!
# The heartbeat

The heartbeat timer pings after one silent interval and closes after another.
`heartbeat_sent_` stands for a ping that went out, but it is set whatever the
write queue did with the ping, and `async_connect` starts the timer long before
there is a connection to ping over.  The first part is about what a heartbeat
that closes tells of the peer, the second about heartbeats before the handshake.
-/

namespace SocketSL.Timers

open SocketSL.Lib
open SocketSL.Network

/-- A ping was accepted after the handshake, a whole interval before the given
time, and the peer has made no progress since. -/
def Outstanding (timeout : Nat) (log : List Event) (time : Nat) : Prop :=
  ∃ earlier sent middle, log = earlier ++ .pinged sent true :: middle ∧
    .handshakeCompleted true ∈ earlier ∧ sent + timeout ≤ time ∧
    ∀ event ∈ middle, event.isProgress = false

/-- The heartbeat closes the connection only with a ping outstanding. -/
def Unanswered (timeout : Nat) (before : List Event) : Event → Prop
  | .closed .heartbeat _ time => Outstanding timeout before time
  | _ => True

/-- The heartbeat closes no connection before the handshake, and the pings it
sends after the handshake find room in the queue. -/
def Unhindered (socket : TimedSocket) : Action → Prop
  | .run .heartbeat _ =>
      if socket.heartbeatSent then socket.phase = .established
      else socket.phase = .established → HasRoom socket.writes
  | _ => True

theorem Outstanding.append {timeout : Nat} {log : List Event} {time : Nat}
    (outstanding : Outstanding timeout log time) {event : Event}
    (silent : event.isProgress = false) : Outstanding timeout (log ++ [event]) time := by
  obtain ⟨earlier, sent, middle, split, established, interval, quiet⟩ := outstanding
  refine ⟨earlier, sent, middle ++ [event], by simp [split], established, interval, ?_⟩
  intro other member
  rcases List.mem_append.mp member with before | last
  · exact quiet other before
  · cases List.mem_singleton.mp last
    exact silent

theorem Outstanding.later {timeout : Nat} {log : List Event} {deadline time : Nat}
    (outstanding : Outstanding timeout log deadline) (reached : deadline ≤ time) :
    Outstanding timeout log time := by
  obtain ⟨earlier, sent, middle, split, established, interval, quiet⟩ := outstanding
  exact ⟨earlier, sent, middle, split, established, interval.trans reached, quiet⟩

/-- What holds of the heartbeat whatever `heartbeat_sent_` says. -/
structure Tracked (socket : TimedSocket) : Prop where
  recalls : socket.recalls = true
  unanswered : Justified (Unanswered socket.timeouts.heartbeat) socket.log
  expired : ∀ wait ∈ socket.heartbeatTimer.queued, wait.deadline ≤ socket.now
  disabled : socket.timeouts.heartbeat = 0 →
    socket.heartbeatTimer = {} ∧ socket.heartbeatSent = false
  fresh : socket.phase = .fresh → socket.heartbeatTimer = {} ∧ socket.heartbeatSent = false
  established : socket.phase = .established → .handshakeCompleted true ∈ socket.log

/-- After the handshake `heartbeat_sent_` stands for a ping that is outstanding
when the timer expires. -/
structure Watchful (socket : TimedSocket) : Prop extends Tracked socket where
  pinged : socket.heartbeatSent = true → socket.phase = .established →
    ∀ wait, socket.heartbeatTimer.Holds wait →
      Outstanding socket.timeouts.heartbeat socket.log wait.deadline

section Watchful

variable {socket : TimedSocket}

theorem Watchful.initial (timeouts : Timeouts) (writes : BoostTcpSocket) :
    Watchful { timeouts, writes, recalls := true } where
  recalls := rfl
  unanswered := .nil
  expired := fun _ queued => absurd queued (Multiset.notMem_zero _)
  disabled := fun _ => ⟨rfl, rfl⟩
  fresh := fun _ => ⟨rfl, rfl⟩
  established := nofun
  pinged := nofun

theorem Tracked.record (tracked : Tracked socket) {event : Event}
    (allowed : Unanswered socket.timeouts.heartbeat socket.log event) :
    Tracked (socket.record event) :=
  { tracked with
    unanswered := tracked.unanswered.append allowed
    established := fun established =>
      List.mem_append_left _ (tracked.established established) }

theorem Tracked.resetIdleTimer (tracked : Tracked socket) : Tracked socket.resetIdleTimer := by
  unfold TimedSocket.resetIdleTimer
  split
  · exact tracked
  · exact { tracked with }

theorem Tracked.armHeartbeat (tracked : Tracked socket) (advanced : socket.phase ≠ .fresh)
    (enabled : socket.timeouts.heartbeat ≠ 0) : Tracked socket.armHeartbeat := by
  refine { tracked with expired := ?_, disabled := ?_, fresh := ?_ }
  · simp [TimedSocket.armHeartbeat, SteadyTimer.arm, tracked.recalls]
  · exact fun none => absurd none enabled
  · exact fun fresh => absurd fresh advanced

theorem Tracked.resetHeartbeatTimer (tracked : Tracked socket)
    (advanced : socket.phase ≠ .fresh) : Watchful socket.resetHeartbeatTimer := by
  unfold TimedSocket.resetHeartbeatTimer
  split
  next none =>
    refine { tracked with pinged := ?_ }
    intro sent
    exact nomatch sent.symm.trans (tracked.disabled none).2
  next enabled =>
    have silenced : Tracked { socket with heartbeatSent := false } :=
      { tracked with
        disabled := fun none => absurd none enabled
        fresh := fun fresh => absurd fresh advanced }
    exact { silenced.armHeartbeat advanced enabled with pinged := nofun }

theorem Watchful.record (watchful : Watchful socket) {event : Event}
    (allowed : Unanswered socket.timeouts.heartbeat socket.log event)
    (silent : event.isProgress = false) : Watchful (socket.record event) := by
  refine { watchful.toTracked.record allowed with pinged := ?_ }
  intro sent established wait holds
  exact (watchful.pinged sent established wait holds).append silent

theorem Watchful.onRead (watchful : Watchful socket) {isValid : Bool}
    (established : isValid = true → socket.phase = .established) :
    Watchful (socket.onRead isValid) := by
  cases isValid with
  | false => exact watchful
  | true =>
      have advanced : socket.phase ≠ .fresh := by
        intro fresh
        exact nomatch fresh.symm.trans (established rfl)
      have recorded := @Tracked.record socket watchful.toTracked .readCompleted trivial
      apply recorded.resetIdleTimer.resetHeartbeatTimer
      rw [TimedSocket.resetIdleTimer_phase]
      exact advanced

theorem Watchful.onHandshake (watchful : Watchful socket) (isValid : Bool) :
    Watchful (socket.onHandshake isValid) := by
  cases isValid with
  | false =>
      have failed : Watchful { socket with phase := .failed } :=
        { watchful with fresh := nofun, established := nofun, pinged := nofun }
      have recorded := @Watchful.record _ failed (.handshakeCompleted false) trivial rfl
      exact { recorded with }
  | true =>
      have established : Tracked (TimedSocket.record { socket with phase := .established }
          (.handshakeCompleted true)) :=
        { watchful with
          unanswered := watchful.unanswered.append trivial
          fresh := nofun
          established := fun _ => List.mem_append_right _ (List.mem_singleton_self _) }
      have cancelled : Tracked (TimedSocket.record { socket with phase := .established }
          (.handshakeCompleted true)).cancelHandshakeTimer := { established with }
      apply cancelled.resetIdleTimer.resetHeartbeatTimer
      rw [TimedSocket.resetIdleTimer_phase]
      nofun

theorem Watchful.asyncConnect (watchful : Watchful socket) : Watchful socket.asyncConnect := by
  have dialing : Tracked { socket with phase := .dialing, dialedAt := some socket.now } :=
    { watchful with fresh := nofun, established := nofun }
  apply dialing.resetIdleTimer.resetHeartbeatTimer
  rw [TimedSocket.resetIdleTimer_phase]
  nofun

theorem Watchful.asyncHandshake (watchful : Watchful socket) :
    Watchful socket.asyncHandshake := by
  have handshaking : Watchful { socket with phase := .handshaking } :=
    { watchful with fresh := nofun, established := nofun, pinged := nofun }
  unfold TimedSocket.asyncHandshake TimedSocket.resetHandshakeTimer
  split
  · exact handshaking
  · exact { handshaking with }

theorem Tracked.ne_of_queued (tracked : Tracked socket) {wait : Wait Nat}
    (queued : wait ∈ socket.heartbeatTimer.queued) :
    socket.phase ≠ .fresh ∧ socket.timeouts.heartbeat ≠ 0 := by
  have occupied : socket.heartbeatTimer ≠ {} := by
    intro empty
    rw [empty] at queued
    exact absurd queued (Multiset.notMem_zero _)
  exact ⟨fun fresh => occupied (tracked.fresh fresh).1,
    fun none => occupied (tracked.disabled none).1⟩

theorem Watchful.take (watchful : Watchful socket) {wait : Wait Nat} {timer : SteadyTimer Nat}
    (removed : socket.heartbeatTimer.take wait = some timer) :
    Watchful { socket with heartbeatTimer := timer } := by
  obtain ⟨queued, same⟩ := SteadyTimer.take_eq_some removed
  obtain ⟨advanced, enabled⟩ := watchful.ne_of_queued queued
  refine { watchful with expired := ?_, disabled := ?_, fresh := ?_, pinged := ?_ }
  · intro other member
    rw [same] at member
    exact watchful.expired other (Multiset.mem_of_mem_erase member)
  · exact fun none => absurd none enabled
  · exact fun fresh => absurd fresh advanced
  · intro sent established other holds
    exact watchful.pinged sent established other (SteadyTimer.holds_of_take removed holds)

/-- The handler pings when the queue has room, or closes with a ping outstanding. -/
theorem Watchful.onHeartbeat (watchful : Watchful socket) {schema : Schema} {wait : Wait Nat}
    {timer : SteadyTimer Nat} (removed : socket.heartbeatTimer.take wait = some timer)
    (unhindered : Unhindered socket (.run .heartbeat wait)) :
    Watchful (TimedSocket.onHeartbeat schema { socket with heartbeatTimer := timer } wait) := by
  have queued := (SteadyTimer.take_eq_some removed).1
  obtain ⟨advanced, enabled⟩ := watchful.ne_of_queued queued
  have taken := watchful.take removed
  unfold Unhindered at unhindered
  unfold TimedSocket.onHeartbeat
  split
  next sent =>
    rw [if_pos sent] at unhindered
    have outstanding := watchful.pinged sent unhindered wait (Or.inr queued)
    exact taken.record (outstanding.later (watchful.expired wait queued)) rfl
  next unsent =>
    rw [if_neg unsent] at unhindered
    have sending : Tracked { socket with
        heartbeatTimer := timer
        writes := socket.writes.asyncWrite (hbPing schema).header (hbPing schema).body true
        heartbeatSent := true } :=
      { taken.toTracked with
        disabled := fun none => absurd none enabled
        fresh := fun fresh => absurd fresh advanced }
    have recorded := @Tracked.record _ sending
      (.pinged socket.now (decide (HasRoom socket.writes))) trivial
    refine { recorded.armHeartbeat advanced enabled with pinged := ?_ }
    intro sent established other holds
    rcases SteadyTimer.holds_of_arm holds with rfl | ⟨kept, -⟩
    · refine ⟨socket.log, socket.now, [], ?_, watchful.established established, ?_, ?_⟩
      · simp [TimedSocket.armHeartbeat, TimedSocket.record, unhindered established]
      · exact Nat.le_refl _
      · intro event member
        cases member
    · cases kept.symm.trans watchful.recalls

theorem Watchful.expire (watchful : Watchful socket) {timer : SteadyTimer Nat}
    (expired : socket.heartbeatTimer.expire socket.now = some timer) :
    Watchful { socket with heartbeatTimer := timer } := by
  have fewer (wait : Wait Nat) (holds : timer.Holds wait) : socket.heartbeatTimer.Holds wait :=
    SteadyTimer.holds_of_expire expired holds
  refine { watchful with expired := ?_, disabled := ?_, fresh := ?_, pinged := ?_ }
  · intro wait queued
    rcases SteadyTimer.queued_of_expire expired queued with earlier | reached
    · exact watchful.expired wait earlier
    · exact reached
  · intro none
    obtain ⟨empty, unsent⟩ := watchful.disabled none
    exact ⟨SteadyTimer.empty_of_holds empty fewer, unsent⟩
  · intro fresh
    obtain ⟨empty, unsent⟩ := watchful.fresh fresh
    exact ⟨SteadyTimer.empty_of_holds empty fewer, unsent⟩
  · intro sent established wait holds
    exact watchful.pinged sent established wait (fewer wait holds)

theorem Watchful.step (watchful : Watchful socket) {schema : Schema} {next : TimedSocket}
    {action : Action} (unhindered : Unhindered socket action)
    (taken : Timers.step schema socket action = some next) : Watchful next := by
  cases step_cases taken with
  | elapse duration =>
      refine { watchful with expired := ?_ }
      intro wait queued
      exact (watchful.expired wait queued).trans (Nat.le_add_right _ _)
  | asyncConnect fresh => exact watchful.asyncConnect
  | connected isValid dialing =>
      cases isValid with
      | false => exact { watchful with fresh := nofun, established := nofun, pinged := nofun }
      | true => exact { watchful with fresh := nofun, established := nofun, pinged := nofun }
  | asyncHandshake ready => exact watchful.asyncHandshake
  | onHandshake isValid handshaking => exact watchful.onHandshake isValid
  | handshake fresh =>
      obtain ⟨empty, unsent⟩ := watchful.fresh fresh
      refine { watchful with
        unanswered := watchful.unanswered.append trivial, fresh := nofun
        established := ?_, pinged := ?_ }
      · exact fun _ => List.mem_append_right _ (List.mem_singleton_self _)
      · exact fun sent => nomatch sent.symm.trans unsent
  | asyncRead => exact { watchful with }
  | onRead isValid established =>
      have fewer : Watchful { socket with reads := socket.reads - 1 } := { watchful with }
      exact fewer.onRead established
  | write action writes written => exact { watchful with }
  | expireIdle timer expired => exact { watchful with }
  | expireHeartbeat timer expired => exact watchful.expire expired
  | expireHandshake timer expired => exact { watchful with }
  | runIdle wait timer removed =>
      have emptied : Watchful { socket with idleTimer := timer } := { watchful with }
      exact emptied.record trivial rfl
  | runHeartbeat wait timer removed => exact watchful.onHeartbeat removed unhindered
  | runHandshake wait timer removed =>
      have emptied : Watchful { socket with handshakeTimer := timer } := { watchful with }
      exact emptied.record trivial rfl

end Watchful

/-- When re-arming a timer recalls what is queued: in every run in which the
heartbeat's pings find room in the queue and no heartbeat closes before the
handshake, a heartbeat that closes has an accepted ping outstanding for at least
one interval. -/
theorem heartbeat_condemns_unanswered {schema : Schema} {timeouts : Timeouts}
    {writes : BoostTcpSocket} {actions : List Action} {socket : TimedSocket}
    (unhindered : Throughout (step schema) Unhindered
      { timeouts, writes, recalls := true } actions)
    (executed : run (step schema) { timeouts, writes, recalls := true } actions = some socket) :
    Justified (Unanswered timeouts.heartbeat) socket.log := by
  have watchful : Watchful socket := run_invariant Watchful
    (fun socket action next watchful unhindered taken => watchful.step unhindered taken)
    (Watchful.initial timeouts writes) unhindered executed
  have timed := watchful.unanswered
  rw [timeouts_of_run executed] at timed
  exact timed

/-- A ping that is accepted and not answered within an interval. -/
theorem heartbeat_condemns_silent :
    let timeouts : Timeouts := { heartbeat := 5 }
    let actions : List Action := [.asyncHandshake, .onHandshake true, .elapse 5,
      .expire .heartbeat, .run .heartbeat ⟨1, 5⟩, .elapse 5, .expire .heartbeat,
      .run .heartbeat ⟨2, 10⟩]
    ∃ socket, run (step flatbuffers)
        { timeouts, writes := { maxPendingWrites := 1 }, recalls := true } actions =
          some socket ∧
      socket.log = [.handshakeCompleted true, .pinged 5 true, .closed .heartbeat 2 10] ∧
      Justified (Unanswered timeouts.heartbeat) socket.log := by
  intro timeouts actions
  refine ⟨_, rfl, rfl, ?_⟩
  refine @heartbeat_condemns_unanswered flatbuffers timeouts { maxPendingWrites := 1 } actions _
    ?_ rfl
  refine (throughout_cons rfl).mpr ⟨trivial, ?_⟩
  refine (throughout_cons rfl).mpr ⟨trivial, ?_⟩
  refine (throughout_cons rfl).mpr ⟨trivial, ?_⟩
  refine (throughout_cons rfl).mpr ⟨trivial, ?_⟩
  refine (throughout_cons rfl).mpr ⟨?_, ?_⟩
  · exact fun _ => by decide
  refine (throughout_cons rfl).mpr ⟨trivial, ?_⟩
  refine (throughout_cons rfl).mpr ⟨trivial, ?_⟩
  refine (throughout_cons rfl).mpr ⟨rfl, trivial⟩

/-- The queue is full when the timer expires: the ping is rejected, and one
interval later the connection is closed all the same. -/
theorem condemned_by_rejected_ping :
    let timeouts : Timeouts := { heartbeat := 5 }
    ∃ socket, run (step flatbuffers)
        { timeouts, writes := { maxPendingWrites := 1 }, recalls := true }
        [.asyncHandshake, .onHandshake true, .write (.asyncWrite [1] [] false), .elapse 5,
          .expire .heartbeat, .run .heartbeat ⟨1, 5⟩, .elapse 5, .expire .heartbeat,
          .run .heartbeat ⟨2, 10⟩] = some socket ∧
      socket.log = [.handshakeCompleted true, .pinged 5 false, .closed .heartbeat 2 10] ∧
      ¬ Justified (Unanswered timeouts.heartbeat) socket.log := by
  intro timeouts
  refine ⟨_, rfl, rfl, ?_⟩
  intro justified
  obtain ⟨earlier, sent, middle, split, -⟩ := justified
    [.handshakeCompleted true, .pinged 5 false] (.closed .heartbeat 2 10) [] rfl
  have member : .pinged sent true ∈ [Event.handshakeCompleted true, .pinged 5 false] := by
    rw [split]
    simp
  simp at member

/-- The heartbeat pings and closes only after the handshake has succeeded. -/
def Belongs (before : List Event) : Event → Prop
  | .pinged _ _ => .handshakeCompleted true ∈ before
  | .closed .heartbeat _ _ => .handshakeCompleted true ∈ before
  | _ => True

/-- As long as the handshake has not succeeded, less than `heartbeat_timeout` has
passed since `async_connect`. -/
def Prompt (socket : TimedSocket) (_ : Action) : Prop :=
  socket.phase = .established ∨
    ∀ dialedAt, socket.dialedAt = some dialedAt →
      socket.now < dialedAt + socket.timeouts.heartbeat

/-- Before the handshake has succeeded, and with no heartbeat so far, the wait of
`async_connect` is the only one and its handler has yet to run. -/
structure Dialed (socket : TimedSocket) : Prop where
  enabled : socket.timeouts.heartbeat ≠ 0
  expired : ∀ wait ∈ socket.heartbeatTimer.queued, wait.deadline ≤ socket.now
  fresh : socket.phase = .fresh → socket.heartbeatTimer = {} ∧ socket.dialedAt = none
  established : .handshakeCompleted true ∈ socket.log ↔ socket.phase = .established
  sole : Justified Belongs socket.log → socket.phase ≠ .established →
    ∀ wait, socket.heartbeatTimer.Holds wait → ∃ dialedAt, socket.dialedAt = some dialedAt ∧
      wait.deadline = dialedAt + socket.timeouts.heartbeat
  armed : Justified Belongs socket.log → socket.phase ≠ .established →
    ∀ dialedAt, socket.dialedAt = some dialedAt → ∃ wait, socket.heartbeatTimer.Holds wait ∧
      wait.deadline = dialedAt + socket.timeouts.heartbeat

section Dialed

variable {socket next : TimedSocket}

theorem Dialed.initial {timeouts : Timeouts} (enabled : timeouts.heartbeat ≠ 0) (recalls : Bool)
    (writes : BoostTcpSocket) : Dialed { timeouts, recalls, writes } where
  enabled := enabled
  expired := fun _ queued => absurd queued (Multiset.notMem_zero _)
  fresh := fun _ => ⟨rfl, rfl⟩
  established := ⟨nofun, nofun⟩
  sole := fun _ _ _ holds => absurd holds SteadyTimer.not_holds_empty
  armed := nofun

theorem Dialed.frame (dialed : Dialed socket) (timeouts : next.timeouts = socket.timeouts)
    (later : socket.now ≤ next.now) (timer : next.heartbeatTimer = socket.heartbeatTimer)
    (dialedAt : next.dialedAt = socket.dialedAt) (grown : socket.log <+: next.log)
    (fresh : next.phase = .fresh → socket.phase = .fresh)
    (waiting : next.phase ≠ .established → socket.phase ≠ .established)
    (established : .handshakeCompleted true ∈ next.log ↔ next.phase = .established) :
    Dialed next := by
  refine ⟨?_, ?_, ?_, established, ?_, ?_⟩
  · rw [timeouts]
    exact dialed.enabled
  · rw [timer]
    exact fun wait queued => (dialed.expired wait queued).trans later
  · rw [timer, dialedAt]
    exact fun young => dialed.fresh (fresh young)
  · rw [timer, dialedAt, timeouts]
    exact fun justified phase => dialed.sole (justified.of_isPrefix grown) (waiting phase)
  · rw [timer, dialedAt, timeouts]
    exact fun justified phase => dialed.armed (justified.of_isPrefix grown) (waiting phase)

theorem Dialed.close (dialed : Dialed socket) (timer : Timer) (wait : Wait Nat) :
    Dialed (socket.close timer wait) := by
  refine dialed.frame rfl (Nat.le_refl _) rfl rfl (List.prefix_append _ _) id id ?_
  simpa [TimedSocket.close, TimedSocket.record] using dialed.established

theorem Dialed.advance (dialed : Dialed socket) {phase : Phase}
    (waiting : socket.phase ≠ .established) (advanced : phase ≠ .fresh)
    (unfinished : phase ≠ .established) : Dialed { socket with phase := phase } := by
  refine dialed.frame rfl (Nat.le_refl _) rfl rfl (List.prefix_refl _) ?_ ?_ ?_
  · exact fun young => absurd young advanced
  · exact fun _ => waiting
  · exact ⟨fun completed => absurd (dialed.established.mp completed) waiting,
      fun established => absurd established unfinished⟩

/-- Once the handshake has succeeded nothing is left to show. -/
theorem Dialed.done (dialed : Dialed socket) (timeouts : next.timeouts = socket.timeouts)
    (expired : ∀ wait ∈ next.heartbeatTimer.queued, wait.deadline ≤ next.now)
    (established : next.phase = .established) (completed : .handshakeCompleted true ∈ next.log) :
    Dialed next where
  enabled := timeouts ▸ dialed.enabled
  expired := expired
  fresh := fun young => nomatch young.symm.trans established
  established := ⟨fun _ => established, fun _ => completed⟩
  sole := fun _ phase => absurd established phase
  armed := fun _ phase => absurd established phase

theorem Dialed.asyncConnect (dialed : Dialed socket) (young : socket.phase = .fresh) :
    Dialed socket.asyncConnect := by
  obtain ⟨empty, -⟩ := dialed.fresh young
  have incomplete : .handshakeCompleted true ∉ socket.log := by
    rw [dialed.established, young]
    nofun
  obtain ⟨idleTimer, same⟩ := TimedSocket.resetIdleTimer_frame
    { socket with phase := .dialing, dialedAt := some socket.now }
  unfold TimedSocket.asyncConnect
  rw [same, TimedSocket.resetHeartbeatTimer_eq (by exact dialed.enabled)]
  refine ⟨dialed.enabled, ?_, nofun, ?_, ?_, ?_⟩
  · intro wait queued
    have earlier := SteadyTimer.queued_of_arm queued
    rw [show socket.heartbeatTimer.queued = 0 by rw [empty]] at earlier
    exact absurd earlier (Multiset.notMem_zero _)
  · exact ⟨fun completed => absurd completed incomplete, nofun⟩
  · intro justified phase wait holds
    rcases SteadyTimer.holds_of_arm holds with rfl | ⟨-, queued⟩
    · exact ⟨socket.now, rfl, rfl⟩
    · simp only [empty] at queued
      exact absurd queued (Multiset.notMem_zero _)
  · intro justified phase dialedAt dialing
    cases dialing
    exact ⟨_, Or.inl rfl, rfl⟩

theorem Dialed.resets (dialed : Dialed socket) {completed : TimedSocket}
    (timeouts : completed.timeouts = socket.timeouts) (now : completed.now = socket.now)
    (timer : completed.heartbeatTimer = socket.heartbeatTimer)
    (established : completed.phase = .established)
    (logged : .handshakeCompleted true ∈ completed.log) :
    Dialed completed.resetIdleTimer.resetHeartbeatTimer := by
  obtain ⟨idleTimer, same⟩ := completed.resetIdleTimer_frame
  have enabled : completed.timeouts.heartbeat ≠ 0 := timeouts ▸ dialed.enabled
  rw [same, TimedSocket.resetHeartbeatTimer_eq (by exact enabled)]
  refine dialed.done timeouts ?_ established logged
  intro wait queued
  have earlier := SteadyTimer.queued_of_arm queued
  rw [show completed.heartbeatTimer.queued = socket.heartbeatTimer.queued by rw [timer]] at earlier
  exact (dialed.expired wait earlier).trans (Nat.le_of_eq now.symm)

theorem Dialed.onHandshake (dialed : Dialed socket) (handshaking : socket.phase = .handshaking)
    (isValid : Bool) : Dialed (socket.onHandshake isValid) := by
  have incomplete : .handshakeCompleted true ∉ socket.log := by
    rw [dialed.established, handshaking]
    nofun
  cases isValid with
  | false =>
      refine dialed.frame rfl (Nat.le_refl _) rfl rfl (List.prefix_append _ _) nofun ?_ ?_
      · rw [handshaking]
        nofun
      · simp [TimedSocket.onHandshake, TimedSocket.record, TimedSocket.cancelHandshakeTimer,
          incomplete]
  | true =>
      apply dialed.resets
      · rfl
      · rfl
      · rfl
      · rfl
      · exact List.mem_append_right _ (List.mem_singleton_self _)

theorem onHeartbeat_frame (schema : Schema) (socket : TimedSocket) (wait : Wait Nat) :
    ∃ event, (socket.onHeartbeat schema wait).log = socket.log ++ [event] ∧
      (Belongs socket.log event ↔ .handshakeCompleted true ∈ socket.log) ∧
      event ≠ .handshakeCompleted true ∧
      (socket.onHeartbeat schema wait).timeouts = socket.timeouts ∧
      (socket.onHeartbeat schema wait).now = socket.now ∧
      (socket.onHeartbeat schema wait).phase = socket.phase ∧
      ∀ other ∈ (socket.onHeartbeat schema wait).heartbeatTimer.queued,
        other ∈ socket.heartbeatTimer.queued := by
  unfold TimedSocket.onHeartbeat
  split
  · exact ⟨_, rfl, Iff.rfl, nofun, rfl, rfl, rfl, fun _ queued => queued⟩
  · refine ⟨_, rfl, Iff.rfl, nofun, rfl, rfl, rfl, ?_⟩
    exact fun other queued => SteadyTimer.queued_of_arm queued

theorem Dialed.onHeartbeat (dialed : Dialed socket) {schema : Schema} {wait : Wait Nat}
    {timer : SteadyTimer Nat} (removed : socket.heartbeatTimer.take wait = some timer) :
    Dialed (TimedSocket.onHeartbeat schema { socket with heartbeatTimer := timer } wait) := by
  obtain ⟨queued, rfl⟩ := SteadyTimer.take_eq_some removed
  have advanced : socket.phase ≠ .fresh := by
    intro young
    rw [(dialed.fresh young).1] at queued
    exact absurd queued (Multiset.notMem_zero _)
  obtain ⟨event, log, allowed, other, timeouts, now, phase, fewer⟩ := onHeartbeat_frame schema
    { socket with heartbeatTimer :=
      { socket.heartbeatTimer with queued := socket.heartbeatTimer.queued.erase wait } } wait
  have early : Justified Belongs (socket.log ++ [event]) → socket.phase = .established :=
    fun justified => dialed.established.mp (allowed.mp justified.last)
  constructor
  · rw [timeouts]
    exact dialed.enabled
  · intro later member
    rw [now]
    exact dialed.expired later (Multiset.mem_of_mem_erase (fewer later member))
  · rw [phase]
    exact fun young => absurd young advanced
  · rw [log, phase, List.mem_append, List.mem_singleton]
    exact ⟨fun completed => completed.elim dialed.established.mp fun same => absurd same.symm other,
      fun established => Or.inl (dialed.established.mpr established)⟩
  · rw [log, phase]
    exact fun justified waiting => absurd (early justified) waiting
  · rw [log, phase]
    exact fun justified waiting => absurd (early justified) waiting

theorem Dialed.expire (dialed : Dialed socket) {timer : SteadyTimer Nat}
    (expired : socket.heartbeatTimer.expire socket.now = some timer) :
    Dialed { socket with heartbeatTimer := timer } := by
  refine { dialed with expired := ?_, fresh := ?_, sole := ?_, armed := ?_ }
  · intro wait queued
    rcases SteadyTimer.queued_of_expire expired queued with earlier | reached
    · exact dialed.expired wait earlier
    · exact reached
  · intro young
    obtain ⟨empty, undialed⟩ := dialed.fresh young
    refine ⟨SteadyTimer.empty_of_holds empty ?_, undialed⟩
    exact fun wait holds => SteadyTimer.holds_of_expire expired holds
  · intro justified waiting wait holds
    exact dialed.sole justified waiting wait (SteadyTimer.holds_of_expire expired holds)
  · intro justified waiting dialedAt dialing
    obtain ⟨wait, holds, deadline⟩ := dialed.armed justified waiting dialedAt dialing
    exact ⟨wait, SteadyTimer.holds_expire expired holds, deadline⟩

theorem Dialed.step (dialed : Dialed socket) {schema : Schema} {action : Action}
    (taken : Timers.step schema socket action = some next) : Dialed next := by
  have same := dialed.established
  cases step_cases taken with
  | elapse duration =>
      exact dialed.frame rfl (Nat.le_add_right _ _) rfl rfl (List.prefix_refl _) id id same
  | asyncConnect young => exact dialed.asyncConnect young
  | connected isValid dialing =>
      apply dialed.advance
      · rw [dialing]
        nofun
      · cases isValid <;> nofun
      · cases isValid <;> nofun
  | asyncHandshake ready =>
      have waiting : socket.phase ≠ .established := by
        rcases ready with young | connected
        · rw [young]
          nofun
        · rw [connected]
          nofun
      have handshaking := @Dialed.advance socket dialed .handshaking waiting nofun nofun
      unfold TimedSocket.asyncHandshake TimedSocket.resetHandshakeTimer
      split
      · exact handshaking
      · exact { handshaking with }
  | onHandshake isValid handshaking => exact dialed.onHandshake handshaking isValid
  | handshake young =>
      refine dialed.done rfl dialed.expired rfl ?_
      exact List.mem_append_right _ (List.mem_singleton_self _)
  | asyncRead => exact { dialed with }
  | onRead isValid established =>
      cases isValid with
      | false => exact { dialed with }
      | true =>
          apply dialed.resets
          · rfl
          · rfl
          · rfl
          · exact established rfl
          · exact List.mem_append_left _ (same.mpr (established rfl))
  | write action writes written => exact { dialed with }
  | expireIdle timer expired => exact { dialed with }
  | expireHeartbeat timer expired => exact dialed.expire expired
  | expireHandshake timer expired => exact { dialed with }
  | runIdle wait timer removed =>
      have emptied : Dialed { socket with idleTimer := timer } := { dialed with }
      exact emptied.close .idle wait
  | runHeartbeat wait timer removed => exact dialed.onHeartbeat removed
  | runHandshake wait timer removed =>
      have emptied : Dialed { socket with handshakeTimer := timer } := { dialed with }
      exact emptied.close .handshake wait

theorem Dialed.belongs (dialed : Dialed socket) (justified : Justified Belongs socket.log)
    {schema : Schema} {action : Action} (prompt : Prompt socket action)
    (taken : Timers.step schema socket action = some next) : Justified Belongs next.log := by
  cases step_cases taken with
  | asyncConnect young => simpa [TimedSocket.asyncConnect] using justified
  | asyncHandshake ready =>
      unfold TimedSocket.asyncHandshake TimedSocket.resetHandshakeTimer
      split <;> exact justified
  | onHandshake isValid handshaking =>
      cases isValid with
      | false => exact justified.append trivial
      | true =>
          have appended :=
            @Justified.append _ Belongs _ justified (.handshakeCompleted true) trivial
          simpa [TimedSocket.onHandshake, TimedSocket.cancelHandshakeTimer, TimedSocket.record]
            using appended
  | handshake young => exact justified.append trivial
  | onRead isValid established =>
      cases isValid with
      | false => exact justified
      | true =>
          have appended := @Justified.append _ Belongs _ justified .readCompleted trivial
          simpa [TimedSocket.onRead, TimedSocket.record] using appended
  | runIdle wait timer removed => exact justified.append trivial
  | runHeartbeat wait timer removed =>
      have queued := (SteadyTimer.take_eq_some removed).1
      obtain ⟨event, log, allowed, -⟩ :=
        onHeartbeat_frame schema { socket with heartbeatTimer := timer } wait
      rw [log]
      refine justified.append (allowed.mpr (dialed.established.mpr ?_))
      by_contra waiting
      obtain ⟨dialedAt, dialing, deadline⟩ := dialed.sole justified waiting wait (Or.inr queued)
      have reached := dialed.expired wait queued
      have early := (prompt.resolve_left waiting) dialedAt dialing
      omega
  | runHandshake wait timer removed => exact justified.append trivial
  | _ => exact justified

theorem Dialed.early (dialed : Dialed socket) (schema : Schema)
    (waiting : socket.phase ≠ .established) {wait : Wait Nat}
    (queued : wait ∈ socket.heartbeatTimer.queued) :
    ∃ next, Timers.step schema socket (.run .heartbeat wait) = some next ∧
      ¬ Justified Belongs next.log := by
  have removed : socket.heartbeatTimer.take wait =
      some { socket.heartbeatTimer with queued := socket.heartbeatTimer.queued.erase wait } :=
    if_pos queued
  refine ⟨_, congrArg (Option.map _) removed, ?_⟩
  intro justified
  obtain ⟨event, log, allowed, -⟩ := onHeartbeat_frame schema
    { socket with heartbeatTimer :=
      { socket.heartbeatTimer with queued := socket.heartbeatTimer.queued.erase wait } } wait
  rw [log] at justified
  exact waiting (dialed.established.mp (allowed.mp justified.last))

/-- Actions of the heartbeat timer alone, in no time. -/
def Action.isHeartbeat : Action → Bool
  | .expire .heartbeat => true
  | .run .heartbeat _ => true
  | _ => false

/-- A heartbeat that is due before the handshake has succeeded can run at once. -/
theorem Dialed.overdue (dialed : Dialed socket) (schema : Schema) {action : Action}
    (late : ¬ Prompt socket action) :
    ∃ heartbeat next, (∀ action ∈ heartbeat, action.isHeartbeat = true) ∧
      run (Timers.step schema) socket heartbeat = some next ∧ ¬ Justified Belongs next.log := by
  by_cases justified : Justified Belongs socket.log
  · obtain ⟨waiting, notEarly⟩ := not_or.mp late
    obtain ⟨dialedAt, notYet⟩ := not_forall.mp notEarly
    obtain ⟨dialing, passed⟩ := Classical.not_imp.mp notYet
    obtain ⟨wait, holds, deadline⟩ := dialed.armed justified waiting dialedAt dialing
    have reached : wait.deadline ≤ socket.now := by omega
    rcases holds with armed | queued
    · have expires : Timers.step schema socket (.expire .heartbeat) =
          some { socket with heartbeatTimer := ⟨none, wait ::ₘ socket.heartbeatTimer.queued⟩ } := by
        simp [Timers.step, SteadyTimer.expire, armed, reached]
      obtain ⟨next, taken, broken⟩ := (dialed.step expires).early schema waiting
        (Multiset.mem_cons_self wait _)
      refine ⟨[.expire .heartbeat, .run .heartbeat wait], next, by simp [Action.isHeartbeat], ?_,
        broken⟩
      rw [run_cons_eq_some]
      refine ⟨_, expires, ?_⟩
      rw [run_cons_eq_some]
      exact ⟨next, taken, rfl⟩
    · obtain ⟨next, taken, broken⟩ := dialed.early schema waiting queued
      refine ⟨[.run .heartbeat wait], next, by simp [Action.isHeartbeat], ?_, broken⟩
      rw [run_cons_eq_some]
      exact ⟨next, taken, rfl⟩
  · exact ⟨[], socket, nofun, rfl, justified⟩

end Dialed

/-- For an outbound connection: if in every step before the handshake has
succeeded less than `heartbeat_timeout` has passed since `async_connect`, the
heartbeat neither pings nor closes before the handshake; and in a state in which
that much has passed, it can do so at once. -/
theorem heartbeat_belongs_when_prompt {schema : Schema} {timeouts : Timeouts}
    (enabled : timeouts.heartbeat ≠ 0) {recalls : Bool} {writes : BoostTcpSocket}
    {actions : List Action} {socket : TimedSocket}
    (executed : run (step schema) { timeouts, recalls, writes } (.asyncConnect :: actions) =
      some socket) :
    (Throughout (step schema) Prompt { timeouts, recalls, writes } (.asyncConnect :: actions) →
      Justified Belongs socket.log) ∧
    ∀ action, ¬ Prompt socket action → ∃ heartbeat next,
      (∀ action ∈ heartbeat, action.isHeartbeat = true) ∧
      run (step schema) socket heartbeat = some next ∧ ¬ Justified Belongs next.log := by
  have initial := Dialed.initial enabled recalls writes
  have dialed : Dialed socket := run_invariant_of_step Dialed
    (fun socket action next dialed taken => dialed.step taken) initial executed
  refine ⟨?_, fun action late => dialed.overdue schema late⟩
  intro prompt
  exact (run_invariant (fun socket => Dialed socket ∧ Justified Belongs socket.log)
    (fun socket action next holds prompt taken =>
      ⟨holds.1.step taken, holds.1.belongs holds.2 prompt taken⟩)
    ⟨initial, .nil⟩ prompt executed).2

/-- A handshake that is done in time, and a ping one interval later. -/
theorem heartbeat_belongs_after_handshake :
    let timeouts : Timeouts := { heartbeat := 10 }
    let actions : List Action := [.connected true, .asyncHandshake, .elapse 3, .onHandshake true,
      .elapse 10, .expire .heartbeat, .run .heartbeat ⟨1, 13⟩]
    ∃ socket, run (step flatbuffers)
        { timeouts, recalls := true, writes := { maxPendingWrites := 0 } }
        (.asyncConnect :: actions) = some socket ∧
      socket.log = [.handshakeCompleted true, .pinged 13 true] ∧
      Justified Belongs socket.log := by
  intro timeouts actions
  refine ⟨_, rfl, rfl, ?_⟩
  refine (@heartbeat_belongs_when_prompt flatbuffers timeouts (by decide) true
    { maxPendingWrites := 0 } actions _ rfl).1 ?_
  have within (socket : TimedSocket) (dialedAt : socket.dialedAt = some 0)
      (early : socket.now < 10) (same : socket.timeouts = timeouts) (action : Action) :
      Prompt socket action := by
    refine Or.inr fun start begun => ?_
    cases dialedAt.symm.trans begun
    rw [same]
    exact early
  refine (throughout_cons rfl).mpr ⟨Or.inr nofun, ?_⟩
  refine (throughout_cons rfl).mpr ⟨within _ rfl (by decide) rfl _, ?_⟩
  refine (throughout_cons rfl).mpr ⟨within _ rfl (by decide) rfl _, ?_⟩
  refine (throughout_cons rfl).mpr ⟨within _ rfl (by decide) rfl _, ?_⟩
  refine (throughout_cons rfl).mpr ⟨within _ rfl (by decide) rfl _, ?_⟩
  refine (throughout_cons rfl).mpr ⟨Or.inl rfl, ?_⟩
  refine (throughout_cons rfl).mpr ⟨Or.inl rfl, ?_⟩
  exact (throughout_cons rfl).mpr ⟨Or.inl rfl, trivial⟩

/-- A handshake that takes a whole interval: the socket pings into it. -/
theorem pinged_before_handshake :
    ∃ socket, run (step flatbuffers)
        { timeouts := { heartbeat := 10 }, recalls := true, writes := { maxPendingWrites := 0 } }
        [.asyncConnect, .connected true, .asyncHandshake, .elapse 10, .expire .heartbeat,
          .run .heartbeat ⟨0, 10⟩] = some socket ∧
      socket.phase = .handshaking ∧ socket.log = [.pinged 10 true] ∧
      ¬ Justified Belongs socket.log := by
  refine ⟨_, rfl, rfl, rfl, ?_⟩
  intro justified
  exact absurd (justified [] (.pinged 10 true) [] rfl) List.not_mem_nil

end SocketSL.Timers
