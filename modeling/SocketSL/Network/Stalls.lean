import SocketSL.Network.Timers

/-!
# Connections that are not established in time

A dial arms the idle timer and a handshake the handshake timer, and nothing
puts either off until the handshake has completed.  When handlers run without
delay, the handler that closes the stream has run right at the deadline of a
connection that is pending beyond it.  Whether the close ends the attempt is
another matter: a resolve that is under way is not cancelled, and the dial that
follows it has no deadline.
-/

namespace SocketSL.Timers

open SocketSL.Lib
open SocketSL.Network

def TimedSocket.timer (socket : TimedSocket) : Timer → SteadyTimer Nat
  | .idle => socket.idleTimer
  | .heartbeat => socket.heartbeatTimer
  | .handshake => socket.handshakeTimer

/-- Time passes only while no handler is due. -/
def Urgent (socket : TimedSocket) : Action → Prop
  | .elapse duration => ∀ timer, (socket.timer timer).queued = 0 ∧
      ∀ wait ∈ (socket.timer timer).waiting, socket.now + duration ≤ wait.deadline
  | _ => True

/-- Every action with the time at which it happened. -/
def timed (socket : TimedSocket) (action : Action) (_ : TimedSocket) : List (Nat × Action) :=
  [(socket.now, action)]

/-- The handler of the timer ran at that time. -/
def Fired (timer : Timer) (time : Nat) (past : List (Nat × Action)) : Prop :=
  ∃ wait, (time, .run timer wait) ∈ past

/-- The timer waits for a deadline that has not passed, and for no other. -/
structure Guarded (timer : SteadyTimer Nat) (now deadline : Nat) : Prop where
  within : now ≤ deadline
  armed : ∃ wait, timer.Holds wait
  awaited : ∀ wait, timer.Holds wait → wait.deadline = deadline
  expired : ∀ wait ∈ timer.queued, wait.deadline ≤ now

/-- The handshake has not completed. -/
def Phase.isPending : Phase → Bool
  | .dialing => true
  | .connected => true
  | .handshaking => true
  | _ => false

/-- Dials and handshakes that are under way are guarded by their timers. -/
structure Supervised (socket : TimedSocket) (past : List (Nat × Action)) : Prop where
  undialed : socket.phase = .fresh →
    socket.idleTimer = {} ∧ ∀ time, (time, .asyncConnect) ∉ past
  unshaken : socket.phase = .fresh ∨ socket.phase = .dialing ∨ socket.phase = .connected →
    socket.handshakeTimer = {} ∧ ∀ time, (time, .asyncHandshake) ∉ past
  dialing : socket.phase.isPending = true → socket.timeouts.idle ≠ 0 →
    ∀ time, (time, .asyncConnect) ∈ past →
      Fired .idle (time + socket.timeouts.idle) past ∨
        Guarded socket.idleTimer socket.now (time + socket.timeouts.idle)
  handshaking : socket.phase = .handshaking → socket.timeouts.handshake ≠ 0 →
    ∀ time, (time, .asyncHandshake) ∈ past →
      Fired .handshake (time + socket.timeouts.handshake) past ∨
        Guarded socket.handshakeTimer socket.now (time + socket.timeouts.handshake)

section Guarded

variable {timer next : SteadyTimer Nat} {now deadline : Nat}

theorem Guarded.arm {recalls : Bool} {wait : Wait Nat} (later : now ≤ wait.deadline) :
    Guarded (SteadyTimer.arm {} recalls wait) now wait.deadline where
  within := later
  armed := ⟨wait, Or.inl rfl⟩
  awaited := by
    intro other holds
    rcases SteadyTimer.holds_of_arm holds with rfl | ⟨-, queued⟩
    · rfl
    · exact absurd queued (Multiset.notMem_zero _)
  expired := fun _ queued => absurd (SteadyTimer.queued_of_arm queued) (Multiset.notMem_zero _)

theorem Guarded.expire (guarded : Guarded timer now deadline)
    (expires : timer.expire now = some next) : Guarded next now deadline where
  within := guarded.within
  armed := by
    obtain ⟨wait, holds⟩ := guarded.armed
    exact ⟨wait, SteadyTimer.holds_expire expires holds⟩
  awaited := fun wait holds => guarded.awaited wait (SteadyTimer.holds_of_expire expires holds)
  expired := by
    intro wait queued
    rcases SteadyTimer.queued_of_expire expires queued with earlier | reached
    · exact guarded.expired wait earlier
    · exact reached

theorem Guarded.now_eq_of_take (guarded : Guarded timer now deadline) {wait : Wait Nat}
    (taken : timer.take wait = some next) : now = deadline := by
  obtain ⟨queued, -⟩ := SteadyTimer.take_eq_some taken
  have reached := guarded.expired wait queued
  have awaited := guarded.awaited wait (Or.inr queued)
  have within := guarded.within
  omega

theorem Guarded.elapse (guarded : Guarded timer now deadline) {duration : Nat}
    (settled : timer.queued = 0)
    (free : ∀ wait ∈ timer.waiting, now + duration ≤ wait.deadline) :
    Guarded timer (now + duration) deadline := by
  refine { guarded with within := ?_, expired := ?_ }
  · obtain ⟨wait, holds⟩ := guarded.armed
    rw [← guarded.awaited wait holds]
    rcases holds with waiting | queued
    · exact free wait waiting
    · rw [settled] at queued
      exact absurd queued (Multiset.notMem_zero _)
  · intro wait queued
    rw [settled] at queued
    exact absurd queued (Multiset.notMem_zero _)

end Guarded

/-- What an action does to a timer that guards a deadline: it leaves it to guard
the deadline, or runs its handler at the deadline. -/
structure Minded (kind : Timer) (timer next : SteadyTimer Nat) (now : Nat) (action : Action) :
    Prop where
  idle : timer = {} → next = {}
  guarding : ∀ deadline, Guarded timer now deadline →
    Guarded next now deadline ∨ now = deadline ∧ ∃ wait, action = .run kind wait

section Minded

variable {kind : Timer} {timer next : SteadyTimer Nat} {now : Nat} {action : Action}

theorem Minded.refl : Minded kind timer timer now action where
  idle := id
  guarding := fun _ guarded => Or.inl guarded

theorem Minded.expire (expires : timer.expire now = some next) :
    Minded kind timer next now action where
  idle := fun empty =>
    SteadyTimer.empty_of_holds empty fun _ holds => SteadyTimer.holds_of_expire expires holds
  guarding := fun _ guarded => Or.inl (guarded.expire expires)

theorem Minded.run {wait : Wait Nat} (taken : timer.take wait = some next) :
    Minded kind timer next now (.run kind wait) where
  idle := fun empty =>
    SteadyTimer.empty_of_holds empty fun _ holds => SteadyTimer.holds_of_take taken holds
  guarding := fun _ guarded => Or.inr ⟨guarded.now_eq_of_take taken, wait, rfl⟩

end Minded

section Supervised

variable {schema : Schema} {socket next : TimedSocket} {past : List (Nat × Action)}
  {action : Action} {timer : Timer}

theorem Fired.append {time : Nat} (fired : Fired timer time past) (more : List (Nat × Action)) :
    Fired timer time (past ++ more) := by
  obtain ⟨wait, member⟩ := fired
  exact ⟨wait, List.mem_append_left _ member⟩

theorem Minded.append {before after : SteadyTimer Nat} {now deadline : Nat}
    (minded : Minded timer before after now action)
    (guarded : Fired timer deadline past ∨ Guarded before now deadline) :
    Fired timer deadline (past ++ [(now, action)]) ∨ Guarded after now deadline := by
  rcases guarded with fired | guarded
  · exact Or.inl (fired.append _)
  · rcases minded.guarding deadline guarded with still | ⟨rfl, wait, rfl⟩
    · exact Or.inr still
    · exact Or.inl ⟨wait, List.mem_append_right _ (List.mem_singleton_self _)⟩

theorem mem_of_mem_append {time now : Nat} {other : Action} (different : other ≠ action)
    (member : (time, other) ∈ past ++ [(now, action)]) : (time, other) ∈ past := by
  rcases List.mem_append.mp member with before | last
  · exact before
  · cases List.mem_singleton.mp last
    exact absurd rfl different

theorem Supervised.fresh (timeouts : Timeouts) (recalls : Bool) (writes : BoostTcpSocket) :
    Supervised { timeouts, recalls, writes } [] where
  undialed := by simp
  unshaken := by simp
  dialing := by simp
  handshaking := by simp

theorem Supervised.of_completed (completed : next.phase = .established ∨ next.phase = .failed) :
    Supervised next past := by
  rcases completed with phase | phase
  · constructor <;> simp [phase, Phase.isPending]
  · constructor <;> simp [phase, Phase.isPending]

/-- An action between the stages leaves their timers, or runs their handlers. -/
theorem Supervised.frame (supervised : Supervised socket past) (phase : next.phase = socket.phase)
    (timeouts : next.timeouts = socket.timeouts) (now : next.now = socket.now)
    (idle : Minded .idle socket.idleTimer next.idleTimer socket.now action)
    (handshake : Minded .handshake socket.handshakeTimer next.handshakeTimer socket.now action)
    (notConnect : .asyncConnect ≠ action) (notHandshake : .asyncHandshake ≠ action) :
    Supervised next (past ++ timed socket action next) := by
  refine ⟨?_, ?_, ?_, ?_⟩
  · intro isFresh
    obtain ⟨empty, undialed⟩ := supervised.undialed (phase.symm.trans isFresh)
    exact ⟨idle.idle empty, fun time member =>
      undialed time (mem_of_mem_append notConnect member)⟩
  · intro before
    rw [phase] at before
    obtain ⟨empty, unshaken⟩ := supervised.unshaken before
    exact ⟨handshake.idle empty, fun time member =>
      unshaken time (mem_of_mem_append notHandshake member)⟩
  · intro pending enabled time member
    rw [phase] at pending
    rw [timeouts] at enabled ⊢
    rw [now]
    exact idle.append (supervised.dialing pending enabled time
      (mem_of_mem_append notConnect member))
  · intro pending enabled time member
    rw [phase] at pending
    rw [timeouts] at enabled ⊢
    rw [now]
    exact handshake.append (supervised.handshaking pending enabled time
      (mem_of_mem_append notHandshake member))

theorem Supervised.elapse (supervised : Supervised socket past) {duration : Nat}
    (urgent : Urgent socket (.elapse duration)) :
    Supervised { socket with now := socket.now + duration }
      (past ++ [(socket.now, .elapse duration)]) := by
  have dialed : Action.asyncConnect ≠ .elapse duration := by simp
  have shaken : Action.asyncHandshake ≠ .elapse duration := by simp
  refine ⟨?_, ?_, ?_, ?_⟩
  · intro isFresh
    obtain ⟨empty, undialed⟩ := supervised.undialed isFresh
    exact ⟨empty, fun time member => undialed time (mem_of_mem_append dialed member)⟩
  · intro before
    obtain ⟨empty, unshaken⟩ := supervised.unshaken before
    exact ⟨empty, fun time member => unshaken time (mem_of_mem_append shaken member)⟩
  · intro pending enabled time member
    obtain ⟨settled, free⟩ := urgent .idle
    rcases supervised.dialing pending enabled time (mem_of_mem_append dialed member) with
      fired | guarded
    · exact Or.inl (fired.append _)
    · exact Or.inr (guarded.elapse settled free)
  · intro pending enabled time member
    obtain ⟨settled, free⟩ := urgent .handshake
    rcases supervised.handshaking pending enabled time (mem_of_mem_append shaken member) with
      fired | guarded
    · exact Or.inl (fired.append _)
    · exact Or.inr (guarded.elapse settled free)

theorem asyncConnect_frame (socket : TimedSocket) :
    socket.asyncConnect.phase = .dialing ∧ socket.asyncConnect.timeouts = socket.timeouts ∧
      socket.asyncConnect.now = socket.now ∧
        socket.asyncConnect.handshakeTimer = socket.handshakeTimer := by
  obtain ⟨_, _, _, equal⟩ := TimedSocket.restart_frame
    { socket with phase := .dialing, dialedAt := some socket.now }
  rw [TimedSocket.asyncConnect, equal]
  exact ⟨rfl, rfl, rfl, rfl⟩

theorem asyncConnect_idleTimer (enabled : socket.timeouts.idle ≠ 0) :
    socket.asyncConnect.idleTimer =
      socket.idleTimer.arm socket.recalls (socket.wait socket.timeouts.idle) := by
  have armed : TimedSocket.resetIdleTimer
      { socket with phase := .dialing, dialedAt := some socket.now } =
        { socket with
          phase := .dialing
          dialedAt := some socket.now
          idleTimer := socket.idleTimer.arm socket.recalls (socket.wait socket.timeouts.idle) } :=
    if_neg enabled
  rw [TimedSocket.asyncConnect, armed, TimedSocket.resetHeartbeatTimer]
  split <;> rfl

theorem Supervised.asyncConnect (supervised : Supervised socket past)
    (isFresh : socket.phase = .fresh) :
    Supervised socket.asyncConnect (past ++ [(socket.now, .asyncConnect)]) := by
  obtain ⟨phase, timeouts, now, handshakeTimer⟩ := asyncConnect_frame socket
  obtain ⟨empty, undialed⟩ := supervised.undialed isFresh
  refine ⟨?_, ?_, ?_, ?_⟩
  · intro fresh
    rw [phase] at fresh
    cases fresh
  · intro _
    obtain ⟨idle, unshaken⟩ := supervised.unshaken (Or.inl isFresh)
    refine ⟨handshakeTimer.trans idle, ?_⟩
    exact fun time member => unshaken time (mem_of_mem_append (by simp) member)
  · intro _ enabled time member
    rw [timeouts] at enabled ⊢
    rcases List.mem_append.mp member with before | last
    · exact absurd before (undialed time)
    · cases List.mem_singleton.mp last
      apply Or.inr
      rw [now, asyncConnect_idleTimer enabled, empty]
      exact Guarded.arm (Nat.le_add_right _ _)
  · intro handshaking
    rw [phase] at handshaking
    cases handshaking

theorem Supervised.asyncHandshake (supervised : Supervised socket past)
    (ready : socket.phase = .fresh ∨ socket.phase = .connected) :
    Supervised socket.asyncHandshake (past ++ [(socket.now, .asyncHandshake)]) := by
  obtain ⟨handshakeTimer, equal, armed⟩ : ∃ handshakeTimer, socket.asyncHandshake =
      { socket with phase := .handshaking, handshakeTimer } ∧
        (socket.timeouts.handshake ≠ 0 → handshakeTimer =
          socket.handshakeTimer.arm socket.recalls (socket.wait socket.timeouts.handshake)) := by
    unfold TimedSocket.asyncHandshake TimedSocket.resetHandshakeTimer
    split
    next off => exact ⟨_, rfl, fun enabled => absurd off enabled⟩
    next => exact ⟨_, rfl, fun _ => rfl⟩
  have early : socket.phase = .fresh ∨ socket.phase = .dialing ∨ socket.phase = .connected := by
    rcases ready with fresh | connected
    · exact Or.inl fresh
    · exact Or.inr (Or.inr connected)
  obtain ⟨empty, unshaken⟩ := supervised.unshaken early
  rw [equal]
  refine ⟨?_, ?_, ?_, ?_⟩
  · intro fresh
    cases fresh
  · rintro (fresh | dialing | connected) <;> contradiction
  · intro _ enabled time member
    rcases List.mem_append.mp member with before | last
    · rcases ready with fresh | connected
      · exact absurd before ((supervised.undialed fresh).2 time)
      · rcases supervised.dialing (by rw [connected]; rfl) enabled time before with fired | guarded
        · exact Or.inl (fired.append _)
        · exact Or.inr guarded
    · cases List.mem_singleton.mp last
  · intro _ enabled time member
    rcases List.mem_append.mp member with before | last
    · exact absurd before (unshaken time)
    · cases List.mem_singleton.mp last
      apply Or.inr
      rw [armed enabled, empty]
      exact Guarded.arm (Nat.le_add_right _ _)

theorem Supervised.step (supervised : Supervised socket past) (urgent : Urgent socket action)
    (taken : Timers.step schema socket action = some next) :
    Supervised next (past ++ timed socket action next) := by
  cases step_cases taken with
  | elapse duration => exact supervised.elapse urgent
  | asyncConnect fresh => exact supervised.asyncConnect fresh
  | connected isValid dialing =>
      cases isValid with
      | false => exact .of_completed (Or.inr rfl)
      | true =>
          have framed : Supervised socket (past ++ timed socket (.connected true) socket) :=
            supervised.frame rfl rfl rfl .refl .refl (by simp) (by simp)
          refine ⟨?_, ?_, ?_, ?_⟩
          · intro fresh
            cases fresh
          · exact fun _ => framed.unshaken (Or.inr (Or.inl dialing))
          · exact fun _ => framed.dialing (by rw [dialing]; rfl)
          · intro handshaking
            cases handshaking
  | asyncHandshake ready => exact supervised.asyncHandshake ready
  | onHandshake isValid handshaking =>
      cases isValid with
      | false => exact .of_completed (Or.inr rfl)
      | true =>
          obtain ⟨_, _, _, equal⟩ := TimedSocket.restart_frame (TimedSocket.cancelHandshakeTimer
            (TimedSocket.record { socket with phase := .established } (.handshakeCompleted true)))
          have completed : socket.onHandshake true = _ := equal
          rw [completed]
          exact .of_completed (Or.inl rfl)
  | handshake fresh => exact .of_completed (Or.inl rfl)
  | asyncRead => exact supervised.frame rfl rfl rfl .refl .refl (by simp) (by simp)
  | onRead isValid established =>
      cases isValid with
      | false => exact supervised.frame rfl rfl rfl .refl .refl (by simp) (by simp)
      | true =>
          obtain ⟨_, _, _, equal⟩ := TimedSocket.restart_frame
            (TimedSocket.record { socket with reads := socket.reads - 1 } .readCompleted)
          have completed : { socket with reads := socket.reads - 1 }.onRead true = _ := equal
          rw [completed]
          exact .of_completed (Or.inl (established rfl))
  | write action writes written =>
      exact supervised.frame rfl rfl rfl .refl .refl (by simp) (by simp)
  | expireIdle timer expired =>
      exact supervised.frame rfl rfl rfl (.expire expired) .refl (by simp) (by simp)
  | expireHeartbeat timer expired =>
      exact supervised.frame rfl rfl rfl .refl .refl (by simp) (by simp)
  | expireHandshake timer expired =>
      exact supervised.frame rfl rfl rfl .refl (.expire expired) (by simp) (by simp)
  | runIdle wait timer removed =>
      exact supervised.frame rfl rfl rfl (.run removed) .refl (by simp) (by simp)
  | runHeartbeat wait timer removed =>
      unfold TimedSocket.onHeartbeat
      split
      · exact supervised.frame rfl rfl rfl .refl .refl (by simp) (by simp)
      · exact supervised.frame rfl rfl rfl .refl .refl (by simp) (by simp)
  | runHandshake wait timer removed =>
      exact supervised.frame rfl rfl rfl .refl (.run removed) (by simp) (by simp)

end Supervised

/-- With handlers that run without delay: if the handshake of a connection has
not completed when more than one idle timeout has passed since its dial, or more
than one handshake timeout since the handshake began, then the handler that
closes the stream ran exactly one timeout after that. -/
theorem stalled_attempt_closed {schema : Schema} {timeouts : Timeouts} {recalls : Bool}
    {writes : BoostTcpSocket} {actions : List Action} {socket : TimedSocket}
    {past : List (Nat × Action)}
    (executed : run (recorded (step schema) timed) ({ timeouts, recalls, writes }, []) actions =
      some (socket, past))
    (urgent : Throughout (recorded (step schema) timed)
      (fun observed action => Urgent observed.1 action) ({ timeouts, recalls, writes }, [])
      actions) :
    (∀ start, (start, .asyncConnect) ∈ past → timeouts.idle ≠ 0 →
      socket.phase.isPending = true → start + timeouts.idle < socket.now →
        Fired .idle (start + timeouts.idle) past) ∧
    (∀ start, (start, .asyncHandshake) ∈ past → timeouts.handshake ≠ 0 →
      socket.phase = .handshaking → start + timeouts.handshake < socket.now →
        Fired .handshake (start + timeouts.handshake) past) := by
  obtain ⟨supervised, configured⟩ := run_invariant
    (fun observed => Supervised observed.1 observed.2 ∧ observed.1.timeouts = timeouts)
    (by
      rintro ⟨socket, past⟩ action ⟨next, longer⟩ ⟨supervised, configured⟩ urgent taken
      obtain ⟨next, moved, same⟩ := recorded_eq_some.mp taken
      cases same
      exact ⟨supervised.step urgent moved, (step_timeouts moved).trans configured⟩)
    ⟨Supervised.fresh timeouts recalls writes, rfl⟩ urgent executed
  subst configured
  refine ⟨?_, ?_⟩
  · intro start dialed enabled pending late
    rcases supervised.dialing pending enabled start dialed with fired | guarded
    · exact fired
    · exact absurd guarded.within (Nat.not_le.mpr late)
  · intro start begun enabled handshaking late
    rcases supervised.handshaking handshaking enabled start begun with fired | guarded
    · exact fired
    · exact absurd guarded.within (Nat.not_le.mpr late)

/-- A handshake that is never answered. -/
theorem stalled_attempt_closed_unanswered :
    let actions : List Action := [.elapse 2, .asyncHandshake, .elapse 5, .expire .handshake,
      .run .handshake ⟨0, 7⟩, .elapse 1]
    ∃ socket past, run (recorded (step flatbuffers) timed)
        ({ timeouts := { handshake := 5 }, recalls := false,
           writes := { maxPendingWrites := 0 } }, []) actions = some (socket, past) ∧
      Fired .handshake 7 past := by
  intro actions
  refine ⟨_, _, rfl, ?_⟩
  refine (@stalled_attempt_closed flatbuffers { handshake := 5 } false { maxPendingWrites := 0 }
    actions _ _ rfl ?_).2 2 (by simp [timed]) (by decide) rfl (by decide)
  refine (throughout_cons rfl).mpr ⟨?_, ?_⟩
  · rintro (_ | _ | _) <;> refine ⟨rfl, ?_⟩ <;> rintro wait ⟨⟩
  refine (throughout_cons rfl).mpr ⟨trivial, ?_⟩
  refine (throughout_cons rfl).mpr ⟨?_, ?_⟩
  · rintro (_ | _ | _) <;> refine ⟨rfl, ?_⟩ <;> rintro wait ⟨⟩
    decide
  refine (throughout_cons rfl).mpr ⟨trivial, ?_⟩
  refine (throughout_cons rfl).mpr ⟨trivial, ?_⟩
  refine (throughout_cons rfl).mpr ⟨?_, trivial⟩
  rintro (_ | _ | _) <;> refine ⟨rfl, ?_⟩ <;> rintro wait ⟨⟩

end SocketSL.Timers
