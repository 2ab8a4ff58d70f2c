import SocketSL.Network.Timers
import SocketSL.Lib.Log

/-!
# Deadlines that have been cancelled

`expires_after` and `cancel` abort the wait that has not expired.  A wait that
has expired and whose handler is queued still runs with success, and the
handlers look at nothing else.  A deadline closes the connection after the
completion that should have put it off only if its handler was queued when that
completion was handled.
-/

namespace SocketSL.Timers

open SocketSL.Lib
open SocketSL.Network

/-- The peer has made progress: a read or the handshake has succeeded. -/
def Event.isProgress : Event → Bool
  | .handshakeCompleted isValid => isValid
  | .readCompleted => true
  | _ => false

def Event.isHandshake : Event → Bool
  | .handshakeCompleted _ => true
  | _ => false

/-- The idle timer closes only if no read and no handshake has completed since
its wait was armed, the handshake timer only if the handshake has not completed. -/
def Punctual (before : List Event) : Event → Prop
  | .closed .idle since _ => ∀ event ∈ before.drop since, event.isProgress = false
  | .closed .handshake _ _ => ∀ event ∈ before, event.isHandshake = false
  | _ => True

/-- No handler of an expired wait is queued when the completion that puts the
deadline off is handled. -/
def Settled (socket : TimedSocket) : Action → Prop
  | .onRead true => socket.idleTimer.queued = 0
  | .onHandshake isValid =>
      socket.handshakeTimer.queued = 0 ∧ (isValid = true → socket.idleTimer.queued = 0)
  | _ => True

/-- The handshake has not been completed and has not been given up before. -/
def Phase.Open : Phase → Prop
  | .fresh => True
  | .dialing => True
  | .connected => True
  | .handshaking => True
  | _ => False

/-- Every wait that may still close the connection is one that may. -/
structure Current (socket : TimedSocket) : Prop where
  punctual : Justified Punctual socket.log
  marked : ∀ wait, socket.idleTimer.Holds wait → wait.mark ≤ socket.log.length
  idle : ∀ wait, socket.idleTimer.Holds wait →
    ∀ event ∈ socket.log.drop wait.mark, event.isProgress = false
  handshake : ∀ wait, socket.handshakeTimer.Holds wait →
    ∀ event ∈ socket.log, event.isHandshake = false
  disabled : socket.timeouts.idle = 0 → socket.idleTimer = {}
  fresh : socket.phase = .fresh → socket.idleTimer = {} ∧ socket.handshakeTimer = {}
  unfinished : socket.phase.Open → ∀ event ∈ socket.log, event.isHandshake = false

section Current

variable {socket : TimedSocket}

theorem Current.initial (timeouts : Timeouts) (recalls : Bool) (writes : BoostTcpSocket) :
    Current { timeouts, recalls, writes } where
  punctual := .nil
  marked := fun _ holds => absurd holds SteadyTimer.not_holds_empty
  idle := fun _ holds => absurd holds SteadyTimer.not_holds_empty
  handshake := fun _ holds => absurd holds SteadyTimer.not_holds_empty
  disabled := fun _ => rfl
  fresh := fun _ => ⟨rfl, rfl⟩
  unfinished := nofun

theorem Current.record (current : Current socket) {event : Event}
    (allowed : Punctual socket.log event)
    (idle : event.isProgress = false ∨ socket.idleTimer = {})
    (other : event.isHandshake = false ∨ socket.handshakeTimer = {} ∧ ¬ socket.phase.Open) :
    Current (socket.record event) := by
  refine { current with
    punctual := current.punctual.append allowed
    marked := ?_, idle := ?_, handshake := ?_, unfinished := ?_ }
  · intro wait holds
    have marked := current.marked wait holds
    simp only [TimedSocket.record, List.length_append]
    omega
  · intro wait holds later member
    simp only [TimedSocket.record,
      List.drop_append_of_le_length (current.marked wait holds)] at member
    rcases List.mem_append.mp member with earlier | last
    · exact current.idle wait holds later earlier
    · cases List.mem_singleton.mp last
      rcases idle with quiet | empty
      · exact quiet
      · have held : socket.idleTimer.Holds wait := holds
        rw [empty] at held
        exact absurd held SteadyTimer.not_holds_empty
  · intro wait holds later member
    rcases List.mem_append.mp member with earlier | last
    · exact current.handshake wait holds later earlier
    · cases List.mem_singleton.mp last
      rcases other with quiet | ⟨empty, -⟩
      · exact quiet
      · have held : socket.handshakeTimer.Holds wait := holds
        rw [empty] at held
        exact absurd held SteadyTimer.not_holds_empty
  · intro unfinished later member
    rcases List.mem_append.mp member with earlier | last
    · exact current.unfinished unfinished later earlier
    · cases List.mem_singleton.mp last
      rcases other with quiet | ⟨-, finished⟩
      · exact quiet
      · exact absurd unfinished finished

theorem Current.timers (current : Current socket) {idleTimer handshakeTimer : SteadyTimer Nat}
    (idle : ∀ wait, idleTimer.Holds wait → socket.idleTimer.Holds wait)
    (handshake : ∀ wait, handshakeTimer.Holds wait → socket.handshakeTimer.Holds wait) :
    Current { socket with idleTimer, handshakeTimer } where
  punctual := current.punctual
  marked := fun wait holds => current.marked wait (idle wait holds)
  idle := fun wait holds => current.idle wait (idle wait holds)
  handshake := fun wait holds => current.handshake wait (handshake wait holds)
  disabled := fun none => SteadyTimer.empty_of_holds (current.disabled none) idle
  fresh := fun fresh =>
    ⟨SteadyTimer.empty_of_holds (current.fresh fresh).1 idle,
      SteadyTimer.empty_of_holds (current.fresh fresh).2 handshake⟩
  unfinished := current.unfinished

theorem Current.resetHeartbeatTimer (current : Current socket) :
    Current socket.resetHeartbeatTimer := by
  unfold TimedSocket.resetHeartbeatTimer
  split
  · exact current
  · exact { current with }

theorem Current.resetIdleTimer (current : Current socket) (advanced : socket.phase ≠ .fresh) :
    Current socket.resetIdleTimer := by
  unfold TimedSocket.resetIdleTimer
  split
  next => exact current
  next enabled =>
    have armed (wait : Wait Nat) (holds : (socket.idleTimer.arm socket.recalls
        (socket.wait socket.timeouts.idle)).Holds wait) :
        wait = socket.wait socket.timeouts.idle ∨ socket.idleTimer.Holds wait := by
      rcases SteadyTimer.holds_of_arm holds with same | ⟨-, queued⟩
      · exact Or.inl same
      · exact Or.inr (Or.inr queued)
    refine { current with marked := ?_, idle := ?_, disabled := ?_, fresh := ?_ }
    · intro wait holds
      rcases armed wait holds with rfl | earlier
      · exact Nat.le_refl _
      · exact current.marked wait earlier
    · intro wait holds
      rcases armed wait holds with rfl | earlier
      · simp [TimedSocket.wait]
      · exact current.idle wait earlier
    · exact fun none => absurd none enabled
    · exact fun fresh => absurd fresh advanced

/-- With nothing queued, re-arming starts from an empty timer. -/
theorem Current.resetIdleTimer_eq (current : Current socket)
    (settled : socket.idleTimer.queued = 0) (event : Event) :
    (socket.record event).resetIdleTimer =
      (TimedSocket.record { socket with idleTimer := {} } event).resetIdleTimer := by
  by_cases none : socket.timeouts.idle = 0
  · rw [show socket = { socket with idleTimer := {} } from by rw [← current.disabled none]]
  · simp only [TimedSocket.resetIdleTimer, TimedSocket.record, none, if_false,
      TimedSocket.wait]
    rw [SteadyTimer.arm_of_settled settled]

theorem Current.onRead (current : Current socket) {isValid : Bool}
    (established : isValid = true → socket.phase = .established)
    (settled : Settled socket (.onRead isValid)) : Current (socket.onRead isValid) := by
  cases isValid with
  | false => exact current
  | true =>
      have emptied : Current { socket with idleTimer := {} } :=
        current.timers (fun wait holds => absurd holds SteadyTimer.not_holds_empty)
          fun wait holds => holds
      simp only [TimedSocket.onRead, if_true]
      rw [current.resetIdleTimer_eq settled]
      apply Current.resetHeartbeatTimer
      apply Current.resetIdleTimer
      · exact emptied.record trivial (Or.inr rfl) (Or.inl rfl)
      · intro fresh
        cases fresh.symm.trans (established rfl)

theorem Current.finish (current : Current socket) {phase : Phase} (finished : ¬ phase.Open) :
    Current { socket with phase := phase, handshakeTimer := {} } := by
  have emptied : Current { socket with handshakeTimer := {} } :=
    current.timers (fun wait holds => holds)
      fun wait holds => absurd holds SteadyTimer.not_holds_empty
  refine { emptied with fresh := ?_, unfinished := ?_ }
  · rintro rfl
    exact absurd trivial finished
  · exact fun unfinished => absurd unfinished finished

theorem Current.onHandshake (current : Current socket) {isValid : Bool}
    (settled : Settled socket (.onHandshake isValid)) :
    Current (socket.onHandshake isValid) := by
  have cancelled := @SteadyTimer.cancel_of_settled _ socket.handshakeTimer socket.recalls settled.1
  cases isValid with
  | false =>
      have failed := @Current.finish socket current .failed id
      simp only [TimedSocket.onHandshake, TimedSocket.cancelHandshakeTimer, TimedSocket.record,
        cancelled, Bool.false_eq_true, if_false]
      exact failed.record trivial (Or.inl rfl) (Or.inr ⟨rfl, id⟩)
  | true =>
      have established := @Current.finish socket current .established id
      have emptied : Current { socket with
          phase := .established, handshakeTimer := {}, idleTimer := {} } :=
        established.timers (fun wait holds => absurd holds SteadyTimer.not_holds_empty)
          fun wait holds => holds
      have restarted := established.resetIdleTimer_eq (settled.2 rfl) (.handshakeCompleted true)
      simp only [TimedSocket.onHandshake, TimedSocket.cancelHandshakeTimer, if_true]
      simp only [TimedSocket.record, cancelled] at restarted ⊢
      rw [restarted]
      apply Current.resetHeartbeatTimer
      apply Current.resetIdleTimer
      · exact emptied.record trivial (Or.inr rfl) (Or.inr ⟨rfl, id⟩)
      · intro fresh
        cases fresh

theorem Current.asyncConnect (current : Current socket) (fresh : socket.phase = .fresh) :
    Current socket.asyncConnect := by
  have dialing : Current { socket with phase := .dialing, dialedAt := some socket.now } :=
    { current with
      fresh := nofun
      unfinished := fun _ => current.unfinished (by rw [fresh]; trivial) }
  apply Current.resetHeartbeatTimer
  exact dialing.resetIdleTimer nofun

theorem Current.asyncHandshake (current : Current socket)
    (ready : socket.phase = .fresh ∨ socket.phase = .connected) :
    Current socket.asyncHandshake := by
  have unfinished : ∀ event ∈ socket.log, event.isHandshake = false := by
    apply current.unfinished
    rcases ready with fresh | connected
    · rw [fresh]
      trivial
    · rw [connected]
      trivial
  have handshaking : Current { socket with phase := .handshaking } :=
    { current with fresh := nofun, unfinished := fun _ => unfinished }
  unfold TimedSocket.asyncHandshake TimedSocket.resetHandshakeTimer
  split
  · exact handshaking
  · exact { handshaking with fresh := nofun, handshake := fun _ _ => unfinished }

theorem Current.onHeartbeat (current : Current socket) (schema : Schema) (wait : Wait Nat) :
    Current (socket.onHeartbeat schema wait) := by
  unfold TimedSocket.onHeartbeat
  split
  · exact current.record trivial (Or.inl rfl) (Or.inl rfl)
  · have pinged := @Current.record socket current
      (.pinged socket.now (decide (HasRoom socket.writes))) trivial (Or.inl rfl) (Or.inl rfl)
    exact { pinged with }

theorem Current.step (current : Current socket) {schema : Schema} {next : TimedSocket}
    {action : Action} (settled : Settled socket action)
    (taken : Timers.step schema socket action = some next) : Current next := by
  cases step_cases taken with
  | elapse duration => exact { current with }
  | asyncConnect fresh => exact current.asyncConnect fresh
  | connected isValid dialing =>
      refine { current with fresh := ?_, unfinished := ?_ }
      · cases isValid <;> nofun
      · exact fun _ => current.unfinished (by rw [dialing]; trivial)
  | asyncHandshake ready => exact current.asyncHandshake ready
  | onHandshake isValid handshaking => exact current.onHandshake settled
  | handshake fresh =>
      obtain ⟨idle, handshake⟩ := current.fresh fresh
      have established : Current { socket with phase := .established } :=
        { current with fresh := nofun, unfinished := nofun }
      exact established.record trivial (Or.inr idle) (Or.inr ⟨handshake, id⟩)
  | asyncRead => exact { current with }
  | onRead isValid established =>
      have fewer : Current { socket with reads := socket.reads - 1 } := { current with }
      exact fewer.onRead established (by cases isValid <;> exact settled)
  | write action writes written => exact { current with }
  | expireIdle timer expired =>
      exact current.timers (fun wait holds => SteadyTimer.holds_of_expire expired holds)
        fun wait holds => holds
  | expireHeartbeat timer expired => exact { current with }
  | expireHandshake timer expired =>
      exact current.timers (fun wait holds => holds)
        fun wait holds => SteadyTimer.holds_of_expire expired holds
  | runIdle wait timer removed =>
      have held := (SteadyTimer.take_eq_some removed).1
      apply Current.record
      · exact current.timers (fun wait holds => SteadyTimer.holds_of_take removed holds)
          fun wait holds => holds
      · exact current.idle wait (Or.inr held)
      · exact Or.inl rfl
      · exact Or.inl rfl
  | runHeartbeat wait timer removed =>
      apply Current.onHeartbeat
      exact { current with }
  | runHandshake wait timer removed =>
      have held := (SteadyTimer.take_eq_some removed).1
      apply Current.record
      · exact current.timers (fun wait holds => holds)
          fun wait holds => SteadyTimer.holds_of_take removed holds
      · exact current.handshake wait (Or.inr held)
      · exact Or.inl rfl
      · exact Or.inl rfl

end Current

/-- In every run in which no handler of an expired wait is queued when a
completion puts its deadline off, a deadline closes the connection only if the
peer has missed it. -/
theorem deadlines_punctual {schema : Schema} {timeouts : Timeouts} {recalls : Bool}
    {writes : BoostTcpSocket} {actions : List Action} {socket : TimedSocket}
    (settled : Throughout (step schema) Settled { timeouts, recalls, writes } actions)
    (executed : run (step schema) { timeouts, recalls, writes } actions = some socket) :
    Justified Punctual socket.log := by
  have current : Current socket := run_invariant Current
    (fun socket action next current settled taken => current.step settled taken)
    (Current.initial timeouts recalls writes) settled executed
  exact current.punctual

/-- A peer that is silent for the whole timeout after the handshake is dropped. -/
theorem deadlines_punctual_silent :
    let actions : List Action := [.asyncHandshake, .onHandshake true, .asyncRead, .elapse 5,
      .expire .idle, .run .idle ⟨1, 5⟩]
    ∃ socket, run (step flatbuffers)
        { timeouts := { idle := 5 }, recalls := false, writes := { maxPendingWrites := 0 } }
        actions = some socket ∧
      socket.log = [.handshakeCompleted true, .closed .idle 1 5] ∧
      Justified Punctual socket.log := by
  intro actions
  refine ⟨_, rfl, rfl, ?_⟩
  refine @deadlines_punctual flatbuffers { idle := 5 } false { maxPendingWrites := 0 } actions _
    ?_ rfl
  refine (throughout_cons rfl).mpr ⟨trivial, ?_⟩
  refine (throughout_cons rfl).mpr ⟨⟨rfl, fun _ => rfl⟩, ?_⟩
  refine (throughout_cons rfl).mpr ⟨trivial, ?_⟩
  refine (throughout_cons rfl).mpr ⟨trivial, ?_⟩
  refine (throughout_cons rfl).mpr ⟨trivial, ?_⟩
  exact (throughout_cons rfl).mpr ⟨trivial, trivial⟩

/-- Traffic right at the deadline: the expired wait is queued, a read completes
and re-arms the timer, and the handler of the old wait closes the connection. -/
theorem closed_by_stale_deadline :
    ∃ socket, run (step flatbuffers)
        { timeouts := { idle := 5 }, recalls := false, writes := { maxPendingWrites := 0 } }
        [.asyncHandshake, .onHandshake true, .asyncRead, .elapse 5, .expire .idle, .onRead true,
          .run .idle ⟨1, 5⟩] = some socket ∧
      socket.log = [.handshakeCompleted true, .readCompleted, .closed .idle 1 5] ∧
      ¬ Justified Punctual socket.log := by
  refine ⟨_, rfl, rfl, ?_⟩
  intro justified
  have silent := justified [.handshakeCompleted true, .readCompleted] (.closed .idle 1 5) [] rfl
  exact absurd (silent .readCompleted (by simp)) nofun

end SocketSL.Timers
