import SocketSL.Connection.Registry
import Mathlib.Data.Multiset.Bind
import Mathlib.Data.Fintype.EquivFin

/-!
# After `stop`

`stop` closes the registered sessions and the acceptor and sets
`reconnect_stopped_`, but it cannot recall the completions that are
outstanding.  Those that carry a reconnect state ask the flag; the others go on
as if nothing had happened.
-/

namespace SocketSL.Manager

open SocketSL.Lib

/-- What can still happen when nobody calls the manager any more. -/
def Callback : Action → Prop
  | .incoming _ => True
  | .accepted _ _ => True
  | .acceptFailed => True
  | .dialed _ _ _ => True
  | .serverHandshake _ _ => True
  | .clientHandshake _ _ _ => True
  | .timer _ _ => True
  | .sessionFailed _ => True
  | _ => False

/-- A session is registered, announced or started, or a dial is begun. -/
def Effect.comesAlive : Effect → Bool
  | .registered _ => true
  | .connected _ => true
  | .started _ => true
  | .dialed _ => true
  | _ => false

/-- Nothing has come alive between two states. -/
structure Quiet (before after : SessionManager) : Prop where
  sessions : after.sessions = []
  log : ∃ effects, after.log = before.log ++ effects ∧
    ∀ effect ∈ effects, effect.comesAlive = false

/-- The callback of this completion does not look at `reconnect_stopped_`. -/
def Pending.Unchecked : Pending → Prop
  | .accepted _ => True
  | .serverHandshake _ => True
  | .dial _ none => True
  | .clientHandshake _ none => True
  | _ => False

/-- What stays true while only checked completions are outstanding. -/
structure Silent (stopped manager : SessionManager) : Prop where
  quiet : Quiet stopped manager
  reconnectStopped : manager.reconnectStopped = true
  acceptorClosed : manager.acceptorOpen = false
  checked : ∀ completion ∈ manager.pending, ¬ completion.Unchecked

theorem Silent.of_stop {manager : SessionManager}
    (checked : ∀ completion ∈ manager.pending, ¬ completion.Unchecked) :
    Silent manager.stop manager.stop where
  quiet := ⟨rfl, [], by simp, by simp⟩
  reconnectStopped := rfl
  acceptorClosed := rfl
  checked := checked

section Silent

variable {stopped manager next : SessionManager} (silent : Silent stopped manager)
include silent

theorem Silent.of_unchanged (sessions : next.sessions = manager.sessions)
    (log : next.log = manager.log) (flag : next.reconnectStopped = manager.reconnectStopped)
    (acceptor : next.acceptorOpen = manager.acceptorOpen)
    (pending : next.pending ≤ manager.pending) :
    Silent stopped next where
  quiet := ⟨sessions.trans silent.quiet.sessions, by rw [log]; exact silent.quiet.log⟩
  reconnectStopped := flag.trans silent.reconnectStopped
  acceptorClosed := acceptor.trans silent.acceptorClosed
  checked := fun completion member =>
    silent.checked completion (Multiset.mem_of_le pending member)

theorem Silent.step {action : Action} (callback : Callback action)
    (taken : step manager action = some next) : Silent stopped next := by
  cases step_cases taken with
  | incoming ip isOpen pending => exact absurd isOpen (by simp [silent.acceptorClosed])
  | accepted ip sess unheld pending => exact absurd trivial (silent.checked _ pending)
  | acceptFailed pending => exact silent.of_unchanged rfl rfl rfl rfl (Multiset.erase_le _ _)
  | dialed sess state remote pending =>
      cases state with
      | none => exact absurd trivial (silent.checked _ pending)
      | some state =>
          cases remote with
          | none =>
              rw [SessionManager.onDial, if_pos ⟨rfl, silent.reconnectStopped⟩]
              exact silent.of_unchanged rfl rfl rfl rfl (Multiset.erase_le _ _)
          | some address =>
              rw [SessionManager.onDial, if_pos ⟨rfl, silent.reconnectStopped⟩]
              exact silent.of_unchanged rfl rfl rfl rfl (Multiset.erase_le _ _)
  | serverHandshake sess isValid pending => exact absurd trivial (silent.checked _ pending)
  | clientHandshake sess state isValid pending =>
      cases state with
      | none => exact absurd trivial (silent.checked _ pending)
      | some state =>
          rw [SessionManager.onClientHandshake, if_pos ⟨rfl, silent.reconnectStopped⟩]
          exact silent.of_unchanged rfl rfl rfl rfl (Multiset.erase_le _ _)
  | timer state sess unheld pending =>
      rw [SessionManager.onTimer, if_pos silent.reconnectStopped]
      exact silent.of_unchanged rfl rfl rfl rfl (Multiset.erase_le _ _)
  | sessionFailed sess reading =>
      rw [SessionManager.removeSession_of_absent (by simp [silent.quiet.sessions])]
      exact silent.of_unchanged rfl rfl rfl rfl (le_refl _)
  | _ => exact absurd callback id

end Silent

theorem exists_unheld (manager : SessionManager) : ∃ sess, ¬ manager.Holds sess := by
  let held : Finset Nat := manager.sessions.toFinset ∪ manager.active.toFinset ∪
    (manager.pending.filterMap Pending.session).toFinset
  obtain ⟨sess, unheld⟩ := Infinite.exists_notMem_finset held
  refine ⟨sess, ?_⟩
  rintro (registered | active | pending)
  · exact unheld (by simp [held, registered])
  · exact unheld (by simp [held, active])
  · obtain ⟨completion, member, holds⟩ := Multiset.mem_map.mp pending
    exact unheld (by simp [held]; exact Or.inr (Or.inr ⟨completion, member, holds⟩))

theorem registerAndStart_sessions (manager : SessionManager) (sess : Nat) :
    (manager.registerAndStart sess).sessions = manager.sessions ++ [sess] :=
  congrArg Registry.sessions (manager.registerAndStart_registry sess)

theorem canIpConnect_of_empty {manager : SessionManager} (sessions : manager.sessions = [])
    (counts : manager.connectionsPerIp = fun _ => none) (ip : UInt32) :
    manager.canIpConnect ip = true := by
  unfold SessionManager.canIpConnect
  rw [if_neg, counts]
  · split <;> rfl
  · rintro ⟨limited, full⟩
    rw [sessions, List.length_nil] at full
    exact limited (Nat.le_zero.mp full)

/-- A handshake of an inbound session, or of one dialled without a policy. -/
def HandshakeDue (manager : SessionManager) (sess : Nat) : Prop :=
  .serverHandshake sess ∈ manager.pending ∨ .clientHandshake sess none ∈ manager.pending

/-- Whatever the state, the success of such a handshake registers the session. -/
theorem HandshakeDue.registers {manager : SessionManager} {sess : Nat}
    (due : HandshakeDue manager sess) :
    ∃ action later, Callback action ∧ step manager action = some later ∧ later.sessions ≠ [] := by
  rcases due with server | client
  · refine ⟨.serverHandshake sess true,
      { manager with pending := manager.pending.erase (.serverHandshake sess)
      }.registerAndStart sess, trivial, complete_eq_some.mpr ⟨server, rfl⟩, ?_⟩
    simp [registerAndStart_sessions]
  · refine ⟨.clientHandshake sess none true,
      { manager with pending := manager.pending.erase (.clientHandshake sess none)
      }.registerAndStart sess, trivial, ?_, ?_⟩
    · simp only [step]
      exact complete_eq_some.mpr ⟨client, rfl⟩
    · simp [registerAndStart_sessions]

/-- An accepted connection or a dial without a policy gets to its handshake. -/
theorem exists_handshakeDue {manager : SessionManager} {completion : Pending}
    (pending : completion ∈ manager.pending) (unchecked : completion.Unchecked) :
    ∃ actions middle sess, (∀ action ∈ actions, Callback action) ∧
      run step manager.stop actions = some middle ∧ HandshakeDue middle sess := by
  cases completion with
  | accepted ip =>
      obtain ⟨sess, unheld⟩ := exists_unheld manager.stop
      refine ⟨[.accepted ip sess], { manager.stop with
        pending := manager.stop.pending.erase (.accepted ip) }.onAccept ip sess, sess,
        by simp [Callback], ?_, Or.inl ?_⟩
      · rw [run_cons_eq_some]
        refine ⟨_, ?_, rfl⟩
        exact allocate_eq_some.mpr ⟨unheld, complete_eq_some.mpr ⟨pending, rfl⟩⟩
      · have admitted := @SessionManager.addSession_of_room (({ manager.stop with
          pending := manager.stop.pending.erase (.accepted ip) } : SessionManager).create sess
            (some ip) none) sess ip (Function.update_self _ _ _) (canIpConnect_of_empty rfl rfl ip)
        rw [SessionManager.onAccept, admitted]
        simp [SessionManager.asyncWaitForConnection, SessionManager.await]
  | serverHandshake sess => exact ⟨[], manager.stop, sess, by simp, rfl, Or.inl pending⟩
  | dial sess state =>
      cases state with
      | none =>
          refine ⟨[.dialed sess none (some (some 0))], { manager.stop with
            pending := manager.stop.pending.erase (.dial sess none) }.onDial sess none
              (some (some 0)), sess, by simp [Callback], ?_, Or.inr ?_⟩
          · rw [run_cons_eq_some]
            refine ⟨_, ?_, rfl⟩
            simp only [step]
            exact complete_eq_some.mpr ⟨pending, rfl⟩
          · simp [SessionManager.onDial, SessionManager.await]
      | some state => exact absurd unchecked id
  | clientHandshake sess state =>
      cases state with
      | none => exact ⟨[], manager.stop, sess, by simp, rfl, Or.inr pending⟩
      | some state => exact absurd unchecked id
  | accept => exact absurd unchecked id
  | timer state => exact absurd unchecked id

/-- After `stop` has returned and no public method is called any more, nothing
comes alive in any order of the outstanding callbacks if and only if `stop`
found no completion outstanding that ignores the flag. -/
theorem quiet_after_stop_iff (manager : SessionManager) :
    (∀ actions later, (∀ action ∈ actions, Callback action) →
      run step manager.stop actions = some later → Quiet manager.stop later) ↔
      ∀ completion ∈ manager.pending, ¬ completion.Unchecked := by
  constructor
  · intro quiet completion pending unchecked
    obtain ⟨actions, middle, sess, callbacks, executed, due⟩ :=
      exists_handshakeDue pending unchecked
    obtain ⟨action, later, callback, taken, alive⟩ := due.registers
    apply alive
    apply (quiet (actions ++ [action]) later ?_ ?_).sessions
    · intro other member
      rcases List.mem_append.mp member with earlier | last
      · exact callbacks other earlier
      · cases List.mem_singleton.mp last
        exact callback
    · rw [run_append, executed, Option.bind_some, run_cons, taken]
      rfl
  · intro checked actions later callbacks executed
    have meets : Throughout step (fun _ action => Callback action) manager.stop actions :=
      throughout_of_forall callbacks
    have silent := run_invariant (Silent manager.stop)
      (fun state action next silent callback taken => silent.step callback taken)
      (Silent.of_stop checked) meets executed
    exact silent.quiet

/-- A handshake that is outstanding when `stop` runs registers, announces and
starts its session afterwards. -/
theorem alive_after_stop :
    ∃ stopped later, run step { config := { onConnect := true } }
        [.asyncWaitForConnection, .incoming 10, .accepted 10 1, .stop] = some stopped ∧
      Callback (.serverHandshake 1 true) ∧
      step stopped (.serverHandshake 1 true) = some later ∧
      later.sessions = [1] ∧
      later.log = stopped.log ++ [.registered 1, .connected 1, .started 1] ∧
      ¬ Quiet stopped later := by
  refine ⟨_, _, rfl, trivial, rfl, rfl, rfl, ?_⟩
  intro quiet
  exact absurd quiet.sessions (by decide)

end SocketSL.Manager
