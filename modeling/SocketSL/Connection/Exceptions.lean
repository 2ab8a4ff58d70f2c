import SocketSL.Connection.Registry

/-!
# Registration and removal that throw

`ipv4_address` throws for a remote endpoint that is not IPv4.
`register_and_start` and `remove_session` ask for it after they have changed
`sessions_`, and `do_connect` has filled `reconnect_map_` before.  The update is
all-or-nothing exactly for the sessions on which it cannot throw.
-/

namespace SocketSL.Manager

open SocketSL.Lib

/-- The call left by an exception. -/
def Threw (before after : SessionManager) : Prop :=
  ∃ effects, after.log = before.log ++ effects ∧ .threw ∈ effects

/-- A call that throws leaves `sessions_` and `connections_per_ip_` alone. -/
def Restored (before after : SessionManager) : Prop :=
  Threw before after →
    after.sessions = before.sessions ∧ after.connectionsPerIp = before.connectionsPerIp

/-- Registering the session, from any of its callers, and removing it are
all-or-nothing, and a registration that fails leaves nothing in
`reconnect_map_`. -/
structure Transactional (manager : SessionManager) (sess : Nat) : Prop where
  registerAndStart : Restored manager (manager.registerAndStart sess)
  removeSession : Restored manager (manager.removeSession sess)
  onServerHandshake : ∀ isValid, Restored manager (manager.onServerHandshake sess isValid)
  onClientHandshake : ∀ state isValid,
    Restored manager (manager.onClientHandshake sess state isValid)
  reconnectMap : ∀ state isValid, Threw manager (manager.onClientHandshake sess state isValid) →
    ∀ entry ∈ (manager.onClientHandshake sess state isValid).reconnectMap, entry.1 ≠ sess

section Calm

variable {manager next : SessionManager}

/-- The call appends effects, and none of them is an exception. -/
def Calm (before after : SessionManager) : Prop :=
  ∃ effects, after.log = before.log ++ effects ∧ .threw ∉ effects

theorem Calm.not_threw (calm : Calm manager next) : ¬ Threw manager next := by
  rintro ⟨thrown, appended, threw⟩
  obtain ⟨effects, log, quiet⟩ := calm
  rw [log] at appended
  exact quiet (List.append_cancel_left appended ▸ threw)

theorem Calm.restored (calm : Calm manager next) : Restored manager next :=
  fun threw => absurd threw calm.not_threw

theorem Calm.of_log (same : next.log = manager.log) : Calm manager next :=
  ⟨[], by simpa using same, by simp⟩

theorem not_mem_told {callback : Bool} {effect : Effect} (quiet : effect ≠ .threw) :
    .threw ∉ told callback effect := by
  intro threw
  exact quiet (List.mem_singleton.mp (told_subset callback effect threw)).symm

theorem Calm.registerAndStart {sess : Nat} {ip : UInt32}
    (address : manager.addresses sess = some ip) :
    Calm manager (manager.registerAndStart sess) := by
  rw [SessionManager.registerAndStart_eq]
  refine ⟨manager.registration sess, rfl, ?_⟩
  rw [SessionManager.registration, address]
  simp [not_mem_told]

theorem Calm.rescheduled {state : ReconnectState}
    (rescheduled : Rescheduled manager state next) : Calm manager next := by
  cases rescheduled with
  | drops stopped => exact .of_log rfl
  | abandons running limited exceeded => exact ⟨_, rfl, by simp⟩
  | arms running room => exact ⟨_, rfl, by simp⟩

theorem Calm.removed {sess : Nat} {ip : UInt32} (address : manager.addresses sess = some ip)
    (removed : Removed manager sess next) : Calm manager next := by
  cases removed with
  | absent absent => exact .of_log rfl
  | throws member other => cases address.symm.trans other
  | leaves ip next member known released =>
      have quiet : .threw ∉ told manager.config.onDisconnect (.disconnected sess) :=
        not_mem_told (by simp)
      cases released with
      | idle absent => exact ⟨_, rfl, quiet⟩
      | reschedules state next found rescheduled =>
          obtain ⟨effects, log, later⟩ := Calm.rescheduled rescheduled
          refine ⟨_, log.trans (List.append_assoc _ _ _), ?_⟩
          exact fun threw => (List.mem_append.mp threw).elim quiet later

theorem Calm.shaken {sess : Nat} {ip : UInt32} (address : manager.addresses sess = some ip)
    {state : Option ReconnectState} {isValid : Bool}
    (shaken : Shaken manager sess state isValid next) : Calm manager next := by
  cases shaken with
  | drops state isValid stopped => exact .of_log rfl
  | fails => exact .of_log rfl
  | retries state next running rescheduled => exact .rescheduled rescheduled
  | registers => exact .registerAndStart address
  | keeps state running => exact Calm.registerAndStart address

end Calm

/-- Without an IPv4 address the registration throws with the session in the
vector. -/
theorem not_restored_of_other {manager : SessionManager} {sess : Nat}
    (other : manager.addresses sess = none) :
    ¬ Restored manager (manager.registerAndStart sess) := by
  rw [SessionManager.registerAndStart_eq]
  intro restored
  have threw : .threw ∈ manager.registration sess := by
    simp [SessionManager.registration, other]
  have kept := (restored ⟨manager.registration sess, rfl, threw⟩).1
  simp at kept

/-- In every state, registering and removing a session is all-or-nothing if and
only if its remote endpoint has an IPv4 address. -/
theorem transactional_iff_ipv4 (manager : SessionManager) (sess : Nat) :
    Transactional manager sess ↔ manager.addresses sess ≠ none := by
  constructor
  · intro transactional other
    exact not_restored_of_other other transactional.registerAndStart
  · intro ipv4
    obtain ⟨ip, address⟩ := Option.ne_none_iff_exists'.mp ipv4
    constructor
    · exact (Calm.registerAndStart address).restored
    · exact (Calm.removed address (manager.removeSession_effect sess)).restored
    · intro isValid
      cases isValid with
      | false => exact (Calm.of_log rfl).restored
      | true => exact (Calm.registerAndStart address).restored
    · intro state isValid
      have shaken := manager.onClientHandshake_effect sess state isValid
      exact (Calm.shaken address shaken).restored
    · intro state isValid threw
      have shaken := manager.onClientHandshake_effect sess state isValid
      exact absurd threw (Calm.shaken address shaken).not_threw

/-- A host name that resolves to IPv6: after the handshake the session is in
`sessions_` and in `reconnect_map_`, it is not counted and it is never started. -/
theorem half_registered_ipv6 :
    let state : ReconnectState := ⟨"localhost", "8080", 0, {}, 0, 1000000000, 0⟩
    let actions : List Action := [.connectWithPolicy 1 "localhost" "8080" 0 {},
      .dialed 1 (some state) (some none)]
    ∃ manager, run step { config := {} } actions = some manager ∧
      .clientHandshake 1 (some state) ∈ manager.pending ∧ manager.sessions = [] ∧
      (manager.onClientHandshake 1 (some state) true).log =
        manager.log ++ [.registered 1, .threw] ∧
      (manager.onClientHandshake 1 (some state) true).sessions = [1] ∧
      (manager.onClientHandshake 1 (some state) true).connectionsPerIp =
        manager.connectionsPerIp ∧
      (manager.onClientHandshake 1 (some state) true).reconnectMap = [(1, state)] ∧
      ¬ Transactional manager 1 := by
  intro state actions
  refine ⟨_, rfl, Multiset.mem_singleton_self _, rfl, rfl, rfl, rfl, rfl, ?_⟩
  intro transactional
  refine absurd (transactional.reconnectMap (some state) true ?_ (1, state) ?_) (by simp)
  · exact ⟨[.registered 1, .threw], rfl, by simp⟩
  · exact List.mem_singleton_self _

end SocketSL.Manager
