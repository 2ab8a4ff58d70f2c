import SocketSL.Connection.Manager

/-!
# What the handlers do

For each function of the manager that takes decisions, everything it can leave
behind, with the guards of the way it took.  What later modules say about one
part of the manager is read off these statements.
-/

namespace SocketSL.Manager

/-- What a callback is told, if there is one. -/
def told (callback : Bool) (effect : Effect) : List Effect :=
  if callback then [effect] else []

theorem told_subset (callback : Bool) (effect : Effect) : told callback effect ⊆ [effect] := by
  cases callback with
  | false => exact List.nil_subset _
  | true => exact List.Subset.refl _

/-- The effects of `registerAndStart`. -/
def SessionManager.registration (manager : SessionManager) (sess : Nat) : List Effect :=
  .registered sess :: match manager.addresses sess with
    | none => [.threw]
    | some _ => told manager.config.onConnect (.connected sess) ++ [.started sess]

/-- `addSession` throws, refuses the session or begins its handshake. -/
inductive Added (manager : SessionManager) (sess : Nat) : SessionManager → Prop where
  | throws (other : manager.addresses sess = none) : Added manager sess (manager.emit [.threw])
  | refuses (ip : UInt32) (address : manager.addresses sess = some ip)
      (full : manager.canIpConnect ip = false) : Added manager sess (manager.emit [.closed sess])
  | admits (ip : UInt32) (address : manager.addresses sess = some ip)
      (room : manager.canIpConnect ip = true) :
      Added manager sess ((manager.applyCaps sess).await (.serverHandshake sess))

/-- `scheduleReconnect` finds the flag set, the retries used up, or arms a timer. -/
inductive Rescheduled (manager : SessionManager) (state : ReconnectState) :
    SessionManager → Prop where
  | drops (stopped : manager.reconnectStopped = true) : Rescheduled manager state manager
  | abandons (running : manager.reconnectStopped = false)
      (limited : state.policy.maxAttempts ≠ 0)
      (exceeded : state.attempts + 1 > state.policy.maxAttempts) :
      Rescheduled manager state
        (manager.emit [.abandoned { state with attempts := state.attempts + 1 }])
  | arms (running : manager.reconnectStopped = false)
      (room : ¬ (state.policy.maxAttempts ≠ 0 ∧
        state.attempts + 1 > state.policy.maxAttempts)) :
      Rescheduled manager state
        ((manager.await (.timer { state with attempts := state.attempts + 1 })).emit
          [.armed { state with attempts := state.attempts + 1 }])

/-- `onSessionRemoved` finds a reconnect state in the map or does not. -/
inductive Released (manager : SessionManager) (sess : Nat) : SessionManager → Prop where
  | idle (absent : manager.reconnectMap.lookup sess = none) : Released manager sess manager
  | reschedules (state : ReconnectState) (next : SessionManager)
      (found : manager.reconnectMap.lookup sess = some state)
      (rescheduled : Rescheduled { manager with
        reconnectMap := manager.reconnectMap.filter fun entry => entry.1 ≠ sess } state next) :
      Released manager sess next

/-- `removeSession` knows the session or does not, and throws or lets go of it. -/
inductive Removed (manager : SessionManager) (sess : Nat) : SessionManager → Prop where
  | absent (absent : sess ∉ manager.sessions) : Removed manager sess manager
  | throws (member : sess ∈ manager.sessions) (other : manager.addresses sess = none) :
      Removed manager sess
        ({ manager with sessions := manager.sessions.erase sess }.emit [.threw])
  | leaves (ip : UInt32) (next : SessionManager) (member : sess ∈ manager.sessions)
      (address : manager.addresses sess = some ip)
      (released : Released
        (({ manager with sessions := manager.sessions.erase sess }.countDown ip).emit
          (told manager.config.onDisconnect (.disconnected sess))) sess next) :
      Removed manager sess next

/-- A dial is given up after `stop`, fails, is tried again or goes on with the
handshake. -/
inductive Dialed (manager : SessionManager) (sess : Nat) :
    Option ReconnectState → Option (Option UInt32) → SessionManager → Prop where
  | drops (state : ReconnectState) (stopped : manager.reconnectStopped = true) :
      Dialed manager sess (some state) none manager
  | fails : Dialed manager sess none none manager
  | retries (state : ReconnectState) (next : SessionManager)
      (running : manager.reconnectStopped = false)
      (rescheduled : Rescheduled manager state next) : Dialed manager sess (some state) none next
  | dropsLocated (state : ReconnectState) (address : Option UInt32)
      (stopped : manager.reconnectStopped = true) :
      Dialed manager sess (some state) (some address)
        { manager with addresses := Function.update manager.addresses sess address }
  | proceeds (state : Option ReconnectState) (address : Option UInt32)
      (running : state.isSome = true → manager.reconnectStopped = false) :
      Dialed manager sess state (some address)
        (SessionManager.await
          { manager with addresses := Function.update manager.addresses sess address }
          (.clientHandshake sess state))

/-- The handshake of a dial is given up after `stop`, fails, is tried again or
registers the session, with its reconnect state if it has one. -/
inductive Shaken (manager : SessionManager) (sess : Nat) :
    Option ReconnectState → Bool → SessionManager → Prop where
  | drops (state : ReconnectState) (isValid : Bool) (stopped : manager.reconnectStopped = true) :
      Shaken manager sess (some state) isValid manager
  | fails : Shaken manager sess none false manager
  | retries (state : ReconnectState) (next : SessionManager)
      (running : manager.reconnectStopped = false)
      (rescheduled : Rescheduled manager state next) :
      Shaken manager sess (some state) false next
  | registers : Shaken manager sess none true (manager.registerAndStart sess)
  | keeps (state : ReconnectState) (running : manager.reconnectStopped = false) :
      Shaken manager sess (some state) true
        { manager.registerAndStart sess with
          reconnectMap :=
            (sess, { state with attempts := 0, currentDelay := state.policy.initialDelay }) ::
              manager.reconnectMap.filter fun entry => entry.1 ≠ sess }

/-- A timer is given up after `stop` or begins a dial. -/
inductive Fired (manager : SessionManager) (state : ReconnectState) (sess : Nat) :
    SessionManager → Prop where
  | drops (stopped : manager.reconnectStopped = true) : Fired manager state sess manager
  | redials (running : manager.reconnectStopped = false) :
      Fired manager state sess
        ((manager.create sess (some 0) (some state.call)).doConnect sess
          (some { state with currentDelay := state.policy.scale state.currentDelay }))

namespace SessionManager

variable (manager : SessionManager) (sess : Nat)

theorem notify_eq_emit (callback : Bool) (effect : Effect) :
    manager.notify callback effect = manager.emit (told callback effect) := by
  cases callback with
  | false => simp [notify, emit, told]
  | true => rfl

theorem registerAndStart_eq :
    manager.registerAndStart sess =
      { manager with
        sessions := manager.sessions ++ [sess]
        connectionsPerIp := match manager.addresses sess with
          | none => manager.connectionsPerIp
          | some ip => increased manager.connectionsPerIp ip
        active :=
          if (manager.addresses sess).isSome then sess ::ₘ manager.active else manager.active
        log := manager.log ++ manager.registration sess } := by
  cases address : manager.addresses sess with
  | none => simp [registerAndStart, registration, emit, address]
  | some ip =>
      simp only [registerAndStart, registration, notify_eq_emit, address]
      simp [emit, countUp]

theorem addSession_effect : Added manager sess (manager.addSession sess) := by
  unfold addSession
  split
  next other => exact .throws other
  next ip address =>
    cases room : manager.canIpConnect ip with
    | false => exact .refuses ip address room
    | true => exact .admits ip address room

theorem doConnect_effect (state : Option ReconnectState) : ∃ options,
    manager.doConnect sess state =
      (({ manager with options } : SessionManager).await (.dial sess state)).emit
        [.dialed sess] := by
  cases state with
  | none => exact ⟨_, rfl⟩
  | some state =>
      simp only [doConnect]
      split
      next => exact ⟨_, rfl⟩
      next => exact ⟨_, rfl⟩

theorem scheduleReconnect_effect (state : ReconnectState) :
    Rescheduled manager state (manager.scheduleReconnect state) := by
  cases flag : manager.reconnectStopped with
  | true =>
      rw [scheduleReconnect, if_pos flag]
      exact .drops flag
  | false =>
      simp only [scheduleReconnect, flag, Bool.false_eq_true, if_false]
      split
      next exceeded => exact .abandons flag exceeded.1 exceeded.2
      next room => exact .arms flag room

theorem onSessionRemoved_effect : Released manager sess (manager.onSessionRemoved sess) := by
  unfold onSessionRemoved
  split
  next absent => exact .idle absent
  next state found => exact .reschedules state _ found (scheduleReconnect_effect _ state)

theorem removeSession_effect : Removed manager sess (manager.removeSession sess) := by
  by_cases member : sess ∈ manager.sessions
  · cases address : manager.addresses sess with
    | none =>
        rw [removeSession_throws member address]
        exact .throws member address
    | some ip =>
        rw [removeSession_of_ipv4 member address, notify_eq_emit]
        exact .leaves ip _ member address (onSessionRemoved_effect _ sess)
  · rw [removeSession_of_absent member]
    exact .absent member

theorem onDial_effect (state : Option ReconnectState) (remote : Option (Option UInt32)) :
    Dialed manager sess state remote (manager.onDial sess state remote) := by
  cases state with
  | none =>
      cases remote with
      | none => exact .fails
      | some address => exact .proceeds none address nofun
  | some state =>
      by_cases stopped : manager.reconnectStopped = true
      · cases remote with
        | none =>
            rw [onDial, if_pos ⟨rfl, stopped⟩]
            exact .drops state stopped
        | some address =>
            rw [onDial, if_pos ⟨rfl, stopped⟩]
            exact .dropsLocated state address stopped
      · have running : manager.reconnectStopped = false := Bool.eq_false_iff.mpr stopped
        cases remote with
        | none =>
            rw [onDial, if_neg fun given => stopped given.2]
            exact .retries state _ running (manager.scheduleReconnect_effect state)
        | some address =>
            rw [onDial, if_neg fun given => stopped given.2]
            exact .proceeds (some state) address fun _ => running

theorem registerAndStart_reconnectMap (entries : List (Nat × ReconnectState)) :
    ({ manager with reconnectMap := entries } : SessionManager).registerAndStart sess =
      { manager.registerAndStart sess with reconnectMap := entries } := by
  rw [registerAndStart_eq, registerAndStart_eq]
  rfl

theorem onClientHandshake_effect (state : Option ReconnectState) (isValid : Bool) :
    Shaken manager sess state isValid (manager.onClientHandshake sess state isValid) := by
  cases state with
  | none =>
      cases isValid with
      | false => exact .fails
      | true => exact .registers
  | some state =>
      by_cases stopped : manager.reconnectStopped = true
      · rw [onClientHandshake, if_pos ⟨rfl, stopped⟩]
        exact .drops state isValid stopped
      · have running : manager.reconnectStopped = false := Bool.eq_false_iff.mpr stopped
        rw [onClientHandshake, if_neg fun given => stopped given.2]
        cases isValid with
        | false => exact .retries state _ running (manager.scheduleReconnect_effect state)
        | true =>
            have kept := @Shaken.keeps manager sess state running
            rw [← registerAndStart_reconnectMap] at kept
            exact kept

theorem onTimer_effect (state : ReconnectState) :
    Fired manager state sess (manager.onTimer state sess) := by
  unfold onTimer attemptReconnect
  cases flag : manager.reconnectStopped with
  | true => exact .drops flag
  | false => exact .redials flag

end SessionManager

section Frames

variable {manager next : SessionManager} {sess : Nat} {state : ReconnectState}

theorem Added.frame (added : Added manager sess next) : ∃ options pending log,
    next = { manager with options, pending, log } := by
  cases added with
  | throws other => exact ⟨_, _, _, rfl⟩
  | refuses ip address full => exact ⟨_, _, _, rfl⟩
  | admits ip address room => exact ⟨_, _, _, rfl⟩

theorem Rescheduled.frame (rescheduled : Rescheduled manager state next) : ∃ pending log,
    next = { manager with pending, log } := by
  cases rescheduled with
  | drops stopped => exact ⟨_, _, rfl⟩
  | abandons running limited exceeded => exact ⟨_, _, rfl⟩
  | arms running room => exact ⟨_, _, rfl⟩

theorem Released.frame (released : Released manager sess next) : ∃ reconnectMap pending log,
    next = { manager with reconnectMap, pending, log } := by
  cases released with
  | idle absent => exact ⟨_, _, _, rfl⟩
  | reschedules state next found rescheduled =>
      obtain ⟨pending, log, rfl⟩ := rescheduled.frame
      exact ⟨_, _, _, rfl⟩

theorem Removed.frame (removed : Removed manager sess next) :
    ∃ connectionsPerIp reconnectMap pending log, next =
      { manager with
        sessions := manager.sessions.erase sess
        connectionsPerIp, reconnectMap, pending, log } := by
  cases removed with
  | absent absent =>
      rw [List.erase_of_not_mem absent]
      exact ⟨_, _, _, _, rfl⟩
  | throws member other => exact ⟨_, _, _, _, rfl⟩
  | leaves ip next member address released =>
      obtain ⟨reconnectMap, pending, log, rfl⟩ := released.frame
      exact ⟨_, _, _, _, rfl⟩

theorem Dialed.frame {state : Option ReconnectState} {remote : Option (Option UInt32)}
    (dialed : Dialed manager sess state remote next) : ∃ pending log, next =
      { manager with
        addresses := match remote with
          | none => manager.addresses
          | some address => Function.update manager.addresses sess address
        pending, log } := by
  cases dialed with
  | drops state stopped => exact ⟨_, _, rfl⟩
  | fails => exact ⟨_, _, rfl⟩
  | retries state next running rescheduled => exact rescheduled.frame
  | dropsLocated state address stopped => exact ⟨_, _, rfl⟩
  | proceeds state address running => exact ⟨_, _, rfl⟩

theorem Shaken.frame {state : Option ReconnectState} {isValid : Bool}
    (shaken : Shaken manager sess state isValid next) :
    (∃ pending log, next = { manager with pending, log }) ∨
      isValid = true ∧ (state.isSome = true → manager.reconnectStopped = false) ∧
        ∃ reconnectMap, next = { manager.registerAndStart sess with reconnectMap } := by
  cases shaken with
  | drops state isValid stopped => exact Or.inl ⟨_, _, rfl⟩
  | fails => exact Or.inl ⟨_, _, rfl⟩
  | retries state next running rescheduled => exact Or.inl rescheduled.frame
  | registers => exact Or.inr ⟨rfl, nofun, _, rfl⟩
  | keeps state running => exact Or.inr ⟨rfl, fun _ => running, _, rfl⟩

end Frames

/-- The settings of the manager and the number of its calls of `connect`. -/
structure Switches where
  config : Config
  reconnectStopped : Bool
  acceptorOpen : Bool
  calls : Nat

def SessionManager.switches (manager : SessionManager) : Switches :=
  ⟨manager.config, manager.reconnectStopped, manager.acceptorOpen, manager.calls⟩

/-- `stop` sets the flag and closes the acceptor; a policy numbers its call. -/
def Switches.act (switches : Switches) : Action → Switches
  | .stop => { switches with reconnectStopped := true, acceptorOpen := false }
  | .connectWithPolicy _ _ _ _ _ => { switches with calls := switches.calls + 1 }
  | _ => switches

namespace SessionManager

variable (manager : SessionManager) (sess : Nat)

theorem addSession_switches : (manager.addSession sess).switches = manager.switches := by
  obtain ⟨options, pending, log, same⟩ := (manager.addSession_effect sess).frame
  rw [same]
  rfl

theorem doConnect_switches (state : Option ReconnectState) :
    (manager.doConnect sess state).switches = manager.switches := by
  obtain ⟨options, same⟩ := manager.doConnect_effect sess state
  rw [same]
  rfl

theorem registerAndStart_switches :
    (manager.registerAndStart sess).switches = manager.switches := by
  rw [registerAndStart_eq]
  rfl

theorem removeSession_switches : (manager.removeSession sess).switches = manager.switches := by
  obtain ⟨counts, entries, pending, log, same⟩ := (manager.removeSession_effect sess).frame
  rw [same]
  rfl

theorem onDial_switches (state : Option ReconnectState) (remote : Option (Option UInt32)) :
    (manager.onDial sess state remote).switches = manager.switches := by
  obtain ⟨pending, log, same⟩ := (manager.onDial_effect sess state remote).frame
  rw [same]
  rfl

theorem onClientHandshake_switches (state : Option ReconnectState) (isValid : Bool) :
    (manager.onClientHandshake sess state isValid).switches = manager.switches := by
  rcases (manager.onClientHandshake_effect sess state isValid).frame with
    ⟨pending, log, same⟩ | ⟨-, -, entries, same⟩
  · rw [same]
    rfl
  · rw [same]
    exact manager.registerAndStart_switches sess

theorem onTimer_switches (state : ReconnectState) :
    (manager.onTimer state sess).switches = manager.switches := by
  have effect := manager.onTimer_effect sess state
  generalize manager.onTimer state sess = next at effect ⊢
  cases effect with
  | drops stopped => rfl
  | redials running => exact doConnect_switches _ sess _

end SessionManager

theorem step_switches {manager next : SessionManager} {action : Action}
    (taken : step manager action = some next) : next.switches = manager.switches.act action := by
  cases step_cases taken with
  | asyncWaitForConnection => rfl
  | addSession sess address given handed =>
      rw [SessionManager.addSession_switches]
      exact handOver_frame handed SessionManager.switches rfl
  | connectSession sess address given handed =>
      rw [SessionManager.doConnect_switches]
      exact handOver_frame handed SessionManager.switches rfl
  | connect sess unheld => exact SessionManager.doConnect_switches _ _ _
  | connectWithPolicy sess host service sslContext policy unheld =>
      exact SessionManager.doConnect_switches _ _ _
  | removeSession sess => exact manager.removeSession_switches sess
  | stop => rfl
  | incoming ip isOpen pending => rfl
  | accepted ip sess unheld pending => exact SessionManager.addSession_switches _ _
  | acceptFailed pending => rfl
  | dialed sess state remote pending => exact SessionManager.onDial_switches _ _ _ _
  | serverHandshake sess isValid pending =>
      cases isValid with
      | false => rfl
      | true => exact SessionManager.registerAndStart_switches _ _
  | clientHandshake sess state isValid pending =>
      exact SessionManager.onClientHandshake_switches _ _ _ _
  | timer state sess unheld pending => exact SessionManager.onTimer_switches _ _ _
  | sessionFailed sess reading => exact SessionManager.removeSession_switches _ _

/-- Only `stop` sets `reconnect_stopped_`. -/
theorem step_reconnectStopped {manager next : SessionManager} {action : Action}
    (other : action ≠ .stop) (taken : step manager action = some next) :
    next.reconnectStopped = manager.reconnectStopped := by
  refine (congrArg Switches.reconnectStopped (step_switches taken)).trans ?_
  cases action with
  | stop => exact absurd rfl other
  | _ => rfl

end SocketSL.Manager
