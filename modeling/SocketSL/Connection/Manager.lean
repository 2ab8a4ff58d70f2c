import SocketSL.Lib.Transition
import Mathlib.Data.Multiset.Filter
import Mathlib.Data.Rat.Floor

/-!
# The session manager

`session_manager` with the reconnecting `boost_session_manager` on top.  Each
public call and each completion callback is one action; the completions that
are outstanding are kept in `pending` together with what their lambdas captured
and may run in any order.  Sessions are known by the address of the object, so
a new session may take the address of one that nobody holds any more.
-/

namespace SocketSL.Manager

/-- The limits and callbacks set on a manager; 0 is no limit. -/
structure Config where
  idleTimeout : Nat := 0
  heartbeatTimeout : Nat := 0
  handshakeTimeout : Nat := 0
  maxMessageSize : Nat := 0
  maxPendingWrites : Nat := 0
  maxSessions : Nat := 0
  maxConnectionsPerIp : Nat := 0
  onConnect : Bool := false
  onDisconnect : Bool := false

/-- The limits of one socket. -/
structure SocketOptions where
  idleTimeout : Nat := 0
  heartbeatTimeout : Nat := 0
  handshakeTimeout : Nat := 0
  maxMessageSize : Nat := 0
  maxPendingWrites : Nat := 0

/-- `reconnect_policy`, with durations in nanoseconds and the multiplier exact. -/
structure ReconnectPolicy where
  initialDelay : Nat := 1000000000
  maxDelay : Nat := 30000000000
  idleTimeout : Nat := 30000000000
  multiplier : Rat := 2
  maxAttempts : Nat := 0
  deriving DecidableEq

/-- The delay after the next one: scaled, truncated and capped.  The product is
exact: a double rounds it, and 64 bits bound it. -/
def ReconnectPolicy.scale (policy : ReconnectPolicy) (delay : Nat) : Nat :=
  min ((delay : Rat) * policy.multiplier).floor.toNat policy.maxDelay

/-- `reconnect_state`; `call` numbers the call of `connect` it belongs to. -/
structure ReconnectState where
  host : String
  service : String
  sslContext : Nat
  policy : ReconnectPolicy
  attempts : Nat
  currentDelay : Nat
  call : Nat
  deriving DecidableEq

/-- A completion that is outstanding, with what its callback captured.
`accepted` is an accept that has succeeded and whose handler is queued. -/
inductive Pending where
  | accept
  | accepted (ip : UInt32)
  | serverHandshake (sess : Nat)
  | dial (sess : Nat) (state : Option ReconnectState)
  | clientHandshake (sess : Nat) (state : Option ReconnectState)
  | timer (state : ReconnectState)
  deriving DecidableEq

/-- The session a callback keeps alive. -/
def Pending.session : Pending → Option Nat
  | .serverHandshake sess => some sess
  | .dial sess _ => some sess
  | .clientHandshake sess _ => some sess
  | _ => none

/-- The reconnect state a callback carries. -/
def Pending.state : Pending → Option ReconnectState
  | .dial _ state => state
  | .clientHandshake _ state => state
  | .timer state => some state
  | _ => none

/-- What the manager does to the outside. -/
inductive Effect where
  | closed (sess : Nat)
  | registered (sess : Nat)
  | connected (sess : Nat)
  | started (sess : Nat)
  | disconnected (sess : Nat)
  | dialed (sess : Nat)
  | armed (state : ReconnectState)
  | abandoned (state : ReconnectState)
  | threw
  deriving DecidableEq

/-- `++connections_per_ip_[ip]` -/
def increased (counts : UInt32 → Option Nat) (ip : UInt32) : UInt32 → Option Nat :=
  Function.update counts ip (some ((counts ip).getD 0 + 1))

/-- `--count` of a `std::size_t` -/
def decrement (count : Nat) : Nat := if count = 0 then 2 ^ 64 - 1 else count - 1

/-- Count the entry of an address down if there is one, and erase it at zero. -/
def decreased (counts : UInt32 → Option Nat) (ip : UInt32) : UInt32 → Option Nat :=
  match counts ip with
  | none => counts
  | some count =>
      Function.update counts ip (if decrement count = 0 then none else some (decrement count))

theorem decreased_of_ne (counts : UInt32 → Option Nat) {ip queried : UInt32}
    (different : queried ≠ ip) : decreased counts ip queried = counts queried := by
  cases entry : counts ip with
  | none => simp [decreased, entry]
  | some count => simp [decreased, entry, different]

/-- The manager and the sessions around it.  `addresses` gives the IPv4 address
of a session's remote endpoint, `none` for any other kind, on which
`ipv4_address` throws; `active` holds the sessions with a read outstanding, and
`origin` the policy call a session was dialled for. -/
structure SessionManager where
  config : Config
  sessions : List Nat := []
  connectionsPerIp : UInt32 → Option Nat := fun _ => none
  reconnectMap : List (Nat × ReconnectState) := []
  reconnectStopped : Bool := false
  acceptorOpen : Bool := true
  addresses : Nat → Option UInt32 := fun _ => some 0
  options : Nat → SocketOptions := fun _ => {}
  pending : Multiset Pending := 0
  active : Multiset Nat := 0
  calls : Nat := 0
  origin : Nat → Option Nat := fun _ => none
  log : List Effect := []

namespace SessionManager

def emit (manager : SessionManager) (effects : List Effect) : SessionManager :=
  { manager with log := manager.log ++ effects }

/-- `if (callback) callback(sess)` -/
def notify (manager : SessionManager) (callback : Bool) (effect : Effect) : SessionManager :=
  if callback then manager.emit [effect] else manager

def await (manager : SessionManager) (completion : Pending) : SessionManager :=
  { manager with pending := completion ::ₘ manager.pending }

/-- Somebody the model knows of holds the session. -/
def Holds (manager : SessionManager) (sess : Nat) : Prop :=
  sess ∈ manager.sessions ∨ sess ∈ manager.active ∨
    some sess ∈ manager.pending.map Pending.session

instance (manager : SessionManager) (sess : Nat) : Decidable (manager.Holds sess) :=
  inferInstanceAs (Decidable (_ ∨ _ ∨ _))

/-- A session object over a socket with the given remote address. -/
def create (manager : SessionManager) (sess : Nat) (address : Option UInt32)
    (origin : Option Nat) : SessionManager :=
  { manager with
    addresses := Function.update manager.addresses sess address
    options := Function.update manager.options sess {}
    origin := Function.update manager.origin sess origin }

def setIdleTimeout (manager : SessionManager) (sess timeout : Nat) : SessionManager :=
  { manager with
    options := Function.update manager.options sess
      { manager.options sess with idleTimeout := timeout } }

def applyCaps (manager : SessionManager) (sess : Nat) : SessionManager :=
  let config := manager.config
  let options := manager.options sess
  { manager with
    options := Function.update manager.options sess {
      idleTimeout := if config.idleTimeout ≠ 0 then config.idleTimeout else options.idleTimeout
      heartbeatTimeout :=
        if config.heartbeatTimeout ≠ 0 then config.heartbeatTimeout else options.heartbeatTimeout
      handshakeTimeout :=
        if config.handshakeTimeout ≠ 0 then config.handshakeTimeout else options.handshakeTimeout
      maxMessageSize :=
        if config.maxMessageSize ≠ 0 then config.maxMessageSize else options.maxMessageSize
      maxPendingWrites :=
        if config.maxPendingWrites ≠ 0 then config.maxPendingWrites
        else options.maxPendingWrites } }

def countUp (manager : SessionManager) (ip : UInt32) : SessionManager :=
  { manager with connectionsPerIp := increased manager.connectionsPerIp ip }

def countDown (manager : SessionManager) (ip : UInt32) : SessionManager :=
  { manager with connectionsPerIp := decreased manager.connectionsPerIp ip }

/-- The session is in the vector before its address is asked for. -/
def registerAndStart (manager : SessionManager) (sess : Nat) : SessionManager :=
  let pushed := { manager with sessions := manager.sessions ++ [sess] }.emit [.registered sess]
  match manager.addresses sess with
  | none => pushed.emit [.threw]
  | some ip =>
      let notified := (pushed.countUp ip).notify manager.config.onConnect (.connected sess)
      { notified with active := sess ::ₘ notified.active }.emit [.started sess]

def canIpConnect (manager : SessionManager) (ip : UInt32) : Bool :=
  if manager.config.maxSessions ≠ 0 ∧
      manager.sessions.length ≥ manager.config.maxSessions then
    false
  else if manager.config.maxConnectionsPerIp ≠ 0 then
    match manager.connectionsPerIp ip with
    | none => true
    | some count => if count ≥ manager.config.maxConnectionsPerIp then false else true
  else
    true

def addSession (manager : SessionManager) (sess : Nat) : SessionManager :=
  match manager.addresses sess with
  | none => manager.emit [.threw]
  | some ip =>
      if !manager.canIpConnect ip then
        manager.emit [.closed sess]
      else
        (manager.applyCaps sess).await (.serverHandshake sess)

/-- `do_connect`; without a state also `session_manager::connect`. -/
def doConnect (manager : SessionManager) (sess : Nat) (state : Option ReconnectState) :
    SessionManager :=
  let capped := manager.applyCaps sess
  let timed := match state with
    | none => capped
    | some state =>
        if state.policy.idleTimeout > 0 then capped.setIdleTimeout sess state.policy.idleTimeout
        else capped
  (timed.await (.dial sess state)).emit [.dialed sess]

def scheduleReconnect (manager : SessionManager) (state : ReconnectState) : SessionManager :=
  if manager.reconnectStopped then
    manager
  else
    let state := { state with attempts := state.attempts + 1 }
    if state.policy.maxAttempts ≠ 0 ∧ state.attempts > state.policy.maxAttempts then
      manager.emit [.abandoned state]
    else
      (manager.await (.timer state)).emit [.armed state]

def onSessionRemoved (manager : SessionManager) (sess : Nat) : SessionManager :=
  match manager.reconnectMap.lookup sess with
  | none => manager
  | some state =>
      { manager with
        reconnectMap := manager.reconnectMap.filter fun entry => entry.1 ≠ sess
      }.scheduleReconnect state

/-- The session is out of the vector before its address is asked for. -/
def removeSession (manager : SessionManager) (sess : Nat) : SessionManager :=
  if sess ∈ manager.sessions then
    let erased := { manager with sessions := manager.sessions.erase sess }
    match manager.addresses sess with
    | none => erased.emit [.threw]
    | some ip =>
        ((erased.countDown ip).notify manager.config.onDisconnect
          (.disconnected sess)).onSessionRemoved sess
  else
    manager

def stop (manager : SessionManager) : SessionManager :=
  { manager with
    reconnectStopped := true
    reconnectMap := []
    acceptorOpen := false
    sessions := []
    connectionsPerIp := fun _ => none }.emit (manager.sessions.map .closed)

def asyncWaitForConnection (manager : SessionManager) : SessionManager :=
  manager.await .accept

/-- The handler of a successful accept. -/
def onAccept (manager : SessionManager) (ip : UInt32) (sess : Nat) : SessionManager :=
  ((manager.create sess (some ip) none).addSession sess).asyncWaitForConnection

/-- The handler of the handshake of an inbound session. -/
def onServerHandshake (manager : SessionManager) (sess : Nat) (isValid : Bool) :
    SessionManager :=
  if isValid then manager.registerAndStart sess else manager

/-- The handler of a dial; a new remote endpoint replaces the old one. -/
def onDial (manager : SessionManager) (sess : Nat) (state : Option ReconnectState)
    (remote : Option (Option UInt32)) : SessionManager :=
  let manager := match remote with
    | none => manager
    | some address =>
        { manager with addresses := Function.update manager.addresses sess address }
  if state.isSome ∧ manager.reconnectStopped then
    manager
  else if remote.isNone then
    match state with
    | none => manager
    | some state => manager.scheduleReconnect state
  else
    manager.await (.clientHandshake sess state)

/-- The handler of the handshake of an outbound session. -/
def onClientHandshake (manager : SessionManager) (sess : Nat) (state : Option ReconnectState)
    (isValid : Bool) : SessionManager :=
  if state.isSome ∧ manager.reconnectStopped then
    manager
  else if !isValid then
    match state with
    | none => manager
    | some state => manager.scheduleReconnect state
  else
    match state with
    | none => manager.registerAndStart sess
    | some state =>
        let state := { state with attempts := 0, currentDelay := state.policy.initialDelay }
        { manager with
          reconnectMap :=
            (sess, state) :: manager.reconnectMap.filter fun entry => entry.1 ≠ sess
        }.registerAndStart sess

def attemptReconnect (manager : SessionManager) (state : ReconnectState) (sess : Nat) :
    SessionManager :=
  if manager.reconnectStopped then
    manager
  else
    (manager.create sess (some 0) (some state.call)).doConnect sess (some state)

/-- The handler of a reconnect timer. -/
def onTimer (manager : SessionManager) (state : ReconnectState) (sess : Nat) : SessionManager :=
  if manager.reconnectStopped then
    manager
  else
    manager.attemptReconnect
      { state with currentDelay := state.policy.scale state.currentDelay } sess

/-- `connect` with a `reconnect_policy`. -/
def connectWithPolicy (manager : SessionManager) (sess : Nat) (host service : String)
    (sslContext : Nat) (policy : ReconnectPolicy) : SessionManager :=
  let state : ReconnectState :=
    { host, service, sslContext, policy
      attempts := 0, currentDelay := policy.initialDelay, call := manager.calls }
  ({ manager with calls := manager.calls + 1 }.create sess (some 0)
    (some manager.calls)).doConnect sess (some state)

section Equations

variable {manager : SessionManager} {sess : Nat}

theorem registerAndStart_of_ipv4 {ip : UInt32} (address : manager.addresses sess = some ip) :
    manager.registerAndStart sess =
      let notified := (({ manager with sessions := manager.sessions ++ [sess] }.emit
        [.registered sess]).countUp ip).notify manager.config.onConnect (.connected sess)
      { notified with active := sess ::ₘ notified.active }.emit [.started sess] := by
  simp [registerAndStart, address]

theorem addSession_of_room {ip : UInt32} (address : manager.addresses sess = some ip)
    (room : manager.canIpConnect ip = true) :
    manager.addSession sess = (manager.applyCaps sess).await (.serverHandshake sess) := by
  simp [addSession, address, room]

theorem removeSession_of_absent (absent : sess ∉ manager.sessions) :
    manager.removeSession sess = manager :=
  if_neg absent

theorem removeSession_throws (member : sess ∈ manager.sessions)
    (other : manager.addresses sess = none) :
    manager.removeSession sess =
      { manager with sessions := manager.sessions.erase sess }.emit [.threw] := by
  simp [removeSession, member, other]

theorem removeSession_of_ipv4 {ip : UInt32} (member : sess ∈ manager.sessions)
    (address : manager.addresses sess = some ip) :
    manager.removeSession sess =
      (({ manager with sessions := manager.sessions.erase sess }.countDown ip).notify
        manager.config.onDisconnect (.disconnected sess)).onSessionRemoved sess := by
  simp [removeSession, member, address]

end Equations

end SessionManager

/-- The public calls, the completion callbacks and the failure of a session's
read, each with what the environment decides: the address a new session object
gets and the result of the operation. -/
inductive Action where
  | asyncWaitForConnection
  | addSession (sess : Nat) (address : Option UInt32)
  | connectSession (sess : Nat) (address : Option UInt32)
  | connect (sess : Nat)
  | connectWithPolicy (sess : Nat) (host service : String) (sslContext : Nat)
      (policy : ReconnectPolicy)
  | removeSession (sess : Nat)
  | stop
  | incoming (ip : UInt32)
  | accepted (ip : UInt32) (sess : Nat)
  | acceptFailed
  | dialed (sess : Nat) (state : Option ReconnectState) (remote : Option (Option UInt32))
  | serverHandshake (sess : Nat) (isValid : Bool)
  | clientHandshake (sess : Nat) (state : Option ReconnectState) (isValid : Bool)
  | timer (state : ReconnectState) (sess : Nat)
  | sessionFailed (sess : Nat)

/-- Run the callback of an outstanding completion. -/
def complete (manager : SessionManager) (completion : Pending)
    (callback : SessionManager → SessionManager) : Option SessionManager :=
  if completion ∈ manager.pending then
    some (callback { manager with pending := manager.pending.erase completion })
  else none

/-- A session the caller made: one that is held already and keeps its address, or
a new object, whose socket has no limits of its own.  A caller that sets limits
on the socket first, or keeps an object that nobody holds, is not covered. -/
def handOver (manager : SessionManager) (sess : Nat) (address : Option UInt32) :
    Option SessionManager :=
  if manager.Holds sess then
    if manager.addresses sess = address then some manager else none
  else some (manager.create sess address none)

/-- A session the manager makes is an object nobody holds. -/
def allocate (manager : SessionManager) (sess : Nat) (result : Option SessionManager) :
    Option SessionManager :=
  if manager.Holds sess then none else result

theorem complete_eq_some {manager next : SessionManager} {completion : Pending}
    {callback : SessionManager → SessionManager} :
    complete manager completion callback = some next ↔ completion ∈ manager.pending ∧
      callback { manager with pending := manager.pending.erase completion } = next := by
  rw [complete, Option.ite_none_right_eq_some, Option.some_inj]

theorem allocate_eq_some {manager next : SessionManager} {sess : Nat}
    {result : Option SessionManager} :
    allocate manager sess result = some next ↔ ¬ manager.Holds sess ∧ result = some next :=
  Option.ite_none_left_eq_some

theorem handOver_eq_some {manager given : SessionManager} {sess : Nat} {address : Option UInt32}
    (handed : handOver manager sess address = some given) :
    given = manager ∧ manager.addresses sess = address ∨
      ¬ manager.Holds sess ∧ given = manager.create sess address none := by
  unfold handOver at handed
  split at handed
  next =>
    obtain ⟨same, handed⟩ := Option.ite_none_right_eq_some.mp handed
    cases handed
    exact Or.inl ⟨rfl, same⟩
  next unheld =>
    cases handed
    exact Or.inr ⟨unheld, rfl⟩

theorem handOver_frame {manager given : SessionManager} {sess : Nat} {address : Option UInt32}
    (handed : handOver manager sess address = some given) {Value : Type}
    (read : SessionManager → Value)
    (frame : read (manager.create sess address none) = read manager) :
    read given = read manager := by
  rcases handOver_eq_some handed with ⟨rfl, -⟩ | ⟨-, rfl⟩
  · rfl
  · exact frame

def step (manager : SessionManager) : Action → Option SessionManager
  | .asyncWaitForConnection => some manager.asyncWaitForConnection
  | .addSession sess address =>
      (handOver manager sess address).map fun manager => manager.addSession sess
  | .connectSession sess address =>
      (handOver manager sess address).map fun manager => manager.doConnect sess none
  | .connect sess =>
      allocate manager sess (some ((manager.create sess (some 0) none).doConnect sess none))
  | .connectWithPolicy sess host service sslContext policy =>
      allocate manager sess
        (some (manager.connectWithPolicy sess host service sslContext policy))
  | .removeSession sess => some (manager.removeSession sess)
  | .stop => some manager.stop
  | .incoming ip =>
      if manager.acceptorOpen then
        complete manager .accept fun manager => manager.await (.accepted ip)
      else none
  | .accepted ip sess =>
      allocate manager sess
        (complete manager (.accepted ip) fun manager => manager.onAccept ip sess)
  | .acceptFailed => complete manager .accept id
  | .dialed sess state remote =>
      complete manager (.dial sess state) fun manager => manager.onDial sess state remote
  | .serverHandshake sess isValid =>
      complete manager (.serverHandshake sess) fun manager =>
        manager.onServerHandshake sess isValid
  | .clientHandshake sess state isValid =>
      complete manager (.clientHandshake sess state) fun manager =>
        manager.onClientHandshake sess state isValid
  | .timer state sess =>
      allocate manager sess
        (complete manager (.timer state) fun manager => manager.onTimer state sess)
  | .sessionFailed sess =>
      if sess ∈ manager.active then
        some ({ manager with active := manager.active.erase sess }.removeSession sess)
      else none

/-- The actions that are enabled in a state, with what they do to it. -/
inductive Step (manager : SessionManager) : Action → SessionManager → Prop where
  | asyncWaitForConnection : Step manager .asyncWaitForConnection manager.asyncWaitForConnection
  | addSession (sess : Nat) (address : Option UInt32) (given : SessionManager)
      (handed : handOver manager sess address = some given) :
      Step manager (.addSession sess address) (given.addSession sess)
  | connectSession (sess : Nat) (address : Option UInt32) (given : SessionManager)
      (handed : handOver manager sess address = some given) :
      Step manager (.connectSession sess address) (given.doConnect sess none)
  | connect (sess : Nat) (unheld : ¬ manager.Holds sess) :
      Step manager (.connect sess) ((manager.create sess (some 0) none).doConnect sess none)
  | connectWithPolicy (sess : Nat) (host service : String) (sslContext : Nat)
      (policy : ReconnectPolicy) (unheld : ¬ manager.Holds sess) :
      Step manager (.connectWithPolicy sess host service sslContext policy)
        (manager.connectWithPolicy sess host service sslContext policy)
  | removeSession (sess : Nat) : Step manager (.removeSession sess) (manager.removeSession sess)
  | stop : Step manager .stop manager.stop
  | incoming (ip : UInt32) (isOpen : manager.acceptorOpen = true)
      (pending : .accept ∈ manager.pending) :
      Step manager (.incoming ip)
        ({ manager with pending := manager.pending.erase .accept }.await (.accepted ip))
  | accepted (ip : UInt32) (sess : Nat) (unheld : ¬ manager.Holds sess)
      (pending : .accepted ip ∈ manager.pending) :
      Step manager (.accepted ip sess)
        ({ manager with pending := manager.pending.erase (.accepted ip) }.onAccept ip sess)
  | acceptFailed (pending : .accept ∈ manager.pending) :
      Step manager .acceptFailed { manager with pending := manager.pending.erase .accept }
  | dialed (sess : Nat) (state : Option ReconnectState) (remote : Option (Option UInt32))
      (pending : .dial sess state ∈ manager.pending) :
      Step manager (.dialed sess state remote)
        ({ manager with pending := manager.pending.erase (.dial sess state) }.onDial sess state
          remote)
  | serverHandshake (sess : Nat) (isValid : Bool)
      (pending : .serverHandshake sess ∈ manager.pending) :
      Step manager (.serverHandshake sess isValid)
        ({ manager with
          pending := manager.pending.erase (.serverHandshake sess)
        }.onServerHandshake sess isValid)
  | clientHandshake (sess : Nat) (state : Option ReconnectState) (isValid : Bool)
      (pending : .clientHandshake sess state ∈ manager.pending) :
      Step manager (.clientHandshake sess state isValid)
        ({ manager with
          pending := manager.pending.erase (.clientHandshake sess state)
        }.onClientHandshake sess state isValid)
  | timer (state : ReconnectState) (sess : Nat) (unheld : ¬ manager.Holds sess)
      (pending : .timer state ∈ manager.pending) :
      Step manager (.timer state sess)
        ({ manager with pending := manager.pending.erase (.timer state) }.onTimer state sess)
  | sessionFailed (sess : Nat) (reading : sess ∈ manager.active) :
      Step manager (.sessionFailed sess)
        ({ manager with active := manager.active.erase sess }.removeSession sess)

theorem step_cases {manager next : SessionManager} {action : Action}
    (taken : step manager action = some next) : Step manager action next := by
  cases action with
  | asyncWaitForConnection =>
      cases taken
      exact .asyncWaitForConnection
  | addSession sess address =>
      obtain ⟨given, handed, rfl⟩ := Option.map_eq_some_iff.mp taken
      exact .addSession sess address given handed
  | connectSession sess address =>
      obtain ⟨given, handed, rfl⟩ := Option.map_eq_some_iff.mp taken
      exact .connectSession sess address given handed
  | connect sess =>
      obtain ⟨unheld, created⟩ := allocate_eq_some.mp taken
      cases created
      exact .connect sess unheld
  | connectWithPolicy sess host service sslContext policy =>
      obtain ⟨unheld, created⟩ := allocate_eq_some.mp taken
      cases created
      exact .connectWithPolicy sess host service sslContext policy unheld
  | removeSession sess =>
      cases taken
      exact .removeSession sess
  | stop =>
      cases taken
      exact .stop
  | incoming ip =>
      obtain ⟨isOpen, completed⟩ := Option.ite_none_right_eq_some.mp taken
      obtain ⟨pending, rfl⟩ := complete_eq_some.mp completed
      exact .incoming ip isOpen pending
  | accepted ip sess =>
      obtain ⟨unheld, completed⟩ := allocate_eq_some.mp taken
      obtain ⟨pending, rfl⟩ := complete_eq_some.mp completed
      exact .accepted ip sess unheld pending
  | acceptFailed =>
      obtain ⟨pending, rfl⟩ := complete_eq_some.mp taken
      exact .acceptFailed pending
  | dialed sess state remote =>
      simp only [step] at taken
      obtain ⟨pending, rfl⟩ := complete_eq_some.mp taken
      exact .dialed sess state remote pending
  | serverHandshake sess isValid =>
      obtain ⟨pending, rfl⟩ := complete_eq_some.mp taken
      exact .serverHandshake sess isValid pending
  | clientHandshake sess state isValid =>
      simp only [step] at taken
      obtain ⟨pending, rfl⟩ := complete_eq_some.mp taken
      exact .clientHandshake sess state isValid pending
  | timer state sess =>
      obtain ⟨unheld, completed⟩ := allocate_eq_some.mp taken
      obtain ⟨pending, rfl⟩ := complete_eq_some.mp completed
      exact .timer state sess unheld pending
  | sessionFailed sess =>
      obtain ⟨reading, removed⟩ := Option.ite_none_right_eq_some.mp taken
      cases removed
      exact .sessionFailed sess reading

end SocketSL.Manager
