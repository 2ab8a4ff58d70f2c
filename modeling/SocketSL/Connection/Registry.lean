import SocketSL.Connection.Effects

/-!
# The registry and the per-address counter

`sessions_` and `connections_per_ip_` say the same thing twice.  `Registry` is
the part of the manager they live in, with the four things that can happen to
it; `step_registry` says which of them each action is, and everything about the
counter is derived from that.
-/

namespace SocketSL.Manager

open SocketSL.Lib

structure Registry where
  config : Config
  sessions : List Nat
  connectionsPerIp : UInt32 → Option Nat
  addresses : Nat → Option UInt32

def SessionManager.registry (manager : SessionManager) : Registry :=
  ⟨manager.config, manager.sessions, manager.connectionsPerIp, manager.addresses⟩

namespace Registry

def relocate (registry : Registry) (sess : Nat) (address : Option UInt32) : Registry :=
  { registry with addresses := Function.update registry.addresses sess address }

def register (registry : Registry) (sess : Nat) : Registry :=
  { registry with
    sessions := registry.sessions ++ [sess]
    connectionsPerIp := match registry.addresses sess with
      | none => registry.connectionsPerIp
      | some ip => increased registry.connectionsPerIp ip }

def remove (registry : Registry) (sess : Nat) : Registry :=
  { registry with
    sessions := registry.sessions.erase sess
    connectionsPerIp := match registry.addresses sess with
      | none => registry.connectionsPerIp
      | some ip => decreased registry.connectionsPerIp ip }

def clear (registry : Registry) : Registry :=
  { registry with sessions := [], connectionsPerIp := fun _ => none }

end Registry

namespace SessionManager

variable (manager : SessionManager) (sess : Nat)

@[simp]
theorem await_registry (completion : Pending) :
    (manager.await completion).registry = manager.registry := rfl

@[simp]
theorem create_registry (address : Option UInt32) (origin : Option Nat) :
    (manager.create sess address origin).registry = manager.registry.relocate sess address := rfl

@[simp]
theorem addSession_registry : (manager.addSession sess).registry = manager.registry := by
  obtain ⟨options, pending, log, same⟩ := (manager.addSession_effect sess).frame
  rw [same]
  rfl

@[simp]
theorem doConnect_registry (state : Option ReconnectState) :
    (manager.doConnect sess state).registry = manager.registry := by
  obtain ⟨options, same⟩ := manager.doConnect_effect sess state
  rw [same]
  rfl

@[simp]
theorem onSessionRemoved_registry :
    (manager.onSessionRemoved sess).registry = manager.registry := by
  obtain ⟨entries, pending, log, same⟩ := (manager.onSessionRemoved_effect sess).frame
  rw [same]
  rfl

theorem registerAndStart_registry :
    (manager.registerAndStart sess).registry = manager.registry.register sess := by
  rw [registerAndStart_eq]
  rfl

theorem removeSession_registry (member : sess ∈ manager.sessions) :
    (manager.removeSession sess).registry = manager.registry.remove sess := by
  have effect := manager.removeSession_effect sess
  generalize manager.removeSession sess = next at effect ⊢
  cases effect with
  | absent absent => exact absurd member absent
  | throws member other => simp [registry, Registry.remove, emit, other]
  | leaves ip next member address released =>
      obtain ⟨entries, pending, log, rfl⟩ := released.frame
      simp [registry, Registry.remove, emit, countDown, address]

theorem removeSession_sessions :
    (manager.removeSession sess).sessions = manager.sessions.erase sess := by
  obtain ⟨counts, entries, pending, log, same⟩ := (manager.removeSession_effect sess).frame
  rw [same]

variable {manager sess} in
theorem removeSession_connectionsPerIp (member : sess ∈ manager.sessions) {ip : UInt32}
    (address : manager.addresses sess = some ip) :
    (manager.removeSession sess).connectionsPerIp = decreased manager.connectionsPerIp ip := by
  have removed := congrArg Registry.connectionsPerIp (manager.removeSession_registry sess member)
  simpa [registry, Registry.remove, address] using removed

end SessionManager

/-- What an action does to the registry. -/
inductive RegistryStep (manager : SessionManager) : Action → Registry → Prop where
  | keep (action : Action) : RegistryStep manager action manager.registry
  | create (action : Action) (sess : Nat) (address : Option UInt32)
      (unheld : ¬ manager.Holds sess)
      (known : address ≠ none ∨ action = .addSession sess address ∨
        action = .connectSession sess address) :
      RegistryStep manager action (manager.registry.relocate sess address)
  | redial (sess : Nat) (state : Option ReconnectState) (address : Option UInt32) :
      RegistryStep manager (.dialed sess state (some address))
        (manager.registry.relocate sess address)
  | inbound (sess : Nat) (pending : .serverHandshake sess ∈ manager.pending) :
      RegistryStep manager (.serverHandshake sess true) (manager.registry.register sess)
  | outbound (sess : Nat) (state : Option ReconnectState) :
      RegistryStep manager (.clientHandshake sess state true) (manager.registry.register sess)
  | remove (action : Action) (sess : Nat) (member : sess ∈ manager.sessions) :
      RegistryStep manager action (manager.registry.remove sess)
  | clear : RegistryStep manager .stop manager.registry.clear

section StepRegistry

variable {manager next : SessionManager}

theorem handOver_registry {sess : Nat} {address : Option UInt32} {given : SessionManager}
    (handed : handOver manager sess address = some given) {action : Action}
    (known : action = .addSession sess address ∨ action = .connectSession sess address) :
    RegistryStep manager action given.registry := by
  rcases handOver_eq_some handed with ⟨rfl, -⟩ | ⟨unheld, rfl⟩
  · exact .keep action
  · exact .create action sess address unheld (Or.inr known)

theorem onDial_registry (sess : Nat) (state : Option ReconnectState)
    (remote : Option (Option UInt32)) :
    (manager.onDial sess state remote).registry =
      match remote with
      | none => manager.registry
      | some address => manager.registry.relocate sess address := by
  obtain ⟨pending, log, same⟩ := (manager.onDial_effect sess state remote).frame
  rw [same]
  cases remote <;> rfl

theorem onClientHandshake_registry (sess : Nat) (state : Option ReconnectState)
    (isValid : Bool) :
    (manager.onClientHandshake sess state isValid).registry = manager.registry ∨
      isValid = true ∧
        (manager.onClientHandshake sess state isValid).registry =
          manager.registry.register sess := by
  rcases (manager.onClientHandshake_effect sess state isValid).frame with
    ⟨pending, log, same⟩ | ⟨valid, -, entries, same⟩
  · rw [same]
    exact Or.inl rfl
  · rw [same]
    exact Or.inr ⟨valid, manager.registerAndStart_registry sess⟩

theorem onTimer_registry (state : ReconnectState) (sess : Nat) :
    (manager.onTimer state sess).registry = manager.registry ∨
      (manager.onTimer state sess).registry = manager.registry.relocate sess (some 0) := by
  have effect := manager.onTimer_effect sess state
  generalize manager.onTimer state sess = next at effect ⊢
  cases effect with
  | drops stopped => exact Or.inl rfl
  | redials running => exact Or.inr (by simp)

theorem removal_registry {current : SessionManager} (same : current.registry = manager.registry)
    (sess : Nat) (action : Action) :
    RegistryStep manager action (current.removeSession sess).registry := by
  have sessions : current.sessions = manager.sessions := congrArg Registry.sessions same
  by_cases member : sess ∈ current.sessions
  · rw [current.removeSession_registry sess member, same]
    exact .remove action sess (sessions ▸ member)
  · rw [SessionManager.removeSession_of_absent member, same]
    exact .keep action

/-- Every action keeps the registry, moves a session to another address,
registers one, removes one or empties the registry. -/
theorem step_registry {action : Action} (taken : step manager action = some next) :
    RegistryStep manager action next.registry := by
  cases step_cases taken with
  | asyncWaitForConnection => exact .keep _
  | addSession sess address given handed =>
      rw [SessionManager.addSession_registry]
      exact handOver_registry handed (Or.inl rfl)
  | connectSession sess address given handed =>
      rw [SessionManager.doConnect_registry]
      exact handOver_registry handed (Or.inr rfl)
  | connect sess unheld =>
      rw [SessionManager.doConnect_registry]
      exact .create _ sess _ unheld (Or.inl nofun)
  | connectWithPolicy sess host service sslContext policy unheld =>
      rw [SessionManager.connectWithPolicy, SessionManager.doConnect_registry]
      exact .create _ sess _ unheld (Or.inl nofun)
  | removeSession sess => exact removal_registry rfl sess _
  | stop => exact .clear
  | incoming ip isOpen pending => exact .keep _
  | accepted ip sess unheld pending =>
      rw [SessionManager.onAccept, SessionManager.asyncWaitForConnection,
        SessionManager.await_registry, SessionManager.addSession_registry]
      exact .create _ sess _ unheld (Or.inl nofun)
  | acceptFailed pending => exact .keep _
  | dialed sess state remote pending =>
      rw [onDial_registry]
      cases remote with
      | none => exact .keep _
      | some address => exact .redial sess state address
  | serverHandshake sess isValid pending =>
      cases isValid with
      | false => exact .keep _
      | true =>
          have registered := SessionManager.registerAndStart_registry
            { manager with pending := manager.pending.erase (.serverHandshake sess) } sess
          exact registered ▸ .inbound sess pending
  | clientHandshake sess state isValid pending =>
      rcases onClientHandshake_registry sess state isValid with same | ⟨rfl, registered⟩
      · rw [same]
        exact .keep _
      · rw [registered]
        exact .outbound sess state
  | timer state sess unheld pending =>
      rcases onTimer_registry state sess with same | created
      · rw [same]
        exact .keep _
      · rw [created]
        exact .create _ sess _ unheld (Or.inl nofun)
  | sessionFailed sess reading =>
      apply removal_registry
      rfl

end StepRegistry

namespace Registry

/-- The registered sessions with a given address. -/
def connectionsFrom (registry : Registry) (ip : UInt32) : Nat :=
  registry.sessions.countP fun sess => registry.addresses sess = some ip

/-- The counter holds the number of registered sessions of each address that
has any, and nothing else. -/
structure Agree (registry : Registry) : Prop where
  ipv4 : ∀ sess, registry.addresses sess ≠ none
  counts : ∀ ip, registry.connectionsPerIp ip =
    if registry.connectionsFrom ip = 0 then none else some (registry.connectionsFrom ip)

theorem connectionsFrom_register (registry : Registry) (sess : Nat) (ip : UInt32) :
    (registry.register sess).connectionsFrom ip =
      registry.connectionsFrom ip + if registry.addresses sess = some ip then 1 else 0 := by
  have pushed : (registry.register sess).connectionsFrom ip =
      (registry.sessions ++ [sess]).countP fun other => registry.addresses other = some ip := rfl
  rw [pushed, List.countP_append, connectionsFrom]
  by_cases own : registry.addresses sess = some ip
  · simp [own]
  · simp [own]

theorem connectionsFrom_remove {registry : Registry} {sess : Nat}
    (member : sess ∈ registry.sessions) (ip : UInt32) :
    (registry.remove sess).connectionsFrom ip +
      (if registry.addresses sess = some ip then 1 else 0) = registry.connectionsFrom ip := by
  have moved := (List.perm_cons_erase member).countP_eq
    fun other => decide (registry.addresses other = some ip)
  have erased : (registry.remove sess).connectionsFrom ip =
      (registry.sessions.erase sess).countP fun other => registry.addresses other = some ip := rfl
  rw [erased, connectionsFrom, moved, List.countP_cons]
  by_cases own : registry.addresses sess = some ip
  · simp [own]
  · simp [own]

theorem connectionsFrom_relocate {registry : Registry} {sess : Nat}
    {address : Option UInt32} (ip : UInt32)
    (stays : sess ∈ registry.sessions → registry.addresses sess = address) :
    (registry.relocate sess address).connectionsFrom ip = registry.connectionsFrom ip := by
  apply List.countP_congr
  intro other member
  by_cases same : other = sess
  · subst same
    simp [relocate, stays member]
  · simp [relocate, same]

theorem Agree.initial (config : Config) : ({ config := config } : SessionManager).registry.Agree :=
  ⟨fun _ => nofun, fun _ => rfl⟩

section Agree

variable {registry : Registry} (agree : registry.Agree)
include agree

theorem Agree.relocate {sess : Nat} {ip : UInt32}
    (stays : sess ∈ registry.sessions → registry.addresses sess = some ip) :
    (registry.relocate sess (some ip)).Agree := by
  constructor
  · intro other
    by_cases same : other = sess
    · simp [Registry.relocate, same]
    · simpa [Registry.relocate, same] using agree.ipv4 other
  · intro queried
    rw [connectionsFrom_relocate queried stays]
    exact agree.counts queried

theorem Agree.register (sess : Nat) : (registry.register sess).Agree := by
  obtain ⟨ip, address⟩ := Option.ne_none_iff_exists'.mp (agree.ipv4 sess)
  refine ⟨agree.ipv4, ?_⟩
  intro queried
  have counts := agree.counts queried
  rw [connectionsFrom_register]
  by_cases same : queried = ip
  · subst same
    have entry : (registry.connectionsPerIp queried).getD 0 = registry.connectionsFrom queried := by
      rw [counts]
      split <;> simp_all
    simp [Registry.register, address, increased, entry]
  · have other : ¬ some ip = some queried := fun equal => same (Option.some.inj equal).symm
    simpa [Registry.register, address, increased, same, other] using counts

theorem Agree.entry {sess : Nat} (member : sess ∈ registry.sessions) {ip : UInt32}
    (address : registry.addresses sess = some ip) :
    ∃ others, registry.connectionsPerIp ip = some (others + 1) ∧
      registry.connectionsFrom ip = others + 1 := by
  have positive : 0 < registry.connectionsFrom ip :=
    List.countP_pos_iff.mpr ⟨sess, member, by simpa using address⟩
  obtain ⟨others, total⟩ := Nat.exists_eq_succ_of_ne_zero (Nat.ne_of_gt positive)
  refine ⟨others, ?_, total⟩
  rw [agree.counts, total]
  rfl

theorem Agree.remove {sess : Nat} (member : sess ∈ registry.sessions) :
    (registry.remove sess).Agree := by
  obtain ⟨ip, address⟩ := Option.ne_none_iff_exists'.mp (agree.ipv4 sess)
  refine ⟨agree.ipv4, ?_⟩
  intro queried
  have total := connectionsFrom_remove member queried
  have counts := agree.counts queried
  by_cases same : queried = ip
  · subst same
    obtain ⟨others, entry, number⟩ := agree.entry member address
    rw [address, if_pos rfl, number] at total
    have remaining : (registry.remove sess).connectionsFrom queried = others := by omega
    rw [remaining]
    simp [Registry.remove, address, decreased, entry, decrement]
  · have other : ¬ some ip = some queried := fun equal => same (Option.some.inj equal).symm
    rw [address, if_neg other, Nat.add_zero] at total
    rw [total, ← counts]
    simpa [Registry.remove, address] using decreased_of_ne registry.connectionsPerIp same

theorem Agree.clear : registry.clear.Agree :=
  ⟨agree.ipv4, fun ip => by simp [Registry.clear, connectionsFrom]⟩

end Agree

end Registry

/-- Every session has an IPv4 address. -/
def Ipv4 : Action → Prop
  | .addSession _ address => address ≠ none
  | .connectSession _ address => address ≠ none
  | .dialed _ _ (some address) => address ≠ none
  | _ => True

/-- A session that is registered is not dialled to another address. -/
def KeepsAddress (manager : SessionManager) : Action → Prop
  | .dialed sess _ (some address) =>
      sess ∈ manager.sessions → manager.addresses sess = address
  | _ => True

theorem Registry.Agree.step {manager next : SessionManager} (agree : manager.registry.Agree)
    {action : Action} (ipv4 : Ipv4 action) (keeps : KeepsAddress manager action)
    (taken : step manager action = some next) : next.registry.Agree := by
  have change := step_registry taken
  generalize next.registry = registry at change
  cases change with
  | keep => exact agree
  | create _ sess address unheld known =>
      have present : address ≠ none := by
        rcases known with present | rfl | rfl
        · exact present
        · exact ipv4
        · exact ipv4
      obtain ⟨ip, rfl⟩ := Option.ne_none_iff_exists'.mp present
      exact agree.relocate fun member => absurd (Or.inl member) unheld
  | redial sess state address =>
      obtain ⟨ip, rfl⟩ := Option.ne_none_iff_exists'.mp ipv4
      exact agree.relocate keeps
  | inbound sess pending => exact agree.register sess
  | outbound sess state => exact agree.register sess
  | remove _ sess member => exact agree.remove member
  | clear => exact agree.clear

theorem Registry.Agree.canIpConnect_iff {manager : SessionManager}
    (agree : manager.registry.Agree) (ip : UInt32) :
    manager.canIpConnect ip = true ↔
      (manager.config.maxSessions = 0 ∨
        manager.sessions.length < manager.config.maxSessions) ∧
      (manager.config.maxConnectionsPerIp = 0 ∨
        manager.registry.connectionsFrom ip < manager.config.maxConnectionsPerIp) := by
  have counts : manager.connectionsPerIp ip = _ := agree.counts ip
  unfold SessionManager.canIpConnect
  rw [counts]
  generalize manager.registry.connectionsFrom ip = connections
  by_cases full : manager.config.maxSessions ≠ 0 ∧
      manager.sessions.length ≥ manager.config.maxSessions
  · rw [if_pos full]
    simp only [Bool.false_eq_true, false_iff]
    omega
  · rw [if_neg full]
    have room : manager.config.maxSessions = 0 ∨
        manager.sessions.length < manager.config.maxSessions := by omega
    by_cases unlimited : manager.config.maxConnectionsPerIp = 0
    · simp [unlimited, room]
    · rw [if_pos unlimited]
      by_cases unknown : connections = 0
      · rw [if_pos unknown]
        simp only [true_iff]
        omega
      · rw [if_neg unknown]
        simp only [Bool.if_false_left, Bool.and_true, Bool.not_eq_true', decide_eq_false_iff_not]
        omega

/-- In every reachable state the counter tells the number of registered
sessions of each address, a removal finds its entry above zero and touches no
other session, and admission decides on the true numbers. -/
theorem registry_agrees_with_counter {config : Config} {actions : List Action}
    {manager : SessionManager} (executed : run step { config := config } actions = some manager)
    (ipv4 : Throughout step (fun manager action => Ipv4 action ∧ KeepsAddress manager action)
      { config := config } actions) :
    (∀ ip, manager.connectionsPerIp ip =
      if manager.registry.connectionsFrom ip = 0 then none
      else some (manager.registry.connectionsFrom ip)) ∧
    (∀ sess ∈ manager.sessions, ∃ ip others, manager.addresses sess = some ip ∧
      manager.connectionsPerIp ip = some (others + 1) ∧
      (manager.removeSession sess).connectionsPerIp ip =
        if others = 0 then none else some others) ∧
    (∀ sess other, other ≠ sess →
      (manager.removeSession sess).sessions.count other = manager.sessions.count other) ∧
    (∀ sess ip, manager.addresses sess ≠ some ip →
      (manager.removeSession sess).connectionsPerIp ip = manager.connectionsPerIp ip) ∧
    (∀ sess, sess ∉ manager.sessions → manager.removeSession sess = manager) ∧
    ∀ ip, manager.canIpConnect ip = true ↔
      (manager.config.maxSessions = 0 ∨
        manager.sessions.length < manager.config.maxSessions) ∧
      (manager.config.maxConnectionsPerIp = 0 ∨
        manager.registry.connectionsFrom ip < manager.config.maxConnectionsPerIp) := by
  have agree : manager.registry.Agree := by
    refine run_invariant (fun manager => manager.registry.Agree)
      (fun state action next agree meets taken => agree.step meets.1 meets.2 taken) ?_ ipv4 executed
    exact Registry.Agree.initial config
  refine ⟨agree.counts, ?_, ?_, ?_, ?_, agree.canIpConnect_iff⟩
  · intro sess member
    obtain ⟨ip, address⟩ := Option.ne_none_iff_exists'.mp (agree.ipv4 sess)
    obtain ⟨others, entry, -⟩ := agree.entry member address
    refine ⟨ip, others, address, entry, ?_⟩
    have entry : manager.connectionsPerIp ip = some (others + 1) := entry
    rw [SessionManager.removeSession_connectionsPerIp member address]
    simp [decreased, entry, decrement]
  · intro sess other different
    rw [SessionManager.removeSession_sessions]
    exact List.count_erase_of_ne different
  · intro sess queried elsewhere
    by_cases member : sess ∈ manager.sessions
    · obtain ⟨ip, address⟩ := Option.ne_none_iff_exists'.mp (agree.ipv4 sess)
      have address : manager.addresses sess = some ip := address
      rw [SessionManager.removeSession_connectionsPerIp member address]
      apply decreased_of_ne
      rintro rfl
      exact elsewhere address
    · rw [SessionManager.removeSession_of_absent member]
  · intro sess absent
    exact SessionManager.removeSession_of_absent absent

/-- Two sessions of one address, one of them removed twice. -/
theorem registry_agrees_with_counter_two_sessions :
    let actions : List Action := [.addSession 1 (some 10), .addSession 2 (some 10),
      .serverHandshake 1 true, .serverHandshake 2 true, .removeSession 1, .removeSession 1]
    ∃ manager, run step { config := { maxConnectionsPerIp := 2 } } actions = some manager ∧
      manager.sessions = [2] ∧ manager.connectionsPerIp 10 = some 1 ∧
      (manager.canIpConnect 10 = true ↔
        (manager.config.maxSessions = 0 ∨
          manager.sessions.length < manager.config.maxSessions) ∧
        (manager.config.maxConnectionsPerIp = 0 ∨
          manager.registry.connectionsFrom 10 < manager.config.maxConnectionsPerIp)) := by
  intro actions
  refine ⟨_, rfl, rfl, rfl, ?_⟩
  refine (@registry_agrees_with_counter { maxConnectionsPerIp := 2 } actions _ rfl ?_).2.2.2.2.2 10
  refine (throughout_cons rfl).mpr ⟨⟨nofun, trivial⟩, ?_⟩
  refine (throughout_cons rfl).mpr ⟨⟨nofun, trivial⟩, ?_⟩
  refine (throughout_cons rfl).mpr ⟨⟨trivial, trivial⟩, ?_⟩
  refine (throughout_cons rfl).mpr ⟨⟨trivial, trivial⟩, ?_⟩
  refine (throughout_cons rfl).mpr ⟨⟨trivial, trivial⟩, ?_⟩
  exact (throughout_cons rfl).mpr ⟨⟨trivial, trivial⟩, trivial⟩

end SocketSL.Manager
