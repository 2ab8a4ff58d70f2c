import SocketSL.Connection.Registry

/-!
# Admission caps

`add_session` asks `can_ip_connect` before the handshake, `register_and_start`
registers after it, and any number of other handshakes may complete in between.
The caps hold along a run of inbound connections exactly when the answer is
still the same at every registration.
-/

namespace SocketSL.Manager

open SocketSL.Lib

/-- What happens to a manager that nobody dials out with; inbound sessions have
an IPv4 address. -/
def Inbound : Action → Prop
  | .asyncWaitForConnection => True
  | .addSession _ address => address ≠ none
  | .removeSession _ => True
  | .stop => True
  | .incoming _ => True
  | .accepted _ _ => True
  | .acceptFailed => True
  | .serverHandshake _ _ => True
  | .sessionFailed _ => True
  | _ => False

/-- Neither cap is exceeded. -/
structure Registry.Capped (registry : Registry) : Prop where
  total : registry.config.maxSessions ≠ 0 →
    registry.sessions.length ≤ registry.config.maxSessions
  perIp : registry.config.maxConnectionsPerIp ≠ 0 →
    ∀ ip, registry.connectionsFrom ip ≤ registry.config.maxConnectionsPerIp

/-- A handshake that succeeds still finds room for its session. -/
def StillAdmitted (manager : SessionManager) : Action → Prop
  | .serverHandshake sess true =>
      ∀ ip, manager.addresses sess = some ip → manager.canIpConnect ip = true
  | _ => True

theorem Inbound.ipv4 {action : Action} (inbound : Inbound action) : Ipv4 action := by
  cases action with
  | addSession sess address => exact inbound
  | connectSession sess address => exact absurd inbound id
  | dialed sess state remote => exact absurd inbound id
  | _ => trivial

theorem Inbound.keepsAddress {action : Action} (inbound : Inbound action)
    (manager : SessionManager) : KeepsAddress manager action := by
  cases action with
  | dialed sess state remote => exact absurd inbound id
  | _ => trivial

section Capped

variable {manager : SessionManager} (agree : manager.registry.Agree)
include agree

/-- Registering a session keeps the caps exactly when there is room for it. -/
theorem Registry.Agree.capped_register_iff (capped : manager.registry.Capped) {sess : Nat}
    {ip : UInt32} (address : manager.addresses sess = some ip) :
    (manager.registry.register sess).Capped ↔ manager.canIpConnect ip = true := by
  rw [agree.canIpConnect_iff]
  have grown := manager.registry.connectionsFrom_register sess
  have length : (manager.registry.register sess).sessions.length = manager.sessions.length + 1 :=
    List.length_append
  constructor
  · intro after
    have total := after.total
    have perIp := fun limited => after.perIp limited ip
    rw [length] at total
    rw [grown, if_pos (by exact address)] at perIp
    refine ⟨?_, ?_⟩
    · by_cases unlimited : manager.config.maxSessions = 0
      · exact Or.inl unlimited
      · exact Or.inr (total unlimited)
    · by_cases unlimited : manager.config.maxConnectionsPerIp = 0
      · exact Or.inl unlimited
      · exact Or.inr (perIp unlimited)
  · rintro ⟨room, roomForIp⟩
    constructor
    · intro limited
      rw [length]
      exact room.resolve_left limited
    · intro limited queried
      rw [grown]
      split
      next same =>
        cases address.symm.trans same
        exact roomForIp.resolve_left limited
      next => exact capped.perIp limited queried

end Capped

section Steps

variable {registry : Registry} (capped : registry.Capped)
include capped

theorem Registry.Capped.remove {sess : Nat} (member : sess ∈ registry.sessions) :
    (registry.remove sess).Capped := by
  constructor
  · intro limited
    exact List.length_erase_le.trans (capped.total limited)
  · intro limited ip
    have total := Registry.connectionsFrom_remove member ip
    exact (Nat.le.intro total).trans (capped.perIp limited ip)

theorem Registry.Capped.relocate {sess : Nat} (absent : sess ∉ registry.sessions)
    (address : Option UInt32) : (registry.relocate sess address).Capped := by
  refine ⟨capped.total, ?_⟩
  intro limited ip
  rw [Registry.connectionsFrom_relocate ip fun member => absurd member absent]
  exact capped.perIp limited ip

end Steps

theorem Registry.Capped.clear (registry : Registry) : registry.clear.Capped :=
  ⟨fun _ => Nat.zero_le _, fun _ _ => Nat.zero_le _⟩

theorem Registry.Capped.step {manager next : SessionManager} (capped : manager.registry.Capped)
    (agree : manager.registry.Agree) {action : Action} (inbound : Inbound action)
    (still : StillAdmitted manager action) (taken : step manager action = some next) :
    next.registry.Capped := by
  have change := step_registry taken
  generalize next.registry = registry at change
  cases change with
  | keep => exact capped
  | create _ sess address unheld known =>
      exact capped.relocate (fun member => unheld (Or.inl member)) address
  | redial sess state address => exact absurd inbound id
  | inbound sess pending =>
      obtain ⟨ip, address⟩ := Option.ne_none_iff_exists'.mp (agree.ipv4 sess)
      exact (agree.capped_register_iff capped address).mpr (still ip address)
  | outbound sess state => exact absurd inbound id
  | remove _ sess member => exact capped.remove member
  | clear => exact .clear _

theorem stillAdmitted_of_capped {manager next : SessionManager}
    (agree : manager.registry.Agree) (capped : manager.registry.Capped) {action : Action}
    (taken : step manager action = some next) (after : next.registry.Capped) :
    StillAdmitted manager action := by
  cases action with
  | serverHandshake sess isValid =>
      cases isValid with
      | false => trivial
      | true =>
          intro ip address
          apply (agree.capped_register_iff capped address).mp
          obtain ⟨-, rfl⟩ := complete_eq_some.mp taken
          have registered := SessionManager.registerAndStart_registry
            { manager with pending := manager.pending.erase (.serverHandshake sess) } sess
          exact registered ▸ after
  | _ => trivial

/-- Along every run of inbound connections, handshakes and removals, the caps
hold in every state if and only if every successful handshake still finds room
for its session. -/
theorem caps_hold_iff_stillAdmitted {config : Config} {actions : List Action}
    {manager : SessionManager} (executed : run step { config := config } actions = some manager)
    (inbound : ∀ action ∈ actions, Inbound action) :
    Always step (fun manager => manager.registry.Capped) { config := config } actions ↔
      Throughout step StillAdmitted { config := config } actions := by
  apply always_iff_throughout
    (fun manager => manager.registry.Agree ∧ manager.registry.Capped)
    (fun manager => manager.registry.Capped) (fun state invariant => invariant.2)
    ?_ ?_ ?_ inbound executed
  · intro state action next invariant inbound still taken
    exact ⟨invariant.1.step inbound.ipv4 (inbound.keepsAddress state) taken,
      invariant.2.step invariant.1 inbound still taken⟩
  · intro state action next invariant inbound taken after
    exact stillAdmitted_of_capped invariant.1 invariant.2 taken after
  · exact ⟨Registry.Agree.initial config, fun _ => Nat.zero_le _, fun _ _ => Nat.zero_le _⟩

/-- One after the other, two sessions get the only place. -/
theorem caps_hold_one_after_the_other :
    let actions : List Action := [.addSession 1 (some 10), .serverHandshake 1 true,
      .removeSession 1, .addSession 2 (some 20), .serverHandshake 2 true]
    Always step (fun manager => manager.registry.Capped)
      { config := { maxSessions := 1, maxConnectionsPerIp := 1 } } actions := by
  intro actions
  apply (@caps_hold_iff_stillAdmitted _ actions _ rfl (by simp [actions, Inbound])).mpr
  refine (throughout_cons rfl).mpr ⟨trivial, (throughout_cons rfl).mpr ⟨?_, ?_⟩⟩
  · rintro ip ⟨⟩
    rfl
  refine (throughout_cons rfl).mpr ⟨trivial, (throughout_cons rfl).mpr ⟨trivial, ?_⟩⟩
  refine (throughout_cons rfl).mpr ⟨?_, trivial⟩
  rintro ip ⟨⟩
  rfl

/-- Two connections of one address are let in while neither is registered. -/
theorem caps_exceeded_by_two_handshakes :
    let actions : List Action := [.addSession 1 (some 10), .addSession 2 (some 10),
      .serverHandshake 1 true, .serverHandshake 2 true]
    (∀ action ∈ actions, Inbound action) ∧
      ∃ manager, run step { config := { maxSessions := 1, maxConnectionsPerIp := 1 } } actions =
          some manager ∧
        manager.sessions.length = 2 ∧ manager.registry.connectionsFrom 10 = 2 ∧
        ¬ manager.registry.Capped := by
  intro actions
  refine ⟨by simp [actions, Inbound], _, rfl, rfl, rfl, ?_⟩
  intro capped
  exact absurd (capped.total nofun) (by decide)

end SocketSL.Manager
