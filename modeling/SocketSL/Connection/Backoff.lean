import SocketSL.Connection.Retry
import SocketSL.Lib.Log

/-!
# The delays between the attempts

Every wait that `schedule_reconnect` arms is recorded together with the
handshakes that succeed.  `step_flow` says for every action, `stop` and sessions
without an IPv4 address included, what becomes of the states that are kept and
which milestones are added; the bounds of the waits are derived from it.
-/

namespace SocketSL.Manager

open SocketSL.Lib

/-- A wait that is armed for a connection, or a handshake of it that succeeds. -/
inductive Milestone where
  | armed (state : ReconnectState)
  | succeeded (call : Nat)
  deriving DecidableEq

def succeeded : Action → List Milestone
  | .clientHandshake _ (some state) true => [.succeeded state.call]
  | _ => []

def Effect.wait : Effect → Option ReconnectState
  | .armed state => some state
  | _ => none

/-- The waits armed so far. -/
def SessionManager.waits (manager : SessionManager) : List ReconnectState :=
  manager.log.filterMap Effect.wait

/-- The milestones of one step. -/
def milestones (manager : SessionManager) (action : Action) (next : SessionManager) :
    List Milestone :=
  succeeded action ++ (next.waits.drop manager.waits.length).map .armed

/-- The steps of the manager with the milestones of the run. -/
def observe : SessionManager × List Milestone → Action →
    Option (SessionManager × List Milestone) :=
  recorded step milestones

/-- A wait of the call is not longer than `delay`. -/
def Milestone.Within (call delay : Nat) : Milestone → Prop
  | .armed state => state.call = call → state.currentDelay ≤ delay
  | .succeeded _ => True

/-- The waits of the call since its last successful handshake are not longer
than `delay`. -/
def Lasts (call delay : Nat) (history : List Milestone) : Prop :=
  Since (fun milestone => milestone = .succeeded call) (Milestone.Within call delay) history

/-- A wait stays within `max_delay` and is not shorter than those of its
connection since the last successful handshake. -/
def Paced (before : List Milestone) : Milestone → Prop
  | .armed state =>
      state.currentDelay ≤ state.policy.maxDelay ∧ Lasts state.call state.currentDelay before
  | .succeeded _ => True

/-- The state an action hands to `schedule_reconnect`; a session whose address
cannot be told does not get there. -/
def SessionManager.scheduled (manager : SessionManager) : Action → Option ReconnectState
  | .removeSession sess =>
      if (manager.addresses sess).isSome then manager.failing (.removeSession sess) else none
  | .sessionFailed sess =>
      if (manager.addresses sess).isSome then manager.failing (.sessionFailed sess) else none
  | action => manager.failing action

/-- `schedule_reconnect` arms a wait. -/
structure SessionManager.Arms (manager : SessionManager) (action : Action)
    (state : ReconnectState) : Prop where
  scheduled : manager.scheduled action = some state
  running : manager.reconnectStopped = false
  room : ¬ state.Exhausted

/-- A wait is armed only for a policy that starts within its maximum. -/
def Clamped (observed : SessionManager × List Milestone) (action : Action) : Prop :=
  ∀ state, observed.1.Arms action state →
    state.policy.initialDelay ≤ state.policy.maxDelay

/-- What an action does to the states that are kept, and the milestones it adds. -/
inductive Flow (manager : SessionManager) :
    Action → Multiset Carrier → List Milestone → Prop where
  | keep (action : Action) (carriers : Multiset Carrier)
      (fewer : carriers ≤ manager.carriers)
      (calm : ∀ state, ¬ manager.Arms action state) :
      Flow manager action carriers (succeeded action)
  | begin (sess : Nat) (host service : String) (sslContext : Nat) (policy : ReconnectPolicy) :
      Flow manager (.connectWithPolicy sess host service sslContext policy)
        (.attempt ⟨host, service, sslContext, policy, 0, policy.initialDelay, manager.calls⟩ ::ₘ
          manager.carriers) []
  | redial (state : ReconnectState) (sess : Nat) (rest : Multiset Carrier)
      (kept : manager.carriers = .timer state ::ₘ rest) :
      Flow manager (.timer state sess)
        (.attempt { state with currentDelay := state.policy.scale state.currentDelay } ::ₘ rest)
        []
  | succeed (sess : Nat) (state : ReconnectState) (rest carriers : Multiset Carrier)
      (kept : manager.carriers = .attempt state ::ₘ rest)
      (fewer : carriers ≤
        .session { state with attempts := 0, currentDelay := state.policy.initialDelay } ::ₘ
          rest) :
      Flow manager (.clientHandshake sess (some state) true) carriers [.succeeded state.call]
  | arm (action : Action) (carrier : Carrier) (rest : Multiset Carrier)
      (kept : carrier ::ₘ rest ≤ manager.carriers)
      (arms : manager.Arms action carrier.state) :
      Flow manager action
        (.timer { carrier.state with attempts := carrier.state.attempts + 1 } ::ₘ rest)
        [.armed { carrier.state with attempts := carrier.state.attempts + 1 }]

section Waits

namespace SessionManager

variable (manager : SessionManager) (sess : Nat)

theorem emit_waits (effects : List Effect) :
    (manager.emit effects).waits = manager.waits ++ effects.filterMap Effect.wait := by
  simp [waits, emit]

theorem emit_waits_of_silent {effects : List Effect}
    (silent : effects.filterMap Effect.wait = []) :
    (manager.emit effects).waits = manager.waits := by
  rw [emit_waits, silent, List.append_nil]

theorem addSession_waits : (manager.addSession sess).waits = manager.waits := by
  have effect := manager.addSession_effect sess
  generalize manager.addSession sess = next at effect ⊢
  cases effect with
  | throws other => exact emit_waits_of_silent manager rfl
  | refuses ip address full => exact emit_waits_of_silent manager rfl
  | admits ip address room => rfl

theorem doConnect_waits (state : Option ReconnectState) :
    (manager.doConnect sess state).waits = manager.waits := by
  obtain ⟨options, same⟩ := manager.doConnect_effect sess state
  rw [same]
  exact emit_waits_of_silent _ rfl

theorem registerAndStart_waits : (manager.registerAndStart sess).waits = manager.waits := by
  have silent : (manager.registration sess).filterMap Effect.wait = [] := by
    unfold registration told
    cases manager.addresses sess with
    | none => rfl
    | some ip => cases manager.config.onConnect <;> rfl
  rw [registerAndStart_eq]
  exact emit_waits_of_silent manager silent

end SessionManager

end Waits

section Flow

variable {manager next : SessionManager} {action : Action}

theorem not_arms_of_none (other : manager.scheduled action = none) (state : ReconnectState) :
    ¬ manager.Arms action state := by
  intro arms
  cases other.symm.trans arms.scheduled

theorem not_arms_of_stopped (stopped : manager.reconnectStopped = true)
    (state : ReconnectState) : ¬ manager.Arms action state := by
  intro arms
  cases stopped.symm.trans arms.running

theorem milestones_of_same (same : next.waits = manager.waits) :
    milestones manager action next = succeeded action := by
  simp [milestones, same]

theorem milestones_of_arm (same : next.waits = manager.waits) (state : ReconnectState) :
    milestones manager action (next.emit [.armed state]) =
      succeeded action ++ [.armed state] := by
  have waits : (next.emit [.armed state]).waits = manager.waits ++ [state] := by
    rw [SessionManager.emit_waits, same]
    rfl
  simp [milestones, waits]

theorem flow_keep (calm : ∀ state, ¬ manager.Arms action state)
    (fewer : next.carriers ≤ manager.carriers) (same : next.waits = manager.waits) :
    Flow manager action next.carriers (milestones manager action next) := by
  rw [milestones_of_same same]
  exact .keep action next.carriers fewer calm

/-- A failure hands the state it has taken to `schedule_reconnect`. -/
theorem Rescheduled.flow {taken : SessionManager} (carrier : Carrier)
    (rescheduled : Rescheduled taken carrier.state next)
    (kept : carrier ::ₘ taken.carriers ≤ manager.carriers)
    (same : taken.waits = manager.waits)
    (unchanged : taken.reconnectStopped = manager.reconnectStopped)
    (scheduled : manager.scheduled action = some carrier.state)
    (silent : succeeded action = []) :
    Flow manager action next.carriers (milestones manager action next) := by
  have fewer : taken.carriers ≤ manager.carriers := (Multiset.le_cons_self _ _).trans kept
  cases rescheduled with
  | drops stopped => exact flow_keep (not_arms_of_stopped (unchanged.symm.trans stopped)) fewer same
  | abandons running limited exceeded =>
      apply flow_keep
      · intro state arms
        cases scheduled.symm.trans arms.scheduled
        exact arms.room ⟨limited, exceeded⟩
      · exact fewer
      · exact (taken.emit_waits_of_silent rfl).trans same
  | arms running room =>
      have carriers := @SessionManager.await_carriers taken
        (.timer { carrier.state with attempts := carrier.state.attempts + 1 }) _ rfl
      have same : (taken.await (.timer
          { carrier.state with attempts := carrier.state.attempts + 1 })).waits =
            manager.waits := same
      rw [milestones_of_arm same, silent]
      exact carriers ▸ .arm action carrier taken.carriers kept
        ⟨scheduled, unchanged.symm.trans running, room⟩

theorem sessionCarriers_filter_le (kept : Nat × ReconnectState → Bool)
    (entries : List (Nat × ReconnectState)) :
    sessionCarriers (entries.filter kept) ≤ sessionCarriers entries :=
  Multiset.coe_le.mpr (List.filter_sublist.map _).subperm

/-- Looking up a key and erasing it takes its state out, whatever else has the
key. -/
theorem sessionCarriers_extract_le {entries : List (Nat × ReconnectState)} {sess : Nat}
    {state : ReconnectState} (found : entries.lookup sess = some state) :
    .session state ::ₘ sessionCarriers (entries.filter fun entry => entry.1 ≠ sess) ≤
      sessionCarriers entries := by
  induction entries with
  | nil => cases found
  | cons entry rest inductionHypothesis =>
      obtain ⟨key, kept⟩ := entry
      by_cases own : key = sess
      · subst own
        rw [List.lookup_cons_self] at found
        cases found
        rw [List.filter_cons_of_neg (by simp)]
        exact Multiset.cons_le_cons _ (sessionCarriers_filter_le _ rest)
      · rw [List.lookup_cons, beq_false_of_ne (Ne.symm own)] at found
        rw [List.filter_cons_of_pos (by simpa using own)]
        have extracted := Multiset.cons_le_cons (.session kept) (inductionHypothesis found)
        rw [Multiset.cons_swap] at extracted
        exact extracted

theorem Removed.flow {sess : Nat} {active : Multiset Nat}
    (removed : Removed { manager with active := active } sess next)
    (scheduled : manager.scheduled action =
      if (manager.addresses sess).isSome then
        if sess ∈ manager.sessions then manager.reconnectMap.lookup sess else none
      else none)
    (silent : succeeded action = []) :
    Flow manager action next.carriers (milestones manager action next) := by
  cases removed with
  | absent absent =>
      have absent : sess ∉ manager.sessions := absent
      rw [if_neg absent, ite_self] at scheduled
      exact flow_keep (not_arms_of_none scheduled) (le_refl manager.carriers) rfl
  | throws member other =>
      have other : manager.addresses sess = none := other
      rw [other, Option.isSome_none, if_neg Bool.false_ne_true] at scheduled
      exact flow_keep (not_arms_of_none scheduled) (le_refl manager.carriers)
        (SessionManager.emit_waits_of_silent _ rfl)
  | leaves ip next member address released =>
      have address : manager.addresses sess = some ip := address
      rw [address, Option.isSome_some, if_pos rfl, if_pos (by exact member)] at scheduled
      have noWait : (told manager.config.onDisconnect (.disconnected sess)).filterMap
          Effect.wait = [] := by
        cases manager.config.onDisconnect <;> rfl
      have same := manager.emit_waits_of_silent noWait
      cases released with
      | idle absent =>
          exact flow_keep (not_arms_of_none (scheduled.trans absent)) (le_refl manager.carriers)
            same
      | reschedules state next found rescheduled =>
          refine rescheduled.flow (.session state) ?_ same rfl (scheduled.trans found) silent
          rw [SessionManager.carriers, SessionManager.carriers, ← Multiset.add_cons]
          exact Multiset.add_le_add_left (sessionCarriers_extract_le found)

theorem Dialed.flow {sess : Nat} {state : Option ReconnectState}
    {remote : Option (Option UInt32)} (pending : .dial sess state ∈ manager.pending)
    (dialed : Dialed { manager with pending := manager.pending.erase (.dial sess state) } sess
      state remote next) :
    Flow manager (.dialed sess state remote) next.carriers
      (milestones manager (.dialed sess state remote) next) := by
  have fewer (state : ReconnectState) (pending : .dial sess (some state) ∈ manager.pending) :=
    (Multiset.le_cons_self _ _).trans (manager.carriers_take rfl pending).ge
  cases dialed with
  | drops state stopped => exact flow_keep (not_arms_of_stopped stopped) (fewer state pending) rfl
  | dropsLocated state address stopped =>
      exact flow_keep (not_arms_of_stopped stopped) (fewer state pending) rfl
  | fails =>
      exact flow_keep (not_arms_of_none rfl) (manager.carriers_take_of_none rfl pending).le rfl
  | retries state next running rescheduled =>
      exact rescheduled.flow (.attempt state) (manager.carriers_take rfl pending).ge rfl rfl rfl
        rfl
  | proceeds state address running =>
      refine flow_keep (not_arms_of_none rfl) ?_ rfl
      cases state with
      | none =>
          rw [SessionManager.await_carriers_of_none _ rfl]
          exact (manager.carriers_take_of_none rfl pending).le
      | some state =>
          rw [SessionManager.await_carriers _ rfl]
          exact (manager.carriers_take rfl pending).ge

theorem Shaken.flow {sess : Nat} {state : Option ReconnectState} {isValid : Bool}
    (pending : .clientHandshake sess state ∈ manager.pending)
    (shaken : Shaken { manager with
      pending := manager.pending.erase (.clientHandshake sess state) } sess state isValid next) :
    Flow manager (.clientHandshake sess state isValid) next.carriers
      (milestones manager (.clientHandshake sess state isValid) next) := by
  cases shaken with
  | drops state isValid stopped =>
      have fewer := (Multiset.le_cons_self _ _).trans (manager.carriers_take rfl pending).ge
      exact flow_keep (not_arms_of_stopped stopped) fewer rfl
  | fails =>
      exact flow_keep (not_arms_of_none rfl) (manager.carriers_take_of_none rfl pending).le rfl
  | retries state next running rescheduled =>
      exact rescheduled.flow (.attempt state) (manager.carriers_take rfl pending).ge rfl rfl rfl
        rfl
  | registers =>
      apply flow_keep (not_arms_of_none rfl)
      · rw [SessionManager.registerAndStart_carriers]
        exact (manager.carriers_take_of_none rfl pending).le
      · exact SessionManager.registerAndStart_waits _ sess
  | keeps state running =>
      rw [milestones_of_same]
      · refine .succeed sess state _ _ (manager.carriers_take rfl pending) ?_
        rw [SessionManager.registerAndStart_eq, SessionManager.carriers, SessionManager.carriers,
          ← Multiset.add_cons]
        exact Multiset.add_le_add_left (Multiset.cons_le_cons _ (sessionCarriers_filter_le _ _))
      · exact SessionManager.registerAndStart_waits _ sess

theorem step_flow (taken : step manager action = some next) :
    Flow manager action next.carriers (milestones manager action next) := by
  have kept {action : Action} (other : manager.scheduled action = none) {next : SessionManager}
      (same : next.carriers = manager.carriers) (silent : next.waits = manager.waits) :
      Flow manager action next.carriers (milestones manager action next) :=
    flow_keep (not_arms_of_none other) same.le silent
  cases step_cases taken with
  | asyncWaitForConnection => exact kept rfl (manager.await_carriers_of_none rfl) rfl
  | addSession sess address given handed =>
      apply kept rfl
      · refine (given.addSession_carriers sess).trans ?_
        exact handOver_frame handed SessionManager.carriers rfl
      · refine (given.addSession_waits sess).trans ?_
        exact handOver_frame handed SessionManager.waits rfl
  | connectSession sess address given handed =>
      apply kept rfl
      · refine (SessionManager.await_carriers_of_none _ rfl).trans ?_
        exact handOver_frame handed SessionManager.carriers rfl
      · refine (given.doConnect_waits sess none).trans ?_
        exact handOver_frame handed SessionManager.waits rfl
  | connect sess unheld =>
      apply kept rfl
      · exact SessionManager.await_carriers_of_none _ rfl
      · exact SessionManager.doConnect_waits _ sess none
  | connectWithPolicy sess host service sslContext policy unheld =>
      rw [milestones_of_same]
      · unfold SessionManager.connectWithPolicy
        dsimp only
        rw [SessionManager.doConnect_carriers]
        exact .begin sess host service sslContext policy
      · exact SessionManager.doConnect_waits _ sess _
  | removeSession sess =>
      have removed := manager.removeSession_effect sess
      exact removed.flow rfl rfl
  | stop =>
      apply flow_keep (not_arms_of_none rfl)
      · exact Multiset.add_le_add_left (Multiset.zero_le (sessionCarriers manager.reconnectMap))
      · apply SessionManager.emit_waits_of_silent
        simp [List.filterMap_map, Effect.wait, Function.comp_def]
  | incoming ip isOpen pending =>
      exact kept rfl ((SessionManager.await_carriers_of_none _ rfl).trans
        (manager.carriers_take_of_none rfl pending)) rfl
  | accepted ip sess unheld pending =>
      apply kept rfl
      · refine (SessionManager.await_carriers_of_none _ rfl).trans ?_
        exact (SessionManager.addSession_carriers _ sess).trans
          (manager.carriers_take_of_none rfl pending)
      · exact SessionManager.addSession_waits _ sess
  | acceptFailed pending => exact kept rfl (manager.carriers_take_of_none rfl pending) rfl
  | dialed sess state remote pending =>
      exact Dialed.flow pending (SessionManager.onDial_effect _ sess state remote)
  | serverHandshake sess isValid pending =>
      have free := manager.carriers_take_of_none rfl pending
      cases isValid with
      | false => exact kept rfl free rfl
      | true =>
          apply kept rfl
          · exact (SessionManager.registerAndStart_carriers _ sess).trans free
          · exact SessionManager.registerAndStart_waits _ sess
  | clientHandshake sess state isValid pending =>
      exact Shaken.flow pending (SessionManager.onClientHandshake_effect _ sess state isValid)
  | timer state sess unheld pending =>
      have split := manager.carriers_take rfl pending
      have effect := SessionManager.onTimer_effect
        { manager with pending := manager.pending.erase (.timer state) } sess state
      generalize SessionManager.onTimer _ state sess = next at effect ⊢
      cases effect with
      | drops stopped =>
          have fewer := (Multiset.le_cons_self _ _).trans split.ge
          exact flow_keep (not_arms_of_stopped stopped) fewer rfl
      | redials running =>
          rw [milestones_of_same]
          · rw [SessionManager.doConnect_carriers]
            exact .redial state sess _ split
          · exact SessionManager.doConnect_waits _ sess _
  | sessionFailed sess reading =>
      have removed := SessionManager.removeSession_effect
        { manager with active := manager.active.erase sess } sess
      exact removed.flow rfl rfl

end Flow

theorem ReconnectPolicy.scale_le (policy : ReconnectPolicy) (delay : Nat) :
    policy.scale delay ≤ policy.maxDelay :=
  Nat.min_le_right _ _

theorem ReconnectPolicy.le_scale {policy : ReconnectPolicy} (growing : 1 ≤ policy.multiplier)
    {delay : Nat} (within : delay ≤ policy.maxDelay) : delay ≤ policy.scale delay := by
  have scaled : (delay : Rat) ≤ delay * policy.multiplier :=
    le_mul_of_one_le_right (Nat.cast_nonneg delay) growing
  have truncated : (delay : Int) ≤ ((delay : Rat) * policy.multiplier).floor :=
    Rat.le_floor_iff.mpr (by exact_mod_cast scaled)
  refine Nat.le_min.mpr ⟨?_, within⟩
  omega

/-- The delay of a state that is kept: within the maximum when the policy starts
there, still the initial one when it does not, and not shorter than the waits
since the last successful handshake. -/
structure Carrier.Fair (history : List Milestone) (carrier : Carrier) : Prop where
  growing : 1 ≤ carrier.state.policy.multiplier
  bounded :
    (carrier.state.policy.initialDelay ≤ carrier.state.policy.maxDelay ∧
      carrier.state.currentDelay ≤ carrier.state.policy.maxDelay) ∨
    (carrier.state.currentDelay = carrier.state.policy.initialDelay ∧
      ∀ state, carrier ≠ .timer state)
  lasts : Lasts carrier.call carrier.state.currentDelay history

/-- The states that are kept against the milestones so far. -/
structure Steady (carriers : Multiset Carrier) (calls : Nat) (history : List Milestone) :
    Prop where
  distinct : (carriers.map Carrier.call).Nodup
  made : ∀ carrier ∈ carriers, carrier.call < calls
  known : ∀ state, .armed state ∈ history → state.call < calls
  fair : ∀ carrier ∈ carriers, carrier.Fair history
  paced : Justified Paced history

section Steady

variable {carriers rest : Multiset Carrier} {calls : Nat} {history : List Milestone}
  {carrier moved : Carrier}

theorem Steady.initial : Steady 0 0 [] where
  distinct := Multiset.nodup_zero
  made := nofun
  known := nofun
  fair := nofun
  paced := Justified.nil

theorem Steady.fewer (steady : Steady carriers calls history) (fewer : rest ≤ carriers)
    {more : Nat} (later : calls ≤ more) : Steady rest more history where
  distinct := Multiset.nodup_of_le (Multiset.map_le_map fewer) steady.distinct
  made := fun carrier member =>
    (steady.made carrier (Multiset.mem_of_le fewer member)).trans_le later
  known := fun state armed => (steady.known state armed).trans_le later
  fair := fun carrier member => steady.fair carrier (Multiset.mem_of_le fewer member)
  paced := steady.paced

theorem Steady.move (steady : Steady (carrier ::ₘ rest) calls history)
    (same : moved.call = carrier.call) (fair : moved.Fair history) :
    Steady (moved ::ₘ rest) calls history := by
  constructor
  · have distinct := steady.distinct
    rw [Multiset.map_cons] at distinct ⊢
    rwa [same]
  · intro other member
    rcases Multiset.mem_cons.mp member with rfl | earlier
    · rw [same]
      exact steady.made carrier (Multiset.mem_cons_self _ _)
    · exact steady.made other (Multiset.mem_cons_of_mem earlier)
  · exact steady.known
  · intro other member
    rcases Multiset.mem_cons.mp member with rfl | earlier
    · exact fair
    · exact steady.fair other (Multiset.mem_cons_of_mem earlier)
  · exact steady.paced

theorem Steady.begin (steady : Steady carriers calls history) {state : ReconnectState}
    (numbered : state.call = calls) (first : state.currentDelay = state.policy.initialDelay)
    (growing : 1 ≤ state.policy.multiplier) :
    Steady (.attempt state ::ₘ carriers) (calls + 1) history := by
  constructor
  · rw [Multiset.map_cons, Multiset.nodup_cons]
    refine ⟨?_, steady.distinct⟩
    intro member
    obtain ⟨other, kept, same⟩ := Multiset.mem_map.mp member
    have before := steady.made other kept
    rw [same] at before
    exact Nat.lt_irrefl _ (numbered ▸ before)
  · intro other member
    rcases Multiset.mem_cons.mp member with rfl | earlier
    · exact numbered ▸ Nat.lt_succ_self _
    · exact Nat.lt_succ_of_lt (steady.made other earlier)
  · intro other armed
    exact Nat.lt_succ_of_lt (steady.known other armed)
  · intro other member
    rcases Multiset.mem_cons.mp member with rfl | earlier
    · refine ⟨growing, Or.inr ⟨first, nofun⟩, Since.of_forall ?_⟩
      rintro (armed | succeeded) milestone
      · intro same
        have before := steady.known armed milestone
        rw [same] at before
        exact absurd (numbered ▸ before) (Nat.lt_irrefl _)
      · trivial
    · exact steady.fair other earlier
  · exact steady.paced

theorem Steady.succeed (steady : Steady carriers calls history) (call : Nat) :
    Steady carriers calls (history ++ [.succeeded call]) where
  distinct := steady.distinct
  made := steady.made
  known := fun state armed => steady.known state (by simpa using armed)
  fair := fun carrier member =>
    let fair := steady.fair carrier member
    ⟨fair.growing, fair.bounded, fair.lasts.append trivial⟩
  paced := steady.paced.append trivial

theorem Steady.arm (steady : Steady carriers calls history) (kept : carrier ∈ carriers)
    {armed : ReconnectState} (same : armed.call = carrier.call)
    (delay : armed.currentDelay = carrier.state.currentDelay)
    (within : armed.currentDelay ≤ armed.policy.maxDelay) :
    Steady carriers calls (history ++ [.armed armed]) := by
  constructor
  · exact steady.distinct
  · exact steady.made
  · intro state member
    rcases List.mem_append.mp member with earlier | latest
    · exact steady.known state earlier
    · cases List.mem_singleton.mp latest
      rw [same]
      exact steady.made carrier kept
  · intro other member
    have fair := steady.fair other member
    refine ⟨fair.growing, fair.bounded, fair.lasts.append ?_⟩
    intro own
    have alone : other = carrier :=
      Multiset.inj_on_of_nodup_map steady.distinct other member carrier kept
        (own.symm.trans same)
    rw [alone]
    exact delay.le
  · refine steady.paced.append ⟨within, ?_⟩
    rw [same, delay]
    exact (steady.fair carrier kept).lasts

variable {manager : SessionManager} {action : Action} {added : List Milestone}

/-- The wait is as long as the state says, so its bound tells where the policy
starts. -/
theorem Carrier.Fair.bounded_iff (fair : carrier.Fair history) :
    carrier.state.currentDelay ≤ carrier.state.policy.maxDelay ↔
      carrier.state.policy.initialDelay ≤ carrier.state.policy.maxDelay := by
  rcases fair.bounded with ⟨starts, within⟩ | ⟨first, -⟩
  · exact ⟨fun _ => starts, fun _ => within⟩
  · rw [first]

theorem Carrier.Fair.redial {state : ReconnectState} (fair : (Carrier.timer state).Fair history) :
    (Carrier.attempt
      { state with currentDelay := state.policy.scale state.currentDelay }).Fair history := by
  rcases fair.bounded with ⟨starts, within⟩ | ⟨-, idle⟩
  · refine ⟨fair.growing, Or.inl ⟨starts, state.policy.scale_le _⟩, fair.lasts.mono ?_⟩
    have longer := ReconnectPolicy.le_scale fair.growing within
    rintro (armed | succeeded) bounded
    · exact fun own => (bounded own).trans longer
    · trivial
  · exact absurd rfl (idle state)

theorem Carrier.Fair.succeed {state : ReconnectState} (fair : (Carrier.attempt state).Fair history)
    (past : List Milestone) :
    (Carrier.session
      { state with attempts := 0, currentDelay := state.policy.initialDelay }).Fair
        (past ++ [.succeeded state.call]) :=
  ⟨fair.growing, Or.inr ⟨rfl, nofun⟩, Since.reset rfl trivial⟩

theorem succeeded_cases (action : Action) :
    succeeded action = [] ∨ ∃ call, succeeded action = [.succeeded call] := by
  unfold succeeded
  split
  next sess state => exact Or.inr ⟨state.call, rfl⟩
  next => exact Or.inl rfl

theorem Flow.steady (flow : Flow manager action carriers added)
    (steady : Steady manager.carriers manager.calls history)
    (clamped : Clamped (manager, history) action)
    (growing : ∀ policy, action.policy = some policy → 1 ≤ policy.multiplier) :
    Steady carriers (manager.calls + action.policy.toList.length) (history ++ added) := by
  cases flow with
  | keep action carriers fewer calm =>
      have less := steady.fewer fewer (Nat.le_add_right _ action.policy.toList.length)
      rcases succeeded_cases action with silent | ⟨call, success⟩
      · rw [silent, List.append_nil]
        exact less
      · rw [success]
        exact less.succeed call
  | begin sess host service sslContext policy =>
      rw [List.append_nil]
      exact steady.begin rfl rfl (growing policy rfl)
  | redial state sess rest kept =>
      rw [List.append_nil]
      rw [kept] at steady
      exact steady.move rfl (steady.fair _ (Multiset.mem_cons_self _ _)).redial
  | succeed sess state rest carriers kept fewer =>
      rw [kept] at steady
      have fair := (steady.fair _ (Multiset.mem_cons_self _ _)).succeed history
      exact (Steady.move (steady.succeed state.call) (by rfl) fair).fewer fewer (Nat.le_refl _)
  | arm action carrier rest kept arms =>
      have taken := steady.fewer kept (Nat.le_add_right _ action.policy.toList.length)
      have member : carrier ∈ carrier ::ₘ rest := Multiset.mem_cons_self _ _
      have starts := clamped carrier.state arms
      have within := (taken.fair carrier member).bounded_iff.mpr starts
      have armed := @Steady.arm _ _ _ _ taken member
        { carrier.state with attempts := carrier.state.attempts + 1 } rfl rfl within
      refine armed.move rfl ?_
      have fair := armed.fair carrier member
      exact ⟨fair.growing, Or.inl ⟨starts, within⟩, fair.lasts⟩

/-- A wait that is paced is one of a policy that starts within its maximum. -/
theorem Flow.clamped (flow : Flow manager action carriers added)
    (steady : Steady manager.carriers manager.calls history)
    (paced : Justified Paced (history ++ added)) : Clamped (manager, history) action := by
  intro state arms
  cases flow with
  | keep action carriers fewer calm => exact absurd arms (calm state)
  | begin sess host service sslContext policy => cases arms.scheduled
  | redial timed sess rest kept => cases arms.scheduled
  | succeed sess connected rest carriers kept fewer => cases arms.scheduled
  | arm action carrier rest kept armed =>
      cases arms.scheduled.symm.trans armed.scheduled
      have member : carrier ∈ manager.carriers :=
        Multiset.mem_of_le kept (Multiset.mem_cons_self _ _)
      exact (steady.fair carrier member).bounded_iff.mp paced.last.1

end Steady

/-- In every run in which no multiplier is below one, the waits stay within
`max_delay` and do not shrink between successful handshakes exactly when no wait
is armed for a policy whose `initial_delay` is beyond its `max_delay`. -/
theorem backoff_bounded {config : Config} {actions : List Action} {manager : SessionManager}
    (executed : run step { config := config } actions = some manager)
    (growing : ∀ policy ∈ policies actions, 1 ≤ policy.multiplier) :
    Always observe (fun observed => Justified Paced observed.2) ({ config := config }, [])
        actions ↔
      Throughout observe Clamped ({ config := config }, []) actions := by
  obtain ⟨history, observed⟩ := @run_recorded _ _ _ _ milestones _ _ _ executed []
  refine @always_iff_throughout _ _ _
    (fun observed => Steady observed.1.carriers observed.1.calls observed.2) _
    (fun action => ∀ policy, action.policy = some policy → 1 ≤ policy.multiplier) _
    (fun observed steady => steady.paced) ?_ ?_ _ _ _ Steady.initial ?_ observed
  · rintro ⟨manager, history⟩ action reached steady scales clamped taken
    obtain ⟨next, stepped, rfl⟩ := recorded_eq_some.mp taken
    rw [step_calls stepped]
    exact (step_flow stepped).steady steady clamped scales
  · rintro ⟨manager, history⟩ action reached steady - taken paced
    obtain ⟨next, stepped, rfl⟩ := recorded_eq_some.mp taken
    exact (step_flow stepped).clamped steady paced
  · intro action member policy issued
    exact growing policy (List.mem_filterMap.mpr ⟨action, member, issued⟩)

/-- With the default policy: two dials fail, and the second wait is twice the
first. -/
theorem backoff_bounded_of_default :
    let policy : ReconnectPolicy := {}
    let state (attempts delay : Nat) : ReconnectState :=
      ⟨"localhost", "8080", 0, policy, attempts, delay, 0⟩
    let actions : List Action := [.connectWithPolicy 1 "localhost" "8080" 0 policy,
      .dialed 1 (some (state 0 1000000000)) none, .timer (state 1 1000000000) 2,
      .dialed 2 (some (state 1 2000000000)) none]
    (run observe ({ config := {} }, []) actions).map Prod.snd =
        some [.armed (state 1 1000000000), .armed (state 2 2000000000)] ∧
      Always observe (fun observed => Justified Paced observed.2) ({ config := {} }, [])
        actions := by
  intro policy state actions
  have enabled : (run step { config := {} } actions).isSome := by decide +kernel
  obtain ⟨manager, executed⟩ := Option.isSome_iff_exists.mp enabled
  refine ⟨by decide +kernel, (backoff_bounded executed ?_).mpr ?_⟩
  · simp [actions, policies, Action.policy, policy]
  · have failed (observed : SessionManager × List Milestone) (sess attempts delay : Nat) :
        Clamped observed (.dialed sess (some (state attempts delay)) none) := by
      intro other arms
      cases arms.scheduled
      exact (by decide : 1000000000 ≤ 30000000000)
    refine ⟨?_, fun observed _ => ⟨failed observed 1 0 _, fun observed _ => ⟨?_,
      fun observed _ => ⟨failed observed 2 1 _, fun _ _ => trivial⟩⟩⟩⟩
    · intro other arms
      cases arms.scheduled
    · intro other arms
      cases arms.scheduled

/-- A policy that starts beyond its maximum: between two successful handshakes
the first wait exceeds `max_delay` and the second is shorter. -/
theorem backoff_exceeds :
    let policy : ReconnectPolicy := { initialDelay := 10, maxDelay := 5 }
    let state (attempts delay : Nat) : ReconnectState :=
      ⟨"localhost", "8080", 0, policy, attempts, delay, 0⟩
    let actions : List Action := [.connectWithPolicy 1 "localhost" "8080" 0 policy,
      .dialed 1 (some (state 0 10)) (some (some 0)), .clientHandshake 1 (some (state 0 10)) true,
      .sessionFailed 1, .timer (state 1 10) 2, .dialed 2 (some (state 1 5)) none,
      .timer (state 2 5) 3, .dialed 3 (some (state 2 5)) (some (some 0)),
      .clientHandshake 3 (some (state 2 5)) true]
    let history : List Milestone :=
      [.succeeded 0, .armed (state 1 10), .armed (state 2 5), .succeeded 0]
    (∀ issued ∈ policies actions, 1 ≤ issued.multiplier) ∧
      (run observe ({ config := {} }, []) actions).map Prod.snd = some history ∧
      ¬ Justified Paced history ∧ ¬ Lasts 0 5 [.succeeded 0, .armed (state 1 10)] := by
  intro policy state actions history
  refine ⟨?_, by decide +kernel, ?_, ?_⟩
  · simp [actions, policies, Action.policy, policy]
  · intro paced
    have within : 10 ≤ 5 := (paced [.succeeded 0] (.armed (state 1 10)) _ rfl).1
    omega
  · intro lasts
    have longer : 10 ≤ 5 := lasts [.succeeded 0] (.armed (state 1 10)) [] rfl (by simp) rfl
    omega

end SocketSL.Manager
