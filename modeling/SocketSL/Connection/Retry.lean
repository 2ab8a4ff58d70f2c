import SocketSL.Connection.Reconnect

/-!
# The retry budget

The attempt counter travels with the reconnect state of a call.  `step_carriers`
says what each action does to the places that keep such a state; the counter
against the re-dials of the run so far, the budget and the delays are derived
from it.
-/

namespace SocketSL.Manager

open SocketSL.Lib

/-- What keeps the reconnect state of a call while no callback runs: a dial or
a handshake, a registered session, a timer. -/
inductive Carrier where
  | attempt (state : ReconnectState)
  | session (state : ReconnectState)
  | timer (state : ReconnectState)

def Carrier.state : Carrier → ReconnectState
  | .attempt state => state
  | .session state => state
  | .timer state => state

def Carrier.call (carrier : Carrier) : Nat := carrier.state.call

def Pending.carrier : Pending → Option Carrier
  | .dial _ state => state.map .attempt
  | .clientHandshake _ state => state.map .attempt
  | .timer state => some (.timer state)
  | _ => none

theorem Pending.call_eq_carrier (completion : Pending) :
    completion.call = completion.carrier.map Carrier.call := by
  cases completion with
  | dial sess state => cases state <;> rfl
  | clientHandshake sess state => cases state <;> rfl
  | _ => rfl

/-- The states kept in `reconnect_map_`. -/
def sessionCarriers (entries : List (Nat × ReconnectState)) : Multiset Carrier :=
  Multiset.ofList (entries.map fun entry => .session entry.2)

def SessionManager.carriers (manager : SessionManager) : Multiset Carrier :=
  manager.pending.filterMap Pending.carrier + sessionCarriers manager.reconnectMap

theorem countP_filterMap_carrier (pending : Multiset Pending) (call : Nat) :
    (pending.filterMap Pending.carrier).countP (fun carrier => carrier.call = call) =
      waiting pending call := by
  induction pending using Multiset.induction with
  | empty => rfl
  | cons completion pending inductionHypothesis =>
      rw [waiting_cons, Pending.call_eq_carrier, ← inductionHypothesis]
      cases found : completion.carrier with
      | none =>
          rw [Multiset.filterMap_cons_none _ _ found]
          simp
      | some carrier =>
          rw [Multiset.filterMap_cons_some _ _ _ found, Multiset.countP_cons]
          simp

theorem countP_sessionCarriers (entries : List (Nat × ReconnectState)) (call : Nat) :
    (sessionCarriers entries).countP (fun carrier => carrier.call = call) =
      mapped entries call := by
  rw [sessionCarriers, Multiset.coe_countP, List.countP_map]
  rfl

theorem SessionManager.Conserved.countP_carriers {manager : SessionManager}
    (conserved : manager.Conserved none) (call : Nat) :
    manager.carriers.countP (fun carrier => carrier.call = call) =
      manager.continuations call := by
  rw [conserved.continuations_eq, SessionManager.carriers, Multiset.countP_add,
    countP_filterMap_carrier, countP_sessionCarriers]
  rfl

theorem mem_pending_of_timer {manager : SessionManager} {state : ReconnectState}
    (kept : .timer state ∈ manager.carriers) : .timer state ∈ manager.pending := by
  rcases Multiset.mem_add.mp kept with waits | mapped
  · obtain ⟨completion, pending, carries⟩ := (Multiset.mem_filterMap _ _).mp waits
    cases completion with
    | dial sess carried => cases carried <;> cases carries
    | clientHandshake sess carried => cases carried <;> cases carries
    | timer other =>
        cases carries
        exact pending
    | _ => cases carries
  · obtain ⟨entry, -, same⟩ := List.mem_map.mp mapped
    cases same

/-- Looking up a key and erasing it takes its state out. -/
theorem sessionCarriers_extract {entries : List (Nat × ReconnectState)}
    (distinct : (entries.map Prod.fst).Nodup) {sess : Nat} {state : ReconnectState}
    (found : entries.lookup sess = some state) :
    sessionCarriers entries =
      .session state ::ₘ sessionCarriers (entries.filter fun entry => entry.1 ≠ sess) := by
  induction entries with
  | nil => cases found
  | cons entry rest inductionHypothesis =>
      obtain ⟨key, kept⟩ := entry
      rw [List.map_cons, List.nodup_cons] at distinct
      by_cases own : key = sess
      · subst own
        rw [List.lookup_cons_self] at found
        cases found
        rw [List.filter_cons_of_neg (by simp), filter_of_absent distinct.1]
        rfl
      · rw [List.lookup_cons, beq_false_of_ne (Ne.symm own)] at found
        rw [List.filter_cons_of_pos (by simpa using own)]
        have extracted := inductionHypothesis distinct.2 found
        calc
          sessionCarriers ((key, kept) :: rest)
              = .session kept ::ₘ sessionCarriers rest := rfl
          _ = .session kept ::ₘ .session state ::ₘ
                sessionCarriers (rest.filter fun entry => entry.1 ≠ sess) := by rw [extracted]
          _ = .session state ::ₘ .session kept ::ₘ
                sessionCarriers (rest.filter fun entry => entry.1 ≠ sess) :=
              Multiset.cons_swap _ _ _
          _ = .session state ::ₘ sessionCarriers
                ((key, kept) :: rest.filter fun entry => entry.1 ≠ sess) := rfl

/-- The state that an action makes fail: of a dial or a handshake that did not
succeed, or of a session that leaves the registry. -/
def SessionManager.failing (manager : SessionManager) : Action → Option ReconnectState
  | .dialed _ state none => state
  | .clientHandshake _ state false => state
  | .removeSession sess =>
      if sess ∈ manager.sessions then manager.reconnectMap.lookup sess else none
  | .sessionFailed sess =>
      if sess ∈ manager.sessions then manager.reconnectMap.lookup sess else none
  | _ => none

/-- The re-dials of a call after one more action: a timer begins one, and a
successful handshake starts the count again. -/
def countRedial (call count : Nat) : Action → Nat
  | .timer state _ => if state.call = call then count + 1 else count
  | .clientHandshake _ (some state) true => if state.call = call then 0 else count
  | _ => count

/-- The re-dials begun since the call of `connect` or its last successful
handshake. -/
def redials (call : Nat) (actions : List Action) : Nat :=
  actions.foldl (countRedial call) 0

def Action.policy : Action → Option ReconnectPolicy
  | .connectWithPolicy _ _ _ _ policy => some policy
  | _ => none

/-- The policies of the calls of `connect`, in the order of the calls. -/
def policies (actions : List Action) : List ReconnectPolicy :=
  actions.filterMap Action.policy

theorem redials_append (call : Nat) (actions : List Action) (action : Action) :
    redials call (actions ++ [action]) = countRedial call (redials call actions) action := by
  simp [redials]

theorem policies_append (actions : List Action) (action : Action) :
    policies (actions ++ [action]) = policies actions ++ action.policy.toList := by
  cases issued : action.policy <;> simp [policies, issued]

/-- The next failure is one more than the non-zero `max_attempts` allows. -/
def ReconnectState.Exhausted (state : ReconnectState) : Prop :=
  state.policy.maxAttempts ≠ 0 ∧ state.attempts + 1 > state.policy.maxAttempts

/-- What an action does to the states that are kept, with no call of `stop`. -/
inductive Passes (manager : SessionManager) : Action → Multiset Carrier → Prop where
  | keep (action : Action) (calm : manager.failing action = none)
      (neutral : ∀ call count, countRedial call count action = count)
      (other : action.policy = none) : Passes manager action manager.carriers
  | begin (sess : Nat) (host service : String) (sslContext : Nat) (policy : ReconnectPolicy) :
      Passes manager (.connectWithPolicy sess host service sslContext policy)
        (.attempt ⟨host, service, sslContext, policy, 0, policy.initialDelay, manager.calls⟩ ::ₘ
          manager.carriers)
  | redial (state : ReconnectState) (sess : Nat) (rest : Multiset Carrier)
      (kept : manager.carriers = .timer state ::ₘ rest) :
      Passes manager (.timer state sess)
        (.attempt { state with currentDelay := state.policy.scale state.currentDelay } ::ₘ rest)
  | succeed (sess : Nat) (state : ReconnectState) (rest : Multiset Carrier)
      (kept : manager.carriers = .attempt state ::ₘ rest) :
      Passes manager (.clientHandshake sess (some state) true)
        (.session { state with attempts := 0, currentDelay := state.policy.initialDelay } ::ₘ
          rest)
  | retry (action : Action) (carrier : Carrier) (rest : Multiset Carrier)
      (kept : manager.carriers = carrier ::ₘ rest) (idle : ∀ state, carrier ≠ .timer state)
      (fails : manager.failing action = some carrier.state)
      (room : ¬ carrier.state.Exhausted) :
      Passes manager action
        (.timer { carrier.state with attempts := carrier.state.attempts + 1 } ::ₘ rest)
  | abandon (action : Action) (carrier : Carrier) (rest : Multiset Carrier)
      (kept : manager.carriers = carrier ::ₘ rest) (idle : ∀ state, carrier ≠ .timer state)
      (fails : manager.failing action = some carrier.state)
      (exhausted : carrier.state.Exhausted) : Passes manager action rest

section Carriers

namespace SessionManager

variable (manager : SessionManager) (sess : Nat)

theorem await_carriers {completion : Pending} {carrier : Carrier}
    (carries : completion.carrier = some carrier) :
    (manager.await completion).carriers = carrier ::ₘ manager.carriers := by
  simp only [carriers, await, Multiset.filterMap_cons_some _ _ _ carries]
  exact Multiset.cons_add _ _ _

theorem await_carriers_of_none {completion : Pending} (free : completion.carrier = none) :
    (manager.await completion).carriers = manager.carriers := by
  simp only [carriers, await, Multiset.filterMap_cons_none _ _ free]

theorem carriers_take {completion : Pending} {carrier : Carrier}
    (carries : completion.carrier = some carrier) (pending : completion ∈ manager.pending) :
    manager.carriers = carrier ::ₘ
      ({ manager with pending := manager.pending.erase completion } : SessionManager).carriers := by
  obtain ⟨rest, split⟩ := Multiset.exists_cons_of_mem pending
  simp only [carriers, split, Multiset.erase_cons_head,
    Multiset.filterMap_cons_some _ _ _ carries]
  exact Multiset.cons_add _ _ _

theorem carriers_take_of_none {completion : Pending} (free : completion.carrier = none)
    (pending : completion ∈ manager.pending) :
    ({ manager with pending := manager.pending.erase completion } : SessionManager).carriers =
      manager.carriers := by
  obtain ⟨rest, split⟩ := Multiset.exists_cons_of_mem pending
  simp only [carriers, split, Multiset.erase_cons_head, Multiset.filterMap_cons_none _ _ free]

theorem addSession_carriers : (manager.addSession sess).carriers = manager.carriers := by
  have effect := manager.addSession_effect sess
  generalize manager.addSession sess = next at effect ⊢
  cases effect with
  | throws other => rfl
  | refuses ip address full => rfl
  | admits ip address room => exact await_carriers_of_none _ rfl

theorem doConnect_carriers (state : ReconnectState) :
    (manager.doConnect sess (some state)).carriers = .attempt state ::ₘ manager.carriers := by
  obtain ⟨options, same⟩ := manager.doConnect_effect sess (some state)
  rw [same]
  exact @await_carriers { manager with options } (.dial sess (some state)) _ rfl

theorem registerAndStart_carriers :
    (manager.registerAndStart sess).carriers = manager.carriers := by
  rw [registerAndStart_eq]
  rfl

end SessionManager

variable {manager next : SessionManager} {action : Action}

theorem Passes.of_eq (calm : manager.failing action = none)
    (neutral : ∀ call count, countRedial call count action = count)
    (other : action.policy = none) (same : next.carriers = manager.carriers) :
    Passes manager action next.carriers := by
  rw [same]
  exact .keep action calm neutral other

theorem Rescheduled.passes {taken : SessionManager} (carrier : Carrier)
    (rescheduled : Rescheduled taken carrier.state next)
    (running : taken.reconnectStopped = false)
    (kept : manager.carriers = carrier ::ₘ taken.carriers)
    (idle : ∀ state, carrier ≠ .timer state)
    (fails : manager.failing action = some carrier.state) :
    Passes manager action next.carriers := by
  cases rescheduled with
  | drops stopped => cases running.symm.trans stopped
  | abandons _ limited exceeded =>
      exact .abandon action carrier _ kept idle fails ⟨limited, exceeded⟩
  | arms _ room =>
      have waits := @SessionManager.await_carriers taken (.timer
        { carrier.state with attempts := carrier.state.attempts + 1 }) _ rfl
      exact waits ▸ .retry action carrier _ kept idle fails room

theorem Removed.passes {sess : Nat} {active : Multiset Nat}
    (removed : Removed { manager with active := active } sess next) (action : Action)
    (conserved : manager.Conserved none) (running : manager.reconnectStopped = false)
    (fails : manager.failing action =
      if sess ∈ manager.sessions then manager.reconnectMap.lookup sess else none)
    (neutral : ∀ call count, countRedial call count action = count)
    (other : action.policy = none) : Passes manager action next.carriers := by
  cases removed with
  | absent absent => exact .keep action (fails.trans (if_neg absent)) neutral other
  | throws member unknown => exact absurd unknown (conserved.ipv4 sess)
  | leaves ip next member address released =>
      rw [if_pos (by exact member)] at fails
      cases released with
      | idle absent => exact .keep action (fails.trans absent) neutral other
      | reschedules state next found rescheduled =>
          refine rescheduled.passes (.session state) running ?_ nofun (fails.trans found)
          refine Eq.trans ?_ (Multiset.add_cons _ _ _)
          exact congrArg _ (sessionCarriers_extract conserved.distinct found)

theorem Dialed.passes (running : manager.reconnectStopped = false) {sess : Nat}
    {state : Option ReconnectState} {remote : Option (Option UInt32)}
    (pending : .dial sess state ∈ manager.pending)
    (dialed : Dialed { manager with pending := manager.pending.erase (.dial sess state) } sess
      state remote next) : Passes manager (.dialed sess state remote) next.carriers := by
  cases dialed with
  | drops state stopped => cases running.symm.trans stopped
  | dropsLocated state address stopped => cases running.symm.trans stopped
  | fails => exact .of_eq rfl (fun _ _ => rfl) rfl (manager.carriers_take_of_none rfl pending)
  | retries state next _ rescheduled =>
      exact rescheduled.passes (.attempt state) running (manager.carriers_take rfl pending) nofun
        rfl
  | proceeds state address _ =>
      cases state with
      | none =>
          exact .of_eq rfl (fun _ _ => rfl) rfl ((SessionManager.await_carriers_of_none _ rfl).trans
            (manager.carriers_take_of_none rfl pending))
      | some state =>
          exact .of_eq rfl (fun _ _ => rfl) rfl
            ((SessionManager.await_carriers _ rfl).trans (manager.carriers_take rfl pending).symm)

theorem Shaken.passes (conserved : manager.Conserved none)
    (running : manager.reconnectStopped = false) {sess : Nat} {state : Option ReconnectState}
    {isValid : Bool} (pending : .clientHandshake sess state ∈ manager.pending)
    (shaken : Shaken { manager with
      pending := manager.pending.erase (.clientHandshake sess state) } sess state isValid next) :
    Passes manager (.clientHandshake sess state isValid) next.carriers := by
  cases shaken with
  | drops state isValid stopped => cases running.symm.trans stopped
  | fails => exact .of_eq rfl (fun _ _ => rfl) rfl (manager.carriers_take_of_none rfl pending)
  | retries state next _ rescheduled =>
      exact rescheduled.passes (.attempt state) running (manager.carriers_take rfl pending) nofun
        rfl
  | registers =>
      exact .of_eq rfl (fun _ _ => rfl) rfl
        ((SessionManager.registerAndStart_carriers _ sess).trans
          (manager.carriers_take_of_none rfl pending))
  | keeps state _ =>
      have owner := conserved.holders _ pending sess state rfl rfl
      have moved := Passes.succeed sess state _ (manager.carriers_take rfl pending)
      rw [SessionManager.carriers, ← Multiset.add_cons] at moved
      rw [(conserved.take pending).filter_eq_self owner, SessionManager.registerAndStart_eq]
      exact moved

theorem step_carriers (conserved : manager.Conserved none)
    (running : manager.reconnectStopped = false) (other : action ≠ .stop)
    (taken : step manager action = some next) : Passes manager action next.carriers := by
  cases step_cases taken with
  | asyncWaitForConnection =>
      exact .of_eq rfl (fun _ _ => rfl) rfl (manager.await_carriers_of_none rfl)
  | addSession sess address given handed =>
      refine .of_eq rfl (fun _ _ => rfl) rfl ((given.addSession_carriers sess).trans ?_)
      exact handOver_frame handed SessionManager.carriers rfl
  | connectSession sess address given handed =>
      refine .of_eq rfl (fun _ _ => rfl) rfl
        ((SessionManager.await_carriers_of_none _ rfl).trans ?_)
      exact handOver_frame handed SessionManager.carriers rfl
  | connect sess unheld =>
      exact .of_eq rfl (fun _ _ => rfl) rfl (SessionManager.await_carriers_of_none _ rfl)
  | connectWithPolicy sess host service sslContext policy unheld =>
      unfold SessionManager.connectWithPolicy
      dsimp only
      rw [SessionManager.doConnect_carriers]
      exact .begin sess host service sslContext policy
  | removeSession sess =>
      have removed := manager.removeSession_effect sess
      exact removed.passes (.removeSession sess) conserved running rfl (fun _ _ => rfl) rfl
  | stop => exact absurd rfl other
  | incoming ip isOpen pending =>
      exact .of_eq rfl (fun _ _ => rfl) rfl ((SessionManager.await_carriers_of_none _ rfl).trans
        (manager.carriers_take_of_none rfl pending))
  | accepted ip sess unheld pending =>
      refine .of_eq rfl (fun _ _ => rfl) rfl
        ((SessionManager.await_carriers_of_none _ rfl).trans ?_)
      exact (SessionManager.addSession_carriers _ sess).trans
        (manager.carriers_take_of_none rfl pending)
  | acceptFailed pending =>
      exact .of_eq rfl (fun _ _ => rfl) rfl (manager.carriers_take_of_none rfl pending)
  | dialed sess state remote pending =>
      exact Dialed.passes running pending (SessionManager.onDial_effect _ sess state remote)
  | serverHandshake sess isValid pending =>
      have free := manager.carriers_take_of_none rfl pending
      cases isValid with
      | false => exact .of_eq rfl (fun _ _ => rfl) rfl free
      | true =>
          exact .of_eq rfl (fun _ _ => rfl) rfl
            ((SessionManager.registerAndStart_carriers _ sess).trans free)
  | clientHandshake sess state isValid pending =>
      exact Shaken.passes conserved running pending
        (SessionManager.onClientHandshake_effect _ sess state isValid)
  | timer state sess unheld pending =>
      have effect := SessionManager.onTimer_effect
        { manager with pending := manager.pending.erase (.timer state) } sess state
      generalize SessionManager.onTimer _ state sess = next at effect ⊢
      cases effect with
      | drops stopped => cases running.symm.trans stopped
      | redials _ =>
          rw [SessionManager.doConnect_carriers]
          exact .redial state sess _ (manager.carriers_take rfl pending)
  | sessionFailed sess reading =>
      have removed := SessionManager.removeSession_effect
        { manager with active := manager.active.erase sess } sess
      exact removed.passes (.sessionFailed sess) conserved running rfl (fun _ _ => rfl) rfl

end Carriers

theorem step_calls {manager next : SessionManager} {action : Action}
    (taken : step manager action = some next) :
    next.calls = manager.calls + action.policy.toList.length := by
  refine (congrArg Switches.calls (step_switches taken)).trans ?_
  cases action <;> rfl

section Budget

variable {manager next : SessionManager} {action : Action} {past : List Action}

theorem SessionManager.Conserved.call_ne (conserved : manager.Conserved none) {carrier : Carrier}
    {rest : Multiset Carrier} (kept : manager.carriers = carrier ::ₘ rest) :
    ∀ other ∈ rest, other.call ≠ carrier.call := by
  intro other member same
  have single := conserved.single carrier.call
  rw [← conserved.continuations_eq, ← conserved.countP_carriers, kept,
    Multiset.countP_cons, if_pos rfl] at single
  have another : 0 < rest.countP fun other => other.call = carrier.call :=
    Multiset.countP_pos.mpr ⟨other, member, same⟩
  omega

theorem SessionManager.Conserved.call_lt (conserved : manager.Conserved none)
    {carrier : Carrier} (member : carrier ∈ manager.carriers) :
    carrier.call < manager.calls := by
  by_contra beyond
  have unused := conserved.later carrier.call (Nat.le_of_not_lt beyond)
  rw [← conserved.continuations_eq, ← conserved.countP_carriers] at unused
  have used : 0 < manager.carriers.countP fun other => other.call = carrier.call :=
    Multiset.countP_pos.mpr ⟨carrier, member, rfl⟩
  omega

/-- The re-dials a carrier has counted already but not begun. -/
def Carrier.due : Carrier → Nat
  | .timer _ => 1
  | _ => 0

/-- The counter of a state is the number of re-dials, and the budget holds. -/
structure Carrier.Sound (past : List Action) (carrier : Carrier) : Prop where
  policy : (policies past)[carrier.call]? = some carrier.state.policy
  attempts : carrier.state.attempts = redials carrier.call past + carrier.due
  within : carrier.state.policy.maxAttempts ≠ 0 →
    carrier.state.attempts ≤ carrier.state.policy.maxAttempts
  first : redials carrier.call past = 0 →
    carrier.state.currentDelay = carrier.state.policy.initialDelay
  settled : ∀ state, carrier = .session state → redials carrier.call past = 0

/-- The counters against the actions so far. -/
structure Budgeted (manager : SessionManager) (past : List Action) : Prop where
  calls : (policies past).length = manager.calls
  later : ∀ call, manager.calls ≤ call → redials call past = 0
  bounded : ∀ call policy, (policies past)[call]? = some policy → policy.maxAttempts ≠ 0 →
    redials call past ≤ policy.maxAttempts
  sound : ∀ carrier ∈ manager.carriers, carrier.Sound past
  unlimited : ∀ call policy, (policies past)[call]? = some policy → policy.maxAttempts = 0 →
    ∃ carrier ∈ manager.carriers, carrier.call = call

theorem policies_extend {call : Nat} {policy : ReconnectPolicy}
    (known : (policies past)[call]? = some policy) (action : Action) :
    (policies (past ++ [action]))[call]? = some policy := by
  rw [policies_append, List.getElem?_append_left (List.getElem?_eq_some_iff.mp known).1]
  exact known

theorem Carrier.Sound.extend {carrier : Carrier} (sound : carrier.Sound past)
    (same : redials carrier.call (past ++ [action]) = redials carrier.call past) :
    carrier.Sound (past ++ [action]) := by
  constructor
  · exact policies_extend sound.policy action
  · rw [same]
    exact sound.attempts
  · exact sound.within
  · rw [same]
    exact sound.first
  · rw [same]
    exact sound.settled

theorem countRedial_failing {carrier : Carrier}
    (fails : manager.failing action = some carrier.state) (call count : Nat) :
    countRedial call count action = count ∧ action.policy = none := by
  cases action with
  | timer state sess => cases fails
  | clientHandshake sess state isValid =>
      cases isValid with
      | false => cases state <;> exact ⟨rfl, rfl⟩
      | true => cases state <;> cases fails
  | connectWithPolicy sess host service sslContext policy => cases fails
  | _ => exact ⟨rfl, rfl⟩

theorem redials_neutral {call : Nat} (neutral : ∀ count, countRedial call count action = count) :
    redials call (past ++ [action]) = redials call past := by
  rw [redials_append, neutral]

theorem redials_timer_of_ne {call : Nat} {state : ReconnectState} (sess : Nat)
    (different : call ≠ state.call) :
    redials call (past ++ [.timer state sess]) = redials call past := by
  rw [redials_append, countRedial, if_neg different.symm]

theorem redials_handshake_of_ne {call : Nat} {state : ReconnectState} (sess : Nat)
    (different : call ≠ state.call) :
    redials call (past ++ [.clientHandshake sess (some state) true]) = redials call past := by
  rw [redials_append, countRedial, if_neg different.symm]

theorem Passes.redials_cases {carriers : Multiset Carrier}
    (passes : Passes manager action carriers) (call : Nat) :
    redials call (past ++ [action]) = redials call past ∨
      redials call (past ++ [action]) = 0 ∨
      ∃ state, .timer state ∈ manager.carriers ∧ state.call = call ∧
        redials call (past ++ [action]) = redials call past + 1 := by
  cases passes with
  | keep action calm neutral silent => exact Or.inl (redials_neutral (neutral call))
  | begin sess host service sslContext policy => exact Or.inl (redials_neutral fun _ => rfl)
  | redial state sess rest kept =>
      by_cases own : call = state.call
      · refine Or.inr (Or.inr ⟨state, kept ▸ Multiset.mem_cons_self _ _, own.symm, ?_⟩)
        rw [redials_append, countRedial, if_pos own.symm]
      · exact Or.inl (redials_timer_of_ne sess own)
  | succeed sess state rest kept =>
      by_cases own : call = state.call
      · refine Or.inr (Or.inl ?_)
        rw [redials_append, countRedial, if_pos own.symm]
      · exact Or.inl (redials_handshake_of_ne sess own)
  | retry action carrier rest kept idle fails room =>
      exact Or.inl (redials_neutral fun count => (countRedial_failing fails call count).1)
  | abandon action carrier rest kept idle fails exhausted =>
      exact Or.inl (redials_neutral fun count => (countRedial_failing fails call count).1)

theorem Passes.later {carriers : Multiset Carrier} (passes : Passes manager action carriers)
    (budgeted : Budgeted manager past) (conserved : manager.Conserved none) {call : Nat}
    (future : manager.calls ≤ call) : redials call (past ++ [action]) = 0 := by
  rcases passes.redials_cases call with same | reset | ⟨state, timed, own, -⟩
  · exact same.trans (budgeted.later call future)
  · exact reset
  · have made : state.call < manager.calls := conserved.call_lt timed
    omega

theorem Passes.bounded {carriers : Multiset Carrier} (passes : Passes manager action carriers)
    (budgeted : Budgeted manager past) (conserved : manager.Conserved none) {call : Nat}
    {policy : ReconnectPolicy} (known : (policies (past ++ [action]))[call]? = some policy)
    (limited : policy.maxAttempts ≠ 0) :
    redials call (past ++ [action]) ≤ policy.maxAttempts := by
  by_cases future : manager.calls ≤ call
  · rw [passes.later budgeted conserved future]
    exact Nat.zero_le _
  have earlier : (policies past)[call]? = some policy := by
    rwa [policies_append, List.getElem?_append_left (budgeted.calls ▸ Nat.lt_of_not_le future)]
      at known
  rcases passes.redials_cases call with same | reset | ⟨state, timed, rfl, more⟩
  · rw [same]
    exact budgeted.bounded call policy earlier limited
  · rw [reset]
    exact Nat.zero_le _
  · have sound := budgeted.sound _ timed
    cases sound.policy.symm.trans earlier
    rw [more]
    exact sound.attempts ▸ sound.within limited

theorem Carrier.Sound.redial {state : ReconnectState} (sound : (Carrier.timer state).Sound past)
    (sess : Nat) :
    (Carrier.attempt { state with currentDelay := state.policy.scale state.currentDelay }).Sound
      (past ++ [.timer state sess]) := by
  have more : redials state.call (past ++ [.timer state sess]) =
      redials state.call past + 1 := by
    rw [redials_append, countRedial, if_pos rfl]
  constructor
  · exact policies_extend sound.policy _
  · exact sound.attempts.trans more.symm
  · exact sound.within
  · exact fun none => absurd (more.symm.trans none) (Nat.succ_ne_zero _)
  · nofun

theorem Carrier.Sound.succeed {state : ReconnectState} (sound : (Carrier.attempt state).Sound past)
    (sess : Nat) :
    (Carrier.session { state with attempts := 0, currentDelay := state.policy.initialDelay }).Sound
      (past ++ [.clientHandshake sess (some state) true]) := by
  have reset : redials state.call (past ++ [.clientHandshake sess (some state) true]) = 0 := by
    rw [redials_append, countRedial, if_pos rfl]
  constructor
  · exact policies_extend sound.policy _
  · exact reset.symm
  · exact fun _ => Nat.zero_le _
  · exact fun _ => rfl
  · exact fun _ _ => reset

theorem Carrier.Sound.retry {carrier : Carrier} (sound : carrier.Sound past)
    (idle : ∀ state, carrier ≠ .timer state) (room : ¬ carrier.state.Exhausted)
    (neutral : redials carrier.call (past ++ [action]) = redials carrier.call past) :
    (Carrier.timer { carrier.state with attempts := carrier.state.attempts + 1 }).Sound
      (past ++ [action]) := by
  constructor
  · exact policies_extend sound.policy _
  · have counted := sound.attempts
    cases carrier with
    | timer state => exact absurd rfl (idle state)
    | attempt state => exact congrArg Nat.succ (counted.trans neutral.symm)
    | session state => exact congrArg Nat.succ (counted.trans neutral.symm)
  · intro limited
    exact Nat.le_of_not_lt fun more => room ⟨limited, more⟩
  · exact fun none => sound.first (neutral.symm.trans none)
  · nofun

/-- One carrier makes way for another, and the count of the others stays. -/
theorem Budgeted.sound_cons (budgeted : Budgeted manager past) {carrier moved : Carrier}
    {rest : Multiset Carrier} (kept : manager.carriers = carrier ::ₘ rest)
    (sound : carrier.Sound past → moved.Sound (past ++ [action]))
    (same : ∀ other ∈ rest, redials other.call (past ++ [action]) = redials other.call past) :
    ∀ other ∈ moved ::ₘ rest, other.Sound (past ++ [action]) := by
  intro other member
  rcases Multiset.mem_cons.mp member with rfl | earlier
  · exact sound (budgeted.sound carrier (kept ▸ Multiset.mem_cons_self _ _))
  · exact (budgeted.sound other (kept ▸ Multiset.mem_cons_of_mem earlier)).extend
      (same other earlier)

theorem Passes.sound {carriers : Multiset Carrier} (passes : Passes manager action carriers)
    (budgeted : Budgeted manager past) (conserved : manager.Conserved none) :
    ∀ carrier ∈ carriers, carrier.Sound (past ++ [action]) := by
  cases passes with
  | keep action calm neutral silent =>
      intro carrier member
      exact (budgeted.sound carrier member).extend (redials_neutral (neutral _))
  | begin sess host service sslContext policy =>
      intro carrier member
      rcases Multiset.mem_cons.mp member with rfl | earlier
      · have unused := (Passes.begin sess host service sslContext policy).later budgeted conserved
          (Nat.le_refl manager.calls)
        constructor
        · simp [policies_append, Action.policy, Carrier.call, Carrier.state, ← budgeted.calls]
        · exact unused.symm
        · exact fun _ => Nat.zero_le _
        · exact fun _ => rfl
        · nofun
      · exact (budgeted.sound carrier earlier).extend (redials_neutral fun _ => rfl)
  | redial state sess rest kept =>
      apply budgeted.sound_cons kept
      · exact fun sound => sound.redial sess
      · intro other earlier
        exact redials_timer_of_ne sess (conserved.call_ne kept other earlier)
  | succeed sess state rest kept =>
      apply budgeted.sound_cons kept
      · exact fun sound => sound.succeed sess
      · intro other earlier
        exact redials_handshake_of_ne sess (conserved.call_ne kept other earlier)
  | retry action carrier rest kept idle fails room =>
      have neutral (call : Nat) : redials call (past ++ [action]) = redials call past :=
        redials_neutral fun count => (countRedial_failing fails call count).1
      apply budgeted.sound_cons kept
      · exact fun sound => sound.retry idle room (neutral carrier.call)
      · exact fun other _ => neutral other.call
  | abandon action carrier rest kept idle fails exhausted =>
      intro other earlier
      refine (budgeted.sound other (kept ▸ Multiset.mem_cons_of_mem earlier)).extend ?_
      exact redials_neutral fun count => (countRedial_failing fails _ count).1

theorem exists_call_of_move {carrier moved : Carrier} {rest : Multiset Carrier} {call : Nat}
    (kept : ∃ other ∈ carrier ::ₘ rest, other.call = call) (same : moved.call = carrier.call) :
    ∃ other ∈ moved ::ₘ rest, other.call = call := by
  obtain ⟨other, member, own⟩ := kept
  rcases Multiset.mem_cons.mp member with rfl | earlier
  · exact ⟨moved, Multiset.mem_cons_self _ _, same.trans own⟩
  · exact ⟨other, Multiset.mem_cons_of_mem earlier, own⟩

theorem Passes.unlimited {carriers : Multiset Carrier} (passes : Passes manager action carriers)
    (budgeted : Budgeted manager past) {call : Nat} {policy : ReconnectPolicy}
    (known : (policies (past ++ [action]))[call]? = some policy)
    (unlimited : policy.maxAttempts = 0) : ∃ carrier ∈ carriers, carrier.call = call := by
  by_cases made : call < (policies past).length
  · have earlier : (policies past)[call]? = some policy := by
      rwa [policies_append, List.getElem?_append_left made] at known
    have kept := budgeted.unlimited call policy earlier unlimited
    cases passes with
    | keep action calm neutral silent => exact kept
    | begin sess host service sslContext policy =>
        obtain ⟨carrier, member, own⟩ := kept
        exact ⟨carrier, Multiset.mem_cons_of_mem member, own⟩
    | redial state sess rest split =>
        rw [split] at kept
        exact exists_call_of_move kept rfl
    | succeed sess state rest split =>
        rw [split] at kept
        exact exists_call_of_move kept rfl
    | retry action carrier rest split idle fails room =>
        rw [split] at kept
        exact exists_call_of_move kept rfl
    | abandon action carrier rest split idle fails exhausted =>
        obtain ⟨other, member, rfl⟩ := kept
        rcases Multiset.mem_cons.mp (split ▸ member) with rfl | remaining
        · have sound := budgeted.sound other member
          cases sound.policy.symm.trans earlier
          exact absurd unlimited exhausted.1
        · exact ⟨other, remaining, rfl⟩
  · rw [policies_append, List.getElem?_append_right (Nat.le_of_not_lt made)] at known
    cases passes with
    | begin sess host service sslContext policy =>
        refine ⟨_, Multiset.mem_cons_self _ _, ?_⟩
        have latest : call - (policies past).length < 1 :=
          (List.getElem?_eq_some_iff.mp known).1
        have counted := budgeted.calls
        show manager.calls = call
        omega
    | keep action calm neutral silent =>
        rw [silent] at known
        cases known
    | redial state sess rest split => cases known
    | succeed sess state rest split => cases known
    | retry action carrier rest split idle fails room =>
        rw [(countRedial_failing fails 0 0).2] at known
        cases known
    | abandon action carrier rest split idle fails exhausted =>
        rw [(countRedial_failing fails 0 0).2] at known
        cases known

theorem Budgeted.step (budgeted : Budgeted manager past) (conserved : manager.Conserved none)
    (running : manager.reconnectStopped = false) (other : action ≠ .stop)
    (taken : Manager.step manager action = some next) :
    Budgeted next (past ++ [action]) := by
  have passes := step_carriers conserved running other taken
  have calls := step_calls taken
  constructor
  · rw [policies_append, List.length_append, budgeted.calls, calls]
  · intro call future
    exact passes.later budgeted conserved (by omega)
  · intro call policy known limited
    exact passes.bounded budgeted conserved known limited
  · exact passes.sound budgeted conserved
  · intro call policy known
    exact passes.unlimited budgeted known

theorem budgeted_of_run {config : Config} {actions : List Action}
    (executed : run step { config := config } actions = some manager)
    (ipv4 : ∀ action ∈ actions, Ipv4 action) (running : .stop ∉ actions) :
    manager.Conserved none ∧ manager.reconnectStopped = false ∧ Budgeted manager actions := by
  have others : ∀ action ∈ actions, Ipv4 action ∧ action ≠ .stop := by
    intro action member
    refine ⟨ipv4 action member, ?_⟩
    rintro rfl
    exact running member
  have initial : Budgeted { config := config } [] := ⟨rfl, fun _ _ => rfl, nofun, nofun, nofun⟩
  refine @run_invariant_past _ _ step
    (fun manager past => manager.Conserved none ∧ manager.reconnectStopped = false ∧
      Budgeted manager past) (fun _ action => Ipv4 action ∧ action ≠ .stop) ?_ _ manager []
    actions ⟨.initial config, rfl, initial⟩ (throughout_of_forall others) executed
  rintro manager past action next ⟨conserved, running, budgeted⟩ ⟨ipv4, other⟩ taken
  exact ⟨conserved.step ipv4 taken, (step_reconnectStopped other taken).trans running,
    budgeted.step conserved running other taken⟩

/-- A failure finds the budget used up exactly after the last re-dial it allows. -/
theorem Carrier.Sound.exhausted_iff {carrier : Carrier} (sound : carrier.Sound past)
    (idle : ∀ state, carrier ≠ .timer state) :
    carrier.state.Exhausted ↔ carrier.state.policy.maxAttempts ≠ 0 ∧
      redials carrier.call past = carrier.state.policy.maxAttempts := by
  have counted : carrier.state.attempts = redials carrier.call past := by
    cases carrier with
    | timer state => exact absurd rfl (idle state)
    | attempt state => exact sound.attempts
    | session state => exact sound.attempts
  have within := sound.within
  unfold ReconnectState.Exhausted
  constructor
  · rintro ⟨limited, more⟩
    have bounded := within limited
    exact ⟨limited, by omega⟩
  · rintro ⟨limited, spent⟩
    exact ⟨limited, by omega⟩

/-- A failure of a call arms a timer, unless the budget is used up: then, and
only then, the continuation of the call ends. -/
theorem Passes.outcome {carriers : Multiset Carrier} (passes : Passes manager action carriers)
    (conserved : manager.Conserved none) (budgeted : Budgeted manager past) {call : Nat}
    {policy : ReconnectPolicy} (known : (policies past)[call]? = some policy) :
    (manager.continuations call = 1 ∧
        carriers.countP (fun carrier => carrier.call = call) = 0 ↔
      (manager.failing action).map ReconnectState.call = some call ∧ policy.maxAttempts ≠ 0 ∧
        redials call past = policy.maxAttempts) ∧
    ((manager.failing action).map ReconnectState.call = some call →
      ¬ (policy.maxAttempts ≠ 0 ∧ redials call past = policy.maxAttempts) →
      ∃ state, .timer state ∈ carriers ∧ state.call = call ∧
        (redials call past = 0 → state.currentDelay = policy.initialDelay)) := by
  rw [← conserved.countP_carriers]
  have single : manager.carriers.countP (fun carrier => carrier.call = call) ≤ 1 := by
    rw [conserved.countP_carriers, conserved.continuations_eq]
    exact conserved.single call
  cases passes with
  | keep action calm neutral silent =>
      rw [calm]
      exact ⟨⟨fun ended => by omega, fun fails => nomatch fails.1⟩, nofun⟩
  | begin sess host service sslContext policy =>
      rw [Multiset.countP_cons]
      exact ⟨⟨fun ended => by omega, fun fails => nomatch fails.1⟩, nofun⟩
  | redial state sess rest kept =>
      rw [kept, Multiset.countP_cons, Multiset.countP_cons]
      exact ⟨⟨fun ended => absurd (ended.1.symm.trans ended.2) nofun,
        fun fails => nomatch fails.1⟩, nofun⟩
  | succeed sess state rest kept =>
      rw [kept, Multiset.countP_cons, Multiset.countP_cons]
      exact ⟨⟨fun ended => absurd (ended.1.symm.trans ended.2) nofun,
        fun fails => nomatch fails.1⟩, nofun⟩
  | retry action carrier rest kept idle fails room =>
      have sound := budgeted.sound carrier (kept ▸ Multiset.mem_cons_self _ _)
      rw [kept, Multiset.countP_cons, Multiset.countP_cons, fails, Option.map_some,
        Option.some_inj]
      refine ⟨⟨fun ended => absurd (ended.1.symm.trans ended.2) nofun, ?_⟩, ?_⟩
      · rintro ⟨rfl, spent⟩
        cases sound.policy.symm.trans known
        exact absurd ((sound.exhausted_iff idle).mpr spent) room
      · rintro rfl -
        cases sound.policy.symm.trans known
        exact ⟨_, Multiset.mem_cons_self _ _, rfl, sound.first⟩
  | abandon action carrier rest kept idle fails exhausted =>
      have sound := budgeted.sound carrier (kept ▸ Multiset.mem_cons_self _ _)
      rw [fails, Option.map_some, Option.some_inj]
      rw [kept, Multiset.countP_cons] at single ⊢
      refine ⟨⟨?_, ?_⟩, ?_⟩
      · intro ended
        have own : carrier.state.call = call := by
          by_contra other
          rw [if_neg (by exact other)] at ended
          omega
        subst own
        cases sound.policy.symm.trans known
        exact ⟨rfl, (sound.exhausted_iff idle).mp exhausted⟩
      · rintro ⟨rfl, -⟩
        have own : carrier.call = carrier.state.call := rfl
        rw [if_pos own] at single ⊢
        omega
      · rintro rfl unspent
        cases sound.policy.symm.trans known
        exact absurd ((sound.exhausted_iff idle).mp exhausted) unspent

end Budget

/-- In every run without `stop`, for a call of `connect` with a policy: the
re-dials since the call or the last successful handshake stay within a non-zero
`max_attempts`; a failure ends the continuation exactly when that many have been
begun, and otherwise it arms a timer, the first time for `initial_delay`; a
registered session has the whole budget; and without a limit the retries never
end. -/
theorem retry_budget {config : Config} {actions : List Action} {manager : SessionManager}
    (executed : run step { config := config } actions = some manager)
    (ipv4 : ∀ action ∈ actions, Ipv4 action) (running : .stop ∉ actions) {call : Nat}
    {policy : ReconnectPolicy} (issued : (policies actions)[call]? = some policy) :
    (policy.maxAttempts ≠ 0 → redials call actions ≤ policy.maxAttempts) ∧
    (∀ action next, Ipv4 action → action ≠ .stop → step manager action = some next →
      (manager.continuations call = 1 ∧ next.continuations call = 0 ↔
        (manager.failing action).map ReconnectState.call = some call ∧
          policy.maxAttempts ≠ 0 ∧ redials call actions = policy.maxAttempts) ∧
      ((manager.failing action).map ReconnectState.call = some call →
        ¬ (policy.maxAttempts ≠ 0 ∧ redials call actions = policy.maxAttempts) →
        ∃ state, .timer state ∈ next.pending ∧ state.call = call ∧
          (redials call actions = 0 → state.currentDelay = policy.initialDelay))) ∧
    (∀ entry ∈ manager.reconnectMap, entry.2.call = call → redials call actions = 0) ∧
    (policy.maxAttempts = 0 → manager.continuations call = 1) := by
  obtain ⟨conserved, unstopped, budgeted⟩ := budgeted_of_run executed ipv4 running
  refine ⟨budgeted.bounded call policy issued, ?_, ?_, ?_⟩
  · intro action next admissible other taken
    have passes := step_carriers conserved unstopped other taken
    have outcome := passes.outcome conserved budgeted issued
    rw [(conserved.step admissible taken).countP_carriers] at outcome
    refine ⟨outcome.1, ?_⟩
    intro fails unspent
    obtain ⟨state, kept, own, first⟩ := outcome.2 fails unspent
    exact ⟨state, mem_pending_of_timer kept, own, first⟩
  · rintro entry member rfl
    have carried : .session entry.2 ∈ manager.carriers :=
      Multiset.mem_add.mpr (Or.inr (List.mem_map.mpr ⟨entry, member, rfl⟩))
    exact (budgeted.sound _ carried).settled entry.2 rfl
  · intro unlimited
    obtain ⟨carrier, member, own⟩ := budgeted.unlimited call policy issued unlimited
    have single := conserved.single call
    rw [← conserved.continuations_eq] at single
    have alive : 0 < manager.continuations call := by
      rw [← conserved.countP_carriers]
      exact Multiset.countP_pos.mpr ⟨carrier, member, own⟩
    omega

/-- With one attempt allowed: the first dial fails, the re-dial is begun and is
the last one. -/
theorem retry_budget_of_one :
    let policy : ReconnectPolicy := { maxAttempts := 1 }
    let state (attempts delay : Nat) : ReconnectState :=
      ⟨"localhost", "8080", 0, policy, attempts, delay, 0⟩
    let actions : List Action := [.connectWithPolicy 1 "localhost" "8080" 0 policy,
      .dialed 1 (some (state 0 1000000000)) none, .timer (state 1 1000000000) 2]
    ∃ manager, run step { config := {} } actions = some manager ∧
      .dial 2 (some (state 1 (policy.scale 1000000000))) ∈ manager.pending ∧
      redials 0 actions = 1 ∧ redials 0 actions ≤ policy.maxAttempts := by
  intro policy state actions
  refine ⟨_, rfl, Multiset.mem_singleton_self _, rfl, ?_⟩
  refine (@retry_budget {} actions _ rfl ?_ ?_ 0 policy rfl).1 (by decide)
  · simp [actions, Ipv4]
  · simp [actions]

end SocketSL.Manager
