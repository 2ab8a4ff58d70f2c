import SocketSL.Connection.Effects

/-!
# The limits of a session

`apply_caps` copies the manager's limits to the socket of a session when the
session is handed over, and `do_connect` then puts the idle timeout of the
reconnect policy in the place of the manager's.  The setters of the manager may
be called at any time and touch no socket.  `Roster` is the part of the manager
in which sessions stand, from being handed over to being forgotten, with the
limits of their sockets; `step_roster` says what each action does to it.
-/

namespace SocketSL.Manager

open SocketSL.Lib

/-- The session a completion is outstanding for, with the state of its dial. -/
def Pending.underWay : Pending → Option (Nat × Option ReconnectState)
  | .serverHandshake sess => some (sess, none)
  | .dial sess state => some (sess, state)
  | .clientHandshake sess state => some (sess, state)
  | _ => none

structure Roster where
  config : Config
  sessions : List Nat
  active : Multiset Nat
  underWay : Multiset (Nat × Option ReconnectState)
  options : Nat → SocketOptions

def SessionManager.roster (manager : SessionManager) : Roster :=
  ⟨manager.config, manager.sessions, manager.active,
    manager.pending.filterMap Pending.underWay, manager.options⟩

/-- What a session is handed over with: the limits in force and its policy. -/
structure Terms where
  config : Config
  policy : Option ReconnectPolicy

/-- What the terms make of the limits a socket has. -/
def Terms.apply (terms : Terms) (options : SocketOptions) : SocketOptions where
  idleTimeout :=
    let timeout := if terms.config.idleTimeout ≠ 0 then terms.config.idleTimeout
      else options.idleTimeout
    match terms.policy with
    | none => timeout
    | some policy => if policy.idleTimeout > 0 then policy.idleTimeout else timeout
  heartbeatTimeout :=
    if terms.config.heartbeatTimeout ≠ 0 then terms.config.heartbeatTimeout
    else options.heartbeatTimeout
  handshakeTimeout :=
    if terms.config.handshakeTimeout ≠ 0 then terms.config.handshakeTimeout
    else options.handshakeTimeout
  maxMessageSize :=
    if terms.config.maxMessageSize ≠ 0 then terms.config.maxMessageSize
    else options.maxMessageSize
  maxPendingWrites :=
    if terms.config.maxPendingWrites ≠ 0 then terms.config.maxPendingWrites
    else options.maxPendingWrites

/-- The limits these terms stand for. -/
def Terms.limits (terms : Terms) : SocketOptions where
  idleTimeout := match terms.policy with
    | none => terms.config.idleTimeout
    | some policy =>
        if policy.idleTimeout > 0 then policy.idleTimeout else terms.config.idleTimeout
  heartbeatTimeout := terms.config.heartbeatTimeout
  handshakeTimeout := terms.config.handshakeTimeout
  maxMessageSize := terms.config.maxMessageSize
  maxPendingWrites := terms.config.maxPendingWrites

/-- A new socket has no limits of its own. -/
theorem Terms.apply_default (terms : Terms) : terms.apply {} = terms.limits := by
  have kept : ∀ value : Nat, (if value ≠ 0 then value else 0) = value := by
    intro value
    split <;> simp_all
  simp only [Terms.apply, Terms.limits, kept]

namespace Roster

variable (roster : Roster) (sess : Nat)

def Holds : Prop :=
  sess ∈ roster.sessions ∨ sess ∈ roster.active ∨ ∃ state, (sess, state) ∈ roster.underWay

def create : Roster :=
  { roster with options := Function.update roster.options sess {} }

/-- The session gets its limits and a dial or a handshake begins. -/
def admitted (state : Option ReconnectState) : Roster :=
  { roster with
    underWay := (sess, state) ::ₘ roster.underWay
    options := Function.update roster.options sess
      (Terms.apply ⟨roster.config, state.map ReconnectState.policy⟩ (roster.options sess)) }

/-- The session is registered, and started unless its address throws. -/
def enrol (starts : Bool) : Roster :=
  { roster with
    sessions := roster.sessions ++ [sess]
    active := if starts then sess ::ₘ roster.active else roster.active }

/-- The session stands in the roster already, or is a new object. -/
def Given (given : Roster) : Prop :=
  roster.Holds sess ∧ given = roster ∨ ¬ roster.Holds sess ∧ given = roster.create sess

variable {sess} {other : Nat} (state : Option ReconnectState)

theorem create_options_self : (roster.create sess).options sess = {} :=
  Function.update_self _ _ _

theorem create_options_of_ne (different : other ≠ sess) :
    (roster.create sess).options other = roster.options other :=
  Function.update_of_ne different _ _

theorem admitted_options_self : (roster.admitted sess state).options sess =
    Terms.apply ⟨roster.config, state.map ReconnectState.policy⟩ (roster.options sess) :=
  Function.update_self _ _ _

theorem admitted_options_of_ne (different : other ≠ sess) :
    (roster.admitted sess state).options other = roster.options other :=
  Function.update_of_ne different _ _

end Roster

namespace SessionManager

variable (manager : SessionManager) (sess : Nat)

theorem holds_roster : manager.roster.Holds sess ↔ manager.Holds sess := by
  have awaited : (∃ state, (sess, state) ∈ manager.roster.underWay) ↔
      some sess ∈ manager.pending.map Pending.session := by
    simp only [roster, Multiset.mem_filterMap, Multiset.mem_map]
    constructor
    · rintro ⟨state, completion, pending, carries⟩
      refine ⟨completion, pending, ?_⟩
      cases completion <;> cases carries <;> rfl
    · rintro ⟨completion, pending, carries⟩
      cases completion with
      | serverHandshake other =>
          cases carries
          exact ⟨none, _, pending, rfl⟩
      | dial other state =>
          cases carries
          exact ⟨state, _, pending, rfl⟩
      | clientHandshake other state =>
          cases carries
          exact ⟨state, _, pending, rfl⟩
      | _ => cases carries
  rw [Roster.Holds, awaited, Holds]
  rfl

theorem roster_erase {completion : Pending} (pending : completion ∈ manager.pending)
    {entry : Nat × Option ReconnectState} (carries : completion.underWay = some entry) :
    ∃ rest, manager.roster.underWay = entry ::ₘ rest ∧
      ({ manager with pending := manager.pending.erase completion } : SessionManager).roster =
        { manager.roster with underWay := rest } := by
  refine ⟨_, ?_, rfl⟩
  rw [← Multiset.filterMap_cons_some _ _ _ carries, Multiset.cons_erase pending]
  rfl

theorem roster_erase_of_none {completion : Pending} (pending : completion ∈ manager.pending)
    (carries : completion.underWay = none) :
    ({ manager with pending := manager.pending.erase completion } : SessionManager).roster =
      manager.roster := by
  have same : (manager.pending.erase completion).filterMap Pending.underWay =
      manager.pending.filterMap Pending.underWay := by
    rw [← Multiset.filterMap_cons_none _ _ carries, Multiset.cons_erase pending]
  simp only [roster, same]

theorem await_roster {completion : Pending} {entry : Nat × Option ReconnectState}
    (carries : completion.underWay = some entry) :
    (manager.await completion).roster =
      { manager.roster with underWay := entry ::ₘ manager.roster.underWay } := by
  simp only [roster, await, Multiset.filterMap_cons_some _ _ _ carries]

theorem await_roster_of_none {completion : Pending} (carries : completion.underWay = none) :
    (manager.await completion).roster = manager.roster := by
  simp only [roster, await, Multiset.filterMap_cons_none _ _ carries]

theorem addSession_roster : (manager.addSession sess).roster = manager.roster ∨
    (manager.addSession sess).roster = manager.roster.admitted sess none := by
  have effect := manager.addSession_effect sess
  generalize manager.addSession sess = next at effect ⊢
  cases effect with
  | throws other => exact Or.inl rfl
  | refuses ip address full => exact Or.inl rfl
  | admits ip address room =>
      rw [@await_roster _ (.serverHandshake sess) _ rfl]
      exact Or.inr rfl

theorem doConnect_options (state : Option ReconnectState) :
    (manager.doConnect sess state).options = Function.update manager.options sess
      (Terms.apply ⟨manager.config, state.map ReconnectState.policy⟩ (manager.options sess)) := by
  cases state with
  | none => rfl
  | some state =>
      by_cases timed : state.policy.idleTimeout > 0
      · simp only [doConnect, if_pos timed, Terms.apply, emit, await, setIdleTimeout, applyCaps,
          Function.update_self, Function.update_idem, Option.map_some]
      · simp only [doConnect, if_neg timed, Terms.apply, emit, await, applyCaps, Option.map_some]

theorem doConnect_roster (state : Option ReconnectState) :
    (manager.doConnect sess state).roster = manager.roster.admitted sess state := by
  have limits := manager.doConnect_options sess state
  obtain ⟨options, same⟩ := manager.doConnect_effect sess state
  rw [same] at limits ⊢
  have limited : options = _ := limits
  refine (@await_roster { manager with options } (.dial sess state) _ rfl).trans ?_
  rw [limited]
  rfl

/-- The remote address of the session is an IPv4 one. -/
def located : Bool := (manager.addresses sess).isSome

theorem registerAndStart_roster :
    (manager.registerAndStart sess).roster =
      manager.roster.enrol sess (manager.located sess) := by
  rw [registerAndStart_eq]
  rfl

end SessionManager

section Roster

variable {manager next : SessionManager} {sess : Nat} {state : ReconnectState}

theorem Rescheduled.roster (rescheduled : Rescheduled manager state next) :
    next.roster = manager.roster := by
  cases rescheduled with
  | drops stopped => rfl
  | abandons running limited exceeded => rfl
  | arms running room => exact manager.await_roster_of_none rfl

theorem Released.roster (released : Released manager sess next) :
    next.roster = manager.roster := by
  cases released with
  | idle absent => rfl
  | reschedules state next found rescheduled => exact rescheduled.roster

theorem Removed.roster (removed : Removed manager sess next) :
    next.roster = { manager.roster with sessions := manager.roster.sessions.erase sess } := by
  cases removed with
  | absent absent => simp [SessionManager.roster, List.erase_of_not_mem absent]
  | throws member other => rfl
  | leaves ip next member address released => exact released.roster

end Roster

/-- The session an action hands over, with the policy of its dial. -/
def handed (manager : SessionManager) : Action → Option (Nat × Option ReconnectPolicy)
  | .addSession sess _ => some (sess, none)
  | .connectSession sess _ => some (sess, none)
  | .connect sess => some (sess, none)
  | .connectWithPolicy sess _ _ _ policy => some (sess, some policy)
  | .accepted _ sess => some (sess, none)
  | .timer state sess =>
      if manager.reconnectStopped then none else some (sess, some state.policy)
  | _ => none

/-- What an action does to the roster, by what it hands over. -/
inductive RosterStep (located : Nat → Bool) (roster : Roster) :
    Option (Nat × Option ReconnectPolicy) → Roster → Prop where
  | keep : RosterStep located roster none roster
  | takeOn (sess : Nat) (state : Option ReconnectState) (given : Roster)
      (known : roster.Given sess given) :
      RosterStep located roster (some (sess, state.map ReconnectState.policy))
        (given.admitted sess state)
  | refuse (sess : Nat) (given : Roster) (known : roster.Given sess given) :
      RosterStep located roster (some (sess, none)) given
  | abandon (entry : Nat × Option ReconnectState) (rest : Multiset (Nat × Option ReconnectState))
      (awaited : roster.underWay = entry ::ₘ rest) :
      RosterStep located roster none { roster with underWay := rest }
  | register (sess : Nat) (state : Option ReconnectState)
      (rest : Multiset (Nat × Option ReconnectState))
      (awaited : roster.underWay = (sess, state) ::ₘ rest) :
      RosterStep located roster none
        (Roster.enrol { roster with underWay := rest } sess (located sess))
  | remove (sess : Nat) :
      RosterStep located roster none { roster with sessions := roster.sessions.erase sess }
  | fail (sess : Nat) : RosterStep located roster none
      { roster with active := roster.active.erase sess, sessions := roster.sessions.erase sess }
  | clear : RosterStep located roster none { roster with sessions := [] }

theorem RosterStep.of_eq {located : Nat → Bool} {roster next : Roster} (same : next = roster) :
    RosterStep located roster none next := by
  rw [same]
  exact .keep

section StepRoster

variable {manager next : SessionManager}

theorem handOver_roster {sess : Nat} {address : Option UInt32} {given : SessionManager}
    (handedOver : handOver manager sess address = some given) :
    manager.roster.Given sess given.roster := by
  unfold handOver at handedOver
  rw [Roster.Given, manager.holds_roster]
  split at handedOver
  next held =>
    obtain ⟨-, same⟩ := Option.ite_none_right_eq_some.mp handedOver
    cases same
    exact Or.inl ⟨held, rfl⟩
  next unheld =>
    cases handedOver
    exact Or.inr ⟨unheld, rfl⟩

theorem create_roster {sess : Nat} (unheld : ¬ manager.Holds sess) {current : SessionManager}
    (same : current.roster = manager.roster) (address : Option UInt32) (origin : Option Nat) :
    manager.roster.Given sess (current.create sess address origin).roster := by
  refine Or.inr ⟨fun held => unheld ((manager.holds_roster sess).mp held), ?_⟩
  rw [← same]
  rfl

theorem addSession_step {sess : Nat} {given : SessionManager}
    (known : manager.roster.Given sess given.roster) :
    RosterStep manager.located manager.roster (some (sess, none))
      (given.addSession sess).roster := by
  rcases given.addSession_roster sess with refused | admitted
  · rw [refused]
    exact .refuse sess given.roster known
  · rw [admitted]
    exact .takeOn sess none given.roster known

theorem doConnect_step {sess : Nat} {given : SessionManager}
    (known : manager.roster.Given sess given.roster) (state : Option ReconnectState) :
    RosterStep manager.located manager.roster (some (sess, state.map ReconnectState.policy))
      (given.doConnect sess state).roster := by
  rw [given.doConnect_roster sess state]
  exact .takeOn sess state given.roster known

/-- A successful dial goes on with the handshake, for the same session and state. -/
theorem Dialed.rosterStep {sess : Nat} {state : Option ReconnectState}
    {remote : Option (Option UInt32)} (pending : .dial sess state ∈ manager.pending)
    (dialed : Dialed { manager with pending := manager.pending.erase (.dial sess state) } sess
      state remote next) : RosterStep manager.located manager.roster none next.roster := by
  obtain ⟨rest, awaited, erased⟩ := manager.roster_erase pending rfl
  have abandoned := @RosterStep.abandon manager.located _ (sess, state) rest awaited
  rw [← erased] at abandoned
  cases dialed with
  | drops state stopped => exact abandoned
  | fails => exact abandoned
  | retries state next running rescheduled =>
      rw [rescheduled.roster]
      exact abandoned
  | dropsLocated state address stopped => exact abandoned
  | proceeds state address running =>
      have proceeds : (SessionManager.await
          { manager with pending := manager.pending.erase (.dial sess state) }
          (.clientHandshake sess state)).roster = manager.roster := by
        rw [SessionManager.await_roster _ rfl, erased, ← awaited]
      exact .of_eq proceeds

theorem registerAndStart_step {completion : Pending} (pending : completion ∈ manager.pending)
    {sess : Nat} {state : Option ReconnectState}
    (carries : completion.underWay = some (sess, state)) {current : SessionManager}
    (same : current.roster = ({ manager with
      pending := manager.pending.erase completion } : SessionManager).roster)
    (addresses : current.addresses = manager.addresses) :
    RosterStep manager.located manager.roster none current.roster ∧
      RosterStep manager.located manager.roster none (current.registerAndStart sess).roster := by
  obtain ⟨rest, awaited, erased⟩ := manager.roster_erase pending carries
  have located : current.located = manager.located := by
    funext other
    rw [SessionManager.located, addresses]
    rfl
  rw [current.registerAndStart_roster, same, erased, located]
  exact ⟨.abandon _ rest awaited, .register sess state rest awaited⟩

theorem Shaken.rosterStep {sess : Nat} {state : Option ReconnectState} {isValid : Bool}
    (pending : .clientHandshake sess state ∈ manager.pending)
    (shaken : Shaken { manager with
      pending := manager.pending.erase (.clientHandshake sess state) } sess state isValid next) :
    RosterStep manager.located manager.roster none next.roster := by
  obtain ⟨abandoned, registered⟩ := registerAndStart_step pending rfl rfl rfl
  cases shaken with
  | drops state isValid stopped => exact abandoned
  | fails => exact abandoned
  | retries state next running rescheduled =>
      rw [rescheduled.roster]
      exact abandoned
  | registers => exact registered
  | keeps state running => exact registered

theorem step_roster {action : Action} (taken : step manager action = some next) :
    RosterStep manager.located manager.roster (handed manager action) next.roster := by
  cases step_cases taken with
  | asyncWaitForConnection => exact .of_eq (@SessionManager.await_roster_of_none _ .accept rfl)
  | addSession sess address given handedOver => exact addSession_step (handOver_roster handedOver)
  | connectSession sess address given handedOver =>
      exact doConnect_step (handOver_roster handedOver) none
  | connect sess unheld => exact doConnect_step (create_roster unheld rfl _ _) none
  | connectWithPolicy sess host service sslContext policy unheld =>
      have known := @create_roster manager sess unheld { manager with calls := manager.calls + 1 }
        rfl (some 0) (some manager.calls)
      exact doConnect_step known
        (some ⟨host, service, sslContext, policy, 0, policy.initialDelay, manager.calls⟩)
  | removeSession sess =>
      rw [(manager.removeSession_effect sess).roster]
      exact .remove sess
  | stop => exact .clear
  | incoming ip isOpen pending =>
      apply RosterStep.of_eq
      rw [SessionManager.await_roster_of_none _ rfl, manager.roster_erase_of_none pending rfl]
  | accepted ip sess unheld pending =>
      rw [SessionManager.onAccept, SessionManager.asyncWaitForConnection,
        SessionManager.await_roster_of_none _ rfl]
      exact addSession_step
        (create_roster unheld (manager.roster_erase_of_none pending rfl) _ _)
  | acceptFailed pending => exact .of_eq (manager.roster_erase_of_none pending rfl)
  | dialed sess state remote pending =>
      exact Dialed.rosterStep pending (SessionManager.onDial_effect _ sess state remote)
  | serverHandshake sess isValid pending =>
      obtain ⟨abandoned, registered⟩ := registerAndStart_step pending rfl rfl rfl
      cases isValid with
      | false => exact abandoned
      | true => exact registered
  | clientHandshake sess state isValid pending =>
      exact Shaken.rosterStep pending
        (SessionManager.onClientHandshake_effect _ sess state isValid)
  | timer state sess unheld pending =>
      have erased := manager.roster_erase_of_none pending rfl
      have effect := SessionManager.onTimer_effect
        { manager with pending := manager.pending.erase (.timer state) } sess state
      generalize SessionManager.onTimer _ state sess = next at effect ⊢
      cases effect with
      | drops stopped =>
          rw [handed, if_pos (by exact stopped)]
          exact .of_eq erased
      | redials running =>
          rw [handed, if_neg (ne_true_of_eq_false running)]
          exact doConnect_step (create_roster unheld erased _ _)
            (some { state with currentDelay := state.policy.scale state.currentDelay })
  | sessionFailed sess reading =>
      rw [(SessionManager.removeSession_effect _ sess).roster]
      exact .fail sess

end StepRoster

/-- The setters of the manager, which may be called at any time, and the rest. -/
inductive Operation where
  | configure (config : Config)
  | act (action : Action)

def operate (manager : SessionManager) : Operation → Option SessionManager
  | .configure config => some { manager with config := config }
  | .act action => step manager action

/-- The hand-overs, each with its terms. -/
def handOvers (manager : SessionManager) : Operation → SessionManager → List (Nat × Terms)
  | .configure _, _ => []
  | .act action, _ =>
      (handed manager action).toList.map fun entry => (entry.1, ⟨manager.config, entry.2⟩)

/-- The terms of the last hand-over of a session. -/
def termsOf (past : List (Nat × Terms)) (sess : Nat) : Option Terms := past.reverse.lookup sess

/-- Nobody hands over a session that is held already. -/
def HandedOnce (manager : SessionManager) : Action → Prop
  | .addSession sess _ => ¬ manager.Holds sess
  | .connectSession sess _ => ¬ manager.Holds sess
  | _ => True

theorem unheld_of_handed {manager next : SessionManager} {action : Action}
    (taken : step manager action = some next) (once : HandedOnce manager action) {sess : Nat}
    {policy : Option ReconnectPolicy} (handing : handed manager action = some (sess, policy)) :
    ¬ manager.roster.Holds sess := by
  rw [manager.holds_roster]
  cases step_cases taken with
  | addSession other address given handedOver =>
      cases handing
      exact once
  | connectSession other address given handedOver =>
      cases handing
      exact once
  | connect other unheld =>
      cases handing
      exact unheld
  | connectWithPolicy other host service sslContext policy unheld =>
      cases handing
      exact unheld
  | accepted ip other unheld pending =>
      cases handing
      exact unheld
  | timer state other unheld pending =>
      obtain ⟨-, same⟩ := Option.ite_none_left_eq_some.mp handing
      cases same
      exact unheld
  | _ => cases handing

/-- Whoever stands in the roster has the limits of its last hand-over. -/
structure Limited (roster : Roster) (past : List (Nat × Terms)) : Prop where
  limits : ∀ sess, roster.Holds sess →
    ∃ terms, termsOf past sess = some terms ∧ roster.options sess = terms.limits
  policies : ∀ sess state, (sess, state) ∈ roster.underWay →
    ∀ terms, termsOf past sess = some terms → terms.policy = state.map ReconnectState.policy

section Limited

variable {roster next : Roster} {past : List (Nat × Terms)}

theorem termsOf_append_self (past : List (Nat × Terms)) (sess : Nat) (terms : Terms) :
    termsOf (past ++ [(sess, terms)]) sess = some terms := by
  simp [termsOf]

theorem termsOf_append_of_ne (past : List (Nat × Terms)) {sess other : Nat} (terms : Terms)
    (different : other ≠ sess) : termsOf (past ++ [(sess, terms)]) other = termsOf past other := by
  simp [termsOf, List.lookup_cons, beq_false_of_ne different]

theorem Limited.shrink (limited : Limited roster past)
    (sessions : ∀ sess ∈ next.sessions, roster.Holds sess)
    (active : ∀ sess ∈ next.active, roster.Holds sess)
    (underWay : ∀ entry ∈ next.underWay, entry ∈ roster.underWay)
    (options : next.options = roster.options) : Limited next past where
  limits := by
    rw [options]
    rintro sess (registered | reading | ⟨state, awaited⟩)
    · exact limited.limits sess (sessions sess registered)
    · exact limited.limits sess (active sess reading)
    · exact limited.limits sess (Or.inr (Or.inr ⟨state, underWay _ awaited⟩))
  policies := fun sess state awaited => limited.policies sess state (underWay _ awaited)

theorem Limited.create (limited : Limited roster past) {sess : Nat}
    (unheld : ¬ roster.Holds sess) (terms : Terms) :
    Limited (roster.create sess) (past ++ [(sess, terms)]) := by
  have different : ∀ other, roster.Holds other → other ≠ sess := by
    rintro other held rfl
    exact unheld held
  refine ⟨?_, ?_⟩
  · intro other held
    have held : roster.Holds other := held
    rw [termsOf_append_of_ne past terms (different other held),
      roster.create_options_of_ne (different other held)]
    exact limited.limits other held
  · intro other state awaited
    have held : roster.Holds other := Or.inr (Or.inr ⟨state, awaited⟩)
    rw [termsOf_append_of_ne past terms (different other held)]
    exact limited.policies other state awaited

theorem Limited.takeOn (limited : Limited roster past) {sess : Nat}
    (unheld : ¬ roster.Holds sess) (state : Option ReconnectState) {terms : Terms}
    (agreed : terms = ⟨roster.config, state.map ReconnectState.policy⟩) :
    Limited ((roster.create sess).admitted sess state) (past ++ [(sess, terms)]) := by
  have created := limited.create unheld terms
  have others : ∀ other, ((roster.create sess).admitted sess state).Holds other →
      other = sess ∨ (roster.create sess).Holds other := by
    rintro other (registered | reading | ⟨carried, awaited⟩)
    · exact Or.inr (Or.inl registered)
    · exact Or.inr (Or.inr (Or.inl reading))
    · rcases Multiset.mem_cons.mp awaited with same | before
      · cases same
        exact Or.inl rfl
      · exact Or.inr (Or.inr (Or.inr ⟨carried, before⟩))
  refine ⟨?_, ?_⟩
  · intro other held
    by_cases here : other = sess
    · subst here
      refine ⟨terms, termsOf_append_self past other terms, ?_⟩
      rw [Roster.admitted_options_self, Roster.create_options_self, Terms.apply_default, agreed]
      rfl
    · rw [Roster.admitted_options_of_ne _ state here]
      exact created.limits other ((others other held).resolve_left here)
  · intro other carried awaited found agreedTerms
    rcases Multiset.mem_cons.mp awaited with same | before
    · cases same
      rw [termsOf_append_self] at agreedTerms
      cases agreedTerms
      rw [agreed]
    · exact created.policies other carried before found agreedTerms

theorem Limited.step {located : Nat → Bool} {handing : Option (Nat × Option ReconnectPolicy)}
    (limited : Limited roster past)
    (once : ∀ sess policy, handing = some (sess, policy) → ¬ roster.Holds sess)
    (taken : RosterStep located roster handing next) :
    Limited next (past ++ handing.toList.map fun entry => (entry.1, ⟨roster.config, entry.2⟩)) := by
  cases taken with
  | keep =>
      rw [Option.toList_none, List.map_nil, List.append_nil]
      exact limited
  | takeOn sess state given known =>
      have unheld := once sess _ rfl
      obtain ⟨held, -⟩ | ⟨-, rfl⟩ := known
      · exact absurd held unheld
      · exact limited.takeOn unheld state rfl
  | refuse sess given known =>
      have unheld := once sess _ rfl
      obtain ⟨held, -⟩ | ⟨-, rfl⟩ := known
      · exact absurd held unheld
      · exact limited.create unheld _
  | abandon entry rest awaited =>
      rw [Option.toList_none, List.map_nil, List.append_nil]
      refine limited.shrink (fun _ member => Or.inl member)
        (fun _ member => Or.inr (Or.inl member)) ?_ rfl
      intro other member
      rw [awaited]
      exact Multiset.mem_cons_of_mem member
  | register sess state rest awaited =>
      rw [Option.toList_none, List.map_nil, List.append_nil]
      have held : roster.Holds sess :=
        Or.inr (Or.inr ⟨state, by rw [awaited]; exact Multiset.mem_cons_self _ _⟩)
      refine limited.shrink ?_ ?_ ?_ rfl
      · intro other member
        rcases List.mem_append.mp member with before | last
        · exact Or.inl before
        · cases List.mem_singleton.mp last
          exact held
      · intro other member
        simp only [Roster.enrol] at member
        split at member
        · rcases Multiset.mem_cons.mp member with rfl | before
          · exact held
          · exact Or.inr (Or.inl before)
        · exact Or.inr (Or.inl member)
      · intro other member
        rw [awaited]
        exact Multiset.mem_cons_of_mem member
  | remove sess =>
      rw [Option.toList_none, List.map_nil, List.append_nil]
      exact limited.shrink (fun _ member => Or.inl (List.mem_of_mem_erase member))
        (fun _ member => Or.inr (Or.inl member)) (fun _ member => member) rfl
  | fail sess =>
      rw [Option.toList_none, List.map_nil, List.append_nil]
      exact limited.shrink (fun _ member => Or.inl (List.mem_of_mem_erase member))
        (fun _ member => Or.inr (Or.inl (Multiset.mem_of_mem_erase member)))
        (fun _ member => member) rfl
  | clear =>
      rw [Option.toList_none, List.map_nil, List.append_nil]
      exact limited.shrink (fun _ member => absurd member List.not_mem_nil)
        (fun _ member => Or.inr (Or.inl member)) (fun _ member => member) rfl

theorem Limited.operate {manager after : SessionManager} (limited : Limited manager.roster past)
    {operation : Operation} (once : ∀ action, operation = .act action → HandedOnce manager action)
    (moved : Manager.operate manager operation = some after) :
    Limited after.roster (past ++ handOvers manager operation after) := by
  cases operation with
  | configure config =>
      cases moved
      rw [handOvers, List.append_nil]
      exact limited.shrink (fun _ member => Or.inl member)
        (fun _ member => Or.inr (Or.inl member)) (fun _ member => member) rfl
  | act action =>
      refine limited.step ?_ (step_roster moved)
      exact fun _ _ handing => unheld_of_handed moved (once action rfl) handing

end Limited

/-- In every run in which no session that is held is handed over again and those
that are handed over are new objects without limits of their own, with the
manager reconfigured at any time: a session that is held by anybody has the
limits that were in force when it was handed over, with the idle timeout of its
policy if that has one, and its dial and its handshake go on under that policy. -/
theorem limits_agreed_at_handOver {config : Config} {operations : List Operation}
    {manager : SessionManager} {past : List (Nat × Terms)}
    (executed : run (recorded operate handOvers) ({ config }, []) operations =
      some (manager, past))
    (once : Throughout (recorded operate handOvers)
      (fun observed operation => ∀ action, operation = .act action → HandedOnce observed.1 action)
      ({ config }, []) operations)
    {sess : Nat} (held : manager.Holds sess) :
    ∃ terms, termsOf past sess = some terms ∧ manager.options sess = terms.limits ∧
      ∀ state, .dial sess state ∈ manager.pending ∨ .clientHandshake sess state ∈ manager.pending →
        terms.policy = state.map ReconnectState.policy := by
  have limited : Limited manager.roster past := run_invariant
    (fun observed => Limited observed.1.roster observed.2)
    (by
      rintro ⟨manager, past⟩ operation ⟨next, longer⟩ limited once taken
      obtain ⟨next, moved, same⟩ := recorded_eq_some.mp taken
      cases same
      exact limited.operate once moved)
    ⟨by simp [Roster.Holds, SessionManager.roster], by simp [SessionManager.roster]⟩ once executed
  obtain ⟨terms, found, options⟩ := limited.limits sess ((manager.holds_roster sess).mpr held)
  refine ⟨terms, found, options, ?_⟩
  intro state pending
  refine limited.policies sess state ?_ terms found
  rcases pending with dial | handshake
  · exact (Multiset.mem_filterMap _ _).mpr ⟨_, dial, rfl⟩
  · exact (Multiset.mem_filterMap _ _).mpr ⟨_, handshake, rfl⟩

/-- A heartbeat that is set after a connection has been accepted. -/
theorem limits_agreed_before_reconfiguration :
    let config : Config := { heartbeatTimeout := 3 }
    let operations : List Operation := [.act .asyncWaitForConnection, .act (.incoming 7),
      .act (.accepted 7 1), .configure { heartbeatTimeout := 9 }]
    ∃ manager past, run (recorded operate handOvers) ({ config }, []) operations =
        some (manager, past) ∧
      manager.config.heartbeatTimeout = 9 ∧
      ∃ terms, termsOf past 1 = some terms ∧ manager.options 1 = terms.limits := by
  intro config operations
  refine ⟨_, _, rfl, rfl, ?_⟩
  obtain ⟨terms, found, limits, -⟩ := @limits_agreed_at_handOver config operations _ _ rfl
    (throughout_of_always (by simp [operations, HandedOnce])) 1 (by decide)
  exact ⟨terms, found, limits⟩

end SocketSL.Manager
