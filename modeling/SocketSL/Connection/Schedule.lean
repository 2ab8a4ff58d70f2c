import SocketSL.Connection.Backoff
import Mathlib.Data.List.Induction
import Mathlib.Logic.Function.Iterate

/-!
# The schedule of the re-dials

The waits of a call are numbered from its last successful handshake.  `Due` says
where a state that is kept stands in that numbering, and what every action does
to it follows from `step_flow`.  In every run a wait is armed for the request of
the call it belongs to, under its number and with the delay of that number.
-/

namespace SocketSL.Manager

open SocketSL.Lib

/-- What a call of `connect` with a policy asks for. -/
structure Request where
  host : String
  service : String
  sslContext : Nat
  policy : ReconnectPolicy
  deriving DecidableEq

def Action.request : Action → Option Request
  | .connectWithPolicy _ host service sslContext policy =>
      some ⟨host, service, sslContext, policy⟩
  | _ => none

/-- The requests of the calls of `connect`, in the order of the calls. -/
def requests (actions : List Action) : List Request :=
  actions.filterMap Action.request

def ReconnectState.request (state : ReconnectState) : Request :=
  ⟨state.host, state.service, state.sslContext, state.policy⟩

/-- The waits of a call after one more milestone. -/
def countWait (call count : Nat) : Milestone → Nat
  | .armed state => if state.call = call then count + 1 else count
  | .succeeded other => if other = call then 0 else count

/-- The waits of a call since its last successful handshake. -/
def retries (call : Nat) (history : List Milestone) : Nat :=
  history.foldl (countWait call) 0

/-- The delay of a wait that so many have gone before. -/
def ReconnectPolicy.delay (policy : ReconnectPolicy) (retry : Nat) : Nat :=
  policy.scale^[retry] policy.initialDelay

/-- A wait is for the request of its call, and has the number and the delay
that follow from the waits before it. -/
def OnSchedule (made : List Request) (before : List Milestone) : Milestone → Prop
  | .armed state =>
      made[state.call]? = some state.request ∧
        state.attempts = retries state.call before + 1 ∧
        state.currentDelay = state.policy.delay (retries state.call before)
  | .succeeded _ => True

theorem requests_append (actions : List Action) (action : Action) :
    requests (actions ++ [action]) = requests actions ++ action.request.toList := by
  cases asked : action.request with
  | none => simp [requests, asked]
  | some request => simp [requests, asked]

theorem request_count (action : Action) :
    action.policy.toList.length = action.request.toList.length := by
  cases action <;> rfl

theorem retries_append (call : Nat) (history : List Milestone) (milestone : Milestone) :
    retries call (history ++ [milestone]) = countWait call (retries call history) milestone := by
  simp [retries, List.foldl_append]

theorem ReconnectPolicy.delay_succ (policy : ReconnectPolicy) (retry : Nat) :
    policy.delay (retry + 1) = policy.scale (policy.delay retry) :=
  Function.iterate_succ_apply' _ _ _

/-- The delay of a state that is kept: of the wait under way for a timer, of the
next wait for an attempt or a session. -/
def Carrier.Delayed : Carrier → Prop
  | .timer state => ∃ retry, state.attempts = retry + 1 ∧
      state.currentDelay = state.policy.delay retry
  | .attempt state => state.currentDelay = state.policy.delay state.attempts
  | .session state => state.currentDelay = state.policy.delay state.attempts

/-- A state that is kept against the calls and the milestones so far. -/
structure Carrier.Due (made : List Request) (history : List Milestone) (carrier : Carrier) :
    Prop where
  asked : made[carrier.call]? = some carrier.state.request
  counted : carrier.state.attempts = retries carrier.call history
  delayed : carrier.Delayed

/-- The states that are kept, the calls and the waits so far. -/
structure Planned (carriers : Multiset Carrier) (made : List Request)
    (history : List Milestone) : Prop where
  distinct : (carriers.map Carrier.call).Nodup
  known : ∀ state, .armed state ∈ history → state.call < made.length
  due : ∀ carrier ∈ carriers, carrier.Due made history
  onSchedule : Justified (OnSchedule made) history

section Planned

variable {carriers rest : Multiset Carrier} {made : List Request} {history : List Milestone}
  {carrier moved : Carrier}

theorem retries_of_unknown {call : Nat}
    (unknown : ∀ state, .armed state ∈ history → state.call ≠ call) : retries call history = 0 := by
  induction history using List.reverseRecOn with
  | nil => rfl
  | append_singleton earlier milestone inductionHypothesis =>
      have before := inductionHypothesis fun state member => unknown state (by simp [member])
      rw [retries_append, before]
      cases milestone with
      | armed state => exact if_neg (unknown state (by simp))
      | succeeded other => exact ite_self 0

theorem Carrier.Due.call_lt (due : carrier.Due made history) : carrier.call < made.length :=
  (List.getElem?_eq_some_iff.mp due.asked).1

theorem Carrier.Due.append (due : carrier.Due made history) {milestone : Milestone}
    (other : countWait carrier.call (retries carrier.call history) milestone =
      retries carrier.call history) : carrier.Due made (history ++ [milestone]) :=
  ⟨due.asked, by rw [retries_append, other, due.counted], due.delayed⟩

theorem Planned.initial : Planned 0 [] [] where
  distinct := Multiset.nodup_zero
  known := by simp
  due := by simp
  onSchedule := Justified.nil

theorem Planned.fewer (planned : Planned carriers made history) (fewer : rest ≤ carriers) :
    Planned rest made history where
  distinct := Multiset.nodup_of_le (Multiset.map_le_map fewer) planned.distinct
  known := planned.known
  due := fun carrier member => planned.due carrier (Multiset.mem_of_le fewer member)
  onSchedule := planned.onSchedule

theorem Planned.extend (planned : Planned carriers made history) (more : List Request) :
    Planned carriers (made ++ more) history := by
  have kept : ∀ {call : Nat} {request : Request}, made[call]? = some request →
      (made ++ more)[call]? = some request := by
    intro call request asked
    obtain ⟨within, -⟩ := List.getElem?_eq_some_iff.mp asked
    rw [List.getElem?_append_left within]
    exact asked
  refine ⟨planned.distinct, ?_, ?_, ?_⟩
  · intro state armed
    have within := planned.known state armed
    rw [List.length_append]
    omega
  · intro carrier member
    have due := planned.due carrier member
    exact ⟨kept due.asked, due.counted, due.delayed⟩
  · intro before milestone after split
    have scheduled := planned.onSchedule before milestone after split
    cases milestone with
    | armed state => exact ⟨kept scheduled.1, scheduled.2⟩
    | succeeded call => trivial

theorem Planned.move (planned : Planned (carrier ::ₘ rest) made history)
    (same : moved.call = carrier.call) (due : moved.Due made history) :
    Planned (moved ::ₘ rest) made history := by
  refine ⟨?_, planned.known, ?_, planned.onSchedule⟩
  · have distinct := planned.distinct
    rw [Multiset.map_cons] at distinct ⊢
    rwa [same]
  · intro other member
    rcases Multiset.mem_cons.mp member with rfl | earlier
    · exact due
    · exact planned.due other (Multiset.mem_cons_of_mem earlier)

theorem Planned.alone (planned : Planned (carrier ::ₘ rest) made history) :
    ∀ other ∈ rest, other.call ≠ carrier.call := by
  have distinct := planned.distinct
  rw [Multiset.map_cons, Multiset.nodup_cons] at distinct
  intro other member same
  exact distinct.1 (same ▸ Multiset.mem_map_of_mem Carrier.call member)

theorem Planned.begin (planned : Planned carriers made history) {state : ReconnectState}
    (numbered : state.call = made.length) (unused : state.attempts = 0)
    (first : state.currentDelay = state.policy.initialDelay) :
    Planned (.attempt state ::ₘ carriers) (made ++ [state.request]) history := by
  have extended := planned.extend [state.request]
  refine ⟨?_, extended.known, ?_, extended.onSchedule⟩
  · rw [Multiset.map_cons, Multiset.nodup_cons]
    refine ⟨?_, planned.distinct⟩
    intro member
    obtain ⟨other, kept, same⟩ := Multiset.mem_map.mp member
    have before := (planned.due other kept).call_lt
    rw [same] at before
    exact Nat.lt_irrefl _ (numbered ▸ before)
  · intro other member
    rcases Multiset.mem_cons.mp member with rfl | earlier
    · refine ⟨?_, ?_, ?_⟩
      · have last : (made ++ [state.request])[state.call]? = some state.request := by
          rw [numbered, List.getElem?_concat_length]
        exact last
      · refine unused.trans (retries_of_unknown ?_).symm
        intro armed milestone same
        have before := planned.known armed milestone
        exact Nat.ne_of_lt before (same.trans numbered)
      · have delayed : state.currentDelay = state.policy.delay state.attempts := by
          rw [unused, first]
          rfl
        exact delayed
    · exact extended.due other earlier

theorem Planned.succeed {state : ReconnectState}
    (planned : Planned (.attempt state ::ₘ rest) made history) :
    Planned
      (.session { state with attempts := 0, currentDelay := state.policy.initialDelay } ::ₘ rest)
      made (history ++ [.succeeded state.call]) := by
  have own := planned.due _ (Multiset.mem_cons_self _ _)
  refine ⟨?_, ?_, ?_, planned.onSchedule.append trivial⟩
  · have distinct := planned.distinct
    rw [Multiset.map_cons] at distinct ⊢
    exact distinct
  · intro other armed
    exact planned.known other (by simpa using armed)
  · intro other member
    rcases Multiset.mem_cons.mp member with rfl | earlier
    · refine ⟨own.asked, ?_, rfl⟩
      rw [retries_append]
      exact (if_pos rfl).symm
    · refine (planned.due other (Multiset.mem_cons_of_mem earlier)).append ?_
      exact if_neg (Ne.symm (planned.alone other earlier))

theorem Planned.arm (planned : Planned (carrier ::ₘ rest) made history)
    (next : carrier.state.currentDelay = carrier.state.policy.delay carrier.state.attempts) :
    Planned (.timer { carrier.state with attempts := carrier.state.attempts + 1 } ::ₘ rest) made
      (history ++ [.armed { carrier.state with attempts := carrier.state.attempts + 1 }]) := by
  have own := planned.due _ (Multiset.mem_cons_self _ _)
  refine ⟨?_, ?_, ?_, planned.onSchedule.append ?_⟩
  · have distinct := planned.distinct
    rw [Multiset.map_cons] at distinct ⊢
    exact distinct
  · intro other armed
    rcases List.mem_append.mp armed with earlier | latest
    · exact planned.known other earlier
    · cases List.mem_singleton.mp latest
      exact own.call_lt
  · intro other member
    rcases Multiset.mem_cons.mp member with rfl | earlier
    · refine ⟨own.asked, ?_, carrier.state.attempts, rfl, next⟩
      rw [retries_append]
      exact (congrArg (· + 1) own.counted).trans (if_pos rfl).symm
    · refine (planned.due other (Multiset.mem_cons_of_mem earlier)).append ?_
      exact if_neg (Ne.symm (planned.alone other earlier))
  · refine ⟨own.asked, congrArg (· + 1) own.counted, ?_⟩
    exact next.trans (congrArg carrier.state.policy.delay own.counted)

theorem Carrier.Due.redial {state : ReconnectState}
    (due : (Carrier.timer state).Due made history) :
    (Carrier.attempt
      { state with currentDelay := state.policy.scale state.currentDelay }).Due made history := by
  obtain ⟨retry, numbered, delay⟩ := due.delayed
  refine ⟨due.asked, due.counted, ?_⟩
  have scaled : state.policy.scale state.currentDelay = state.policy.delay state.attempts := by
    rw [numbered, delay, ReconnectPolicy.delay_succ]
  exact scaled

end Planned

section Step

variable {manager next : SessionManager} {action : Action} {made : List Request}
  {history : List Milestone}

theorem carriers_of_success {sess : Nat} {state : ReconnectState}
    (taken : step manager (.clientHandshake sess (some state) true) = some next) :
    ∃ rest, manager.carriers = .attempt state ::ₘ rest ∧
      next.carriers ≤
        .session { state with attempts := 0, currentDelay := state.policy.initialDelay } ::ₘ
          rest := by
  cases step_cases taken with
  | clientHandshake _ _ _ pending =>
      refine ⟨_, manager.carriers_take rfl pending, ?_⟩
      have effect := SessionManager.onClientHandshake_effect
        { manager with pending := manager.pending.erase (.clientHandshake sess (some state)) }
        sess (some state) true
      generalize SessionManager.onClientHandshake _ sess (some state) true = next at effect ⊢
      cases effect with
      | drops state isValid stopped => exact Multiset.le_cons_self _ _
      | keeps state running =>
          rw [SessionManager.registerAndStart_eq, SessionManager.carriers,
            SessionManager.carriers, ← Multiset.add_cons]
          refine Multiset.add_le_add_left ?_
          exact Multiset.cons_le_cons _ (sessionCarriers_filter_le _ _)

theorem mem_carriers_of_pending {completion : Pending} {carrier : Carrier}
    (carries : completion.carrier = some carrier) (pending : completion ∈ manager.pending) :
    carrier ∈ manager.carriers := by
  rw [manager.carriers_take carries pending]
  exact Multiset.mem_cons_self _ _

theorem mem_carriers_of_failing {sess : Nat} {state : ReconnectState}
    (failing : (if (manager.addresses sess).isSome then
      if sess ∈ manager.sessions then manager.reconnectMap.lookup sess else none
      else none) = some state) : .session state ∈ manager.carriers := by
  rw [Option.ite_none_right_eq_some, Option.ite_none_right_eq_some] at failing
  apply Multiset.mem_add.mpr
  exact .inr (Multiset.mem_of_le (sessionCarriers_extract_le failing.2.2)
    (Multiset.mem_cons_self _ _))

/-- What is handed to `schedule_reconnect` comes from an attempt or a session. -/
theorem mem_carriers_of_scheduled {state : ReconnectState}
    (taken : step manager action = some next) (scheduled : manager.scheduled action = some state) :
    .attempt state ∈ manager.carriers ∨ .session state ∈ manager.carriers := by
  cases step_cases taken with
  | dialed sess given remote pending =>
      cases remote with
      | none =>
          cases (show given = some state from scheduled)
          exact .inl (mem_carriers_of_pending rfl pending)
      | some address => cases scheduled
  | clientHandshake sess given isValid pending =>
      cases isValid with
      | false =>
          cases (show given = some state from scheduled)
          exact .inl (mem_carriers_of_pending rfl pending)
      | true => cases scheduled
  | removeSession sess => exact .inr (mem_carriers_of_failing scheduled)
  | sessionFailed sess reading => exact .inr (mem_carriers_of_failing scheduled)
  | _ => cases scheduled

theorem Planned.next_delay {state : ReconnectState}
    (planned : Planned manager.carriers made history)
    (taken : Manager.step manager action = some next)
    (scheduled : manager.scheduled action = some state) :
    state.currentDelay = state.policy.delay state.attempts := by
  rcases mem_carriers_of_scheduled taken scheduled with attempt | session
  · exact (planned.due _ attempt).delayed
  · exact (planned.due _ session).delayed

theorem succeeded_eq_nil_or (action : Action) : succeeded action = [] ∨
    ∃ sess state, action = .clientHandshake sess (some state) true := by
  unfold succeeded
  split
  next sess state => exact .inr ⟨sess, state, rfl⟩
  next => exact .inl rfl

theorem Planned.step (planned : Planned manager.carriers made history)
    (numbered : manager.calls = made.length) (taken : Manager.step manager action = some next) :
    Planned next.carriers (made ++ action.request.toList)
      (history ++ milestones manager action next) := by
  have flow := step_flow taken
  rcases succeeded_eq_nil_or action with silent | ⟨sess, state, rfl⟩
  · generalize next.carriers = carriers at flow
    generalize milestones manager action next = added at flow
    cases flow with
    | keep action carriers fewer calm =>
        rw [silent, List.append_nil]
        exact (planned.fewer fewer).extend _
    | begin sess host service sslContext policy =>
        rw [List.append_nil]
        exact planned.begin numbered rfl rfl
    | redial state sess rest kept =>
        rw [kept] at planned
        rw [List.append_nil]
        have due := (planned.due _ (Multiset.mem_cons_self _ _)).redial
        exact (planned.move (by rfl) due).extend _
    | succeed sess state rest carriers kept fewer => cases silent
    | arm action carrier rest kept arms =>
        have delay := planned.next_delay taken arms.scheduled
        exact ((planned.fewer kept).arm delay).extend _
  · obtain ⟨rest, kept, fewer⟩ := carriers_of_success taken
    have added : milestones manager (.clientHandshake sess (some state) true) next =
        [.succeeded state.call] := by
      generalize next.carriers = carriers at flow
      generalize milestones manager (.clientHandshake sess (some state) true) next = added at flow
      cases flow with
      | keep => rfl
      | succeed => rfl
      | arm action carrier rest kept arms => cases arms.scheduled
    rw [kept] at planned
    rw [added]
    exact (planned.succeed.fewer fewer).extend _

end Step

/-- In every run, whatever fails and whenever, each wait that is armed belongs
to a call of `connect` and carries its host, service, context and policy.  Its
number is one more than the waits of that call since its last successful
handshake, and its delay is the initial one scaled as often, by exact products. -/
theorem waits_on_schedule {config : Config} {actions : List Action} {manager : SessionManager}
    {history : List Milestone}
    (executed : run observe ({ config }, []) actions = some (manager, history)) :
    Justified (OnSchedule (requests actions)) history := by
  have empty : Planned (SessionManager.carriers { config }) (requests []) [] := Planned.initial
  obtain ⟨planned, -⟩ := run_invariant_past
    (fun observed past => Planned observed.1.carriers (requests past) observed.2 ∧
      observed.1.calls = (requests past).length)
    (by
      rintro ⟨manager, history⟩ past action ⟨next, longer⟩ ⟨planned, numbered⟩ - taken
      obtain ⟨next, moved, same⟩ := recorded_eq_some.mp taken
      cases same
      rw [requests_append]
      refine ⟨planned.step numbered moved, ?_⟩
      rw [List.length_append, ← request_count]
      exact (step_calls moved).trans (congrArg (· + _) numbered))
    ⟨empty, rfl⟩ (throughout_of_forall fun _ _ => trivial) executed
  exact planned.onSchedule

/-- Two dials fail, the third succeeds, and the session is lost: the next wait is
the first one again. -/
theorem waits_on_schedule_after_success :
    let policy : ReconnectPolicy := { initialDelay := 10, maxDelay := 30 }
    let state (attempts delay : Nat) : ReconnectState :=
      ⟨"localhost", "8080", 0, policy, attempts, delay, 0⟩
    let actions : List Action := [.connectWithPolicy 1 "localhost" "8080" 0 policy,
      .dialed 1 (some (state 0 10)) none, .timer (state 1 10) 2,
      .dialed 2 (some (state 1 20)) none, .timer (state 2 20) 3,
      .dialed 3 (some (state 2 30)) (some (some 0)), .clientHandshake 3 (some (state 2 30)) true,
      .sessionFailed 3]
    let history : List Milestone :=
      [.armed (state 1 10), .armed (state 2 20), .succeeded 0, .armed (state 1 10)]
    (run observe ({ config := {} }, []) actions).map Prod.snd = some history ∧
      Justified (OnSchedule (requests actions)) history := by
  intro policy state actions history
  have recorded : (run observe ({ config := {} }, []) actions).map Prod.snd = some history := by
    decide +kernel
  obtain ⟨⟨manager, observed⟩, executed, same⟩ := Option.map_eq_some_iff.mp recorded
  rw [← same] at recorded ⊢
  exact ⟨recorded, waits_on_schedule executed⟩

end SocketSL.Manager
