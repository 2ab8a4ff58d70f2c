import SocketSL.Connection.Lifecycle
import SocketSL.Lib.Log

/-!
# `on_connect` and `on_disconnect` pair up

A session is announced when it is registered and its departure is announced when
`remove_session` finds it.  `stop` takes sessions out without a word, and between
the locked section of the registration and `on_connect` another thread may get to
`on_disconnect` first.  Runs without these two keep the two callbacks in pairs.
-/

namespace SocketSL.Lifecycle

open SocketSL.Lib
open SocketSL.Manager
open SocketSL.Session

/-- `on_disconnect` comes after the `on_connect` of the same session. -/
def Follows (before : List Notice) : Notice → Prop
  | .disconnected sess => .connected sess ∈ before
  | .connected _ => True

/-- Each session is announced and taken leave of at most once and in this order,
and an announced session that is gone has been taken leave of once no callback
is running. -/
structure Paired (state : State) : Prop where
  connectedOnce : ∀ sess, state.log.count (.connected sess) ≤ 1
  disconnectedOnce : ∀ sess, state.log.count (.disconnected sess) ≤ 1
  ordered : Justified Follows state.log
  complete : ∀ sess, .connected sess ∈ state.log → sess ∉ state.sessions → state.tasks = 0 →
    .disconnected sess ∈ state.log

/-- `stop` finds no session registered, and `on_disconnect` is not called for a
session whose `on_connect` is still to come. -/
def Orderly (state : State) : Action → Prop
  | .stop => state.sessions = []
  | .task (.disconnect sess) => .connect sess ∉ state.tasks
  | _ => True

/-- Every IPv4 session that has been registered is registered still, about to be
taken leave of, or gone. -/
structure Announced (state : State) : Prop where
  onConnect : state.registry.config.onConnect = true
  onDisconnect : state.registry.config.onDisconnect = true
  once : ∀ sess, state.handed.count sess ≤ 1
  fresh : ∀ sess, state.log.count (.connected sess) + state.tasks.count (.connect sess) +
    state.handshakes.count sess ≤ state.handed.count sess
  balance : ∀ sess, state.registry.addresses sess ≠ none →
    state.log.count (.connected sess) + state.tasks.count (.connect sess) =
      state.sessions.count sess + state.tasks.count (.disconnect sess) +
        state.log.count (.disconnected sess)
  silent : ∀ sess, state.registry.addresses sess = none →
    state.log.count (.connected sess) + state.tasks.count (.connect sess) +
      state.tasks.count (.disconnect sess) + state.log.count (.disconnected sess) = 0
  ordered : Justified Follows state.log

section Announced

variable {state : State}

theorem Announced.paired (announced : Announced state) : Paired state := by
  have left (sess : Nat) : state.log.count (.disconnected sess) ≤
      state.log.count (.connected sess) + state.tasks.count (.connect sess) := by
    by_cases address : state.registry.addresses sess = none
    · have silent := announced.silent sess address
      omega
    · have balance := announced.balance sess address
      omega
  constructor
  · intro sess
    have fresh := announced.fresh sess
    have once := announced.once sess
    omega
  · intro sess
    have fresh := announced.fresh sess
    have once := announced.once sess
    have bounded := left sess
    omega
  · exact announced.ordered
  · intro sess connected absent quiet
    have positive := List.count_pos_iff.mpr connected
    have gone := List.count_eq_zero.mpr absent
    have address : state.registry.addresses sess ≠ none := by
      intro other
      have silent := announced.silent sess other
      omega
    have balance := announced.balance sess address
    rw [quiet, gone, Multiset.count_zero, Multiset.count_zero] at balance
    apply List.count_pos_iff.mp
    omega

theorem Announced.initial {registry : Registry} (empty : registry.sessions = [])
    (onConnect : registry.config.onConnect = true)
    (onDisconnect : registry.config.onDisconnect = true) (maxMessageSize : Nat → Nat) :
    Announced { registry, maxMessageSize } := by
  refine ⟨onConnect, onDisconnect, ?_, ?_, ?_, ?_, .nil⟩
  all_goals simp [State.sessions, empty]

theorem Announced.handOver (announced : Announced state) {sess : Nat}
    (fresh : sess ∉ state.handed) :
    Announced { state with
      handed := sess ::ₘ state.handed, handshakes := sess ::ₘ state.handshakes } := by
  have unknown := Multiset.count_eq_zero.mpr fresh
  refine { announced with once := ?_, fresh := ?_ }
  · have distinct := Multiset.nodup_iff_count_le_one.mpr announced.once
    exact Multiset.nodup_iff_count_le_one.mp (Multiset.nodup_cons.mpr ⟨fresh, distinct⟩)
  · intro other
    have bounded := announced.fresh other
    simp only [Multiset.count_cons]
    omega

theorem Announced.refused (announced : Announced state) {sess : Nat} {rest : Multiset Nat}
    (pending : state.handshakes = sess ::ₘ rest) :
    Announced { state with handshakes := rest } := by
  refine { announced with fresh := ?_ }
  intro other
  have fresh := announced.fresh other
  rw [pending, Multiset.count_cons] at fresh
  dsimp only
  omega

section Frames

variable (sess : Nat)

theorem register_silent (address : state.registry.addresses sess = none) :
    state.register sess = { state with registry := state.registry.register sess } := by
  simp [State.register, address]

theorem register_announced {ip : UInt32} (address : state.registry.addresses sess = some ip) :
    state.register sess =
      { state with
        registry := state.registry.register sess
        tasks := .connect sess ::ₘ state.tasks } := by
  simp [State.register, address]

theorem removeSession_silent (member : sess ∈ state.sessions)
    (address : state.registry.addresses sess = none) :
    state.removeSession sess = { state with registry := state.registry.remove sess } := by
  simp [State.removeSession, member, address]

theorem removeSession_announced (member : sess ∈ state.sessions) {ip : UInt32}
    (address : state.registry.addresses sess = some ip) :
    state.removeSession sess =
      { state with
        registry := state.registry.remove sess
        tasks := .disconnect sess ::ₘ state.tasks } := by
  simp [State.removeSession, member, address]

end Frames

theorem ne_of_silent {sess other : Nat} {ip : UInt32}
    (address : state.registry.addresses sess = some ip)
    (unknown : state.registry.addresses other = none) : other ≠ sess := by
  rintro rfl
  exact nomatch unknown.symm.trans address

theorem ne_of_known {sess other : Nat} (address : state.registry.addresses sess = none)
    (known : state.registry.addresses other ≠ none) : other ≠ sess := by
  rintro rfl
  exact known address

theorem Announced.registered (announced : Announced state) {sess : Nat} {rest : Multiset Nat}
    (pending : state.handshakes = sess ::ₘ rest) :
    Announced (State.register { state with handshakes := rest } sess) := by
  have counted (other : Nat) : state.handshakes.count other =
      rest.count other + if other = sess then 1 else 0 := by
    rw [pending, Multiset.count_cons]
  cases address : state.registry.addresses sess with
  | none =>
      rw [@register_silent { state with handshakes := rest } sess address]
      refine { announced with fresh := ?_, balance := ?_ }
      · intro other
        have fresh := announced.fresh other
        rw [counted] at fresh
        dsimp only
        omega
      · intro other known
        have balance := announced.balance other known
        simp only [State.sessions, Registry.register, count_append_singleton,
          if_neg (ne_of_known address known)] at balance ⊢
        exact balance
  | some ip =>
      rw [@register_announced { state with handshakes := rest } sess ip address]
      refine { announced with fresh := ?_, balance := ?_, silent := ?_ }
      · intro other
        have fresh := announced.fresh other
        rw [counted] at fresh
        simp only [Multiset.count_cons, Task.connect.injEq]
        omega
      · intro other known
        have balance := announced.balance other known
        simp only [State.sessions, Registry.register, count_append_singleton,
          Multiset.count_cons, Task.connect.injEq, reduceCtorEq, if_false] at balance ⊢
        omega
      · intro other unknown
        have silent := announced.silent other unknown
        simp only [Multiset.count_cons, Task.connect.injEq,
          if_neg (ne_of_silent address unknown), reduceCtorEq, if_false]
        exact silent

theorem Announced.removeSession (announced : Announced state) (sess : Nat) :
    Announced (state.removeSession sess) := by
  by_cases member : sess ∈ state.sessions
  · have present := List.count_pos_iff.mpr member
    cases address : state.registry.addresses sess with
    | none =>
        rw [removeSession_silent sess member address]
        refine { announced with balance := ?_ }
        intro other known
        have balance := announced.balance other known
        simp only [State.sessions, Registry.remove,
          List.count_erase_of_ne (ne_of_known address known)] at balance ⊢
        exact balance
    | some ip =>
        rw [removeSession_announced sess member address]
        refine { announced with fresh := ?_, balance := ?_, silent := ?_ }
        · intro other
          simpa using announced.fresh other
        · intro other known
          have balance := announced.balance other known
          by_cases own : other = sess
          · subst own
            simp only [State.sessions, Registry.remove, List.count_erase_self,
              Multiset.count_cons_self, Multiset.count_cons, reduceCtorEq, if_false]
              at present balance ⊢
            omega
          · simp only [State.sessions, Registry.remove, List.count_erase_of_ne own,
              Multiset.count_cons, Task.disconnect.injEq, if_neg own, reduceCtorEq, if_false]
              at balance ⊢
            exact balance
        · intro other unknown
          have different := ne_of_silent address unknown
          simpa [Multiset.count_cons, different] using announced.silent other unknown
  · simpa [State.removeSession, member] using announced

theorem Announced.keep (announced : Announced state) {tasks : Multiset Task}
    (connects : ∀ sess, tasks.count (.connect sess) = state.tasks.count (.connect sess))
    (disconnects : ∀ sess, tasks.count (.disconnect sess) = state.tasks.count (.disconnect sess))
    (reads : Multiset (Nat × PendingRead)) (started : Multiset Nat) :
    Announced { state with tasks, reads, started } := by
  refine { announced with fresh := ?_, balance := ?_, silent := ?_ }
  · intro sess
    simpa [connects] using announced.fresh sess
  · intro sess known
    simpa [connects, disconnects, State.sessions] using announced.balance sess known
  · intro sess unknown
    have silent := announced.silent sess unknown
    dsimp only
    rw [connects, disconnects]
    exact silent

theorem Announced.connect (announced : Announced state) {sess : Nat} {rest : Multiset Task}
    (pending : state.tasks = .connect sess ::ₘ rest) :
    Announced { state with
      tasks := .start sess ::ₘ rest, log := state.log ++ [.connected sess] } := by
  have moved (other : Nat) : (state.log ++ [Notice.connected sess]).count (.connected other) +
      (Task.start sess ::ₘ rest).count (.connect other) =
        state.log.count (.connected other) + state.tasks.count (.connect other) := by
    rw [pending]
    by_cases same : other = sess
    · subst same
      simp
      omega
    · simp [same, Ne.symm same]
  have disconnects (other : Nat) : (Task.start sess ::ₘ rest).count (.disconnect other) =
      state.tasks.count (.disconnect other) := by
    simp [pending]
  have departed (other : Nat) :
      (state.log ++ [Notice.connected sess]).count (.disconnected other) =
        state.log.count (.disconnected other) := by
    simp
  refine { announced with fresh := ?_, balance := ?_, silent := ?_, ordered := ?_ }
  · intro other
    dsimp only
    rw [moved]
    exact announced.fresh other
  · intro other known
    dsimp only
    rw [moved, disconnects, departed]
    exact announced.balance other known
  · intro other unknown
    dsimp only
    rw [moved, disconnects, departed]
    exact announced.silent other unknown
  · exact announced.ordered.append trivial

theorem Announced.disconnect (announced : Announced state) {sess : Nat} {rest : Multiset Task}
    (pending : state.tasks = .disconnect sess ::ₘ rest)
    (after : .connect sess ∉ state.tasks) :
    Announced { state with tasks := rest, log := state.log ++ [.disconnected sess] } := by
  have moved (other : Nat) : rest.count (.disconnect other) +
      (state.log ++ [Notice.disconnected sess]).count (.disconnected other) =
        state.tasks.count (.disconnect other) + state.log.count (.disconnected other) := by
    rw [pending]
    by_cases same : other = sess
    · subst same
      simp
      omega
    · simp [same, Ne.symm same]
  have connects (other : Nat) : rest.count (.connect other) =
      state.tasks.count (.connect other) := by
    simp [pending]
  have heard (other : Nat) :
      (state.log ++ [Notice.disconnected sess]).count (.connected other) =
        state.log.count (.connected other) := by
    simp
  have connected : .connected sess ∈ state.log := by
    have due : 0 < state.tasks.count (.disconnect sess) := by
      rw [pending]
      exact Multiset.count_pos.mpr (Multiset.mem_cons_self _ _)
    have called := Multiset.count_eq_zero.mpr after
    have address : state.registry.addresses sess ≠ none := by
      intro other
      have silent := announced.silent sess other
      omega
    have balance := announced.balance sess address
    apply List.count_pos_iff.mp
    omega
  refine { announced with fresh := ?_, balance := ?_, silent := ?_, ordered := ?_ }
  · intro other
    dsimp only
    rw [heard, connects]
    exact announced.fresh other
  · intro other known
    have balance := announced.balance other known
    have same := moved other
    dsimp only [State.sessions] at balance ⊢
    rw [heard, connects]
    omega
  · intro other unknown
    have silent := announced.silent other unknown
    have same := moved other
    dsimp only
    rw [heard, connects]
    omega
  · exact announced.ordered.append connected

theorem Announced.stop (announced : Announced state) (empty : state.sessions = []) :
    Announced state.stop := by
  refine { announced with balance := ?_ }
  intro sess known
  have balance := announced.balance sess known
  rw [empty] at balance
  exact balance

theorem Announced.task (announced : Announced state) {task : Task} {rest : Multiset Task}
    (pending : state.tasks = task ::ₘ rest) (orderly : Orderly state (.task task)) :
    Announced (State.perform { state with tasks := rest } task) := by
  cases task with
  | connect sess =>
      simp only [State.perform, State.notify, announced.onConnect, if_true]
      exact announced.connect pending
  | start sess =>
      apply announced.keep
      · simp [pending]
      · simp [pending]
  | disconnect sess =>
      simp only [State.perform, State.notify, announced.onDisconnect, if_true]
      exact announced.disconnect pending orderly
  | resume sess =>
      apply announced.keep
      · simp [pending]
      · simp [pending]

theorem Announced.step (announced : Announced state) {schema : Schema} {next : State}
    {action : Action} (orderly : Orderly state action)
    (taken : Lifecycle.step schema state action = some next) : Announced next := by
  cases step_cases taken with
  | handOver sess fresh => exact announced.handOver fresh
  | refused sess rest pending => exact announced.refused pending
  | registered sess rest pending => exact announced.registered pending
  | task task rest pending => exact announced.task pending orderly
  | ended sess reading bytes rest pending last =>
      apply Announced.removeSession
      exact { announced with }
  | handled sess reading bytes rest pending framed =>
      apply announced.keep
      · simp
      · simp
  | issued sess reading following bytes rest pending continued => exact { announced with }
  | removeSession sess => exact announced.removeSession sess
  | stop => exact announced.stop orderly

end Announced

/-- With both callbacks set, in every run in which `stop` finds no session
registered and no `on_disconnect` overtakes its `on_connect`, the notifications
pair up in every state. -/
theorem notifications_paired {schema : Schema} {registry : Registry}
    (empty : registry.sessions = []) (onConnect : registry.config.onConnect = true)
    (onDisconnect : registry.config.onDisconnect = true) {maxMessageSize : Nat → Nat}
    {actions : List Action} {state : State}
    (orderly : Throughout (step schema) Orderly { registry, maxMessageSize } actions)
    (executed : run (step schema) { registry, maxMessageSize } actions = some state) :
    Paired state := by
  have announced : Announced state := run_invariant Announced
    (fun state action next announced orderly taken => announced.step orderly taken)
    (Announced.initial empty onConnect onDisconnect maxMessageSize) orderly executed
  exact announced.paired

section Traces

def bothCallbacks : Registry :=
  ⟨{ onConnect := true, onDisconnect := true }, [], fun _ => none, fun _ => some 10⟩

/-- A session that is removed explicitly, with its read still outstanding. -/
theorem notifications_paired_removed :
    let actions : List Action := [.handOver 1, .handshake 1 true, .task (.connect 1),
      .task (.start 1), .removeSession 1, .task (.disconnect 1), .removeSession 1]
    ∃ state, run (step flatbuffers) { registry := bothCallbacks, maxMessageSize := fun _ => 0 }
        actions = some state ∧ state.log = [.connected 1, .disconnected 1] ∧ Paired state := by
  intro actions
  refine ⟨_, rfl, rfl, ?_⟩
  refine @notifications_paired flatbuffers bothCallbacks rfl rfl rfl (fun _ => 0) actions _ ?_ rfl
  refine (throughout_cons rfl).mpr ⟨trivial, ?_⟩
  refine (throughout_cons rfl).mpr ⟨trivial, ?_⟩
  refine (throughout_cons rfl).mpr ⟨trivial, ?_⟩
  refine (throughout_cons rfl).mpr ⟨trivial, ?_⟩
  refine (throughout_cons rfl).mpr ⟨trivial, ?_⟩
  refine (throughout_cons rfl).mpr ⟨?_, ?_⟩
  · show Task.connect 1 ∉ ({.disconnect 1} : Multiset Task)
    decide
  · exact (throughout_cons rfl).mpr ⟨trivial, trivial⟩

/-- `stop` clears `sessions_` before the read of the closed socket fails, and so
the session is never taken leave of; and a removal between the registration and
`on_connect` is announced first. -/
theorem unpaired_notifications :
    let initial : State := { registry := bothCallbacks, maxMessageSize := fun _ => 0 }
    (∃ state, run (step flatbuffers) initial [.handOver 1, .handshake 1 true,
        .task (.connect 1), .task (.start 1), .stop, .read 1 .frameSize none] = some state ∧
      state.log = [.connected 1] ∧ state.sessions = [] ∧ state.tasks = 0 ∧ state.reads = 0 ∧
      ¬ Paired state) ∧
    ∃ state, run (step flatbuffers) initial [.handOver 1, .handshake 1 true,
        .removeSession 1, .task (.disconnect 1), .task (.connect 1)] = some state ∧
      state.log = [.disconnected 1, .connected 1] ∧ ¬ Paired state := by
  intro initial
  constructor
  · refine ⟨_, rfl, rfl, rfl, rfl, rfl, ?_⟩
    intro paired
    have departed := paired.complete 1 (List.mem_singleton_self _) (List.not_mem_nil) rfl
    exact absurd (List.mem_singleton.mp departed) nofun
  · refine ⟨_, rfl, rfl, ?_⟩
    intro paired
    exact absurd (paired.ordered [] (.disconnected 1) [.connected 1] rfl) List.not_mem_nil

end Traces

end SocketSL.Lifecycle
