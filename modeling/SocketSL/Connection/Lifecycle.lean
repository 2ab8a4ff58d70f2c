import SocketSL.Connection.Registry
import SocketSL.Connection.Session

/-!
# Registered sessions and their reads

The manager and the read chains of its sessions, cut at the points where code of
the application or another thread may come in between: the locked sections of
`register_and_start`, `remove_session` and `stop` are one step each, and what a
callback still has to do after one is a task.  A registered session that has been
started is never without its read.
-/

namespace SocketSL.Lifecycle

open SocketSL.Lib
open SocketSL.Manager
open SocketSL.Session

/-- What a callback has left to do: call `on_connect` and then `start`, call
`on_disconnect`, or read the next frame size once the handler has returned. -/
inductive Task where
  | connect (sess : Nat)
  | start (sess : Nat)
  | disconnect (sess : Nat)
  | resume (sess : Nat)
  deriving DecidableEq

/-- A call of one of the two application callbacks. -/
inductive Notice where
  | connected (sess : Nat)
  | disconnected (sess : Nat)
  deriving DecidableEq

/-- `handed` and `started` remember the sessions given to the manager and those
whose `start` has run. -/
structure State where
  registry : Registry
  maxMessageSize : Nat → Nat
  handed : Multiset Nat := 0
  handshakes : Multiset Nat := 0
  tasks : Multiset Task := 0
  reads : Multiset (Nat × PendingRead) := 0
  started : Multiset Nat := 0
  log : List Notice := []

namespace State

def sessions (state : State) : List Nat := state.registry.sessions

def notify (state : State) (callback : Bool) (notice : Notice) : State :=
  if callback then { state with log := state.log ++ [notice] } else state

/-- The locked section of `register_and_start`; the address is asked for last
and throws if it is not IPv4. -/
def register (state : State) (sess : Nat) : State :=
  { state with
    registry := state.registry.register sess
    tasks := match state.registry.addresses sess with
      | none => state.tasks
      | some _ => .connect sess ::ₘ state.tasks }

/-- The locked section of `remove_session`. -/
def removeSession (state : State) (sess : Nat) : State :=
  if sess ∈ state.sessions then
    { state with
      registry := state.registry.remove sess
      tasks := match state.registry.addresses sess with
        | none => state.tasks
        | some _ => .disconnect sess ::ₘ state.tasks }
  else state

def stop (state : State) : State :=
  { state with registry := state.registry.clear }

def issue (state : State) (sess : Nat) (reading : PendingRead) : State :=
  { state with reads := (sess, reading) ::ₘ state.reads }

def perform (state : State) : Task → State
  | .connect sess =>
      let notified := state.notify state.registry.config.onConnect (.connected sess)
      { notified with tasks := .start sess ::ₘ notified.tasks }
  | .start sess => { state with started := sess ::ₘ state.started }.issue sess .frameSize
  | .disconnect sess => state.notify state.registry.config.onDisconnect (.disconnected sess)
  | .resume sess => state.issue sess .frameSize

/-- The completion of a read.  The next frame size is asked for only when the
handler of the message has returned. -/
def onRead (schema : Schema) (state : State) (sess : Nat) (reading : PendingRead)
    (bytes : Option (List UInt8)) : State :=
  match (Session.onRead schema (state.maxMessageSize sess) reading bytes).reading with
  | none => state.removeSession sess
  | some .frameSize => { state with tasks := .resume sess ::ₘ state.tasks }
  | some next => state.issue sess next

end State

inductive Action where
  | handOver (sess : Nat)
  | handshake (sess : Nat) (isValid : Bool)
  | task (task : Task)
  | read (sess : Nat) (reading : PendingRead) (bytes : Option (List UInt8))
  | removeSession (sess : Nat)
  | stop

/-- A session is handed over once, and a read that succeeds fills its buffer. -/
def step (schema : Schema) (state : State) : Action → Option State
  | .handOver sess =>
      if sess ∈ state.handed then none
      else some { state with
        handed := sess ::ₘ state.handed, handshakes := sess ::ₘ state.handshakes }
  | .handshake sess isValid =>
      if sess ∈ state.handshakes then
        let taken := { state with handshakes := state.handshakes.erase sess }
        some (if isValid then taken.register sess else taken)
      else none
  | .task task =>
      if task ∈ state.tasks then
        some ({ state with tasks := state.tasks.erase task }.perform task)
      else none
  | .read sess reading bytes =>
      if (sess, reading) ∈ state.reads ∧ ∀ read ∈ bytes, read.length = reading.size then
        some ({ state with reads := state.reads.erase (sess, reading) }.onRead schema sess
          reading bytes)
      else none
  | .removeSession sess => some (state.removeSession sess)
  | .stop => some state.stop

/-- What each action does, guards included. -/
inductive Step (schema : Schema) (state : State) : Action → State → Prop where
  | handOver (sess : Nat) (fresh : sess ∉ state.handed) :
      Step schema state (.handOver sess)
        { state with handed := sess ::ₘ state.handed, handshakes := sess ::ₘ state.handshakes }
  | refused (sess : Nat) (rest : Multiset Nat) (pending : state.handshakes = sess ::ₘ rest) :
      Step schema state (.handshake sess false) { state with handshakes := rest }
  | registered (sess : Nat) (rest : Multiset Nat) (pending : state.handshakes = sess ::ₘ rest) :
      Step schema state (.handshake sess true)
        (State.register { state with handshakes := rest } sess)
  | task (task : Task) (rest : Multiset Task) (pending : state.tasks = task ::ₘ rest) :
      Step schema state (.task task) (State.perform { state with tasks := rest } task)
  | ended (sess : Nat) (reading : PendingRead) (bytes : Option (List UInt8))
      (rest : Multiset (Nat × PendingRead)) (pending : state.reads = (sess, reading) ::ₘ rest)
      (last : (Session.onRead schema (state.maxMessageSize sess) reading bytes).reading = none) :
      Step schema state (.read sess reading bytes)
        (State.removeSession { state with reads := rest } sess)
  | handled (sess : Nat) (reading : PendingRead) (bytes : Option (List UInt8))
      (rest : Multiset (Nat × PendingRead)) (pending : state.reads = (sess, reading) ::ₘ rest)
      (framed : (Session.onRead schema (state.maxMessageSize sess) reading bytes).reading =
        some .frameSize) :
      Step schema state (.read sess reading bytes)
        { state with reads := rest, tasks := .resume sess ::ₘ state.tasks }
  | issued (sess : Nat) (reading next : PendingRead) (bytes : Option (List UInt8))
      (rest : Multiset (Nat × PendingRead)) (pending : state.reads = (sess, reading) ::ₘ rest)
      (continued : (Session.onRead schema (state.maxMessageSize sess) reading bytes).reading =
        some next) :
      Step schema state (.read sess reading bytes)
        { state with reads := (sess, next) ::ₘ rest }
  | removeSession (sess : Nat) : Step schema state (.removeSession sess) (state.removeSession sess)
  | stop : Step schema state .stop state.stop

theorem step_cases {schema : Schema} {state next : State} {action : Action}
    (taken : step schema state action = some next) : Step schema state action next := by
  cases action with
  | handOver sess =>
      obtain ⟨fresh, taken⟩ := Option.ite_none_left_eq_some.mp taken
      cases taken
      exact .handOver sess fresh
  | handshake sess isValid =>
      obtain ⟨pending, taken⟩ := Option.ite_none_right_eq_some.mp taken
      obtain ⟨rest, split⟩ := Multiset.exists_cons_of_mem pending
      rw [split, Multiset.erase_cons_head] at taken
      cases isValid with
      | false =>
          cases taken
          exact .refused sess rest split
      | true =>
          cases taken
          exact .registered sess rest split
  | task task =>
      obtain ⟨pending, taken⟩ := Option.ite_none_right_eq_some.mp taken
      obtain ⟨rest, split⟩ := Multiset.exists_cons_of_mem pending
      rw [split, Multiset.erase_cons_head] at taken
      cases taken
      exact .task task rest split
  | read sess reading bytes =>
      obtain ⟨⟨pending, -⟩, taken⟩ := Option.ite_none_right_eq_some.mp taken
      obtain ⟨rest, split⟩ := Multiset.exists_cons_of_mem pending
      rw [split, Multiset.erase_cons_head] at taken
      cases taken
      unfold State.onRead
      dsimp only
      split
      next last => exact .ended sess reading bytes rest split last
      next framed => exact .handled sess reading bytes rest split framed
      next following _ continued =>
        exact .issued sess reading following bytes rest split continued
  | removeSession sess =>
      cases taken
      exact .removeSession sess
  | stop =>
      cases taken
      exact .stop

/-- The reads a session has outstanding on its socket. -/
def State.outstanding (state : State) (sess : Nat) : Nat :=
  state.reads.countP fun read => sess = read.1

/-- The links of a session's read chain: a read, or a handler that will issue
the next one. -/
def State.chain (state : State) (sess : Nat) : Nat :=
  state.outstanding sess + state.tasks.count (.resume sess)

/-- A session passes once through its handshake, `on_connect`, `start` and its
chain of reads, and it is not in the registry without the chain. -/
structure Chained (state : State) : Prop where
  once : ∀ sess, state.handed.count sess ≤ 1
  stage : ∀ sess, state.handshakes.count sess + state.tasks.count (.connect sess) +
    state.tasks.count (.start sess) + state.started.count sess ≤ state.handed.count sess
  member : ∀ sess, state.sessions.count sess + state.handshakes.count sess ≤
    state.handed.count sess
  single : ∀ sess, state.chain sess ≤ state.started.count sess
  alive : ∀ sess, 0 < state.sessions.count sess → state.chain sess = state.started.count sess

section Frames

variable (state : State) (sess : Nat)

theorem register_frame : ∃ registry tasks,
    state.register sess = { state with registry, tasks } ∧
      registry.sessions = state.sessions ++ [sess] ∧
      (tasks = state.tasks ∨ tasks = .connect sess ::ₘ state.tasks) := by
  refine ⟨_, _, rfl, rfl, ?_⟩
  split
  · exact Or.inl rfl
  · exact Or.inr rfl

theorem removeSession_frame : ∃ registry tasks,
    state.removeSession sess = { state with registry, tasks } ∧
      registry.sessions = state.sessions.erase sess ∧
      (tasks = state.tasks ∨ tasks = .disconnect sess ::ₘ state.tasks) := by
  unfold State.removeSession
  split
  next member =>
    refine ⟨_, _, rfl, rfl, ?_⟩
    split
    · exact Or.inl rfl
    · exact Or.inr rfl
  next absent =>
    exact ⟨state.registry, state.tasks, rfl, (List.erase_of_not_mem absent).symm, Or.inl rfl⟩

theorem removeSession_sessions :
    (state.removeSession sess).sessions = state.sessions.erase sess := by
  obtain ⟨registry, tasks, framed, sessions, -⟩ := removeSession_frame state sess
  rw [framed]
  exact sessions

theorem notify_frame (callback : Bool) (notice : Notice) :
    ∃ log, state.notify callback notice = { state with log } := by
  cases callback with
  | false => exact ⟨state.log, rfl⟩
  | true => exact ⟨state.log ++ [notice], rfl⟩

theorem count_append_singleton (sessions : List Nat) (other : Nat) :
    (sessions ++ [sess]).count other = sessions.count other + if other = sess then 1 else 0 := by
  by_cases same : other = sess
  · simp [same]
  · simp [same, Ne.symm same]

end Frames

section Chained

variable {state : State}

theorem Chained.initial (registry : Registry) (empty : registry.sessions = [])
    (maxMessageSize : Nat → Nat) : Chained { registry, maxMessageSize } := by
  constructor <;> simp [State.chain, State.outstanding, State.sessions, empty]

theorem Chained.handOver (chained : Chained state) {sess : Nat} (fresh : sess ∉ state.handed) :
    Chained { state with
      handed := sess ::ₘ state.handed, handshakes := sess ::ₘ state.handshakes } := by
  have unknown := Multiset.count_eq_zero.mpr fresh
  refine { chained with once := ?_, stage := ?_, member := ?_ }
  · have distinct := Multiset.nodup_iff_count_le_one.mpr chained.once
    exact Multiset.nodup_iff_count_le_one.mp (Multiset.nodup_cons.mpr ⟨fresh, distinct⟩)
  · intro other
    have stage := chained.stage other
    simp only [Multiset.count_cons]
    omega
  · intro other
    have member := chained.member other
    simp only [Multiset.count_cons, State.sessions] at *
    omega

theorem Chained.refused (chained : Chained state) {sess : Nat} {rest : Multiset Nat}
    (pending : state.handshakes = sess ::ₘ rest) : Chained { state with handshakes := rest } := by
  refine { chained with stage := ?_, member := ?_ }
  · intro other
    have stage := chained.stage other
    rw [pending, Multiset.count_cons] at stage
    dsimp only
    omega
  · intro other
    have member := chained.member other
    rw [pending, Multiset.count_cons] at member
    simp only [State.sessions] at *
    omega

theorem Chained.registered (chained : Chained state) {sess : Nat} {rest : Multiset Nat}
    (pending : state.handshakes = sess ::ₘ rest) :
    Chained (State.register { state with handshakes := rest } sess) := by
  obtain ⟨registry, tasks, framed, sessions, left⟩ :=
    register_frame { state with handshakes := rest } sess
  have counted (other : Nat) : state.handshakes.count other =
      rest.count other + if other = sess then 1 else 0 := by
    rw [pending, Multiset.count_cons]
  have resumes (other : Nat) : tasks.count (.resume other) = state.tasks.count (.resume other) := by
    rcases left with rfl | rfl <;> simp
  rw [framed]
  refine ⟨chained.once, ?_, ?_, ?_, ?_⟩
  · intro other
    have stage := chained.stage other
    rw [counted] at stage
    rcases left with rfl | rfl
    · dsimp only
      omega
    · simp only [Multiset.count_cons, Task.connect.injEq, reduceCtorEq, if_false]
      omega
  · intro other
    have member := chained.member other
    rw [counted] at member
    simp only [State.sessions] at member sessions ⊢
    rw [sessions, count_append_singleton]
    omega
  · intro other
    have single := chained.single other
    simp only [State.chain, State.outstanding, resumes] at single ⊢
    exact single
  · intro other present
    have stage := chained.stage other
    have single := chained.single other
    have once := chained.once other
    have alive := chained.alive other
    rw [counted] at stage
    simp only [State.sessions, State.chain, State.outstanding, resumes] at *
    rw [sessions, count_append_singleton] at present
    by_cases same : other = sess
    · rw [if_pos same] at stage
      omega
    · rw [if_neg same] at present
      exact alive present

theorem Chained.removeSession (chained : Chained state) (sess : Nat) :
    Chained (state.removeSession sess) := by
  obtain ⟨registry, tasks, framed, sessions, left⟩ := removeSession_frame state sess
  have kept (task : Task) (other : task ≠ .disconnect sess) :
      tasks.count task = state.tasks.count task := by
    rcases left with rfl | rfl
    · rfl
    · exact Multiset.count_cons_of_ne other _
  have fewer (other : Nat) : registry.sessions.count other ≤ state.sessions.count other := by
    rw [sessions]
    exact List.Sublist.count_le _ List.erase_sublist
  rw [framed]
  refine ⟨chained.once, ?_, ?_, ?_, ?_⟩
  · intro other
    have stage := chained.stage other
    rw [← kept (.connect other) nofun, ← kept (.start other) nofun] at stage
    exact stage
  · intro other
    exact (Nat.add_le_add_right (fewer other) _).trans (chained.member other)
  · intro other
    have single := chained.single other
    simp only [State.chain] at single ⊢
    rw [← kept (.resume other) nofun] at single
    exact single
  · intro other present
    have alive := chained.alive other (Nat.lt_of_lt_of_le present (fewer other))
    simp only [State.chain] at alive ⊢
    rw [← kept (.resume other) nofun] at alive
    exact alive

theorem Chained.connect (chained : Chained state) {sess : Nat} {rest : Multiset Task}
    (pending : state.tasks = .connect sess ::ₘ rest) (log : List Notice) :
    Chained { state with tasks := .start sess ::ₘ rest, log := log } := by
  refine { chained with stage := ?_, single := ?_, alive := ?_ }
  · intro other
    have stage := chained.stage other
    rw [pending] at stage
    simp only [Multiset.count_cons, Task.connect.injEq, Task.start.injEq, reduceCtorEq,
      if_false] at stage ⊢
    omega
  · intro other
    have single := chained.single other
    simpa [State.chain, State.outstanding, pending] using single
  · intro other present
    have alive := chained.alive other present
    simpa [State.chain, State.outstanding, pending] using alive

theorem Chained.start (chained : Chained state) {sess : Nat} {rest : Multiset Task}
    (pending : state.tasks = .start sess ::ₘ rest) :
    Chained { state with
      tasks := rest
      started := sess ::ₘ state.started
      reads := (sess, .frameSize) ::ₘ state.reads } := by
  refine { chained with stage := ?_, single := ?_, alive := ?_ }
  · intro other
    have stage := chained.stage other
    rw [pending] at stage
    simp only [Multiset.count_cons, Task.start.injEq, reduceCtorEq, if_false] at stage ⊢
    omega
  · intro other
    have single := chained.single other
    simp only [State.chain, State.outstanding, pending, Multiset.countP_cons, Multiset.count_cons,
      reduceCtorEq, if_false] at single ⊢
    omega
  · intro other present
    have alive := chained.alive other present
    simp only [State.chain, State.outstanding, pending, Multiset.countP_cons, Multiset.count_cons,
      reduceCtorEq, if_false] at alive ⊢
    omega

theorem Chained.relink (chained : Chained state) {tasks : Multiset Task}
    {reads : Multiset (Nat × PendingRead)}
    (kept : ∀ task, (∀ sess, task ≠ .resume sess) → tasks.count task ≤ state.tasks.count task)
    (chain : ∀ sess, State.chain { state with tasks, reads } sess = state.chain sess) :
    Chained { state with tasks, reads } := by
  refine { chained with stage := ?_, single := ?_, alive := ?_ }
  · intro other
    have stage := chained.stage other
    have connects := kept (.connect other) nofun
    have starts := kept (.start other) nofun
    dsimp only
    omega
  · intro other
    rw [chain]
    exact chained.single other
  · intro other present
    rw [chain]
    exact chained.alive other present

theorem Chained.cut (chained : Chained state) {sess : Nat} {reading : PendingRead}
    {rest : Multiset (Nat × PendingRead)} (absent : state.sessions.count sess = 0)
    (pending : state.reads = (sess, reading) ::ₘ rest) : Chained { state with reads := rest } := by
  refine { chained with single := ?_, alive := ?_ }
  · intro other
    have single := chained.single other
    simp only [State.chain, State.outstanding, pending, Multiset.countP_cons] at single ⊢
    omega
  · intro other present
    have different : other ≠ sess := by
      rintro rfl
      exact absurd absent (Nat.ne_of_gt present)
    have alive := chained.alive other present
    simp only [State.chain, State.outstanding, pending, Multiset.countP_cons, if_neg different]
      at alive ⊢
    exact alive

/-- A session is registered at most once, so removing it leaves none. -/
theorem Chained.not_mem_erase (chained : Chained state) (sess : Nat) :
    sess ∉ state.sessions.erase sess := by
  have member := chained.member sess
  have once := chained.once sess
  apply List.count_eq_zero.mp
  rw [List.count_erase_self]
  omega

theorem Chained.ended (chained : Chained state) {sess : Nat} {reading : PendingRead}
    {rest : Multiset (Nat × PendingRead)} (pending : state.reads = (sess, reading) ::ₘ rest) :
    Chained (State.removeSession { state with reads := rest } sess) := by
  have commutes : State.removeSession { state with reads := rest } sess =
      { state.removeSession sess with reads := rest } := by
    by_cases member : sess ∈ state.registry.sessions
    · simp [State.removeSession, State.sessions, member]
    · simp [State.removeSession, State.sessions, member]
  have reads : (state.removeSession sess).reads = state.reads := by
    obtain ⟨registry, tasks, framed, -⟩ := removeSession_frame state sess
    rw [framed]
  rw [commutes]
  have absent := chained.not_mem_erase sess
  rw [← removeSession_sessions] at absent
  exact (chained.removeSession sess).cut (List.count_eq_zero.mpr absent) (reads.trans pending)

theorem Chained.task (chained : Chained state) {task : Task} {rest : Multiset Task}
    (pending : state.tasks = task ::ₘ rest) :
    Chained (State.perform { state with tasks := rest } task) := by
  have fewer (other : Task) : rest.count other ≤ state.tasks.count other := by
    rw [pending]
    exact Multiset.count_le_count_cons _ _ _
  cases task with
  | connect sess =>
      obtain ⟨log, notified⟩ := notify_frame { state with tasks := rest }
        state.registry.config.onConnect (.connected sess)
      simp only [State.perform, notified]
      exact chained.connect pending log
  | start sess => exact chained.start pending
  | disconnect sess =>
      obtain ⟨log, notified⟩ := notify_frame { state with tasks := rest }
        state.registry.config.onDisconnect (.disconnected sess)
      simp only [State.perform, notified]
      have relinked : Chained { state with tasks := rest, reads := state.reads } := by
        apply chained.relink
        · exact fun other _ => fewer other
        · intro other
          simp [State.chain, State.outstanding, pending]
      exact { relinked with }
  | resume sess =>
      apply chained.relink
      · exact fun other _ => fewer other
      · intro other
        simp only [State.chain, State.outstanding, pending, Multiset.countP_cons,
          Multiset.count_cons, Task.resume.injEq]
        omega

theorem Chained.stop (chained : Chained state) : Chained state.stop := by
  refine { chained with member := ?_, alive := ?_ }
  · intro sess
    have member := chained.member sess
    simp only [State.stop, State.sessions, Registry.clear, List.count_nil] at *
    omega
  · intro sess present
    simp [State.stop, State.sessions, Registry.clear] at present

variable {schema : Schema} {next : State} {action : Action}

theorem Chained.step (chained : Chained state)
    (taken : Lifecycle.step schema state action = some next) : Chained next := by
  cases step_cases taken with
  | handOver sess fresh => exact chained.handOver fresh
  | refused sess rest pending => exact chained.refused pending
  | registered sess rest pending => exact chained.registered pending
  | task task rest pending => exact chained.task pending
  | ended sess reading bytes rest pending last => exact chained.ended pending
  | handled sess reading bytes rest pending framed =>
      apply chained.relink
      · intro task other
        exact (Multiset.count_cons_of_ne (other sess) _).le
      · intro other
        simp only [State.chain, State.outstanding, pending, Multiset.countP_cons,
          Multiset.count_cons, Task.resume.injEq]
        omega
  | issued sess reading following bytes rest pending continued =>
      apply chained.relink
      · exact fun _ _ => Nat.le_refl _
      · intro other
        simp only [State.chain, State.outstanding, pending, Multiset.countP_cons]
  | removeSession sess => exact chained.removeSession sess
  | stop => exact chained.stop

end Chained

section Atomic

/-- What the application hears of an effect of the manager. -/
def noticeOf : Effect → Option Notice
  | .connected sess => some (.connected sess)
  | .disconnected sess => some (.disconnected sess)
  | _ => none

/-- The state has the registry of the manager and has told the application the
same. -/
structure Reflects (manager : SessionManager) (state : State) : Prop where
  registry : state.registry = manager.registry
  log : state.log = manager.log.filterMap noticeOf

variable {manager : SessionManager} {state : State}

theorem Reflects.notify (reflects : Reflects manager state) (callback : Bool) (effect : Effect)
    {notice : Notice} (heard : noticeOf effect = some notice) :
    Reflects (manager.notify callback effect) (state.notify callback notice) := by
  cases callback with
  | false => exact reflects
  | true =>
      refine ⟨reflects.registry, ?_⟩
      simp [State.notify, SessionManager.notify, SessionManager.emit, reflects.log, heard]

theorem onSessionRemoved_notices (manager : SessionManager) (sess : Nat) :
    (manager.onSessionRemoved sess).log.filterMap noticeOf = manager.log.filterMap noticeOf := by
  have effect := manager.onSessionRemoved_effect sess
  generalize manager.onSessionRemoved sess = next at effect ⊢
  cases effect with
  | idle absent => rfl
  | reschedules state next found rescheduled =>
      cases rescheduled <;> simp [SessionManager.emit, SessionManager.await, noticeOf]

theorem step_task {schema : Schema} {task : Task} {rest : Multiset Task}
    (pending : state.tasks = task ::ₘ rest) :
    step schema state (.task task) = some (State.perform { state with tasks := rest } task) := by
  simp [step, pending]

/-- Without interference the steps of the handshake callback of an IPv4 session
add up to `register_and_start` of the manager. -/
theorem registerAndStart_reflected (schema : Schema) (reflects : Reflects manager state)
    {sess : Nat} {ip : UInt32} (address : manager.addresses sess = some ip)
    (pending : sess ∈ state.handshakes) :
    ∃ next, run (step schema) state [.handshake sess true, .task (.connect sess),
        .task (.start sess)] = some next ∧
      Reflects (manager.registerAndStart sess) next := by
  have known : state.registry.addresses sess = some ip := by
    rw [reflects.registry]
    exact address
  let registered := State.register
    { state with handshakes := state.handshakes.erase sess } sess
  have begun : step schema state (.handshake sess true) = some registered := by
    simp [step, pending, registered]
  have left : registered.tasks = .connect sess ::ₘ state.tasks := by
    simp [registered, State.register, known]
  let announced := State.perform { registered with tasks := state.tasks } (.connect sess)
  have starts : announced.tasks = .start sess ::ₘ state.tasks := by
    obtain ⟨log, notified⟩ := notify_frame { registered with tasks := state.tasks }
      registered.registry.config.onConnect (.connected sess)
    simp [announced, State.perform, notified]
  refine ⟨State.perform { announced with tasks := state.tasks } (.start sess), ?_, ?_⟩
  · rw [run_cons_eq_some]
    refine ⟨registered, begun, ?_⟩
    rw [run_cons_eq_some]
    refine ⟨announced, step_task left, ?_⟩
    rw [run_cons_eq_some]
    exact ⟨_, step_task starts, rfl⟩
  · have pushed : Reflects (({ manager with
        sessions := manager.sessions ++ [sess] }.emit [.registered sess]).countUp ip)
        { registered with tasks := state.tasks } := by
      constructor
      · simp [registered, State.register, Registry.register, reflects.registry, address,
          SessionManager.registry, SessionManager.emit, SessionManager.countUp]
      · simp [registered, State.register, reflects.log, SessionManager.emit,
          SessionManager.countUp, noticeOf]
    have callback : registered.registry.config.onConnect = manager.config.onConnect :=
      congrArg (fun registry => registry.config.onConnect) reflects.registry
    have notified := pushed.notify registered.registry.config.onConnect (.connected sess) rfl
    rw [SessionManager.registerAndStart_of_ipv4 address, ← callback]
    refine ⟨notified.registry, notified.log.trans ?_⟩
    simp [SessionManager.emit, noticeOf]

/-- Without interference the steps of the removal of an IPv4 session add up to
`remove_session` of the manager. -/
theorem removeSession_reflected (schema : Schema) (reflects : Reflects manager state)
    {sess : Nat} {ip : UInt32} (address : manager.addresses sess = some ip)
    (member : sess ∈ manager.sessions) :
    ∃ next, run (step schema) state [.removeSession sess, .task (.disconnect sess)] = some next ∧
      Reflects (manager.removeSession sess) next := by
  have known : state.registry.addresses sess = some ip := by
    rw [reflects.registry]
    exact address
  have listed : sess ∈ state.sessions := by
    rw [State.sessions, reflects.registry]
    exact member
  have left : (state.removeSession sess).tasks = .disconnect sess ::ₘ state.tasks := by
    simp [State.removeSession, listed, known]
  refine ⟨State.perform { state.removeSession sess with tasks := state.tasks }
    (.disconnect sess), ?_, ?_⟩
  · rw [run_cons_eq_some]
    refine ⟨state.removeSession sess, rfl, ?_⟩
    rw [run_cons_eq_some]
    exact ⟨_, step_task left, rfl⟩
  · have erased : Reflects ({ manager with
        sessions := manager.sessions.erase sess }.countDown ip)
        { state.removeSession sess with tasks := state.tasks } := by
      constructor
      · simp [State.removeSession, listed, Registry.remove, reflects.registry, address,
          SessionManager.registry, SessionManager.countDown]
      · simp [State.removeSession, listed, reflects.log, SessionManager.countDown]
    have callback : state.registry.config.onDisconnect = manager.config.onDisconnect :=
      congrArg (fun registry => registry.config.onDisconnect) reflects.registry
    have config : (state.removeSession sess).registry.config = state.registry.config := by
      simp [State.removeSession, listed, Registry.remove]
    have notified := erased.notify state.registry.config.onDisconnect (.disconnected sess) rfl
    rw [SessionManager.removeSession_of_ipv4 member address, ← callback]
    simp only [State.perform, config]
    refine ⟨notified.registry.trans (SessionManager.onSessionRemoved_registry _ sess).symm,
      notified.log.trans (onSessionRemoved_notices _ sess).symm⟩

end Atomic

end SocketSL.Lifecycle
