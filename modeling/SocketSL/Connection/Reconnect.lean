import SocketSL.Connection.Registry

/-!
# Reconnect states are conserved

The reconnect state of a call of `connect` is moved from the dial to the
handshake, into `reconnect_map_`, into a timer and into the next dial.  While a
callback runs it holds the state in its own hands: `Conserved` counts that one
in, so that every function on the way either passes the state on or lets it go
for a reason.
-/

namespace SocketSL.Manager

open SocketSL.Lib

/-- The call of `connect` a completion belongs to. -/
def Pending.call (completion : Pending) : Option Nat :=
  completion.state.map ReconnectState.call

/-- The outstanding completions of a call. -/
def waiting (pending : Multiset Pending) (call : Nat) : Nat :=
  pending.countP fun completion => completion.call = some call

/-- The entries of `reconnect_map_` that belong to a call. -/
def mapped (entries : List (Nat × ReconnectState)) (call : Nat) : Nat :=
  entries.countP fun entry => entry.2.call = call

theorem waiting_cons (completion : Pending) (pending : Multiset Pending) (call : Nat) :
    waiting (completion ::ₘ pending) call =
      waiting pending call + if completion.call = some call then 1 else 0 :=
  Multiset.countP_cons _ _ _

theorem mapped_cons (entry : Nat × ReconnectState) (entries : List (Nat × ReconnectState))
    (call : Nat) :
    mapped (entry :: entries) call =
      mapped entries call + if entry.2.call = call then 1 else 0 := by
  by_cases own : entry.2.call = call
  · simp [mapped, own]
  · simp [mapped, own]

theorem filter_of_absent {entries : List (Nat × ReconnectState)} {sess : Nat}
    (absent : sess ∉ entries.map Prod.fst) :
    (entries.filter fun entry => entry.1 ≠ sess) = entries := by
  apply List.filter_eq_self.mpr
  intro entry member
  have different : entry.1 ≠ sess := by
    rintro rfl
    exact absent (List.mem_map.mpr ⟨entry, member, rfl⟩)
  simpa using different

/-- Looking up a key and erasing it takes the state of its call out. -/
theorem mapped_extract {entries : List (Nat × ReconnectState)}
    (distinct : (entries.map Prod.fst).Nodup) (sess call : Nat) :
    mapped (entries.filter fun entry => entry.1 ≠ sess) call +
      (if (entries.lookup sess).map ReconnectState.call = some call then 1 else 0) =
        mapped entries call := by
  induction entries with
  | nil => rfl
  | cons entry rest hypothesis =>
      obtain ⟨key, state⟩ := entry
      rw [List.map_cons, List.nodup_cons] at distinct
      by_cases own : key = sess
      · subst own
        rw [List.filter_cons_of_neg (by simp), filter_of_absent distinct.1,
          List.lookup_cons_self, mapped_cons]
        simp
      · have skipped : ((key, state) :: rest).lookup sess = rest.lookup sess := by
          rw [List.lookup_cons, beq_false_of_ne (Ne.symm own)]
        rw [List.filter_cons_of_pos (by simpa using own), skipped, mapped_cons, mapped_cons,
          ← hypothesis distinct.2]
        omega

namespace SessionManager

/-- The live continuations of a call of `connect` with a policy: a dial or a
handshake pending, a registered session with its entry in the map, a timer. -/
def continuations (manager : SessionManager) (call : Nat) : Nat :=
  waiting manager.pending call +
    manager.reconnectMap.countP fun entry => entry.2.call = call ∧ entry.1 ∈ manager.sessions

/-- The retries of a call have exceeded its non-zero `max_attempts`. -/
def Abandoned (manager : SessionManager) (call : Nat) : Prop :=
  ∃ state, .abandoned state ∈ manager.log ∧ state.call = call ∧
    state.policy.maxAttempts ≠ 0 ∧ state.attempts > state.policy.maxAttempts

/-- The continuations of a call, the one in the hands of the running callback
included. -/
def total (manager : SessionManager) (hand : Option Nat) (call : Nat) : Nat :=
  waiting manager.pending call + mapped manager.reconnectMap call +
    if hand = some call then 1 else 0

/-- No state is lost and none is doubled. -/
structure Accounted (manager : SessionManager) (hand : Option Nat) : Prop where
  later : ∀ call, manager.calls ≤ call → manager.total hand call = 0
  single : ∀ call, manager.total hand call ≤ 1
  live : manager.reconnectStopped = false → ∀ call < manager.calls,
    manager.total hand call = 1 ∨ manager.Abandoned call

structure Conserved (manager : SessionManager) (hand : Option Nat) : Prop
    extends manager.Accounted hand where
  ipv4 : ∀ sess, manager.addresses sess ≠ none
  distinct : (manager.reconnectMap.map Prod.fst).Nodup
  keys : ∀ entry ∈ manager.reconnectMap, entry.1 ∈ manager.sessions
  entries : ∀ entry ∈ manager.reconnectMap, manager.origin entry.1 = some entry.2.call
  holders : ∀ completion ∈ manager.pending, ∀ sess state, completion.session = some sess →
    completion.state = some state → manager.origin sess = some state.call

section Conserved

variable {manager next : SessionManager} {hand taken : Option Nat}

theorem Accounted.recount (accounted : manager.Accounted hand)
    (total : ∀ call, next.total taken call = manager.total hand call)
    (calls : next.calls = manager.calls)
    (reconnectStopped : next.reconnectStopped = manager.reconnectStopped)
    (log : manager.log <+: next.log) : next.Accounted taken := by
  constructor
  · intro call future
    rw [total]
    exact accounted.later call (calls ▸ future)
  · intro call
    rw [total]
    exact accounted.single call
  · intro running call issued
    rw [total]
    rcases accounted.live (reconnectStopped ▸ running) call (calls ▸ issued) with one | gone
    · exact Or.inl one
    · obtain ⟨state, logged, exceeded⟩ := gone
      exact Or.inr ⟨state, log.subset logged, exceeded⟩

theorem Accounted.fewer (accounted : manager.Accounted hand)
    (fewer : ∀ call, next.total taken call ≤ manager.total hand call)
    (calls : next.calls = manager.calls) (stopped : next.reconnectStopped = true) :
    next.Accounted taken := by
  constructor
  · intro call future
    have none := accounted.later call (calls ▸ future)
    exact Nat.le_zero.mp (none ▸ fewer call)
  · intro call
    exact (fewer call).trans (accounted.single call)
  · intro running
    rw [stopped] at running
    cases running

theorem Conserved.transport (conserved : manager.Conserved hand)
    (addresses : next.addresses = manager.addresses)
    (sessions : ∀ sess ∈ manager.sessions, sess ∈ next.sessions)
    (reconnectMap : next.reconnectMap = manager.reconnectMap)
    (reconnectStopped : next.reconnectStopped = manager.reconnectStopped)
    (pending : next.pending = manager.pending) (calls : next.calls = manager.calls)
    (origin : next.origin = manager.origin) (log : manager.log <+: next.log) :
    next.Conserved hand := by
  constructor
  · refine conserved.recount ?_ calls reconnectStopped log
    intro call
    rw [SessionManager.total, SessionManager.total, pending, reconnectMap]
  · rw [addresses]
    exact conserved.ipv4
  · rw [reconnectMap]
    exact conserved.distinct
  · rw [reconnectMap]
    exact fun entry member => sessions _ (conserved.keys entry member)
  · rw [reconnectMap, origin]
    exact conserved.entries
  · rw [pending, origin]
    exact conserved.holders

theorem Conserved.take (conserved : manager.Conserved none) {completion : Pending}
    (pending : completion ∈ manager.pending) :
    ({ manager with pending := manager.pending.erase completion } : SessionManager).Conserved
      completion.call := by
  obtain ⟨rest, split⟩ := Multiset.exists_cons_of_mem pending
  refine { conserved with toAccounted := ?_, holders := ?_ }
  · refine conserved.recount ?_ rfl rfl (List.prefix_refl _)
    intro call
    simp only [SessionManager.total, split, Multiset.erase_cons_head, waiting_cons]
    simp only [reduceCtorEq, if_false]
    omega
  · intro other member
    exact conserved.holders other (Multiset.mem_of_mem_erase member)

theorem Conserved.await {completion : Pending} (conserved : manager.Conserved completion.call)
    (owner : ∀ sess state, completion.session = some sess → completion.state = some state →
      manager.origin sess = some state.call) :
    (manager.await completion).Conserved none := by
  refine { conserved with toAccounted := ?_, holders := ?_ }
  · refine conserved.recount ?_ rfl rfl (List.prefix_refl _)
    intro call
    simp only [SessionManager.total, SessionManager.await, waiting_cons]
    simp only [reduceCtorEq, if_false]
    omega
  · intro other member
    rcases Multiset.mem_cons.mp member with rfl | earlier
    · exact owner
    · exact conserved.holders other earlier

theorem Conserved.drop (conserved : manager.Conserved hand)
    (stopped : manager.reconnectStopped = true) : manager.Conserved none := by
  refine { conserved with toAccounted := conserved.fewer ?_ rfl stopped }
  intro call
  simp only [SessionManager.total, reduceCtorEq, if_false]
  omega

theorem Conserved.setOptions (conserved : manager.Conserved hand) (options : Nat → SocketOptions) :
    ({ manager with options := options } : SessionManager).Conserved hand :=
  { conserved with }

theorem Conserved.emit (conserved : manager.Conserved hand) (effects : List Effect) :
    (manager.emit effects).Conserved hand :=
  conserved.transport rfl (fun _ member => member) rfl rfl rfl rfl rfl
    (List.prefix_append _ _)

theorem Conserved.abandon {state : ReconnectState}
    (conserved : manager.Conserved (some state.call)) (limited : state.policy.maxAttempts ≠ 0)
    (exceeded : state.attempts > state.policy.maxAttempts) :
    (manager.emit [.abandoned state]).Conserved none := by
  have logged := conserved.emit [.abandoned state]
  have kept : ∀ call, state.call ≠ call →
      (manager.emit [.abandoned state]).total none call =
        (manager.emit [.abandoned state]).total (some state.call) call := by
    intro call other
    simp [SessionManager.total, other]
  have gone : (manager.emit [.abandoned state]).total none state.call = 0 := by
    have single := logged.single state.call
    simp only [SessionManager.total, if_true] at single
    simp only [SessionManager.total, reduceCtorEq, if_false]
    omega
  refine { logged with toAccounted := ⟨?_, ?_, ?_⟩ }
  · intro call future
    by_cases own : state.call = call
    · exact own ▸ gone
    · rw [kept call own]
      exact logged.later call future
  · intro call
    by_cases own : state.call = call
    · rw [← own, gone]
      exact Nat.zero_le 1
    · rw [kept call own]
      exact logged.single call
  · intro running call issued
    by_cases own : state.call = call
    · refine Or.inr ⟨state, ?_, own, limited, exceeded⟩
      exact List.mem_append_right _ (List.mem_singleton_self _)
    · rw [kept call own]
      exact logged.live running call issued

theorem Conserved.rescheduled {state : ReconnectState}
    (conserved : manager.Conserved (some state.call))
    (rescheduled : Rescheduled manager state next) : next.Conserved none := by
  cases rescheduled with
  | drops stopped => exact conserved.drop stopped
  | abandons running limited exceeded =>
      apply Conserved.abandon
      · exact conserved
      · exact limited
      · exact exceeded
  | arms running room =>
      apply Conserved.emit
      apply Conserved.await
      · exact conserved
      · exact fun sess state held => nomatch held

/-- A new object takes an address that no state is tied to. -/
theorem Conserved.create (conserved : manager.Conserved hand) {sess : Nat}
    (unheld : ¬ manager.Holds sess) (ip : UInt32) (origin : Option Nat) :
    (manager.create sess (some ip) origin).Conserved hand := by
  refine { conserved with ipv4 := ?_, entries := ?_, holders := ?_ }
  · intro other
    by_cases same : other = sess
    · simp [SessionManager.create, same]
    · simpa [SessionManager.create, same] using conserved.ipv4 other
  · intro entry member
    have different : entry.1 ≠ sess := by
      rintro rfl
      exact unheld (Or.inl (conserved.keys entry member))
    simpa [SessionManager.create, different] using conserved.entries entry member
  · intro completion member other state held carried
    have different : other ≠ sess := by
      rintro rfl
      exact unheld (Or.inr (Or.inr (Multiset.mem_map.mpr ⟨completion, member, held⟩)))
    simpa [SessionManager.create, different] using
      conserved.holders completion member other state held carried

theorem Conserved.relocate (conserved : manager.Conserved hand) (sess : Nat) (ip : UInt32) :
    ({ manager with addresses := Function.update manager.addresses sess (some ip) } :
      SessionManager).Conserved hand := by
  refine { conserved with ipv4 := ?_ }
  intro other
  by_cases same : other = sess
  · simp [same]
  · simpa [same] using conserved.ipv4 other

theorem Conserved.registerAndStart (conserved : manager.Conserved hand) (sess : Nat) :
    (manager.registerAndStart sess).Conserved hand ∧
      sess ∈ (manager.registerAndStart sess).sessions ∧
      (manager.registerAndStart sess).reconnectMap = manager.reconnectMap ∧
      (manager.registerAndStart sess).origin = manager.origin := by
  rw [registerAndStart_eq]
  refine ⟨?_, List.mem_append_right _ (List.mem_singleton_self _), rfl, rfl⟩
  exact conserved.transport rfl (fun _ member => List.mem_append_left _ member) rfl rfl rfl rfl
    rfl (List.prefix_append _ _)

theorem Conserved.key_ne {call : Nat} (conserved : manager.Conserved (some call)) {sess : Nat}
    (owner : manager.origin sess = some call) :
    ∀ entry ∈ manager.reconnectMap, entry.1 ≠ sess := by
  rintro entry found rfl
  have same : entry.2.call = call :=
    Option.some.inj ((conserved.entries entry found).symm.trans owner)
  have positive : 0 < mapped manager.reconnectMap call :=
    List.countP_pos_iff.mpr ⟨entry, found, by simpa using same⟩
  have single := conserved.single call
  simp only [SessionManager.total, if_true] at single
  omega

theorem Conserved.filter_eq_self {call : Nat} (conserved : manager.Conserved (some call))
    {sess : Nat} (owner : manager.origin sess = some call) :
    (manager.reconnectMap.filter fun entry => entry.1 ≠ sess) = manager.reconnectMap := by
  apply List.filter_eq_self.mpr
  intro entry found
  simpa using conserved.key_ne owner entry found

theorem Conserved.insert {state : ReconnectState}
    (conserved : manager.Conserved (some state.call)) {sess : Nat}
    (member : sess ∈ manager.sessions) (owner : manager.origin sess = some state.call) :
    ({ manager with reconnectMap :=
      (sess, state) :: manager.reconnectMap.filter fun entry => entry.1 ≠ sess } :
        SessionManager).Conserved none := by
  rw [conserved.filter_eq_self owner]
  refine { conserved with toAccounted := ?_, distinct := ?_, keys := ?_, entries := ?_ }
  · refine conserved.recount ?_ rfl rfl (List.prefix_refl _)
    intro call
    simp only [SessionManager.total, mapped_cons, reduceCtorEq, if_false, Option.some_inj]
    omega
  · refine List.nodup_cons.mpr ⟨?_, conserved.distinct⟩
    intro found
    obtain ⟨entry, found, same⟩ := List.mem_map.mp found
    exact conserved.key_ne owner entry found same
  · intro entry found
    rcases List.mem_cons.mp found with rfl | earlier
    · exact member
    · exact conserved.keys entry earlier
  · intro entry found
    rcases List.mem_cons.mp found with rfl | earlier
    · exact owner
    · exact conserved.entries entry earlier

theorem Conserved.extract (conserved : manager.Conserved none) (sess : Nat) :
    ({ manager with
      sessions := manager.sessions.erase sess
      reconnectMap := manager.reconnectMap.filter fun entry => entry.1 ≠ sess } :
        SessionManager).Conserved ((manager.reconnectMap.lookup sess).map ReconnectState.call) := by
  refine { conserved with toAccounted := ?_, distinct := ?_, keys := ?_, entries := ?_ }
  · refine conserved.recount ?_ rfl rfl (List.prefix_refl _)
    intro call
    simp only [SessionManager.total, reduceCtorEq, if_false, Nat.add_assoc,
      mapped_extract conserved.distinct]
    rfl
  · exact conserved.distinct.sublist (List.filter_sublist.map Prod.fst)
  · intro entry member
    obtain ⟨found, different⟩ := List.mem_filter.mp member
    exact (List.mem_erase_of_ne (by simpa using different)).mpr (conserved.keys entry found)
  · intro entry member
    exact conserved.entries entry (List.mem_of_mem_filter member)

theorem Conserved.released {sess : Nat}
    (extracted : ({ manager with
      reconnectMap := manager.reconnectMap.filter fun entry => entry.1 ≠ sess } :
        SessionManager).Conserved ((manager.reconnectMap.lookup sess).map ReconnectState.call))
    (released : Released manager sess next) : next.Conserved none := by
  cases released with
  | idle absent =>
      rw [absent] at extracted
      refine extracted.transport rfl (fun _ member => member) ?_ rfl rfl rfl rfl
        (List.prefix_refl _)
      apply (List.filter_eq_self.mpr _).symm
      intro entry listed
      have different := bne_iff_ne.mp (List.lookup_eq_none_iff.mp absent entry listed)
      exact decide_eq_true different.symm
  | reschedules state next found rescheduled =>
      rw [found] at extracted
      exact extracted.rescheduled rescheduled

theorem Conserved.removed (conserved : manager.Conserved none) {sess : Nat}
    (removed : Removed manager sess next) : next.Conserved none := by
  cases removed with
  | absent absent => exact conserved
  | throws member other => exact absurd other (conserved.ipv4 sess)
  | leaves ip next member address released =>
      refine Conserved.released ?_ released
      exact (conserved.extract sess).transport rfl (fun _ member => member) rfl rfl rfl rfl rfl
        (List.prefix_append _ _)

theorem Conserved.stop (conserved : manager.Conserved none) : manager.stop.Conserved none where
  toAccounted := by
    refine conserved.fewer ?_ rfl rfl
    intro call
    exact Nat.add_le_add_right (Nat.add_le_add_left (Nat.zero_le _) _) _
  ipv4 := conserved.ipv4
  distinct := List.nodup_nil
  keys := nofun
  entries := nofun
  holders := conserved.holders

theorem Conserved.doConnect {sess : Nat} {state : Option ReconnectState}
    (conserved : manager.Conserved (state.map ReconnectState.call))
    (owner : ∀ carried, state = some carried → manager.origin sess = some carried.call) :
    (manager.doConnect sess state).Conserved none := by
  obtain ⟨options, same⟩ := manager.doConnect_effect sess state
  rw [same]
  apply Conserved.emit
  apply Conserved.await
  · exact conserved.setOptions options
  · intro other carried held carries
    cases held
    cases carries
    exact owner carried rfl

theorem Conserved.begin (conserved : manager.Conserved none) :
    ({ manager with calls := manager.calls + 1 } : SessionManager).Conserved
      (some manager.calls) := by
  have current : ({ manager with calls := manager.calls + 1 } : SessionManager).total
      (some manager.calls) manager.calls = 1 := by
    have unused := conserved.later manager.calls (Nat.le_refl _)
    simp only [SessionManager.total, reduceCtorEq, if_false] at unused
    simp only [SessionManager.total, if_true]
    omega
  have kept : ∀ call, call ≠ manager.calls →
      ({ manager with calls := manager.calls + 1 } : SessionManager).total
        (some manager.calls) call = manager.total none call := by
    intro call other
    simp [SessionManager.total, other.symm]
  refine { conserved with toAccounted := ⟨?_, ?_, ?_⟩ }
  · intro call future
    rw [kept call (Nat.ne_of_gt future)]
    exact conserved.later call (Nat.le_of_lt future)
  · intro call
    by_cases own : call = manager.calls
    · rw [own, current]
    · rw [kept call own]
      exact conserved.single call
  · intro running call issued
    by_cases own : call = manager.calls
    · exact Or.inl (own ▸ current)
    · rw [kept call own]
      exact conserved.live running call (Nat.lt_of_le_of_ne (Nat.le_of_lt_succ issued) own)

theorem Conserved.connectWithPolicy (conserved : manager.Conserved none) {sess : Nat}
    (unheld : ¬ manager.Holds sess) (host service : String) (sslContext : Nat)
    (policy : ReconnectPolicy) :
    (manager.connectWithPolicy sess host service sslContext policy).Conserved none := by
  unfold SessionManager.connectWithPolicy
  apply Conserved.doConnect
  · exact conserved.begin.create unheld 0 _
  · intro carried carries
    cases carries
    simp [SessionManager.create]

theorem Conserved.fired {state : ReconnectState}
    (conserved : manager.Conserved (some state.call)) {sess : Nat}
    (unheld : ¬ manager.Holds sess) (fired : Fired manager state sess next) :
    next.Conserved none := by
  cases fired with
  | drops stopped => exact conserved.drop stopped
  | redials running =>
      apply Conserved.doConnect
      · exact conserved.create unheld 0 _
      · intro carried carries
        cases carries
        simp [SessionManager.create]

theorem Conserved.dialed {sess : Nat} {state : Option ReconnectState}
    (conserved : manager.Conserved (state.map ReconnectState.call))
    (owner : ∀ carried, state = some carried → manager.origin sess = some carried.call)
    {remote : Option (Option UInt32)} (ipv4 : remote ≠ some none)
    (dialed : Dialed manager sess state remote next) : next.Conserved none := by
  have located {address : Option UInt32} (given : some address ≠ some none) :
      ({ manager with addresses := Function.update manager.addresses sess address } :
        SessionManager).Conserved (state.map ReconnectState.call) := by
    obtain ⟨ip, rfl⟩ := Option.ne_none_iff_exists'.mp fun missing => given (congrArg some missing)
    exact conserved.relocate sess ip
  cases dialed with
  | drops state stopped => exact conserved.drop stopped
  | fails => exact conserved
  | retries state next running rescheduled => exact conserved.rescheduled rescheduled
  | dropsLocated state address stopped => exact (located ipv4).drop stopped
  | proceeds state address running =>
      apply Conserved.await
      · exact located ipv4
      · intro other carried held carries
        cases held
        exact owner carried carries

theorem Conserved.shaken {sess : Nat} {state : Option ReconnectState}
    (conserved : manager.Conserved (state.map ReconnectState.call))
    (owner : ∀ carried, state = some carried → manager.origin sess = some carried.call)
    {isValid : Bool} (shaken : Shaken manager sess state isValid next) :
    next.Conserved none := by
  cases shaken with
  | drops state isValid stopped => exact conserved.drop stopped
  | fails => exact conserved
  | retries state next running rescheduled => exact conserved.rescheduled rescheduled
  | registers => exact (conserved.registerAndStart sess).1
  | keeps state running =>
      obtain ⟨registered, member, kept, origin⟩ := conserved.registerAndStart sess
      have owned : (manager.registerAndStart sess).origin sess = some state.call := by
        rw [origin]
        exact owner state rfl
      have inserted := @Conserved.insert _
        { state with attempts := 0, currentDelay := state.policy.initialDelay }
        registered sess member owned
      rw [kept] at inserted
      exact inserted

theorem Conserved.handOver (conserved : manager.Conserved none) {sess : Nat}
    {address : Option UInt32} (ipv4 : address ≠ none)
    (handed : Manager.handOver manager sess address = some next) : next.Conserved none := by
  rcases handOver_eq_some handed with ⟨rfl, -⟩ | ⟨unheld, rfl⟩
  · exact conserved
  · obtain ⟨ip, rfl⟩ := Option.ne_none_iff_exists'.mp ipv4
    exact conserved.create unheld ip none

theorem Conserved.added (conserved : manager.Conserved none) {sess : Nat}
    (added : Added manager sess next) : next.Conserved none := by
  cases added with
  | throws other => exact conserved.emit _
  | refuses ip address full => exact conserved.emit _
  | admits ip address room =>
      apply Conserved.await
      · exact conserved.setOptions _
      · exact fun _ _ _ carries => nomatch carries

end Conserved

theorem not_holds_erase {manager : SessionManager} {sess : Nat} (unheld : ¬ manager.Holds sess)
    (completion : Pending) :
    ¬ ({ manager with pending := manager.pending.erase completion } : SessionManager).Holds
      sess := by
  rintro (registered | reading | captured)
  · exact unheld (Or.inl registered)
  · exact unheld (Or.inr (Or.inl reading))
  · exact unheld (Or.inr (Or.inr (Multiset.mem_of_le
      (Multiset.map_le_map (Multiset.erase_le _ _)) captured)))

theorem Conserved.initial (config : Config) :
    ({ config := config } : SessionManager).Conserved none where
  later := fun _ _ => rfl
  single := fun _ => Nat.zero_le 1
  live := nofun
  ipv4 := fun _ => nofun
  distinct := List.nodup_nil
  keys := nofun
  entries := nofun
  holders := nofun

end SessionManager

theorem SessionManager.Conserved.step {manager next : SessionManager}
    (conserved : manager.Conserved none) {action : Action} (ipv4 : Ipv4 action)
    (taken : Manager.step manager action = some next) : next.Conserved none := by
  cases step_cases taken with
  | asyncWaitForConnection => exact conserved.await fun _ _ held => nomatch held
  | addSession sess address given handed =>
      exact (conserved.handOver ipv4 handed).added (given.addSession_effect sess)
  | connectSession sess address given handed =>
      exact Conserved.doConnect (conserved.handOver ipv4 handed) nofun
  | connect sess unheld => exact Conserved.doConnect (conserved.create unheld 0 none) nofun
  | connectWithPolicy sess host service sslContext policy unheld =>
      exact conserved.connectWithPolicy unheld host service sslContext policy
  | removeSession sess => exact conserved.removed (manager.removeSession_effect sess)
  | stop => exact conserved.stop
  | incoming ip isOpen pending =>
      apply Conserved.await
      · exact conserved.take pending
      · exact fun _ _ held => nomatch held
  | accepted ip sess unheld pending =>
      have created := (conserved.take pending).create (not_holds_erase unheld _) ip none
      exact (created.added (SessionManager.addSession_effect _ sess)).await
        fun _ _ held => nomatch held
  | acceptFailed pending => exact conserved.take pending
  | dialed sess state remote pending =>
      refine Conserved.dialed (conserved.take pending) ?_ ?_
        (SessionManager.onDial_effect _ sess state remote)
      · exact fun carried carries => conserved.holders _ pending sess carried rfl carries
      · rintro rfl
        exact ipv4 rfl
  | serverHandshake sess isValid pending =>
      cases isValid with
      | false => exact conserved.take pending
      | true => exact ((conserved.take pending).registerAndStart sess).1
  | clientHandshake sess state isValid pending =>
      refine Conserved.shaken (conserved.take pending) ?_
        (SessionManager.onClientHandshake_effect _ sess state isValid)
      exact fun carried carries => conserved.holders _ pending sess carried rfl carries
  | timer state sess unheld pending =>
      exact Conserved.fired (conserved.take pending) (not_holds_erase unheld _)
        (SessionManager.onTimer_effect _ sess state)
  | sessionFailed sess reading =>
      refine Conserved.removed ?_ (SessionManager.removeSession_effect _ sess)
      exact { conserved with }

theorem reconnectStopped_of_run {config : Config} {actions : List Action}
    {manager : SessionManager} (executed : run step { config := config } actions = some manager)
    (running : .stop ∉ actions) : manager.reconnectStopped = false := by
  have others : ∀ action ∈ actions, action ≠ .stop := by
    rintro action member rfl
    exact running member
  have meets : Throughout step (fun _ action => action ≠ .stop) { config := config } actions :=
    throughout_of_forall others
  exact run_invariant (fun manager => manager.reconnectStopped = false)
    (fun state action next kept other taken => (step_reconnectStopped other taken).trans kept)
    rfl meets executed

/-- The entries of the map all count: their sessions are registered. -/
theorem SessionManager.Conserved.continuations_eq {manager : SessionManager}
    (conserved : manager.Conserved none) (call : Nat) :
    manager.continuations call = manager.total none call := by
  have registered : (manager.reconnectMap.countP fun entry =>
      entry.2.call = call ∧ entry.1 ∈ manager.sessions) = mapped manager.reconnectMap call := by
    apply List.countP_congr
    intro entry member
    simp [conserved.keys entry member]
  rw [SessionManager.continuations, SessionManager.total, registered]
  rfl

theorem SessionManager.Conserved.removeSession_pending {manager : SessionManager}
    (conserved : manager.Conserved none) {sess : Nat} (unowned : manager.origin sess = none) :
    (manager.removeSession sess).pending = manager.pending := by
  have absent : manager.reconnectMap.lookup sess = none := by
    apply List.lookup_eq_none_iff.mpr
    intro entry listed
    apply bne_iff_ne.mpr
    rintro rfl
    exact nomatch unowned.symm.trans (conserved.entries entry listed)
  have effect := manager.removeSession_effect sess
  generalize manager.removeSession sess = next at effect ⊢
  cases effect with
  | absent absent => rfl
  | throws member other => rfl
  | leaves ip next member address released =>
      cases released with
      | idle idle => rfl
      | reschedules state next found rescheduled => exact nomatch absent.symm.trans found

/-- In every reachable state a call of `connect` with a policy has at most one
live continuation, and exactly one until `stop` or the end of its retries;
`reconnect_map_` is about registered sessions only, and the removal of a session
that no policy stands behind begins nothing. -/
theorem reconnect_conserved {config : Config} {actions : List Action} {manager : SessionManager}
    (executed : run step { config := config } actions = some manager)
    (ipv4 : ∀ action ∈ actions, Ipv4 action) :
    (∀ call, manager.continuations call ≤ 1) ∧
    (.stop ∉ actions → ∀ call < manager.calls,
      manager.continuations call = 1 ∨ manager.Abandoned call) ∧
    (∀ entry ∈ manager.reconnectMap, entry.1 ∈ manager.sessions) ∧
    ∀ sess, manager.origin sess = none →
      (manager.removeSession sess).pending = manager.pending := by
  have meets : Throughout step (fun _ action => Ipv4 action) { config := config } actions :=
    throughout_of_forall ipv4
  have conserved : manager.Conserved none :=
    run_invariant (fun manager => manager.Conserved none)
      (fun state action next conserved ipv4 taken => conserved.step ipv4 taken)
      (SessionManager.Conserved.initial config) meets executed
  refine ⟨?_, ?_, conserved.keys, fun sess => conserved.removeSession_pending⟩
  · intro call
    rw [conserved.continuations_eq]
    exact conserved.single call
  · intro running call issued
    rw [conserved.continuations_eq]
    exact conserved.live (reconnectStopped_of_run executed running) call issued

/-- A session that fails and is then removed again leaves one timer behind. -/
theorem reconnect_conserved_removed_twice :
    let policy : ReconnectPolicy := { maxAttempts := 1 }
    let state (attempts : Nat) : ReconnectState :=
      ⟨"localhost", "8080", 0, policy, attempts, policy.initialDelay, 0⟩
    let actions : List Action := [.connectWithPolicy 1 "localhost" "8080" 0 policy,
      .dialed 1 (some (state 0)) (some (some 10)), .clientHandshake 1 (some (state 0)) true,
      .sessionFailed 1, .removeSession 1]
    ∃ manager, run step { config := {} } actions = some manager ∧
      manager.pending = {.timer (state 1)} ∧ manager.continuations 0 = 1 ∧
      (manager.continuations 0 = 1 ∨ manager.Abandoned 0) := by
  intro policy state actions
  refine ⟨_, rfl, rfl, rfl, ?_⟩
  refine (@reconnect_conserved {} actions _ rfl ?_).2.1 ?_ 0 (by decide)
  · simp [actions, Ipv4]
  · simp [actions]

end SocketSL.Manager
