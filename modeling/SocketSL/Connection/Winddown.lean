import SocketSL.Connection.Limits
import SocketSL.Connection.Shutdown

/-!
# Shutting down

Once `stop` has returned the manager neither accepts nor dials again.  What is
outstanding then leads to a bounded number of callbacks, whichever order they
run in and whatever their results, late handshakes and the sessions they start
included.  When the last of them has run no completion and no read is
outstanding, and over IPv4 the registry is empty: nobody holds a session.
-/

namespace SocketSL.Manager

open SocketSL.Lib

/-- The most callbacks that a completion still leads to after `stop`. -/
@[simp]
def Pending.weight : Pending → Nat
  | .accept => 1
  | .accepted _ => 4
  | .serverHandshake _ => 2
  | .dial _ _ => 3
  | .clientHandshake _ _ => 2
  | .timer _ => 1

/-- A bound on the callbacks to come; every active session fails once more. -/
def SessionManager.work (manager : SessionManager) : Nat :=
  (manager.pending.map Pending.weight).sum + manager.active.card

structure Halted (manager : SessionManager) : Prop where
  stopped : manager.reconnectStopped = true
  closed : manager.acceptorOpen = false

/-- A halted manager with at most so much more work than another. -/
structure Winds (manager : SessionManager) (more : Nat) (next : SessionManager) : Prop
    extends Halted next where
  bounded : next.work ≤ manager.work + more

section Winds

variable {manager next : SessionManager} (sess : Nat)

theorem Halted.winds (halted : Halted manager) : Winds manager 0 manager :=
  ⟨halted, Nat.le_refl _⟩

theorem work_erase {completion : Pending} (pending : completion ∈ manager.pending) :
    ({ manager with pending := manager.pending.erase completion } : SessionManager).work +
      completion.weight = manager.work := by
  have split : (manager.pending.map Pending.weight).sum =
      completion.weight + ((manager.pending.erase completion).map Pending.weight).sum := by
    rw [← Multiset.sum_cons, ← Multiset.map_cons, Multiset.cons_erase pending]
  simp only [SessionManager.work, split]
  omega

theorem work_await (completion : Pending) :
    (manager.await completion).work = manager.work + completion.weight := by
  simp only [SessionManager.work, SessionManager.await, Multiset.map_cons, Multiset.sum_cons]
  omega

theorem Halted.added (halted : Halted manager) (added : Added manager sess next) :
    Winds manager 2 next := by
  cases added with
  | throws other => exact ⟨⟨halted.stopped, halted.closed⟩, Nat.le_add_right _ _⟩
  | refuses ip address full => exact ⟨⟨halted.stopped, halted.closed⟩, Nat.le_add_right _ _⟩
  | admits ip address room =>
      refine ⟨⟨halted.stopped, halted.closed⟩, ?_⟩
      rw [work_await]
      exact Nat.le_refl _

/-- A late registration starts a session, which fails in the end. -/
theorem Halted.registerAndStart (halted : Halted manager) :
    Winds manager 1 (manager.registerAndStart sess) := by
  rw [SessionManager.registerAndStart_eq]
  refine ⟨⟨halted.stopped, halted.closed⟩, ?_⟩
  simp only [SessionManager.work]
  split
  next => rw [Multiset.card_cons, Nat.add_assoc]
  next => exact Nat.le_succ _

theorem Halted.removed (halted : Halted manager) (removed : Removed manager sess next) :
    Winds manager 0 next := by
  cases removed with
  | absent absent => exact halted.winds
  | throws member other => exact ⟨⟨halted.stopped, halted.closed⟩, Nat.le_refl _⟩
  | leaves ip next member address released =>
      cases released with
      | idle absent => exact ⟨⟨halted.stopped, halted.closed⟩, Nat.le_refl _⟩
      | reschedules state next found rescheduled =>
          cases rescheduled with
          | drops stopped => exact ⟨⟨halted.stopped, halted.closed⟩, Nat.le_refl _⟩
          | abandons running => cases running.symm.trans halted.stopped
          | arms running => cases running.symm.trans halted.stopped

theorem Halted.dialed (halted : Halted manager) {state : Option ReconnectState}
    {remote : Option (Option UInt32)} (dialed : Dialed manager sess state remote next) :
    Winds manager 2 next := by
  cases dialed with
  | drops state stopped => exact ⟨halted, Nat.le_add_right _ _⟩
  | fails => exact ⟨halted, Nat.le_add_right _ _⟩
  | retries state next running rescheduled => cases running.symm.trans halted.stopped
  | dropsLocated state address stopped =>
      exact ⟨⟨halted.stopped, halted.closed⟩, Nat.le_add_right _ _⟩
  | proceeds state address running =>
      refine ⟨⟨halted.stopped, halted.closed⟩, ?_⟩
      exact (work_await (.clientHandshake sess state)).le

theorem Halted.shaken (halted : Halted manager) {state : Option ReconnectState} {isValid : Bool}
    (shaken : Shaken manager sess state isValid next) : Winds manager 1 next := by
  cases shaken with
  | drops state isValid stopped => exact ⟨halted, Nat.le_add_right _ _⟩
  | fails => exact ⟨halted, Nat.le_add_right _ _⟩
  | retries state next running rescheduled => cases running.symm.trans halted.stopped
  | registers => exact halted.registerAndStart sess
  | keeps state running => cases running.symm.trans halted.stopped

end Winds

theorem Halted.step {manager next : SessionManager} (halted : Halted manager) {action : Action}
    (callback : Callback action) (taken : Manager.step manager action = some next) :
    Halted next ∧ next.work < manager.work := by
  have shorter : ∀ {completion : Pending} {more : Nat} {later : SessionManager},
      completion ∈ manager.pending →
      Winds { manager with pending := manager.pending.erase completion } more later →
      more < completion.weight → Halted later ∧ later.work < manager.work := by
    intro completion more later pending winds fewer
    have erased := work_erase pending
    have bounded := winds.bounded
    exact ⟨winds.toHalted, by omega⟩
  have erased : ∀ completion : Pending,
      Halted { manager with pending := manager.pending.erase completion } :=
    fun _ => ⟨halted.stopped, halted.closed⟩
  cases step_cases taken with
  | incoming ip isOpen pending => exact absurd isOpen (by simp [halted.closed])
  | accepted ip sess unheld pending =>
      have created : Halted (SessionManager.create { manager with
          pending := manager.pending.erase (.accepted ip) } sess (some ip) none) :=
        ⟨halted.stopped, halted.closed⟩
      have added := created.added sess (SessionManager.addSession_effect _ sess)
      refine @shorter _ 3 _ pending ⟨⟨added.stopped, added.closed⟩, ?_⟩ (by simp)
      have bounded := added.bounded
      rw [SessionManager.onAccept, SessionManager.asyncWaitForConnection, work_await]
      exact Nat.add_le_add_right bounded 1
  | acceptFailed pending => exact shorter pending (erased _).winds (by simp)
  | dialed sess state remote pending =>
      have dialed := SessionManager.onDial_effect
        { manager with pending := manager.pending.erase (.dial sess state) } sess state remote
      exact shorter pending ((erased _).dialed sess dialed) (by simp)
  | serverHandshake sess isValid pending =>
      cases isValid with
      | false => exact shorter pending (erased _).winds (by simp)
      | true => exact shorter pending ((erased _).registerAndStart sess) (by simp)
  | clientHandshake sess state isValid pending =>
      have shaken := SessionManager.onClientHandshake_effect
        { manager with pending := manager.pending.erase (.clientHandshake sess state) } sess state
        isValid
      exact shorter pending ((erased _).shaken sess shaken) (by simp)
  | timer state sess unheld pending =>
      rw [SessionManager.onTimer, if_pos (by exact halted.stopped)]
      exact shorter pending (erased _).winds (by simp)
  | sessionFailed sess reading =>
      have ended : Halted { manager with active := manager.active.erase sess } :=
        ⟨halted.stopped, halted.closed⟩
      have removed := ended.removed sess (SessionManager.removeSession_effect _ sess)
      refine ⟨removed.toHalted, Nat.lt_of_le_of_lt removed.bounded ?_⟩
      have fewer := Multiset.card_erase_lt_of_mem reading
      simp only [SessionManager.work]
      omega
  | _ => exact absurd callback id

section Rest

variable {manager : SessionManager}

end Rest

/-- All addresses are IPv4 ones, and every registered session is being read. -/
structure Attended (manager : SessionManager) : Prop where
  located : ∀ sess, manager.addresses sess ≠ none
  reading : ∀ sess, manager.sessions.count sess ≤ manager.active.count sess

section Attended

variable {manager next : SessionManager} {action : Action}

theorem located_of_step (located : ∀ sess, manager.addresses sess ≠ none) (ipv4 : Ipv4 action)
    (taken : step manager action = some next) : ∀ sess, next.addresses sess ≠ none := by
  have moved : ∀ (sess other : Nat) (address : Option UInt32), address ≠ none →
      (manager.registry.relocate sess address).addresses other ≠ none := by
    intro sess other address present
    by_cases here : other = sess
    · subst here
      simp only [Registry.relocate, Function.update_self]
      exact present
    · simp only [Registry.relocate, Function.update_of_ne here]
      exact located other
  have change := step_registry taken
  have same : next.registry.addresses = next.addresses := rfl
  rw [← same]
  generalize next.registry = registry at change
  cases change with
  | create _ sess address unheld known =>
      intro other
      apply moved
      rcases known with present | rfl | rfl
      · exact present
      · exact ipv4
      · exact ipv4
  | redial sess state address =>
      intro other
      exact moved sess other address ipv4
  | _ => exact located

theorem Attended.step (attended : Attended manager) (ipv4 : Ipv4 action)
    (taken : Manager.step manager action = some next) : Attended next := by
  refine ⟨located_of_step attended.located ipv4 taken, ?_⟩
  have before : ∀ sess, manager.roster.sessions.count sess ≤ manager.roster.active.count sess :=
    attended.reading
  have located : ∀ sess, manager.located sess = true :=
    fun sess => Option.isSome_iff_ne_none.mpr (attended.located sess)
  have stepped := step_roster taken
  generalize manager.roster = roster at stepped before
  generalize handed manager action = handing at stepped
  suffices reading : ∀ sess, next.roster.sessions.count sess ≤ next.roster.active.count sess from
    reading
  generalize next.roster = after at stepped
  cases stepped with
  | takeOn sess state given known =>
      rcases known with ⟨-, rfl⟩ | ⟨-, rfl⟩
      · exact before
      · exact before
  | refuse sess given known =>
      rcases known with ⟨-, rfl⟩ | ⟨-, rfl⟩
      · exact before
      · exact before
  | register sess state rest awaited =>
      intro other
      have reading := before other
      by_cases here : other = sess
      · subst here
        simp only [Roster.enrol, located other, if_true, List.count_append,
          List.count_singleton_self, Multiset.count_cons_self]
        omega
      · simp only [Roster.enrol, located sess, if_true, List.count_append,
          List.count_singleton, Multiset.count_cons_of_ne here]
        simpa [Ne.symm here] using reading
  | remove sess =>
      intro other
      exact (List.erase_sublist.count_le other).trans (before other)
  | fail sess =>
      intro other
      have reading := before other
      by_cases here : other = sess
      · subst here
        simp only [List.count_erase_self, Multiset.count_erase_self]
        omega
      · simp only [List.count_erase_of_ne here, Multiset.count_erase_of_ne here]
        exact reading
  | clear =>
      intro other
      exact Nat.zero_le _
  | _ => exact before

end Attended

end SocketSL.Manager
