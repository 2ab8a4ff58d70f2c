import Mathlib.Data.Multiset.AddSub

/-!
# A timer with one wait at a time

A wait is armed with a deadline, expires once the clock has reached it and puts
its handler into a queue, from which the handler runs later.  Arming a timer
again or cancelling it aborts the wait that has not expired; whether it also
takes back handlers that are queued already is a parameter, since timers differ
in that.  A handler that is called for an aborted wait does nothing and is left
out.
-/

namespace SocketSL.Lib

universe u

/-- A wait, with a mark its owner put on it. -/
structure Wait (Mark : Type u) where
  mark : Mark
  deadline : Nat
  deriving DecidableEq

structure SteadyTimer (Mark : Type u) where
  waiting : Option (Wait Mark) := none
  queued : Multiset (Wait Mark) := 0

namespace SteadyTimer

variable {Mark : Type u}

/-- The handler of the wait may still run with success. -/
def Holds (timer : SteadyTimer Mark) (wait : Wait Mark) : Prop :=
  timer.waiting = some wait ∨ wait ∈ timer.queued

def arm (timer : SteadyTimer Mark) (recalls : Bool) (wait : Wait Mark) : SteadyTimer Mark :=
  ⟨some wait, if recalls then 0 else timer.queued⟩

def cancel (timer : SteadyTimer Mark) (recalls : Bool) : SteadyTimer Mark :=
  ⟨none, if recalls then 0 else timer.queued⟩

/-- The deadline of the wait has been reached. -/
def expire (timer : SteadyTimer Mark) (now : Nat) : Option (SteadyTimer Mark) :=
  match timer.waiting with
  | none => none
  | some wait =>
      if wait.deadline ≤ now then some ⟨none, wait ::ₘ timer.queued⟩ else none

/-- Take the handler of an expired wait out of the queue. -/
def take [DecidableEq Mark] (timer : SteadyTimer Mark) (wait : Wait Mark) :
    Option (SteadyTimer Mark) :=
  if wait ∈ timer.queued then some { timer with queued := timer.queued.erase wait } else none

section Holds

variable {timer next : SteadyTimer Mark} {wait other : Wait Mark} {recalls : Bool} {now : Nat}

theorem holds_of_arm (holds : (timer.arm recalls wait).Holds other) :
    other = wait ∨ recalls = false ∧ other ∈ timer.queued := by
  rcases holds with armed | queued
  · exact Or.inl (Option.some.inj armed).symm
  · cases recalls with
    | true => exact absurd queued (Multiset.notMem_zero _)
    | false => exact Or.inr ⟨rfl, queued⟩

theorem queued_of_arm (queued : other ∈ (timer.arm recalls wait).queued) :
    other ∈ timer.queued := by
  cases recalls with
  | true => exact absurd queued (Multiset.notMem_zero _)
  | false => exact queued

theorem not_holds_empty : ¬ ({} : SteadyTimer Mark).Holds other := by
  rintro (armed | queued)
  · cases armed
  · exact absurd queued (Multiset.notMem_zero _)

theorem eq_empty (idle : ∀ wait, ¬ timer.Holds wait) : timer = {} := by
  obtain ⟨waiting, queued⟩ := timer
  cases waiting with
  | some wait => exact absurd (Or.inl rfl) (idle wait)
  | none =>
      have empty : queued = 0 := Multiset.eq_zero_of_forall_notMem
        fun wait member => idle wait (Or.inr member)
      rw [empty]

theorem empty_of_holds (empty : timer = {}) (fewer : ∀ wait, next.Holds wait → timer.Holds wait) :
    next = {} := by
  apply eq_empty
  intro wait holds
  have held := fewer wait holds
  rw [empty] at held
  exact not_holds_empty held

theorem arm_of_settled (settled : timer.queued = 0) :
    timer.arm recalls wait = SteadyTimer.arm {} recalls wait := by
  rw [arm, arm, settled]

theorem cancel_of_settled (settled : timer.queued = 0) : timer.cancel recalls = {} := by
  rw [cancel, settled, ite_self]

theorem expire_eq_some (expired : timer.expire now = some next) :
    ∃ wait, timer.waiting = some wait ∧ wait.deadline ≤ now ∧
      next = ⟨none, wait ::ₘ timer.queued⟩ := by
  unfold expire at expired
  split at expired
  · cases expired
  · obtain ⟨reached, same⟩ := Option.ite_none_right_eq_some.mp expired
    cases same
    exact ⟨_, ‹_›, reached, rfl⟩

theorem holds_of_expire (expired : timer.expire now = some next) (holds : next.Holds other) :
    timer.Holds other := by
  obtain ⟨wait, waiting, -, rfl⟩ := expire_eq_some expired
  rcases holds with armed | queued
  · cases armed
  · rcases Multiset.mem_cons.mp queued with rfl | earlier
    · exact Or.inl waiting
    · exact Or.inr earlier

theorem holds_expire (expired : timer.expire now = some next) (holds : timer.Holds other) :
    next.Holds other := by
  obtain ⟨wait, waiting, -, rfl⟩ := expire_eq_some expired
  rcases holds with armed | queued
  · cases waiting.symm.trans armed
    exact Or.inr (Multiset.mem_cons_self _ _)
  · exact Or.inr (Multiset.mem_cons_of_mem queued)

theorem queued_of_expire (expired : timer.expire now = some next) (queued : other ∈ next.queued) :
    other ∈ timer.queued ∨ other.deadline ≤ now := by
  obtain ⟨wait, -, reached, rfl⟩ := expire_eq_some expired
  rcases Multiset.mem_cons.mp queued with rfl | earlier
  · exact Or.inr reached
  · exact Or.inl earlier

variable [DecidableEq Mark]

theorem take_eq_some (taken : timer.take wait = some next) :
    wait ∈ timer.queued ∧ next = { timer with queued := timer.queued.erase wait } := by
  obtain ⟨queued, same⟩ := Option.ite_none_right_eq_some.mp taken
  cases same
  exact ⟨queued, rfl⟩

/-- Nothing else is queued when the wait expires, and its handler runs at once. -/
theorem expire_take_of_settled {expired : SteadyTimer Mark} (settled : timer.queued = 0)
    (expires : timer.expire now = some expired) (taken : expired.take wait = some next) :
    timer.waiting = some wait ∧ wait.deadline ≤ now ∧ next = {} := by
  obtain ⟨first, waiting, reached, rfl⟩ := expire_eq_some expires
  obtain ⟨queued, rfl⟩ := take_eq_some taken
  rw [settled] at queued
  cases Multiset.mem_singleton.mp queued
  refine ⟨waiting, reached, ?_⟩
  rw [settled, Multiset.erase_cons_head]

theorem holds_of_take (taken : timer.take wait = some next) (holds : next.Holds other) :
    timer.Holds other := by
  obtain ⟨-, rfl⟩ := take_eq_some taken
  rcases holds with armed | queued
  · exact Or.inl armed
  · exact Or.inr (Multiset.mem_of_mem_erase queued)

end Holds

end SteadyTimer

end SocketSL.Lib
