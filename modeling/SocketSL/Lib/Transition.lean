import Mathlib.Data.List.Basic

/-!
# Runs of a partial step function

A system moves by labels.  `step state label` is the next state, or `none`
when the label is not enabled there.  `run` executes a list of labels,
`Throughout` asks a condition of every step of a run and `Always` a property
of every state a run passes through.  The rules derive both from what a single
step preserves, and that runs end from a rank that every step lowers.
`recorded` keeps beside the state what the steps so far gave rise to.
-/

namespace SocketSL.Lib

universe u v

variable {State : Type u} {Label : Type v}

/-- Execute labels from left to right; a label that is not enabled refuses
the whole run. -/
def run (step : State → Label → Option State) : State → List Label → Option State
  | state, [] => some state
  | state, label :: rest => (step state label).bind fun next => run step next rest

/-- Every step of the run meets `condition` in the state it is taken from. -/
def Throughout (step : State → Label → Option State) (condition : State → Label → Prop) :
    State → List Label → Prop
  | _, [] => True
  | state, label :: rest =>
      condition state label ∧
        ∀ next, step state label = some next → Throughout step condition next rest

/-- `property` holds in every state of the run, its two ends included. -/
def Always (step : State → Label → Option State) (property : State → Prop) :
    State → List Label → Prop
  | state, [] => property state
  | state, label :: rest =>
      property state ∧
        ∀ next, step state label = some next → Always step property next rest

variable {step : State → Label → Option State}

theorem Always.head {property : State → Prop} {state : State} {labels : List Label}
    (always : Always step property state labels) : property state := by
  cases labels with
  | nil => exact always
  | cons label rest => exact always.1

@[simp]
theorem run_nil (state : State) : run step state [] = some state := rfl

@[simp]
theorem run_cons (state : State) (label : Label) (rest : List Label) :
    run step state (label :: rest) =
      (step state label).bind fun next => run step next rest := rfl

theorem run_cons_eq_some {state final : State} {label : Label} {rest : List Label} :
    run step state (label :: rest) = some final ↔
      ∃ next, step state label = some next ∧ run step next rest = some final := by
  rw [run_cons, Option.bind_eq_some_iff]

theorem run_append (state : State) (first second : List Label) :
    run step state (first ++ second) =
      (run step state first).bind fun middle => run step middle second := by
  induction first generalizing state with
  | nil => simp
  | cons label rest inductionHypothesis =>
      cases taken : step state label with
      | none => simp [taken]
      | some next => simp [taken, inductionHypothesis]

theorem throughout_cons {condition : State → Label → Prop} {state next : State} {label : Label}
    {rest : List Label} (taken : step state label = some next) :
    Throughout step condition state (label :: rest) ↔
      condition state label ∧ Throughout step condition next rest := by
  simp [Throughout, taken]

theorem throughout_of_always {condition : State → Label → Prop} {state : State}
    {labels : List Label} (meets : ∀ label ∈ labels, ∀ state, condition state label) :
    Throughout step condition state labels := by
  induction labels generalizing state with
  | nil => trivial
  | cons label rest inductionHypothesis =>
      refine ⟨meets label (by simp) state, ?_⟩
      intro next taken
      exact inductionHypothesis fun other member => meets other (by simp [member])

theorem throughout_of_forall {assumed : Label → Prop} {state : State} {labels : List Label}
    (meets : ∀ label ∈ labels, assumed label) :
    Throughout step (fun _ label => assumed label) state labels :=
  throughout_of_always fun label member _ => meets label member

theorem Throughout.mono {condition weaker : State → Label → Prop} {state : State}
    {labels : List Label} (implies : ∀ state label, condition state label → weaker state label)
    (meets : Throughout step condition state labels) : Throughout step weaker state labels := by
  induction labels generalizing state with
  | nil => trivial
  | cons label rest inductionHypothesis =>
      exact ⟨implies state label meets.1,
        fun next taken => inductionHypothesis (meets.2 next taken)⟩

/-- Whether a run meets a decidable condition can be computed. -/
instance decidableThroughout {condition : State → Label → Prop}
    [∀ state label, Decidable (condition state label)] :
    ∀ state labels, Decidable (Throughout step condition state labels)
  | _, [] => isTrue trivial
  | state, label :: rest =>
      match taken : step state label with
      | none => decidable_of_iff (condition state label) (by simp [Throughout, taken])
      | some next =>
          have := @decidableThroughout condition _ next rest
          decidable_of_iff _ (throughout_cons taken).symm

/-- The invariant rule for invariants that also speak of the labels so far. -/
theorem run_invariant_past (invariant : State → List Label → Prop)
    {condition : State → Label → Prop}
    (preserved : ∀ state past label next, invariant state past → condition state label →
      step state label = some next → invariant next (past ++ [label]))
    {state final : State} {past labels : List Label} (holds : invariant state past)
    (meets : Throughout step condition state labels)
    (executed : run step state labels = some final) : invariant final (past ++ labels) := by
  induction labels generalizing state past with
  | nil =>
      cases executed
      rw [List.append_nil]
      exact holds
  | cons label rest inductionHypothesis =>
      rcases run_cons_eq_some.mp executed with ⟨next, taken, continued⟩
      have continuing := inductionHypothesis
        (preserved state past label next holds meets.1 taken) (meets.2 next taken) continued
      rwa [List.append_assoc] at continuing

/-- The invariant rule: what every admissible step preserves holds at the end
of every admissible run. -/
theorem run_invariant (invariant : State → Prop) {condition : State → Label → Prop}
    (preserved : ∀ state label next, invariant state → condition state label →
      step state label = some next → invariant next)
    {state final : State} {labels : List Label}
    (holds : invariant state) (meets : Throughout step condition state labels)
    (executed : run step state labels = some final) : invariant final :=
  @run_invariant_past _ _ _ (fun state _ => invariant state) _
    (fun state _ label next holds => preserved state label next holds) _ _ [] _ holds meets executed

/-- The invariant rule for runs without a side condition. -/
theorem run_invariant_of_step (invariant : State → Prop)
    (preserved : ∀ state label next, invariant state →
      step state label = some next → invariant next)
    {state final : State} {labels : List Label}
    (holds : invariant state) (executed : run step state labels = some final) :
    invariant final :=
  @run_invariant _ _ _ invariant (fun _ _ => True)
    (fun state label next holds _ taken => preserved state label next holds taken) _ _ _ holds
    (throughout_of_always fun _ _ _ => trivial) executed

/-- When the invariant survives exactly the steps that meet `condition`, and a
step that does not meet it breaks `property`, a run keeps the property in every
state if and only if it meets the condition in every step. -/
theorem always_iff_throughout (invariant property : State → Prop)
    {assumed : Label → Prop} {condition : State → Label → Prop}
    (implies : ∀ state, invariant state → property state)
    (preserved : ∀ state label next, invariant state → assumed label →
      condition state label → step state label = some next → invariant next)
    (refused : ∀ state label next, invariant state → assumed label →
      step state label = some next → property next → condition state label)
    {state final : State} {labels : List Label} (holds : invariant state)
    (meets : ∀ label ∈ labels, assumed label) (executed : run step state labels = some final) :
    Always step property state labels ↔ Throughout step condition state labels := by
  induction labels generalizing state with
  | nil =>
      constructor
      · intro always
        trivial
      · intro throughout
        exact implies state holds
  | cons label rest inductionHypothesis =>
      obtain ⟨next, taken, continued⟩ := run_cons_eq_some.mp executed
      have now := meets label (by simp)
      have later : ∀ other ∈ rest, assumed other :=
        fun other member => meets other (by simp [member])
      constructor
      · rintro ⟨-, always⟩
        have here := refused state label next holds now taken (always next taken).head
        refine ⟨here, ?_⟩
        intro other takenOther
        cases taken.symm.trans takenOther
        exact (inductionHypothesis (preserved state label next holds now here taken) later
          continued).mp (always next taken)
      · rintro ⟨here, throughout⟩
        refine ⟨implies state holds, ?_⟩
        intro other takenOther
        cases taken.symm.trans takenOther
        exact (inductionHypothesis (preserved state label next holds now here taken) later
          continued).mpr (throughout next taken)

section Ranked

variable {ranked : State → Nat → Prop} {counted : Label → Prop} {state final : State}
  {labels : List Label} {rank : Nat}

/-- Steps that lower a rank make runs no longer than the rank. -/
theorem run_length_le_of_ranked
    (lowers : ∀ state label next rank, ranked state rank → counted label →
      step state label = some next → ∃ lower < rank, ranked next lower)
    (holds : ranked state rank) (all : ∀ label ∈ labels, counted label)
    (executed : run step state labels = some final) :
    ∃ lower, labels.length + lower ≤ rank ∧ ranked final lower := by
  induction labels generalizing state rank with
  | nil =>
      cases executed
      exact ⟨rank, by simp, holds⟩
  | cons label rest inductionHypothesis =>
      obtain ⟨next, taken, continued⟩ := run_cons_eq_some.mp executed
      obtain ⟨lower, less, holdsNext⟩ :=
        lowers state label next rank holds (all label (by simp)) taken
      obtain ⟨last, bounded, holdsFinal⟩ := inductionHypothesis holdsNext
        (fun other member => all other (by simp [member])) continued
      refine ⟨last, ?_, holdsFinal⟩
      rw [List.length_cons]
      omega

theorem exists_run_to_rest_of_ranked
    (lowers : ∀ state label next rank, ranked state rank → counted label →
      step state label = some next → ∃ lower < rank, ranked next lower)
    (holds : ranked state rank) :
    ∃ labels final, (∀ label ∈ labels, counted label) ∧ run step state labels = some final ∧
      ∀ label, counted label → step final label = none := by
  induction rank using Nat.strongRecOn generalizing state with
  | ind rank inductionHypothesis =>
      by_cases resting : ∀ label, counted label → step state label = none
      · exact ⟨[], state, by simp, rfl, resting⟩
      · push Not at resting
        obtain ⟨label, own, enabled⟩ := resting
        obtain ⟨next, taken⟩ := Option.ne_none_iff_exists'.mp enabled
        obtain ⟨lower, less, holdsNext⟩ := lowers state label next rank holds own taken
        obtain ⟨labels, final, all, continued, rest⟩ := inductionHypothesis lower less holdsNext
        refine ⟨label :: labels, final, ?_, run_cons_eq_some.mpr ⟨next, taken, continued⟩, rest⟩
        intro other member
        rcases List.mem_cons.mp member with rfl | later
        · exact own
        · exact all other later

variable {invariant : State → Prop} {measure : State → Nat}

theorem lowers_of_measure
    (preserved : ∀ state label next, invariant state → counted label →
      step state label = some next → invariant next)
    (lowers : ∀ state label next, invariant state → counted label →
      step state label = some next → measure next < measure state)
    (state : State) (label : Label) (next : State) (rank : Nat)
    (holds : invariant state ∧ measure state = rank) (own : counted label)
    (taken : step state label = some next) :
    ∃ lower < rank, invariant next ∧ measure next = lower :=
  ⟨measure next, holds.2 ▸ lowers state label next holds.1 own taken,
    preserved state label next holds.1 own taken, rfl⟩

theorem run_length_le
    (preserved : ∀ state label next, invariant state → counted label →
      step state label = some next → invariant next)
    (lowers : ∀ state label next, invariant state → counted label →
      step state label = some next → measure next < measure state)
    (holds : invariant state) (all : ∀ label ∈ labels, counted label)
    (executed : run step state labels = some final) :
    labels.length + measure final ≤ measure state := by
  obtain ⟨lower, bounded, -, rfl⟩ :=
    run_length_le_of_ranked (lowers_of_measure preserved lowers) ⟨holds, rfl⟩ all executed
  exact bounded

theorem exists_run_to_rest
    (preserved : ∀ state label next, invariant state → counted label →
      step state label = some next → invariant next)
    (lowers : ∀ state label next, invariant state → counted label →
      step state label = some next → measure next < measure state)
    (holds : invariant state) :
    ∃ labels final, (∀ label ∈ labels, counted label) ∧ run step state labels = some final ∧
      ∀ label, counted label → step final label = none :=
  exists_run_to_rest_of_ranked (lowers_of_measure preserved lowers) ⟨holds, rfl⟩

end Ranked

section Recorded

universe w

variable {Entry : Type w} {emits : State → Label → State → List Entry}

/-- The same steps, with a record of what each of them emits. -/
def recorded (step : State → Label → Option State)
    (emits : State → Label → State → List Entry) (observed : State × List Entry)
    (label : Label) : Option (State × List Entry) :=
  (step observed.1 label).map fun next =>
    (next, observed.2 ++ emits observed.1 label next)

theorem recorded_eq_some {observed reached : State × List Entry} {label : Label} :
    recorded step emits observed label = some reached ↔ ∃ next,
      step observed.1 label = some next ∧
        (next, observed.2 ++ emits observed.1 label next) = reached :=
  Option.map_eq_some_iff

theorem run_recorded {state final : State} {labels : List Label}
    (executed : run step state labels = some final) (past : List Entry) :
    ∃ record, run (recorded step emits) (state, past) labels = some (final, record) := by
  induction labels generalizing state past with
  | nil =>
      cases executed
      exact ⟨past, rfl⟩
  | cons label rest inductionHypothesis =>
      obtain ⟨next, taken, continued⟩ := run_cons_eq_some.mp executed
      obtain ⟨record, completed⟩ :=
        inductionHypothesis continued (past ++ emits state label next)
      refine ⟨record, run_cons_eq_some.mpr ⟨_, ?_, completed⟩⟩
      exact recorded_eq_some.mpr ⟨next, taken, rfl⟩

end Recorded

end SocketSL.Lib
