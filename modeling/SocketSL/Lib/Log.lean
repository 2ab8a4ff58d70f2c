import Mathlib.Data.List.Basic

/-!
# Logs that grow at the end

`Justified` asks of every entry of a log that what stood before it allows it,
`Spaced` that entries of one kind are kept apart by entries of another, `Since`
that the entries behind the last reset have a property.  As a log only grows at
its end, the entry that is added is the only one to look at, and of what stands
before it only the stretch at the end.
-/

namespace SocketSL.Lib

universe u

variable {Entry : Type u}

/-- Every entry is allowed by the entries before it. -/
def Justified (allows : List Entry → Entry → Prop) (log : List Entry) : Prop :=
  ∀ before entry after, log = before ++ entry :: after → allows before entry

theorem eq_append_concat {log before middle : List Entry} {last : Entry}
    (split : log ++ [last] = before ++ middle) :
    middle = [] ∨ ∃ recent, middle = recent ++ [last] ∧ log = before ++ recent := by
  rcases List.eq_nil_or_concat middle with rfl | ⟨recent, final, rfl⟩
  · exact Or.inl rfl
  · have assembled : log ++ [last] = (before ++ recent) ++ [final] := by
      simpa using split
    obtain ⟨same, equal⟩ := List.append_inj' assembled rfl
    cases equal
    exact Or.inr ⟨recent, List.concat_eq_append, same⟩

theorem append_singleton_eq {log before after : List Entry} {entry last : Entry}
    (split : log ++ [last] = before ++ entry :: after) :
    log = before ∧ last = entry ∨
      ∃ middle, after = middle ++ [last] ∧ log = before ++ entry :: middle := by
  rcases eq_append_concat split with none | ⟨recent, same, earlier⟩
  · cases none
  · cases recent with
    | nil =>
        obtain ⟨rfl, -⟩ := List.cons.inj same
        exact Or.inl ⟨earlier.trans (List.append_nil before), rfl⟩
    | cons first middle =>
        obtain ⟨rfl, rfl⟩ := List.cons.inj same
        exact Or.inr ⟨middle, rfl, earlier⟩

theorem countP_concat (counted : Entry → Bool) (log : List Entry) (last : Entry) :
    (log ++ [last]).countP counted = log.countP counted + (counted last).toNat := by
  cases counts : counted last with
  | false => simp [counts]
  | true => simp [counts]

variable {allows : List Entry → Entry → Prop} {log : List Entry}

theorem Justified.nil : Justified allows [] := by
  intro before entry after split
  cases before <;> cases split

theorem Justified.append (justified : Justified allows log) {entry : Entry}
    (allowed : allows log entry) : Justified allows (log ++ [entry]) := by
  intro before other after split
  rcases append_singleton_eq split with ⟨rfl, rfl⟩ | ⟨middle, -, earlier⟩
  · exact allowed
  · exact justified before other middle earlier

theorem Justified.of_isPrefix {longer : List Entry} (justified : Justified allows longer)
    (grown : log <+: longer) : Justified allows log := by
  obtain ⟨more, rfl⟩ := grown
  rintro before entry after rfl
  exact justified before entry (after ++ more) (by simp)

theorem Justified.last {entry : Entry} (justified : Justified allows (log ++ [entry])) :
    allows log entry :=
  justified log entry [] rfl

section Since

variable {resets holds : Entry → Prop} {entry : Entry}

/-- Every entry with no reset behind it has the property. -/
def Since (resets holds : Entry → Prop) (log : List Entry) : Prop :=
  ∀ before entry after, log = before ++ entry :: after →
    (∀ later ∈ after, ¬ resets later) → holds entry

theorem Since.of_forall (all : ∀ entry ∈ log, holds entry) : Since resets holds log := by
  rintro before entry after rfl -
  exact all entry (by simp)

theorem Since.append (since : Since resets holds log) (allowed : holds entry) :
    Since resets holds (log ++ [entry]) := by
  intro before other after split quiet
  rcases append_singleton_eq split with ⟨-, rfl⟩ | ⟨middle, rfl, earlier⟩
  · exact allowed
  · exact since before other middle earlier fun later member => quiet later (by simp [member])

theorem Since.reset (again : resets entry) (allowed : holds entry) :
    Since resets holds (log ++ [entry]) := by
  intro before other after split quiet
  rcases append_singleton_eq split with ⟨-, rfl⟩ | ⟨middle, rfl, -⟩
  · exact allowed
  · exact absurd again (quiet entry (by simp))

theorem Since.mono {weaker : Entry → Prop} (since : Since resets holds log)
    (implies : ∀ entry, holds entry → weaker entry) : Since resets weaker log := by
  intro before entry after split quiet
  exact implies entry (since before entry after split quiet)

end Since

section Spaced

variable (counted separates : Entry → Bool)

/-- A stretch without a separating entry has at most one counted entry. -/
def Spaced (log : List Entry) : Prop :=
  ∀ before middle after, log = before ++ middle ++ after →
    (∀ entry ∈ middle, separates entry = false) → middle.countP counted ≤ 1

/-- So many counted entries at most stand behind the last separating one. -/
def Trailing (log : List Entry) (bound : Nat) : Prop :=
  ∀ before middle, log = before ++ middle →
    (∀ entry ∈ middle, separates entry = false) → middle.countP counted ≤ bound

variable {counted separates} {bound : Nat} {entry : Entry}

theorem Trailing.nil : Trailing counted separates [] bound := by
  intro before middle split quiet
  rw [(List.append_eq_nil_iff.mp split.symm).2]
  exact Nat.zero_le _

/-- The stretch starts again behind a separating entry. -/
theorem Trailing.separate (separated : separates entry = true) :
    Trailing counted separates (log ++ [entry]) bound := by
  intro before middle split quiet
  rcases eq_append_concat split with rfl | ⟨recent, rfl, -⟩
  · exact Nat.zero_le _
  · have silent := quiet entry (by simp)
    exact nomatch separated.symm.trans silent

theorem Trailing.append (trailing : Trailing counted separates log bound) {larger : Nat}
    (counts : bound + (counted entry).toNat ≤ larger) :
    Trailing counted separates (log ++ [entry]) larger := by
  intro before middle split quiet
  rcases eq_append_concat split with rfl | ⟨recent, rfl, earlier⟩
  · exact Nat.zero_le _
  · have few := trailing before recent earlier fun other member => quiet other (by simp [member])
    rw [countP_concat]
    omega

theorem Spaced.nil : Spaced counted separates [] := by
  intro before middle after split quiet
  have empty := (List.append_eq_nil_iff.mp (List.append_eq_nil_iff.mp split.symm).1).2
  rw [empty]
  exact Nat.zero_le _

theorem Spaced.append (spaced : Spaced counted separates log)
    (trailing : Trailing counted separates (log ++ [entry]) 1) :
    Spaced counted separates (log ++ [entry]) := by
  intro before middle after split quiet
  rcases eq_append_concat split with rfl | ⟨recent, rfl, earlier⟩
  · rw [List.append_nil] at split
    exact trailing before middle split quiet
  · exact spaced before middle recent earlier quiet

end Spaced

end SocketSL.Lib
