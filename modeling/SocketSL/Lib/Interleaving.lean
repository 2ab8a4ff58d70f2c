import Mathlib.Data.List.Basic

/-!
# Interleavings

Two sequences that grow at their ends, and the sequence of everything that was
appended to either in the order it happened.
-/

namespace SocketSL.Lib

universe u

variable {Item : Type u}

inductive Interleaved : List Item → List Item → List Item → Prop where
  | nil : Interleaved [] [] []
  | left {first second merged : List Item} (item : Item) :
      Interleaved first second merged → Interleaved (first ++ [item]) second (merged ++ [item])
  | right {first second merged : List Item} (item : Item) :
      Interleaved first second merged → Interleaved first (second ++ [item]) (merged ++ [item])

namespace Interleaved

variable {first second merged : List Item}

theorem filter (keep : Item → Bool) (interleaved : Interleaved first second merged) :
    Interleaved (first.filter keep) (second.filter keep) (merged.filter keep) := by
  induction interleaved with
  | nil => exact .nil
  | left item _ inductionHypothesis =>
      rw [List.filter_append, List.filter_append]
      cases kept : keep item with
      | true => simpa [kept] using inductionHypothesis.left item
      | false => simpa [kept] using inductionHypothesis
  | right item _ inductionHypothesis =>
      rw [List.filter_append, List.filter_append]
      cases kept : keep item with
      | true => simpa [kept] using inductionHypothesis.right item
      | false => simpa [kept] using inductionHypothesis

theorem eq_of_nil (interleaved : Interleaved first second merged) (empty : first = []) :
    merged = second := by
  induction interleaved with
  | nil => rfl
  | left item _ _ => simp at empty
  | right item _ inductionHypothesis => rw [inductionHypothesis empty]

end Interleaved

end SocketSL.Lib
