import Mathlib.Data.List.Basic

/-!
# Streams made of self-delimiting segments

`encode` gives each item a segment of symbols.  A code is self-delimiting when
a segment can be split off a stream in one way only.  A cut of a stream of
segments leaves a number of whole segments, `whole`, and a strict prefix of
the next one.
-/

namespace SocketSL.Lib

universe u v

variable {Item : Type u} {Symbol : Type v}

/-- A segment at the front of a stream determines its item and the rest. -/
def SelfDelimiting (encode : Item → List Symbol) : Prop :=
  ∀ first second restFirst restSecond,
    encode first ++ restFirst = encode second ++ restSecond →
      first = second ∧ restFirst = restSecond

/-- A run of items that do not stop, one that does, and the rest of the stream
are determined by the stream. -/
theorem SelfDelimiting.split_unique {encode : Item → List Symbol}
    (delimited : SelfDelimiting encode) (stops : Item → Prop)
    {before before' : List Item} {last last' : Item} {rest rest' : List Symbol}
    (continuing : ∀ item ∈ before, ¬ stops item) (stopped : stops last)
    (continuing' : ∀ item ∈ before', ¬ stops item) (stopped' : stops last')
    (equal : before.flatMap encode ++ (encode last ++ rest) =
      before'.flatMap encode ++ (encode last' ++ rest')) :
    before = before' ∧ last = last' ∧ rest = rest' := by
  induction before generalizing before' with
  | nil =>
      cases before' with
      | nil =>
          have split := delimited _ _ _ _ (by simpa using equal)
          exact ⟨rfl, split.1, split.2⟩
      | cons head tail =>
          have split := delimited last head _ (tail.flatMap encode ++ (encode last' ++ rest'))
            (by simpa using equal)
          exact absurd (split.1 ▸ stopped) (continuing' head (by simp))
  | cons item items inductionHypothesis =>
      cases before' with
      | nil =>
          have split := delimited item last' (items.flatMap encode ++ (encode last ++ rest)) _
            (by simpa using equal)
          exact absurd (split.1 ▸ stopped') (continuing item (by simp))
      | cons head tail =>
          have split := delimited item head
            (items.flatMap encode ++ (encode last ++ rest))
            (tail.flatMap encode ++ (encode last' ++ rest')) (by simpa using equal)
          have remaining := inductionHypothesis
            (fun other membership => continuing other (by simp [membership]))
            (fun other membership => continuing' other (by simp [membership])) split.2
          exact ⟨by rw [split.1, remaining.1], remaining.2⟩

/-- The items whose segments lie wholly inside the first `length` symbols. -/
def whole (encode : Item → List Symbol) : List Item → Nat → List Item
  | [], _ => []
  | item :: items, length =>
      if (encode item).length ≤ length then
        item :: whole encode items (length - (encode item).length)
      else
        []

/-- A prefix of a stream of segments is its whole segments followed by a
strict prefix of the next one. -/
theorem prefix_eq_whole_append (encode : Item → List Symbol) (items : List Item)
    {cut : List Symbol} (isPrefix : cut <+: items.flatMap encode) :
    ∃ remaining tail, items = whole encode items cut.length ++ remaining ∧
      cut = (whole encode items cut.length).flatMap encode ++ tail ∧
      (remaining = [] ∧ tail = [] ∨
        ∃ next later, remaining = next :: later ∧ tail <+: encode next ∧
          tail.length < (encode next).length) := by
  induction items generalizing cut with
  | nil =>
      have empty : cut = [] := by simpa using isPrefix
      exact ⟨[], [], by simp [whole], by simp [whole, empty], Or.inl ⟨rfl, rfl⟩⟩
  | cons item items inductionHypothesis =>
      rw [List.flatMap_cons] at isPrefix
      by_cases fits : (encode item).length ≤ cut.length
      · have segmentPrefix : encode item <+: cut :=
          List.prefix_of_prefix_length_le (List.prefix_append _ _) isPrefix fits
        rcases segmentPrefix with ⟨shorter, rfl⟩
        have shorterPrefix : shorter <+: items.flatMap encode :=
          (List.prefix_append_right_inj _).mp isPrefix
        rcases inductionHypothesis shorterPrefix with ⟨remaining, tail, split, bytes, last⟩
        have lengthEq : (encode item ++ shorter).length - (encode item).length =
            shorter.length := by simp
        have wholeEq : whole encode (item :: items) (encode item ++ shorter).length =
            item :: whole encode items shorter.length := by
          rw [whole, if_pos fits, lengthEq]
        refine ⟨remaining, tail, ?_, ?_, last⟩
        · rw [wholeEq, List.cons_append, ← split]
        · rw [wholeEq, List.flatMap_cons, List.append_assoc, ← bytes]
      · have wholeEq : whole encode (item :: items) cut.length = [] := by
          rw [whole, if_neg fits]
        have shorter : cut.length < (encode item).length := by omega
        have segmentPrefix : cut <+: encode item :=
          List.prefix_of_prefix_length_le isPrefix (List.prefix_append _ _) (Nat.le_of_lt shorter)
        exact ⟨item :: items, cut, by simp [wholeEq], by simp [wholeEq],
          Or.inr ⟨item, items, rfl, segmentPrefix, shorter⟩⟩

end SocketSL.Lib
