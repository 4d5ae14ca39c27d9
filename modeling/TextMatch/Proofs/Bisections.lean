import TextMatch.Text.Ascending

/-!
# Bisection of ordered items

Bisection finds what it looks for, if it is there, wherever every item that stands before another one
answers accordingly: the items before the wanted one answer `lt`, and those behind it `gt`.
-/

namespace TextMatch

/-- The wanted place is behind every place that answers `lt` and before every one that answers
`gt`. -/
structure Directed (probe : Nat → Ordering) : Prop where
  before : ∀ {place later}, probe later = .lt → probe place = .eq → later < place
  behind : ∀ {place earlier}, probe earlier = .gt → probe place = .eq → place < earlier

theorem bisect_iff {probe : Nat → Ordering} (directed : Directed probe) (low high : Nat) :
    bisect probe low high = true ↔ ∃ place, low ≤ place ∧ place < high ∧ probe place = .eq := by
  fun_induction bisect probe low high with
  | case1 low high nonempty middle isHere =>
      exact iff_of_true rfl ⟨middle, by omega, by omega, isHere⟩
  | case2 low high nonempty middle isBehind inductionHypothesis =>
      rw [inductionHypothesis]
      constructor
      · rintro ⟨place, _, inside, isPlace⟩
        exact ⟨place, by omega, inside, isPlace⟩
      · rintro ⟨place, _, inside, isPlace⟩
        exact ⟨place, directed.before isBehind isPlace, inside, isPlace⟩
  | case3 low high nonempty middle isBefore inductionHypothesis =>
      rw [inductionHypothesis]
      constructor
      · rintro ⟨place, inside, _, isPlace⟩
        exact ⟨place, inside, by omega, isPlace⟩
      · rintro ⟨place, inside, _, isPlace⟩
        exact ⟨place, inside, directed.behind isBefore isPlace, isPlace⟩
  | case4 low high empty =>
      refine iff_of_false Bool.false_ne_true ?_
      rintro ⟨place, _, _, -⟩
      omega

/-! ## Probes of items -/

section

variable {alpha : Type} {items : List alpha} {compare : alpha → Ordering} {probe : Nat → Ordering}

/-- The probe answers as the item at a place does, and `gt` behind the last one. -/
def ProbesItems (probe : Nat → Ordering) (items : List alpha) (compare : alpha → Ordering) : Prop :=
  ∀ place, probe place = (items[place]?.map compare).getD .gt

/-- Of two items, the one that stands first answers `lt` if the other one is wanted, and the other
one answers `gt` if the first one is. -/
def InOrder (compare : alpha → Ordering) (left right : alpha) : Prop :=
  (compare right = .eq → compare left = .lt) ∧ (compare left = .eq → compare right = .gt)

theorem ProbesItems.exists_item {answer : Ordering} {place : Nat}
    (probes : ProbesItems probe items compare) (answers : probe place = answer)
    (notGreater : answer ≠ .gt) :
    ∃ inside : place < items.length, compare items[place] = answer := by
  rw [probes] at answers
  by_cases inside : place < items.length
  · rw [List.getElem?_eq_getElem inside] at answers
    exact ⟨inside, answers⟩
  · rw [List.getElem?_eq_none (Nat.not_lt.mp inside)] at answers
    exact absurd answers.symm notGreater

theorem ProbesItems.directed (probes : ProbesItems probe items compare)
    (inOrder : items.Pairwise (InOrder compare)) : Directed probe where
  before := by
    intro place later isBefore isPlace
    obtain ⟨inside, here⟩ := probes.exists_item isPlace (by decide)
    obtain ⟨laterInside, there⟩ := probes.exists_item isBefore (by decide)
    rcases Nat.lt_trichotomy later place with less | same | greater
    · exact less
    · subst same
      rw [here] at there
      contradiction
    · have answer := (List.pairwise_iff_getElem.mp inOrder place later inside laterInside greater).2
      rw [answer here] at there
      contradiction
  behind := by
    intro place earlier isBehind isPlace
    obtain ⟨inside, here⟩ := probes.exists_item isPlace (by decide)
    rcases Nat.lt_trichotomy earlier place with less | same | greater
    · have earlierInside : earlier < items.length := Nat.lt_trans less inside
      have answer := (List.pairwise_iff_getElem.mp inOrder earlier place earlierInside inside less).1
      rw [probes, List.getElem?_eq_getElem earlierInside, Option.map_some, answer here] at isBehind
      contradiction
    · subst same
      rw [isPlace] at isBehind
      contradiction
    · exact greater

/-- Bisection finds a wanted item if there is one. -/
theorem ProbesItems.bisect_iff (probes : ProbesItems probe items compare)
    (inOrder : items.Pairwise (InOrder compare)) :
    bisect probe 0 items.length = true ↔ ∃ item ∈ items, compare item = .eq := by
  rw [TextMatch.bisect_iff (probes.directed inOrder)]
  constructor
  · rintro ⟨place, -, -, isPlace⟩
    obtain ⟨inside, here⟩ := probes.exists_item isPlace (by decide)
    exact ⟨items[place], List.getElem_mem inside, here⟩
  · rintro ⟨item, member, isWanted⟩
    obtain ⟨place, inside, rfl⟩ := List.getElem_of_mem member
    refine ⟨place, Nat.zero_le _, inside, ?_⟩
    rw [probes, List.getElem?_eq_getElem inside, Option.map_some, Option.getD_some, isWanted]

end

end TextMatch
