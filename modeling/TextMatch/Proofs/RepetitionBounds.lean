import TextMatch.Proofs.GreedyPhase

/-!
# How often a repetition is made

A repetition that matches has as many iterations as its bounds allow, and hardly more than there are
units to read: an iteration that reads nothing is the last that is looked for.  So the greedy phase
comes to an end, and an upper bound that leaves that much room is none.
-/

namespace TextMatch

namespace Repetition

/-! ## Bounds on the count -/

/-- The bounds that a count of iterations meets, with so many units to read. -/
structure Admits {alpha : Type} (repetition : Repetition alpha) (remaining count : Nat) :
    Prop where
  least_le : repetition.least ≤ count
  le_most : ∀ most, repetition.most = some most → count ≤ most
  le_remaining : count ≤ max repetition.least (remaining + 1) + 1
  /-- A first part and a last one that must both be used take two iterations. -/
  two_le : repetition.first.isRequired = true → repetition.last.isRequired = true → count ≠ 0 →
    2 ≤ count

theorem Admits.of_map {alpha beta : Type} {repetition : Repetition alpha} {change : alpha → beta}
    {remaining count : Nat} (admits : (repetition.map change).Admits remaining count) :
    repetition.Admits remaining count where
  least_le := admits.least_le
  le_most := admits.le_most
  le_remaining := admits.le_remaining
  two_le := by
    have two := admits.two_le
    rw [map, Edge.isRequired_map, Edge.isRequired_map] at two
    exact two

theorem Admits.least_le_most {alpha : Type} {repetition : Repetition alpha}
    {remaining count most : Nat} (admits : repetition.Admits remaining count)
    (bounded : repetition.most = some most) : repetition.least ≤ most :=
  Nat.le_trans admits.least_le (admits.le_most most bounded)

variable {repetition : Repetition Step} {count most rounds : Nat} {cursor : Cursor}
variable {iterations : List Iteration} {result : Cursor × List (List Capture)}

/-- As many iterations are found as must be, or one more than there are units to read. -/
theorem length_le_of_iterate (found : repetition.iterate count cursor = .matched iterations) :
    iterations.length ≤ max (repetition.least - count) (cursor.remaining + 1) := by
  fun_induction Repetition.iterate repetition count cursor generalizing iterations with
  | case1 =>
      obtain rfl := Outcome.matched.inj found
      exact Nat.zero_le _
  | case2 => contradiction
  | case3 =>
      obtain rfl := Outcome.matched.inj found
      exact Nat.zero_le _
  | case4 count cursor _ next _ advances inductionHypothesis =>
      obtain ⟨later, laterFound, rfl⟩ := Outcome.exists_of_map_eq_matched found
      have fewer := inductionHypothesis laterFound
      rw [List.length_cons]
      omega
  | case5 count cursor _ next _ _ =>
      obtain rfl := Outcome.matched.inj found
      have fewer := repetition.missing_le (count + 1)
      rw [List.length_cons, List.length_replicate]
      omega

theorem length_le_most (bounded : repetition.most = some most)
    (found : repetition.iterate count cursor = .matched iterations) :
    iterations.length ≤ most - count := by
  fun_induction Repetition.iterate repetition count cursor generalizing iterations with
  | case1 =>
      obtain rfl := Outcome.matched.inj found
      exact Nat.zero_le _
  | case2 => contradiction
  | case3 =>
      obtain rfl := Outcome.matched.inj found
      exact Nat.zero_le _
  | case4 count cursor notFull next _ _ inductionHypothesis =>
      obtain ⟨later, laterFound, rfl⟩ := Outcome.exists_of_map_eq_matched found
      have fewer := inductionHypothesis laterFound
      simp only [isFull, bounded, decide_eq_true_eq] at notFull
      rw [List.length_cons]
      omega
  | case5 count cursor notFull next _ _ =>
      obtain rfl := Outcome.matched.inj found
      simp only [isFull, bounded, decide_eq_true_eq] at notFull
      simp only [List.length_cons, List.length_replicate, missing, bounded]
      omega

theorem admits_of_run (matched : repetition.run cursor = .matched result) :
    repetition.Admits cursor.remaining result.2.length := by
  obtain ⟨iterations, found, settled⟩ := exists_iterations_of_run matched
  have fewEnough := length_le_of_iterate found
  have ends := ends_settle repetition cursor iterations
  generalize repetition.settle cursor iterations = outcome at ends settled
  cases ends with
  | empty _ =>
      obtain ⟨none, rfl⟩ := emptyMatch_eq_matched settled
      exact {
        least_le := Nat.le_of_eq none
        le_most := fun _ _ => Nat.zero_le _
        le_remaining := Nat.zero_le _
        two_le := fun _ _ nonzero => absurd rfl nonzero }
  | greedy lastOptional =>
      obtain ⟨enough, rfl⟩ := greedyMatch_eq_matched settled
      rw [List.length_map]
      exact {
        least_le := enough
        le_most := fun most bounded => length_le_most bounded found
        le_remaining := by omega
        two_le := fun _ lastRequired => by simp [lastOptional] at lastRequired }
  | @closed last number _ mayClose =>
      obtain ⟨-, counted, -⟩ := closeAfter_eq_matched settled
      have enough := repetition.least_le_fewestBeforeLast
      have fewest := mayClose.fewest_le
      have inside := mayClose.le_length
      rw [counted, List.length_take_of_le inside]
      exact {
        least_le := by omega
        le_most := fun most bounded => mayClose.lt_most most bounded
        le_remaining := by omega
        two_le := by
          intro firstRequired _ _
          have one := one_le_fewestBeforeLast firstRequired
          omega }

/-! ## The end of the search -/

/-- The greedy phase with a limit on its rounds, in which an iteration has advanced if its position
has.  It comes to nothing if the limit is reached. -/
def iterateWithin (repetition : Repetition Step) :
    (rounds count : Nat) → Cursor → Option (Outcome (List Iteration))
  | 0, _, _ => none
  | rounds + 1, count, cursor =>
      if repetition.isFull count then
        some (.matched [])
      else
        match repetition.stepAfter count cursor with
        | .failed failure => some (.failed failure)
        | .noMatch => some (.matched [])
        | .matched next =>
            if cursor.position < next.1.position then
              (repetition.iterateWithin rounds (count + 1) next.1).map fun later =>
                later.map fun iterations => next :: iterations
            else
              some (.matched (next :: List.replicate (repetition.missing (count + 1)) next))

/-- There are at most as many rounds that advance as there are units to read. -/
theorem iterateWithin_eq (built : ∀ step ∈ repetition.parts, step.Built)
    (ordered : cursor.Ordered) (enough : cursor.remaining < rounds) :
    repetition.iterateWithin rounds count cursor = some (repetition.iterate count cursor) := by
  induction rounds generalizing count cursor with
  | zero => contradiction
  | succ rounds inductionHypothesis =>
      rw [iterateWithin, iterate]
      by_cases full : repetition.isFull count = true
      · rw [if_pos full, if_pos full]
      · rw [if_neg full, if_neg full]
        cases outcome : repetition.stepAfter count cursor with
        | noMatch => rfl
        | failed failure => rfl
        | matched next =>
            have isBuilt := built_stepAfter built count
            have ready := isBuilt.ready_of_matched ordered outcome
            have reached := isBuilt.reached_of_matched ready outcome
            simp only [← reached.remaining_lt_iff]
            by_cases advances : next.1.remaining < cursor.remaining
            · rw [if_pos advances, if_pos advances,
                inductionHypothesis reached.ordered (by omega)]
              rfl
            · rw [if_neg advances, if_neg advances]

/-- Where the repeated step matches the empty text, no more iterations are made than must be, but at
least one. -/
theorem run_atLeast_of_idle {step : Step} {captures : List Capture} (ready : cursor.Ready)
    (idles : step cursor = .matched (cursor, captures)) (least : Nat) :
    (atLeast least step).run cursor =
      .matched (cursor, List.replicate (least - 1 + 1) captures) := by
  have found : (atLeast least step).iterate 0 cursor =
      .matched (List.replicate (least - 1 + 1) (cursor, captures)) := by
    have uses : (atLeast least step).stepAfter 0 cursor = .matched (cursor, captures) := idles
    have idle : ¬ cursor.remaining < cursor.remaining := Nat.lt_irrefl _
    rw [iterate, uses, List.replicate_succ]
    simp only [idle, if_false]
    rfl
  have enough : ¬ least - 1 + 1 < least := by omega
  rw [run, Step.guarded_of_ready _ ready, found]
  change (atLeast least step).greedyMatch cursor _ = _
  rw [greedyMatch, List.length_replicate, cursorBehind_replicate, List.map_replicate]
  exact if_neg enough

/-! ## Upper bounds out of reach -/

/-- The same repetition with another upper bound. -/
def withMost {alpha : Type} (repetition : Repetition alpha) (most : Option Nat) :
    Repetition alpha :=
  { repetition with most }

/-- The iterations found depend on the bounds only at counts that can be reached. -/
theorem iterate_congr {left right : Repetition Step} (sameSteps : left.stepAfter = right.stepAfter)
    (count : Nat) (cursor : Cursor)
    (sameBounds : ∀ made, made ≤ count + cursor.remaining →
      left.isFull made = right.isFull made ∧ left.missing (made + 1) = right.missing (made + 1)) :
    left.iterate count cursor = right.iterate count cursor := by
  have here := sameBounds count (Nat.le_add_right _ _)
  rw [iterate, iterate, sameSteps, here.1, here.2]
  cases outcome : right.stepAfter count cursor with
  | noMatch => rfl
  | failed failure => rfl
  | matched next =>
      by_cases advances : next.1.remaining < cursor.remaining
      · have further := iterate_congr sameSteps (count + 1) next.1
          fun made reachable => sameBounds made (by omega)
        simp only [advances, if_true, further]
      · simp only [advances, if_false]
termination_by cursor.remaining

theorem iterate_withMost (room : max repetition.least (cursor.remaining + 1) < most) :
    (repetition.withMost (some most)).iterate 0 cursor =
      (repetition.withMost none).iterate 0 cursor := by
  have sameSteps : (repetition.withMost (some most)).stepAfter =
      (repetition.withMost none).stepAfter := rfl
  apply iterate_congr sameSteps
  intro made reachable
  simp only [isFull, missing, withMost, decide_eq_false_iff_not]
  omega

theorem settle_withMost (short : iterations.length < most) :
    (repetition.withMost (some most)).settle cursor iterations =
      (repetition.withMost none).settle cursor iterations := by
  have finishes : ∀ last accepts,
      (repetition.withMost (some most)).finish last accepts cursor iterations =
        (repetition.withMost none).finish last accepts cursor iterations := by
    intro last accepts
    obtain ⟨fewer, rfl⟩ := Nat.exists_eq_succ_of_ne_zero (Nat.ne_zero_of_lt short)
    have all : iterations.take fewer = iterations :=
      List.take_of_length_le (Nat.le_of_lt_succ short)
    change (repetition.withMost (some (fewer + 1))).closeBehind last accepts cursor
      (iterations.take fewer) = _
    rw [all]
    rfl
  rw [settle, settle]
  simp only [finishes]
  rfl

/-- An upper bound that leaves room for every unit to read, for one iteration that reads nothing and
for the iterations that must be, comes to the same as none. -/
theorem run_withMost (room : max repetition.least (cursor.remaining + 1) < most) :
    (repetition.withMost (some most)).run cursor = (repetition.withMost none).run cursor := by
  rw [run, run, guarded, guarded, iterate_withMost room]
  congr 1
  funext _
  cases outcome : (repetition.withMost none).iterate 0 cursor with
  | noMatch => rfl
  | failed failure => rfl
  | matched iterations =>
      have fewEnough := length_le_of_iterate outcome
      have sameLeast : (repetition.withMost none).least = repetition.least := rfl
      rw [sameLeast] at fewEnough
      exact settle_withMost (by omega)

end Repetition

/-! ## Matchers and patterns -/

theorem Matcher.run_repetition (repetition : Repetition Matcher) (cursor : Cursor) :
    (Matcher.repetition repetition).run cursor =
      (Matcher.count repetition cursor).map Prod.fst := by
  rw [Matcher.run, Matcher.step, Step.silent, Repetition.step, Matcher.count]
  cases (Matcher.repetitionOfSteps repetition).run cursor <;> rfl

theorem Pattern.run_repetition (repetition : Repetition Pattern) (cursor : Cursor) :
    (Pattern.repetition repetition).run cursor =
      ((Pattern.repetitionOfSteps repetition).run cursor).map Prod.fst := by
  rw [Pattern.run, Pattern.step, Repetition.step]
  cases (Pattern.repetitionOfSteps repetition).run cursor <;> rfl

theorem Matcher.admits_of_count {repetition : Repetition Matcher} {cursor next : Cursor}
    {count : Nat} (matched : Matcher.count repetition cursor = .matched (next, count)) :
    repetition.Admits cursor.remaining count := by
  rw [Matcher.count_eq_map] at matched
  obtain ⟨result, found, same⟩ := Outcome.exists_of_map_eq_matched matched
  obtain rfl : result.2.length = count := congrArg Prod.snd same
  exact (Repetition.admits_of_run found).of_map

theorem Pattern.admits_of_rounds {repetition : Repetition Pattern} {cursor next : Cursor}
    {rounds : List (List Capture)}
    (matched : (Pattern.repetitionOfSteps repetition).run cursor = .matched (next, rounds)) :
    repetition.Admits cursor.remaining rounds.length := by
  rw [Pattern.repetitionOfSteps_eq_map] at matched
  exact (Repetition.admits_of_run matched).of_map

/-- The count of a repetition keeps to its bounds, and exceeds the number of units to read by at
most two where it need not be larger.  With bounds out of order nothing matches.  The greedy phase of
any repetition ends after as many rounds as there are units to read and one more, and a part that
matches the empty text is not made more often than must be. -/
theorem repetitions_keep_bounds :
    (∀ (repetition : Repetition Matcher) (cursor next : Cursor) (count : Nat),
        Matcher.count repetition cursor = .matched (next, count) →
        repetition.Admits cursor.remaining count) ∧
      (∀ (repetition : Repetition Pattern) (cursor next : Cursor) (rounds : List (List Capture)),
        (Pattern.repetitionOfSteps repetition).run cursor = .matched (next, rounds) →
        repetition.Admits cursor.remaining rounds.length) ∧
      (∀ (repetition : Repetition Matcher) (most : Nat) (cursor next : Cursor),
        repetition.most = some most → most < repetition.least →
        (Matcher.repetition repetition).run cursor ≠ .matched next) ∧
      (∀ (repetition : Repetition Pattern) (most : Nat) (cursor next : Cursor),
        repetition.most = some most → most < repetition.least →
        (Pattern.repetition repetition).run cursor ≠ .matched next) ∧
      (∀ (repetition : Repetition Matcher) (cursor : Cursor) (rounds : Nat),
        cursor.Ordered → cursor.remaining < rounds →
        (Matcher.repetitionOfSteps repetition).iterateWithin rounds 0 cursor =
          some ((Matcher.repetitionOfSteps repetition).iterate 0 cursor)) ∧
      (∀ (repetition : Repetition Pattern) (cursor : Cursor) (rounds : Nat),
        cursor.Ordered → cursor.remaining < rounds →
        (Pattern.repetitionOfSteps repetition).iterateWithin rounds 0 cursor =
          some ((Pattern.repetitionOfSteps repetition).iterate 0 cursor)) ∧
      ∀ (inner : Matcher) (least : Nat) (cursor : Cursor),
        cursor.Ordered → inner.run cursor = .matched cursor →
        Matcher.count (.atLeast least inner) cursor = .matched (cursor, max least 1) := by
  refine ⟨?_, ?_, ?_, ?_, ?_, ?_, ?_⟩
  · exact fun repetition cursor next count matched => Matcher.admits_of_count matched
  · exact fun repetition cursor next rounds matched => Pattern.admits_of_rounds matched
  · intro repetition most cursor next bounded outOfOrder matched
    rw [Matcher.run_repetition] at matched
    obtain ⟨⟨_, count⟩, counted, -⟩ := Outcome.exists_of_map_eq_matched matched
    have inOrder := (Matcher.admits_of_count counted).least_le_most bounded
    exact Nat.lt_irrefl _ (Nat.lt_of_lt_of_le outOfOrder inOrder)
  · intro repetition most cursor next bounded outOfOrder matched
    rw [Pattern.run_repetition] at matched
    obtain ⟨⟨_, rounds⟩, found, -⟩ := Outcome.exists_of_map_eq_matched matched
    have inOrder := (Pattern.admits_of_rounds found).least_le_most bounded
    exact Nat.lt_irrefl _ (Nat.lt_of_lt_of_le outOfOrder inOrder)
  · intro repetition cursor rounds ordered enough
    exact Repetition.iterateWithin_eq (Matcher.built_repetition repetition) ordered enough
  · intro repetition cursor rounds ordered enough
    exact Repetition.iterateWithin_eq (Pattern.built_repetition repetition) ordered enough
  · intro inner least cursor ordered matched
    obtain ⟨⟨same, captures⟩, idles, sameEq⟩ := Outcome.exists_of_map_eq_matched matched
    obtain rfl : same = cursor := sameEq
    have ready := inner.built_step.ready_of_matched ordered idles
    have run := Repetition.run_atLeast_of_idle ready idles least
    change ((Repetition.atLeast least inner.step).run same).map _ = _
    rw [run, Outcome.map, List.length_replicate]
    congr 2
    omega

theorem repetitions_keep_bounds_of_letters :
    let letter : Matcher := .codePoint (.literal 'a')
    let stop : Matcher := .codePoint (.literal 'b')
    let word : Repetition Matcher := ⟨2, some 3, letter, .required letter, .required stop⟩
    let named : Repetition Pattern :=
      ⟨2, some 3, .unnamed letter, .required (.group (.around "first" letter)),
        .required (.group (.around "last" stop))⟩
    let crossed : Repetition Matcher := ⟨3, some 2, letter, .absent, .optional stop⟩
    let crossedNamed : Repetition Pattern := ⟨3, some 2, .unnamed letter, .absent, .absent⟩
    let letters : Repetition Matcher := .atLeast 1 (.optional letter)
    let lettersNamed : Repetition Pattern := .atLeast 1 (.optional (.unnamed letter))
    let view := View.ofString "aab"
    let cursor := Cursor.ofView view
    let next : Cursor := ⟨view, 0, 3, 3, true⟩
    let behind : Cursor := ⟨view, 0, 2, 2, true⟩
    Matcher.count word cursor = .matched (next, 3) ∧ word.Admits cursor.remaining 3 ∧
      (∃ rounds, (Pattern.repetitionOfSteps named).run cursor = .matched (next, rounds) ∧
        named.Admits cursor.remaining rounds.length) ∧
      crossed.most = some 2 ∧ 2 < crossed.least ∧
      (Matcher.repetition crossed).run cursor ≠ .matched next ∧
      (Pattern.repetition crossedNamed).run cursor ≠ .matched next ∧
      cursor.Ordered ∧ cursor.remaining < 4 ∧
      (Matcher.repetitionOfSteps letters).iterateWithin 4 0 cursor =
        some ((Matcher.repetitionOfSteps letters).iterate 0 cursor) ∧
      (Pattern.repetitionOfSteps lettersNamed).iterateWithin 4 0 cursor =
        some ((Pattern.repetitionOfSteps lettersNamed).iterate 0 cursor) ∧
      behind.Ordered ∧ (Matcher.optional letter).run behind = .matched behind ∧
      Matcher.count (.atLeast 2 (.optional letter)) behind = .matched (behind, 2) := by
  intro letter stop word named crossed crossedNamed letters lettersNamed view cursor next behind
  obtain ⟨ofMatchers, ofPatterns, crossedFails, crossedNamedFails, ends, endsNamed, idles⟩ :=
    repetitions_keep_bounds
  have counted : Matcher.count word cursor = .matched (next, 3) := by
    decide +kernel
  have roundsCounted : ((Pattern.repetitionOfSteps named).run cursor).map
      (fun result => (result.1, result.2.length)) = .matched (next, 3) := by
    decide +kernel
  obtain ⟨⟨same, rounds⟩, found, sameEq⟩ := Outcome.exists_of_map_eq_matched roundsCounted
  obtain rfl : same = next := congrArg Prod.fst sameEq
  have ordered : cursor.Ordered := (Cursor.ready_fresh (Nat.zero_le _)).ordered
  have few : cursor.remaining < 4 := by decide
  have behindOrdered : behind.Ordered := ⟨by decide, by decide, by decide⟩
  have empty : (Matcher.optional letter).run behind = .matched behind := by decide
  exact ⟨counted, ofMatchers word cursor next 3 counted,
    ⟨rounds, found, ofPatterns named cursor next rounds found⟩,
    rfl, by decide, crossedFails crossed 2 cursor next rfl (by decide),
    crossedNamedFails crossedNamed 2 cursor next rfl (by decide), ordered, few,
    ends letters cursor 4 ordered few, endsNamed lettersNamed cursor 4 ordered few,
    behindOrdered, empty, idles (.optional letter) 2 behind behindOrdered empty⟩

end TextMatch
