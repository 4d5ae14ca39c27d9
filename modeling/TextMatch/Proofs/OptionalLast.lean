import TextMatch.Proofs.RepetitionBounds

/-!
# Optional last parts

A repetition with an optional last part is compared with the same repetition without one.  Both
find the same iterations.  Where these are enough, the last part may only end behind them, so that
nothing is lost; where one is missing, the last part may make up for it.
-/

namespace TextMatch

namespace Repetition

variable {repetition : Repetition Step} {last : Step} {accepts : Cursor → Bool}
variable {entry cursor : Cursor} {count number : Nat} {failure : Failure}
variable {iterations : List Iteration} {result : Cursor × List (List Capture)}

/-! ## The same repetition without a last part -/

/-- The same repetition without a last part of its own. -/
def withoutLast {alpha : Type} (repetition : Repetition alpha) : Repetition alpha :=
  { repetition with last := .absent }

theorem iterate_withoutLast (repetition : Repetition Step) (count : Nat) (cursor : Cursor) :
    repetition.withoutLast.iterate count cursor = repetition.iterate count cursor := by
  have sameSteps : repetition.withoutLast.stepAfter = repetition.stepAfter := rfl
  exact iterate_congr sameSteps count cursor fun _ _ => ⟨rfl, rfl⟩

theorem iterate_ne_noMatch (repetition : Repetition Step) (count : Nat) (cursor : Cursor) :
    repetition.iterate count cursor ≠ .noMatch := by
  fun_induction Repetition.iterate repetition count cursor with
  | case1 | case2 | case3 | case5 => simp
  | case4 count cursor _ next _ _ inductionHypothesis =>
      rw [Ne, Outcome.map_eq_noMatch_iff]
      exact inductionHypothesis

/-- With and without the last part, a repetition fails in the greedy phase or settles what that
phase has found. -/
theorem run_cases (repetition : Repetition Step) (entry : Cursor) :
    (∃ failure, repetition.run entry = .failed failure ∧
        repetition.withoutLast.run entry = .failed failure) ∨
      ∃ iterations, repetition.iterate 0 entry = .matched iterations ∧
        repetition.run entry = repetition.settle entry iterations ∧
        repetition.withoutLast.run entry = repetition.withoutLast.settle entry iterations := by
  rw [run, run, guarded, guarded, iterate_withoutLast]
  cases matchable : entry.requireMatchable with
  | error failure => exact .inl ⟨failure, rfl, rfl⟩
  | ok =>
      cases found : repetition.iterate 0 entry with
      | noMatch => exact absurd found (repetition.iterate_ne_noMatch 0 entry)
      | failed failure => exact .inl ⟨failure, rfl, rfl⟩
      | matched iterations => exact .inr ⟨iterations, rfl, rfl, rfl⟩

/-! ## Where the last part is tried -/

theorem not_isFull {count : Nat} (room : ∀ most, repetition.most = some most → count < most) :
    ¬ repetition.isFull count = true := by
  rw [isFull]
  cases bound : repetition.most with
  | none => exact Bool.false_ne_true
  | some most => simpa using room most bound

/-- The last part is tried only where matching may go on: either the next iteration has been tried
there, or the latest has not advanced. -/
theorem ready_cursorBehind (built : ∀ step ∈ repetition.parts, step.Built)
    (greedy : Greedy repetition count cursor iterations) (ordered : cursor.Ordered)
    (fewer : number ≤ iterations.length)
    (room : ∀ most, repetition.most = some most → count + number < most) :
    (cursorBehind cursor (iterations.take number)).Ready := by
  induction greedy generalizing number with
  | full full =>
      exact absurd full (not_isFull fun most bounded => Nat.lt_of_add_right_lt (room most bounded))
  | @stuck count cursor stuck =>
      have here : cursorBehind cursor (List.take number []) = cursor := by
        rw [List.take_nil]
        rfl
      rw [here]
      apply (built_stepAfter built count).ready_of_ne_failed ordered
      intro failure failed
      rw [stuck] at failed
      contradiction
  | @next count cursor iteration later matched _ inductionHypothesis =>
      have isBuilt := built_stepAfter built count
      have ready := isBuilt.ready_of_matched ordered matched
      cases number with
      | zero => exact ready
      | succ number =>
          rw [List.take_succ_cons, cursorBehind_cons]
          apply inductionHypothesis (isBuilt.reached_of_matched ready matched).ordered
            (Nat.le_of_succ_le_succ fewer)
          intro most bounded
          have below := room most bounded
          omega
  | @idle count cursor iteration matched idles =>
      have isBuilt := built_stepAfter built count
      have ready := isBuilt.ready_of_matched ordered matched
      have same := (isBuilt.reached_of_matched ready matched).eq_of_remaining ready idles
      obtain ⟨again, captures⟩ := iteration
      obtain rfl : again = cursor := same
      rw [← List.replicate_succ, List.take_replicate, cursorBehind_replicate]
      exact ready

/-- A last part that does not fail where matching may go on never makes the repetition fail. -/
theorem finish_unfailing (built : ∀ step ∈ repetition.parts, step.Built)
    (neverFails : last.NeverFails) (greedy : Greedy repetition 0 entry iterations)
    (ordered : entry.Ordered) :
    (repetition.finish last accepts entry iterations).Meets (fun _ => True) fun _ => False := by
  rcases repetition.finish_cases last accepts entry iterations with stuck | ⟨number, mayClose, same⟩
  · rw [stuck]
    trivial
  · have room : ∀ most, repetition.most = some most → 0 + number < most := by
      intro most bounded
      rw [Nat.zero_add]
      exact mayClose.lt_most most bounded
    have ready := ready_cursorBehind built greedy ordered mayClose.le_length room
    rw [same]
    apply meets_closeAfter
    exact (neverFails _ ready).imp fun _ _ _ => trivial

/-! ## Settling with and without a last part -/

theorem settle_of_optional (edge : repetition.last = .optional last) (entry : Cursor)
    (iterations : List Iteration) :
    repetition.settle entry iterations =
      if repetition.first.isRequired && iterations.isEmpty then
        repetition.emptyMatch entry
      else
        (repetition.finish last (repetition.keepsGreedy entry iterations) entry iterations).orElse
          fun _ => repetition.greedyMatch entry iterations := by
  rw [settle, edge]

theorem settle_withoutLast (repetition : Repetition Step) (entry : Cursor)
    (iterations : List Iteration) :
    repetition.withoutLast.settle entry iterations =
      if repetition.first.isRequired && iterations.isEmpty then
        repetition.emptyMatch entry
      else
        repetition.greedyMatch entry iterations :=
  rfl

/-- What it takes for a last part to make up for the one iteration that is missing. -/
structure MakesUp (repetition : Repetition Step) (last : Step) (entry : Cursor)
    (iterations : List Iteration) : Prop where
  firstMatches : ∀ first, repetition.first = .required first → first entry ≠ .noMatch
  oneMissing : iterations.length + 1 = repetition.least
  inOrder : ∀ most, repetition.most = some most → repetition.least ≤ most
  lastMatches : ∃ result, last (cursorBehind entry iterations) = .matched result

/-- Nothing is found only where the first iteration does not match, if there may be one. -/
theorem Greedy.eq_nil_iff (greedy : Greedy repetition count cursor iterations)
    (notFull : ¬ repetition.isFull count = true) :
    iterations = [] ↔ repetition.stepAfter count cursor = .noMatch := by
  cases greedy with
  | full full => exact absurd full notFull
  | stuck stuck => simp [stuck]
  | next matched _ => simp [matched]
  | idle matched _ => simp [matched]

/-- A required first part has matched where an iteration was found. -/
theorem firstMatches_iff (greedy : Greedy repetition 0 entry iterations)
    (notFull : ¬ repetition.isFull 0 = true) :
    (∀ first, repetition.first = .required first → first entry ≠ .noMatch) ↔
      ¬ (repetition.first.isRequired && iterations.isEmpty) = true := by
  rw [Bool.and_eq_true, List.isEmpty_iff, greedy.eq_nil_iff notFull, stepAfter, if_pos rfl]
  cases repetition.first <;> simp [Edge.isRequired]

theorem finish_eq_matched
    (matched : repetition.finish last accepts entry iterations = .matched result) :
    accepts result.1 = true ∧ ∃ number captures, repetition.MayClose iterations number ∧
      result.2.length = number + 1 ∧
        last (cursorBehind entry (iterations.take number)) = .matched (result.1, captures) := by
  rcases repetition.finish_cases last accepts entry iterations with stuck | ⟨number, mayClose, same⟩
  · rw [stuck] at matched
    contradiction
  · rw [same] at matched
    obtain ⟨accepted, counted, captures, made⟩ := closeAfter_eq_matched matched
    rw [List.length_take_of_le mayClose.le_length] at counted
    exact ⟨accepted, number, captures, mayClose, counted, made⟩

/-- If all the iterations found are needed for the last part, it is tried once. -/
theorem finish_of_fewest (fewest : repetition.fewestBeforeLast = iterations.length)
    (room : ∀ most, repetition.most = some most → iterations.length < most) :
    repetition.finish last accepts entry iterations =
      closeAfter last accepts entry iterations := by
  have once : repetition.closeBehind last accepts entry iterations =
      closeAfter last accepts entry iterations := by
    rw [closeBehind, fewest, if_neg (Nat.lt_irrefl _), Nat.sub_self, retreat_zero,
      List.reverse_reverse]
  rw [finish]
  cases bound : repetition.most with
  | none => exact once
  | some most =>
      have below := room most bound
      obtain ⟨most, rfl⟩ := Nat.exists_eq_succ_of_ne_zero (Nat.ne_zero_of_lt below)
      dsimp only
      rw [List.take_of_length_le (Nat.le_of_lt_succ below), once]

/-- What the iterations found match is not lost. -/
theorem settle_of_matched (edge : repetition.last = .optional last)
    (unfailing : (repetition.finish last (repetition.keepsGreedy entry iterations) entry
      iterations).Meets (fun _ => True) fun _ => False)
    (matched : repetition.withoutLast.settle entry iterations = .matched result) :
    ∃ result', repetition.settle entry iterations = .matched result' ∧
      result.1.position ≤ result'.1.position := by
  rw [settle_withoutLast] at matched
  rw [settle_of_optional edge]
  by_cases noFirst : (repetition.first.isRequired && iterations.isEmpty) = true
  · rw [if_pos noFirst] at matched ⊢
    exact ⟨result, matched, Nat.le_refl _⟩
  · rw [if_neg noFirst] at matched ⊢
    cases finished : repetition.finish last (repetition.keepsGreedy entry iterations) entry
      iterations with
    | noMatch => exact ⟨result, matched, Nat.le_refl _⟩
    | failed failure => exact (unfailing.of_failed finished).elim
    | matched result' =>
        obtain ⟨enough, rfl⟩ := greedyMatch_eq_matched matched
        have accepted := (finish_eq_matched finished).1
        rw [keepsGreedy, Bool.or_eq_true, decide_eq_true_iff, decide_eq_true_iff] at accepted
        exact ⟨result', rfl, accepted.resolve_left (Nat.not_lt.mpr enough)⟩

theorem settle_unfailing (edge : repetition.last = .optional last)
    (unfailing : (repetition.finish last (repetition.keepsGreedy entry iterations) entry
      iterations).Meets (fun _ => True) fun _ => False) :
    (repetition.settle entry iterations).Meets (fun _ => True) fun _ => False := by
  rw [settle_of_optional edge, emptyMatch, greedyMatch]
  split
  · split <;> trivial
  · apply Outcome.Meets.orElse unfailing
    split <;> trivial

/-- Where the iterations found do not match, only the last part does. -/
theorem finish_of_settle (edge : repetition.last = .optional last)
    (stuck : repetition.withoutLast.settle entry iterations = .noMatch)
    (settled : repetition.settle entry iterations = .matched result) :
    ¬ (repetition.first.isRequired && iterations.isEmpty) = true ∧
      iterations.length < repetition.least ∧
      repetition.finish last (repetition.keepsGreedy entry iterations) entry iterations =
        .matched result := by
  rw [settle_withoutLast] at stuck
  rw [settle_of_optional edge] at settled
  by_cases noFirst : (repetition.first.isRequired && iterations.isEmpty) = true
  · rw [if_pos noFirst] at stuck settled
    rw [stuck] at settled
    contradiction
  · rw [if_neg noFirst] at stuck settled
    refine ⟨noFirst, greedyMatch_eq_noMatch_iff.mp stuck, ?_⟩
    rw [stuck] at settled
    cases finished : repetition.finish last (repetition.keepsGreedy entry iterations) entry
      iterations with
    | failed failure =>
        rw [finished] at settled
        contradiction
    | noMatch =>
        rw [finished] at settled
        contradiction
    | matched found =>
        rw [finished] at settled
        exact settled

theorem makesUp_of_settle (edge : repetition.last = .optional last)
    (greedy : Greedy repetition 0 entry iterations)
    (stuck : repetition.withoutLast.settle entry iterations = .noMatch)
    (settled : repetition.settle entry iterations = .matched result) :
    repetition.MakesUp last entry iterations ∧ result.2.length = repetition.least := by
  obtain ⟨noFirst, few, finished⟩ := finish_of_settle edge stuck settled
  obtain ⟨-, number, captures, mayClose, counted, made⟩ := finish_eq_matched finished
  have enough := repetition.least_le_fewestBeforeLast
  have fewest := mayClose.fewest_le
  have inside := mayClose.le_length
  obtain rfl : number = iterations.length := by omega
  rw [List.take_length] at made
  have notFull : ¬ repetition.isFull 0 = true :=
    not_isFull fun most bounded => Nat.zero_lt_of_lt (mayClose.lt_most most bounded)
  have inOrder : ∀ most, repetition.most = some most → repetition.least ≤ most := by
    intro most bounded
    have below := mayClose.lt_most most bounded
    omega
  refine ⟨?_, by omega⟩
  exact {
    firstMatches := (firstMatches_iff greedy notFull).mpr noFirst
    oneMissing := by omega
    inOrder
    lastMatches := ⟨_, made⟩ }

theorem exists_settle_of_makesUp (edge : repetition.last = .optional last)
    (greedy : Greedy repetition 0 entry iterations)
    (makesUp : repetition.MakesUp last entry iterations) :
    ∃ result, repetition.settle entry iterations = .matched result := by
  have oneMissing := makesUp.oneMissing
  have room : ∀ most, repetition.most = some most → iterations.length < most := by
    intro most bounded
    have inOrder := makesUp.inOrder most bounded
    omega
  have notFull : ¬ repetition.isFull 0 = true :=
    not_isFull fun most bounded => Nat.zero_lt_of_lt (room most bounded)
  have noFirst := (firstMatches_iff greedy notFull).mp makesUp.firstMatches
  have fewest : repetition.fewestBeforeLast = iterations.length := by
    rw [fewestBeforeLast]
    by_cases required : repetition.first.isRequired = true
    · have nonempty : iterations ≠ [] := by
        simpa [required] using noFirst
      have positive := List.length_pos_iff.mpr nonempty
      rw [if_pos required]
      omega
    · rw [if_neg required]
      omega
  have few : iterations.length < repetition.least := by omega
  obtain ⟨⟨next, captures⟩, made⟩ := makesUp.lastMatches
  have accepted : repetition.keepsGreedy entry iterations next = true := by
    rw [keepsGreedy, decide_eq_true few, Bool.true_or]
  have closed : closeAfter last (repetition.keepsGreedy entry iterations) entry iterations =
      .matched (next, iterations.map Prod.snd ++ [captures]) := by
    rw [closeAfter, made]
    exact if_pos accepted
  rw [settle_of_optional edge, if_neg noFirst, finish_of_fewest fewest room, closed]
  exact ⟨_, rfl⟩

/-! ## Matching with and without a last part -/

section

variable (built : ∀ step ∈ repetition.parts, step.Built) (edge : repetition.last = .optional last)
variable (neverFails : last.NeverFails) (ordered : entry.Ordered)

include built edge neverFails ordered

theorem run_of_matched (matched : repetition.withoutLast.run entry = .matched result) :
    ∃ result', repetition.run entry = .matched result' ∧
      result.1.position ≤ result'.1.position := by
  rcases repetition.run_cases entry with ⟨failure, -, failed⟩ | ⟨iterations, found, same, without⟩
  · rw [failed] at matched
    contradiction
  · have greedy := greedy_of_iterate found
    rw [without] at matched
    rw [same]
    exact settle_of_matched edge (finish_unfailing built neverFails greedy ordered) matched

theorem failed_of_run_failed (failed : repetition.run entry = .failed failure) :
    repetition.withoutLast.run entry = .failed failure := by
  rcases repetition.run_cases entry with ⟨other, same, without⟩ | ⟨iterations, found, same, -⟩
  · rw [without, ← same, failed]
  · have greedy := greedy_of_iterate found
    have unfailing := settle_unfailing edge (finish_unfailing built neverFails greedy ordered)
    rw [same] at failed
    exact (unfailing.of_failed failed).elim

end

theorem makesUp_of_run (edge : repetition.last = .optional last)
    (stuck : repetition.withoutLast.run entry = .noMatch)
    (matched : repetition.run entry = .matched result) :
    ∃ iterations, repetition.iterate 0 entry = .matched iterations ∧
      repetition.MakesUp last entry iterations ∧ result.2.length = repetition.least := by
  rcases repetition.run_cases entry with ⟨failure, failed, -⟩ | ⟨iterations, found, same, without⟩
  · rw [failed] at matched
    contradiction
  · rw [without] at stuck
    rw [same] at matched
    exact ⟨iterations, found, makesUp_of_settle edge (greedy_of_iterate found) stuck matched⟩

theorem exists_run_of_makesUp (edge : repetition.last = .optional last)
    (stuck : repetition.withoutLast.run entry = .noMatch)
    (found : repetition.iterate 0 entry = .matched iterations)
    (makesUp : repetition.MakesUp last entry iterations) :
    ∃ result, repetition.run entry = .matched result := by
  rcases repetition.run_cases entry with ⟨failure, -, failed⟩ | ⟨others, foundAgain, same, -⟩
  · rw [failed] at stuck
    contradiction
  · obtain rfl := Outcome.matched.inj (found.symm.trans foundAgain)
    rw [same]
    exact exists_settle_of_makesUp edge (greedy_of_iterate found) makesUp

end Repetition

/-! ## Matchers -/

/-- An optional last part that does not fail loses nothing and shortens nothing.  Where the same
repetition without it does not match, it is of use exactly if it makes up for the one iteration that
is missing. -/
theorem optional_last_loses_nothing (repetition : Repetition Matcher) (last : Matcher)
    (cursor : Cursor) (edge : repetition.last = .optional last)
    (neverFails : last.step.NeverFails) (ordered : cursor.Ordered) :
    (∀ next count, Matcher.count repetition.withoutLast cursor = .matched (next, count) →
        ∃ next' count', Matcher.count repetition cursor = .matched (next', count') ∧
          next.position ≤ next'.position ∧ repetition.least ≤ count' ∧
          ∀ most, repetition.most = some most → count' ≤ most) ∧
      (∀ failure, Matcher.count repetition cursor = .failed failure →
        Matcher.count repetition.withoutLast cursor = .failed failure) ∧
      (Matcher.count repetition.withoutLast cursor = .noMatch →
        ((∃ result, Matcher.count repetition cursor = .matched result) ↔
            ∃ iterations,
              (Matcher.repetitionOfSteps repetition).iterate 0 cursor = .matched iterations ∧
                (Matcher.repetitionOfSteps repetition).MakesUp last.step cursor iterations) ∧
          ∀ next count, Matcher.count repetition cursor = .matched (next, count) →
            count = repetition.least) := by
  have built := Matcher.built_repetition repetition
  have sameWithout : repetition.withoutLast.map Matcher.step =
      (repetition.map Matcher.step).withoutLast := rfl
  have edgeOfSteps : (repetition.map Matcher.step).last = .optional last.step := by
    rw [Repetition.map, edge]
    rfl
  rw [Matcher.repetitionOfSteps_eq_map] at built
  refine ⟨?_, ?_, ?_⟩
  · intro next count matched
    rw [Matcher.count_eq_map] at matched
    obtain ⟨result, ran, same⟩ := Outcome.exists_of_map_eq_matched matched
    obtain rfl : result.1 = next := congrArg Prod.fst same
    obtain ⟨result', ran', noEarlier⟩ :=
      Repetition.run_of_matched built edgeOfSteps neverFails ordered ran
    have matched' : Matcher.count repetition cursor =
        .matched (result'.1, result'.2.length) := by
      rw [Matcher.count_eq_map, ran', Outcome.map]
    have admits := Matcher.admits_of_count matched'
    exact ⟨_, _, matched', noEarlier, admits.least_le, admits.le_most⟩
  · intro failure failed
    rw [Matcher.count_eq_map, Outcome.map_eq_failed_iff] at failed ⊢
    exact Repetition.failed_of_run_failed built edgeOfSteps neverFails ordered failed
  · intro stuck
    rw [Matcher.count_eq_map, Outcome.map_eq_noMatch_iff, sameWithout] at stuck
    rw [Matcher.count_eq_map, Matcher.repetitionOfSteps_eq_map]
    refine ⟨⟨?_, ?_⟩, ?_⟩
    · intro matching
      rcases matching with ⟨counted, matched⟩
      obtain ⟨result, ran, -⟩ := Outcome.exists_of_map_eq_matched matched
      obtain ⟨iterations, found, makesUp, -⟩ :=
        Repetition.makesUp_of_run edgeOfSteps stuck ran
      exact ⟨iterations, found, makesUp⟩
    · intro makesUp
      rcases makesUp with ⟨iterations, found, makesUp⟩
      obtain ⟨result, ran⟩ := Repetition.exists_run_of_makesUp edgeOfSteps stuck found makesUp
      rw [ran]
      exact ⟨_, rfl⟩
    · intro next count matched
      obtain ⟨result, ran, same⟩ := Outcome.exists_of_map_eq_matched matched
      obtain ⟨-, -, -, counted⟩ := Repetition.makesUp_of_run edgeOfSteps stuck ran
      exact (congrArg Prod.snd same).symm.trans counted

theorem optional_last_loses_nothing_of_words :
    let letter : Matcher := .codePoint (.literal 'a')
    let stop : Matcher := .codePoint (.literal 'b')
    let word : Repetition Matcher := ⟨3, some 4, letter, .absent, .optional stop⟩
    let cursor := Cursor.ofView (View.ofString "aaab")
    let next : Cursor := ⟨View.ofString "aaab", 0, 3, 3, true⟩
    let behind : Cursor := ⟨View.ofString "aaab", 0, 0, 1, true⟩
    let short := Cursor.ofView (View.ofString "aab")
    let whole : Cursor := ⟨View.ofString "aab", 0, 3, 3, true⟩
    word.last = .optional stop ∧ stop.step.NeverFails ∧ cursor.Ordered ∧ behind.Ordered ∧
      short.Ordered ∧
      Matcher.count word.withoutLast cursor = .matched (next, 3) ∧
      (∃ next' count', Matcher.count word cursor = .matched (next', count') ∧
        next.position ≤ next'.position ∧ word.least ≤ count' ∧
        ∀ most, word.most = some most → count' ≤ most) ∧
      Matcher.count word behind = .failed (.matchAfterGhost 0 1) ∧
      Matcher.count word.withoutLast behind = .failed (.matchAfterGhost 0 1) ∧
      Matcher.count word.withoutLast short = .noMatch ∧
      Matcher.count word short = .matched (whole, 3) ∧
      ∃ iterations, (Matcher.repetitionOfSteps word).iterate 0 short = .matched iterations ∧
        (Matcher.repetitionOfSteps word).MakesUp stop.step short iterations := by
  intro letter stop word cursor next behind short whole
  have neverFails : stop.step.NeverFails := Step.neverFails_codePoint _
  have ordered : cursor.Ordered := (Cursor.ready_fresh (Nat.zero_le _)).ordered
  have behindOrdered : behind.Ordered := ⟨by decide, by decide, by decide⟩
  have shortOrdered : short.Ordered := (Cursor.ready_fresh (Nat.zero_le _)).ordered
  have matched : Matcher.count word.withoutLast cursor = .matched (next, 3) := by
    decide +kernel
  have failed : Matcher.count word behind = .failed (.matchAfterGhost 0 1) := by
    decide +kernel
  have stuck : Matcher.count word.withoutLast short = .noMatch := by
    decide +kernel
  have madeUp : Matcher.count word short = .matched (whole, 3) := by
    decide +kernel
  have long := optional_last_loses_nothing word stop cursor rfl neverFails ordered
  have refused := optional_last_loses_nothing word stop behind rfl neverFails behindOrdered
  have oneMissing := optional_last_loses_nothing word stop short rfl neverFails shortOrdered
  exact ⟨rfl, neverFails, ordered, behindOrdered, shortOrdered, matched, long.1 _ _ matched, failed,
    refused.2.1 _ failed, stuck, madeUp, (oneMissing.2.2 stuck).1.mp ⟨_, madeUp⟩⟩

end TextMatch
