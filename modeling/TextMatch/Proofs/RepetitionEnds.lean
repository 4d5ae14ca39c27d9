import TextMatch.Proofs.StepRules

/-!
# How repetitions end

Once its iterations are found, a repetition comes to one of three things: to no iteration at all, to
all those found, or to what the last step comes to behind the first few of them.  Whatever is to be
known of repetitions is read off these ends.
-/

namespace TextMatch.Repetition

open Outcome (Meets)

variable {repetition : Repetition Step} {entry : Cursor} {iterations : List Iteration}
variable {last : Step} {accepts : Cursor → Bool}

theorem cursorBehind_cons (entry : Cursor) (first : Iteration) (later : List Iteration) :
    cursorBehind entry (first :: later) = cursorBehind first.1 later := by
  cases later <;> simp [cursorBehind, List.getLast?_cons]

/-- The latest iteration of a trail comes first. -/
theorem cursorBehind_reverse (entry : Cursor) (latest : Iteration) (earlier : List Iteration) :
    cursorBehind entry (latest :: earlier).reverse = latest.1 := by
  simp [cursorBehind]

/-! ## The last iteration -/

/-- Tries the last step behind the iterations kept. -/
def closeAfter (last : Step) (accepts : Cursor → Bool) (entry : Cursor) (kept : List Iteration) :
    Outcome (Cursor × List (List Capture)) := do
  let (next, captures) ← last (cursorBehind entry kept)
  if accepts next then
    .matched (next, kept.map Prod.snd ++ [captures])
  else
    .noMatch

theorem meets_closeAfter {kept : List Iteration}
    {onMatch : Cursor × List (List Capture) → Prop} {onFailure : Failure → Prop}
    (meets : (last (cursorBehind entry kept)).Meets
      (fun result => accepts result.1 = true →
        onMatch (result.1, kept.map Prod.snd ++ [result.2])) onFailure) :
    (closeAfter last accepts entry kept).Meets onMatch onFailure := by
  apply Meets.bind meets
  rintro ⟨next, captures⟩ holds
  by_cases accepted : accepts next = true
  · simp only [accepted, if_true]
    exact holds accepted
  · simp [accepted]

theorem closeAfter_eq_matched {kept : List Iteration} {result : Cursor × List (List Capture)}
    (matched : closeAfter last accepts entry kept = .matched result) :
    accepts result.1 = true ∧ result.2.length = kept.length + 1 ∧
      ∃ captures, last (cursorBehind entry kept) = .matched (result.1, captures) := by
  rw [closeAfter] at matched
  cases outcome : last (cursorBehind entry kept) with
  | noMatch =>
      rw [outcome] at matched
      contradiction
  | failed failure =>
      rw [outcome] at matched
      contradiction
  | matched found =>
      rw [outcome] at matched
      by_cases accepted : accepts found.1 = true
      · simp only [bind, Outcome.bind, accepted, if_true] at matched
        obtain rfl := Outcome.matched.inj matched
        exact ⟨accepted, by simp, found.2, rfl⟩
      · simp only [bind, Outcome.bind, accepted] at matched
        contradiction

theorem close_eq_closeAfter (trail : List Iteration) :
    close last accepts (cursorBehind entry trail.reverse) trail =
      closeAfter last accepts entry trail.reverse := by
  rw [close, closeAfter]
  cases last (cursorBehind entry trail.reverse) with
  | noMatch => rfl
  | failed failure => rfl
  | matched result => simp [bind, Outcome.bind]

/-- If nothing may be given up, there is one attempt. -/
theorem retreat_zero (trail : List Iteration) :
    retreat last accepts entry 0 trail = closeAfter last accepts entry trail.reverse := by
  rw [← close_eq_closeAfter]
  cases trail with
  | nil => rfl
  | cons latest earlier => rw [cursorBehind_reverse, retreat]

theorem retreat_succ (spare : Nat) (latest : Iteration) (earlier : List Iteration) :
    retreat last accepts entry (spare + 1) (latest :: earlier) =
      (closeAfter last accepts entry (latest :: earlier).reverse).orElse fun _ =>
        retreat last accepts entry spare earlier := by
  rw [← close_eq_closeAfter, cursorBehind_reverse, retreat]

/-- A retreat comes to nothing, or to what the last step comes to behind the first few of the
iterations. -/
theorem retreat_cases (last : Step) (accepts : Cursor → Bool) (entry : Cursor) (spare : Nat)
    (trail : List Iteration) :
    retreat last accepts entry spare trail = .noMatch ∨
      ∃ number, trail.length - spare ≤ number ∧ number ≤ trail.length ∧
        retreat last accepts entry spare trail =
          closeAfter last accepts entry (trail.reverse.take number) := by
  have all : ∀ trail : List Iteration, trail.reverse.take trail.length = trail.reverse :=
    fun trail => List.take_of_length_le (Nat.le_of_eq List.length_reverse)
  induction trail generalizing spare with
  | nil =>
      right
      refine ⟨0, Nat.le_of_eq (Nat.zero_sub spare), Nat.le_refl _, ?_⟩
      rw [retreat]
      exact close_eq_closeAfter []
  | cons latest earlier inductionHypothesis =>
      cases spare with
      | zero =>
          right
          refine ⟨_, Nat.sub_le _ _, Nat.le_refl _, ?_⟩
          rw [all, retreat_zero]
      | succ spare =>
          rw [retreat_succ]
          cases outcome : closeAfter last accepts entry (latest :: earlier).reverse with
          | matched result =>
              right
              refine ⟨_, Nat.sub_le _ _, Nat.le_refl _, ?_⟩
              rw [all, outcome, Outcome.orElse]
          | failed failure =>
              right
              refine ⟨_, Nat.sub_le _ _, Nat.le_refl _, ?_⟩
              rw [all, outcome, Outcome.orElse]
          | noMatch =>
              apply (inductionHypothesis spare).imp_right
              rintro ⟨number, enough, fewer, same⟩
              refine ⟨number, by simpa using enough, Nat.le_succ_of_le fewer, ?_⟩
              have inside : number ≤ earlier.reverse.length := by simpa using fewer
              rw [Outcome.orElse, same, List.reverse_cons, List.take_append_of_le_length inside]

theorem least_le_fewestBeforeLast (repetition : Repetition Step) :
    repetition.least ≤ repetition.fewestBeforeLast + 1 := by
  rw [fewestBeforeLast]
  split <;> omega

theorem one_le_fewestBeforeLast (required : repetition.first.isRequired = true) :
    1 ≤ repetition.fewestBeforeLast := by
  rw [fewestBeforeLast, if_pos required]
  exact Nat.le_max_right _ _

/-- The numbers of iterations behind which the last step may be tried. -/
structure MayClose (repetition : Repetition Step) (iterations : List Iteration) (number : Nat) :
    Prop where
  fewest_le : repetition.fewestBeforeLast ≤ number
  le_length : number ≤ iterations.length
  lt_most : ∀ most, repetition.most = some most → number < most

theorem finish_cases (repetition : Repetition Step) (last : Step) (accepts : Cursor → Bool)
    (entry : Cursor) (iterations : List Iteration) :
    repetition.finish last accepts entry iterations = .noMatch ∨
      ∃ number, repetition.MayClose iterations number ∧
        repetition.finish last accepts entry iterations =
          closeAfter last accepts entry (iterations.take number) := by
  have closing : ∀ kept : List Iteration,
      repetition.closeBehind last accepts entry kept = .noMatch ∨
        ∃ number, repetition.fewestBeforeLast ≤ number ∧ number ≤ kept.length ∧
          repetition.closeBehind last accepts entry kept =
            closeAfter last accepts entry (kept.take number) := by
    intro kept
    rw [closeBehind]
    by_cases tooFew : kept.length < repetition.fewestBeforeLast
    · exact .inl (if_pos tooFew)
    · rw [if_neg tooFew]
      have retreats := retreat_cases last accepts entry
        (kept.length - repetition.fewestBeforeLast) kept.reverse
      rw [List.reverse_reverse, List.length_reverse] at retreats
      apply retreats.imp_right
      rintro ⟨number, enough, fewer, same⟩
      exact ⟨number, by omega, fewer, same⟩
  rw [finish]
  cases bound : repetition.most with
  | none =>
      apply (closing iterations).imp_right
      rintro ⟨number, enough, fewer, same⟩
      exact ⟨number, ⟨enough, fewer, by simp [bound]⟩, same⟩
  | some most =>
      cases most with
      | zero => exact .inl rfl
      | succ most =>
          apply (closing (iterations.take most)).imp_right
          rintro ⟨number, enough, fewer, same⟩
          rw [List.length_take] at fewer
          rw [List.take_take, Nat.min_eq_left (by omega)] at same
          refine ⟨number, ⟨enough, by omega, ?_⟩, same⟩
          intro other bounded
          rw [bound, Option.some.injEq] at bounded
          omega

/-! ## No last iteration -/

theorem emptyMatch_eq_matched {result : Cursor × List (List Capture)}
    (matched : repetition.emptyMatch entry = .matched result) :
    repetition.least = 0 ∧ result = (entry, []) := by
  rw [emptyMatch] at matched
  by_cases none : repetition.least = 0
  · rw [if_pos none] at matched
    exact ⟨none, (Outcome.matched.inj matched).symm⟩
  · rw [if_neg none] at matched
    contradiction

theorem greedyMatch_eq_matched {result : Cursor × List (List Capture)}
    (matched : repetition.greedyMatch entry iterations = .matched result) :
    repetition.least ≤ iterations.length ∧
      result = (cursorBehind entry iterations, iterations.map Prod.snd) := by
  rw [greedyMatch] at matched
  by_cases few : iterations.length < repetition.least
  · rw [if_pos few] at matched
    contradiction
  · rw [if_neg few] at matched
    exact ⟨Nat.not_lt.mp few, (Outcome.matched.inj matched).symm⟩

theorem greedyMatch_eq_noMatch_iff :
    repetition.greedyMatch entry iterations = .noMatch ↔ iterations.length < repetition.least := by
  rw [greedyMatch]
  split <;> simp [*]

/-! ## The ends -/

/-- Whether the last step may end at `next`. -/
def mayEndAt (repetition : Repetition Step) (entry : Cursor) (iterations : List Iteration)
    (next : Cursor) : Bool :=
  repetition.last.isRequired || repetition.keepsGreedy entry iterations next

/-- What a repetition may come to behind the iterations found. -/
inductive Ends (repetition : Repetition Step) (entry : Cursor) (iterations : List Iteration) :
    Outcome (Cursor × List (List Capture)) → Prop
  | empty :
      repetition.first.isRequired = true ∧ iterations = [] ∨ repetition.last.isRequired = true →
      Ends repetition entry iterations (repetition.emptyMatch entry)
  | greedy :
      repetition.last.isRequired = false →
      Ends repetition entry iterations (repetition.greedyMatch entry iterations)
  | closed {last : Step} {number : Nat} :
      last ∈ repetition.last.parts → repetition.MayClose iterations number →
      Ends repetition entry iterations
        (closeAfter last (repetition.mayEndAt entry iterations) entry (iterations.take number))

theorem ends_settle (repetition : Repetition Step) (entry : Cursor)
    (iterations : List Iteration) :
    repetition.Ends entry iterations (repetition.settle entry iterations) := by
  rw [settle]
  by_cases noFirst : (repetition.first.isRequired && iterations.isEmpty) = true
  · rw [if_pos noFirst]
    obtain ⟨firstRequired, none⟩ := Bool.and_eq_true_iff.mp noFirst
    exact .empty (.inl ⟨firstRequired, List.isEmpty_iff.mp none⟩)
  · rw [if_neg noFirst]
    cases edge : repetition.last with
    | absent => exact .greedy (by rw [edge]; rfl)
    | optional last =>
        have greedy : repetition.Ends entry iterations (repetition.greedyMatch entry iterations) :=
          .greedy (by rw [edge]; rfl)
        have accepts : repetition.mayEndAt entry iterations =
            repetition.keepsGreedy entry iterations := by
          funext next
          rw [mayEndAt, edge]
          rfl
        dsimp only
        rcases finish_cases repetition last (repetition.keepsGreedy entry iterations) entry
          iterations with stuck | ⟨number, mayClose, same⟩
        · rw [stuck]
          exact greedy
        · rw [same, ← accepts]
          exact Outcome.holds_orElse (.closed (by simp [edge, Edge.parts]) mayClose) greedy
    | required last =>
        have empty : repetition.Ends entry iterations (repetition.emptyMatch entry) :=
          .empty (.inr (by rw [edge]; rfl))
        have accepts : repetition.mayEndAt entry iterations = fun _ => true := by
          funext next
          rw [mayEndAt, edge]
          rfl
        dsimp only
        rcases finish_cases repetition last (fun _ => true) entry iterations with
          stuck | ⟨number, mayClose, same⟩
        · rw [stuck]
          exact empty
        · rw [same, ← accepts]
          exact Outcome.holds_orElse (.closed (by simp [edge, Edge.parts]) mayClose) empty

theorem exists_iterations_of_run {result : Cursor × List (List Capture)}
    (matched : repetition.run entry = .matched result) :
    ∃ iterations, repetition.iterate 0 entry = .matched iterations ∧
      repetition.settle entry iterations = .matched result := by
  rw [run, guarded] at matched
  cases matchable : entry.requireMatchable with
  | error failure =>
      rw [matchable] at matched
      contradiction
  | ok =>
      cases found : repetition.iterate 0 entry with
      | matched iterations =>
          rw [matchable, found] at matched
          exact ⟨iterations, rfl, matched⟩
      | noMatch =>
          rw [matchable, found] at matched
          contradiction
      | failed failure =>
          rw [matchable, found] at matched
          contradiction

end TextMatch.Repetition
