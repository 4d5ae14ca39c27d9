import TextMatch.Proofs.StepEquations
import TextMatch.Proofs.SyntaxInduction

/-!
# Laws of sequences, choices and options

A sequence inside a sequence and a choice inside a choice may be written out, a choice at the end of a
sequence may be made first, and an option is a choice between its part and nothing.  Each law holds
of matches with their captures, of mismatches and of failures, at every cursor.
-/

namespace TextMatch

namespace Step

variable {step : Step} {steps parts choices : List Step} {cursor : Cursor}

/-! ## Sequences -/

theorem follow_inside {parts' : List Step} (same : follow parts = follow parts')
    (before behind : List Step) :
    follow (before ++ parts ++ behind) = follow (before ++ parts' ++ behind) := by
  funext cursor
  rw [follow_append, follow_append before, same, ← follow_append before, ← follow_append]

theorem sequence_inside (before behind : List Step) (nonempty : parts ≠ [])
    (built : ∀ part ∈ parts, part.Built) :
    sequence (before ++ [sequence parts] ++ behind) = sequence (before ++ parts ++ behind) := by
  have same : follow [sequence parts] = follow parts := by
    funext cursor
    rw [follow_singleton]
    cases parts with
    | nil => contradiction
    | cons part rest => exact (built part List.mem_cons_self).sequence_cons rest cursor
  exact congrArg guarded (follow_inside same before behind)

/-! ## Choices -/

theorem firstOf_inside (before choices behind : List Step) :
    firstOf (before ++ [firstOf choices] ++ behind) = firstOf (before ++ choices ++ behind) := by
  apply guarded_congr
  intro cursor matchable
  have same : choose [firstOf choices] cursor = choose choices cursor := by
    rw [choose_singleton, firstOf, guarded_of_matchable _ matchable]
  rw [choose_append, choose_append before, same, ← choose_append before, ← choose_append]

/-- Choices that all go on alike from what the parts come to are one choice that goes on so. -/
theorem choose_map {continued : Step → Step} {middle : Cursor}
    {change : Cursor × List Capture → Cursor × List Capture}
    (goesOn : ∀ step ∈ steps, continued step cursor = (step middle).map change) :
    choose (steps.map continued) cursor = (choose steps middle).map change := by
  induction steps with
  | nil => rfl
  | cons step rest inductionHypothesis =>
      have behind := inductionHypothesis fun later member =>
        goesOn later (List.mem_cons_of_mem step member)
      rw [List.map_cons, choose, choose, goesOn step List.mem_cons_self, behind, Outcome.map_orElse]

/-- A choice at the end of a sequence: to make it first is to go through what stands before it again
for every alternative, which comes to the same every time. -/
theorem sequence_firstOf (before : List Step) (nonempty : choices ≠ [])
    (built : ∀ choice ∈ choices, choice.Built) :
    sequence (before ++ [firstOf choices]) =
      firstOf (choices.map fun choice => sequence (before ++ [choice])) := by
  apply guarded_congr
  intro cursor matchable
  have each : ∀ choice : Step, sequence (before ++ [choice]) cursor =
      (follow before cursor).bind fun middle =>
        (choice middle.1).map fun next => (next.1, middle.2 ++ next.2) := by
    intro choice
    rw [sequence, guarded_of_matchable _ matchable, follow_append]
    simp only [follow_singleton]
  rw [follow_append]
  simp only [follow_singleton]
  cases choices with
  | nil => contradiction
  | cons first rest =>
      cases front : follow before cursor with
      | noMatch =>
          rw [front] at each
          rw [choose_of_noMatch, Outcome.bind]
          exact List.forall_mem_map.mpr fun choice _ => each choice
      | failed failure =>
          rw [List.map_cons, choose, each, front]
          rfl
      | matched middle =>
          rw [front] at each
          have chosen := (built first List.mem_cons_self).firstOf_cons rest middle.1
          rw [choose_map fun choice _ => each choice, Outcome.bind, chosen]

/-! ## Options -/

theorem optional_eq_firstOf (step : Step) : optional step = firstOf [step, sequence []] := by
  apply guarded_congr
  intro cursor matchable
  rw [choose, choose_singleton, sequence, guarded_of_matchable _ matchable, follow]

theorem Built.optional_eq_failed_iff (built : step.Built) {failure : Failure} :
    Step.optional step cursor = .failed failure ↔ step cursor = .failed failure := by
  rw [built.optional_eq]
  cases step cursor <;> simp [Outcome.orElse]

theorem Built.optional_ne_noMatch (built : step.Built) (cursor : Cursor) :
    Step.optional step cursor ≠ .noMatch := by
  rw [built.optional_eq]
  cases step cursor <;> simp [Outcome.orElse]

/-! ## Forgetting captures -/

theorem silent_silent (step : Step) : step.silent.silent = step.silent := by
  funext cursor
  rw [silent, silent]
  cases step cursor <;> rfl

theorem silent_guarded (attempt : Step) : silent (guarded attempt) = guarded attempt.silent := by
  funext cursor
  rw [silent]
  cases matchable : cursor.requireMatchable with
  | error failure => rw [guarded_of_refused matchable, guarded_of_refused matchable, Outcome.map]
  | ok => rw [guarded_of_matchable _ matchable, guarded_of_matchable _ matchable, silent]

theorem silent_follow (steps : List Step) : silent (follow steps) = follow (steps.map silent) := by
  funext cursor
  induction steps generalizing cursor with
  | nil => rfl
  | cons step rest inductionHypothesis =>
      rw [silent, List.map_cons]
      cases outcome : step cursor with
      | noMatch =>
          have silenced : step.silent cursor = .noMatch := by rw [silent, outcome, Outcome.map]
          rw [follow_cons_of_noMatch outcome, follow_cons_of_noMatch silenced, Outcome.map]
      | failed failure =>
          have silenced : step.silent cursor = .failed failure := by
            rw [silent, outcome, Outcome.map]
          rw [follow_cons_of_failed outcome, follow_cons_of_failed silenced, Outcome.map]
      | matched middle =>
          have silenced : step.silent cursor = .matched (middle.1, []) := by
            rw [silent, outcome, Outcome.map]
          rw [follow_cons_of_matched outcome, follow_cons_of_matched silenced,
            ← inductionHypothesis, silent]
          cases follow rest middle.1 <;> rfl

theorem silent_choose (steps : List Step) : silent (choose steps) = choose (steps.map silent) := by
  funext cursor
  induction steps with
  | nil => rfl
  | cons step rest inductionHypothesis =>
      rw [List.map_cons, choose, ← inductionHypothesis, silent, choose, Outcome.map_orElse]
      rfl

theorem silent_sequence (steps : List Step) :
    silent (sequence steps) = sequence (steps.map silent) := by
  rw [sequence, silent_guarded, silent_follow]
  rfl

theorem silent_firstOf (steps : List Step) :
    silent (firstOf steps) = firstOf (steps.map silent) := by
  rw [firstOf, silent_guarded, silent_choose]
  rfl

theorem silent_optional (step : Step) : silent (optional step) = optional step.silent := by
  rw [optional, silent_guarded]
  apply guarded_congr
  intro cursor _
  rw [silent, Outcome.map_orElse]
  rfl

end Step

/-! ## Matchers and patterns -/

/-- The laws of sequences, choices and options, of descriptions that are tried by `attempt`. -/
structure CombinatorLaws {alpha beta : Type} (attempt : alpha → Cursor → Outcome beta)
    (sequence firstOf : List alpha → alpha) (optional : alpha → alpha) : Prop where
  /-- A sequence inside a sequence may be written out, unless it has no parts. -/
  sequence_inside : ∀ before parts behind, parts ≠ [] →
    attempt (sequence (before ++ [sequence parts] ++ behind)) =
      attempt (sequence (before ++ parts ++ behind))
  /-- A choice inside a choice may be written out. -/
  firstOf_inside : ∀ before choices behind,
    attempt (firstOf (before ++ [firstOf choices] ++ behind)) =
      attempt (firstOf (before ++ choices ++ behind))
  /-- The choice at the end of a sequence may be made first, unless it has no alternatives. -/
  sequence_firstOf : ∀ before choices, choices ≠ [] →
    attempt (sequence (before ++ [firstOf choices])) =
      attempt (firstOf (choices.map fun choice => sequence (before ++ [choice])))
  optional_eq_firstOf : ∀ inner, attempt (optional inner) = attempt (firstOf [inner, sequence []])
  optional_eq_failed_iff : ∀ inner cursor failure,
    attempt (optional inner) cursor = .failed failure ↔ attempt inner cursor = .failed failure
  optional_ne_noMatch : ∀ inner cursor, attempt (optional inner) cursor ≠ .noMatch

namespace CombinatorLaws

variable {alpha beta gamma : Type} {sequence firstOf : List alpha → alpha}
variable {optional : alpha → alpha}

/-- Descriptions whose sequences, choices and options stand for those of steps obey the laws. -/
theorem of_steps {attempt : alpha → Step} (built : ∀ inner, (attempt inner).Built)
    (onSequence : ∀ parts, attempt (sequence parts) = Step.sequence (parts.map attempt))
    (onFirstOf : ∀ choices, attempt (firstOf choices) = Step.firstOf (choices.map attempt))
    (onOptional : ∀ inner, attempt (optional inner) = Step.optional (attempt inner)) :
    CombinatorLaws attempt sequence firstOf optional where
  sequence_inside before parts behind nonempty := by
    have written := Step.sequence_inside (before.map attempt) (behind.map attempt)
      (mt List.map_eq_nil_iff.mp nonempty) (List.forall_mem_map.mpr fun part _ => built part)
    simpa only [onSequence, List.map_append, List.map_cons, List.map_nil] using written
  firstOf_inside before choices behind := by
    have written :=
      Step.firstOf_inside (before.map attempt) (choices.map attempt) (behind.map attempt)
    simpa only [onFirstOf, List.map_append, List.map_cons, List.map_nil] using written
  sequence_firstOf before choices nonempty := by
    have made := Step.sequence_firstOf (before.map attempt)
      (mt List.map_eq_nil_iff.mp nonempty) (List.forall_mem_map.mpr fun choice _ => built choice)
    simpa only [onSequence, onFirstOf, List.map_append, List.map_cons, List.map_nil, List.map_map,
      Function.comp_def] using made
  optional_eq_firstOf inner := by
    simpa only [onSequence, onFirstOf, onOptional, List.map_cons, List.map_nil] using
      Step.optional_eq_firstOf (attempt inner)
  optional_eq_failed_iff inner cursor failure := by
    rw [onOptional]
    exact (built inner).optional_eq_failed_iff
  optional_ne_noMatch inner cursor := by
    rw [onOptional]
    exact (built inner).optional_ne_noMatch cursor

/-- The laws hold of a part of the results. -/
theorem map {attempt : alpha → Cursor → Outcome beta}
    (laws : CombinatorLaws attempt sequence firstOf optional) (change : beta → gamma) :
    CombinatorLaws (fun inner cursor => (attempt inner cursor).map change)
      sequence firstOf optional where
  sequence_inside before parts behind nonempty := by
    rw [laws.sequence_inside before parts behind nonempty]
  firstOf_inside before choices behind := by
    rw [laws.firstOf_inside before choices behind]
  sequence_firstOf before choices nonempty := by
    rw [laws.sequence_firstOf before choices nonempty]
  optional_eq_firstOf inner := by
    rw [laws.optional_eq_firstOf inner]
  optional_eq_failed_iff inner cursor failure := by
    rw [Outcome.map_eq_failed_iff, Outcome.map_eq_failed_iff]
    exact laws.optional_eq_failed_iff inner cursor failure
  optional_ne_noMatch inner cursor := by
    rw [Ne, Outcome.map_eq_noMatch_iff]
    exact laws.optional_ne_noMatch inner cursor

end CombinatorLaws

theorem Matcher.run_eq_map_silent (matcher : Matcher) (cursor : Cursor) :
    matcher.run cursor = (matcher.step.silent cursor).map Prod.fst := by
  rw [Matcher.run, Step.silent]
  cases matcher.step cursor <;> rfl

/-- What a matcher records does not matter to the matchers around it, so that their steps are as
good as sequences, choices and options of steps that record nothing. -/
theorem Matcher.laws_silent_step :
    CombinatorLaws (fun matcher => matcher.step.silent) Matcher.sequence Matcher.firstOf
      Matcher.optional := by
  apply CombinatorLaws.of_steps
  · exact fun matcher => .silent matcher.built_step
  · intro parts
    rw [Matcher.step, Step.silent_silent, Step.silent_sequence, Matcher.steps_eq_map, List.map_map]
    rfl
  · intro choices
    rw [Matcher.step, Step.silent_silent, Step.silent_firstOf, Matcher.steps_eq_map, List.map_map]
    rfl
  · intro inner
    rw [Matcher.step, Step.silent_silent, Step.silent_optional]

theorem Pattern.laws_step :
    CombinatorLaws Pattern.step Pattern.sequence Pattern.firstOf Pattern.optional := by
  apply CombinatorLaws.of_steps
  · exact Pattern.built_step
  · exact Pattern.step_sequence
  · exact Pattern.step_firstOf
  · intro inner
    rw [Pattern.step]

/-- Sequences, choices and options obey the laws at every cursor, those of matchers and, captures
included, those of patterns. -/
theorem combinators_obey_laws :
    CombinatorLaws Matcher.run Matcher.sequence Matcher.firstOf Matcher.optional ∧
      CombinatorLaws Pattern.step Pattern.sequence Pattern.firstOf Pattern.optional := by
  have run : Matcher.run = fun matcher cursor => (matcher.step.silent cursor).map Prod.fst :=
    funext fun matcher => funext fun cursor => matcher.run_eq_map_silent cursor
  rw [run]
  exact ⟨Matcher.laws_silent_step.map Prod.fst, Pattern.laws_step⟩

/-- A sequence without parts may not be left out: it refuses a cursor behind a ghost. -/
example :
    let ghost := Matcher.ghost (.codePoint .any)
    let cursor := Cursor.fresh (View.ofString "a") 0
    (Matcher.sequence [ghost]).run cursor = .matched { cursor with position := 1 } ∧
      (Matcher.sequence [ghost, .sequence []]).run cursor = .failed (.matchAfterGhost 0 1) := by
  decide +kernel

end TextMatch
