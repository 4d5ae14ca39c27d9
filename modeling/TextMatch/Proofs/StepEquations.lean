import TextMatch.Proofs.ReadySteps

/-!
# Equations of steps

What sequences, choices and options come to, by what their parts come to.  A part refuses a cursor at
which matching may not go on, as the whole does, so that the guard of the whole may be left out where
it has a first part.
-/

namespace TextMatch

namespace Step

variable {step : Step} {steps rest : List Step} {cursor : Cursor} {captures : List Capture}

/-- Guarded attempts are the same if they come to the same wherever matching may go on. -/
theorem guarded_congr {alpha : Type} {attempt attempt' : Cursor → Outcome alpha}
    (same : ∀ cursor, cursor.requireMatchable = .ok () → attempt cursor = attempt' cursor) :
    guarded attempt = guarded attempt' := by
  funext cursor
  cases matchable : cursor.requireMatchable with
  | error failure => rw [guarded_of_refused matchable, guarded_of_refused matchable]
  | ok =>
      rw [guarded_of_matchable attempt matchable, guarded_of_matchable attempt' matchable,
        same cursor matchable]

/-! ## Steps one behind the other -/

theorem follow_cons_of_noMatch (stuck : step cursor = .noMatch) :
    follow (step :: rest) cursor = .noMatch := by
  rw [follow, stuck]
  rfl

theorem follow_cons_of_failed {failure : Failure} (failed : step cursor = .failed failure) :
    follow (step :: rest) cursor = .failed failure := by
  rw [follow, failed]
  rfl

theorem follow_cons_of_matched {middle : Cursor × List Capture}
    (matched : step cursor = .matched middle) :
    follow (step :: rest) cursor =
      (follow rest middle.1).map fun next => (next.1, middle.2 ++ next.2) := by
  rw [follow, matched]
  exact bind_pure_comp (fun next => (next.1, middle.2 ++ next.2)) (follow rest middle.1)

theorem follow_singleton (step : Step) (cursor : Cursor) :
    follow [step] cursor = step cursor := by
  cases outcome : step cursor with
  | noMatch => exact follow_cons_of_noMatch outcome
  | failed failure => exact follow_cons_of_failed outcome
  | matched next =>
      rw [follow_cons_of_matched outcome, follow, Outcome.map, List.append_nil]

theorem follow_append (front back : List Step) (cursor : Cursor) :
    follow (front ++ back) cursor =
      (follow front cursor).bind fun middle =>
        (follow back middle.1).map fun next => (next.1, middle.2 ++ next.2) := by
  induction front generalizing cursor with
  | nil =>
      rw [List.nil_append, follow, Outcome.bind]
      cases follow back cursor <;> rfl
  | cons step rest inductionHypothesis =>
      rw [List.cons_append]
      cases outcome : step cursor with
      | noMatch =>
          rw [follow_cons_of_noMatch outcome, follow_cons_of_noMatch outcome, Outcome.bind]
      | failed failure =>
          rw [follow_cons_of_failed outcome, follow_cons_of_failed outcome, Outcome.bind]
      | matched middle =>
          rw [follow_cons_of_matched outcome, follow_cons_of_matched outcome, inductionHypothesis]
          cases follow rest middle.1 with
          | noMatch => rfl
          | failed failure => rfl
          | matched further =>
              simp only [Outcome.map, Outcome.bind]
              cases follow back further.1 with
              | noMatch => rfl
              | failed failure => rfl
              | matched next => simp only [List.append_assoc]

theorem Built.sequence_cons (built : step.Built) (rest : List Step) (cursor : Cursor) :
    Step.sequence (step :: rest) cursor = follow (step :: rest) cursor := by
  apply guarded_of_refusing
  intro failure refused
  exact follow_cons_of_failed (built.eq_failed refused)

/-! ## Steps in turn -/

theorem choose_singleton (step : Step) (cursor : Cursor) : choose [step] cursor = step cursor := by
  rw [choose]
  cases step cursor <;> rfl

theorem choose_append (front back : List Step) (cursor : Cursor) :
    choose (front ++ back) cursor = (choose front cursor).orElse fun _ => choose back cursor := by
  induction front with
  | nil => rfl
  | cons step rest inductionHypothesis =>
      rw [List.cons_append, choose, choose, inductionHypothesis]
      cases step cursor <;> rfl

theorem choose_of_noMatch (stuck : ∀ step ∈ steps, step cursor = .noMatch) :
    choose steps cursor = .noMatch := by
  induction steps with
  | nil => rfl
  | cons step rest inductionHypothesis =>
      rw [choose, stuck step List.mem_cons_self]
      exact inductionHypothesis fun later member => stuck later (List.mem_cons_of_mem step member)

theorem Built.firstOf_cons (built : step.Built) (rest : List Step) (cursor : Cursor) :
    Step.firstOf (step :: rest) cursor = choose (step :: rest) cursor := by
  apply guarded_of_refusing
  intro failure refused
  rw [choose, built.eq_failed refused, Outcome.orElse]

/-- Two steps in turn are a choice between them. -/
theorem Built.orElse_eq_firstOf (built : step.Built) (other : Step) :
    (fun cursor => (step cursor).orElse fun _ => other cursor) = Step.firstOf [step, other] := by
  funext cursor
  rw [built.firstOf_cons, choose, choose_singleton]

theorem Built.optional_eq (built : step.Built) (cursor : Cursor) :
    Step.optional step cursor = (step cursor).orElse fun _ => .matched (cursor, []) := by
  apply guarded_of_refusing
  intro failure refused
  rw [built.eq_failed refused, Outcome.orElse]

end Step

end TextMatch
