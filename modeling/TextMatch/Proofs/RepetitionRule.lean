import TextMatch.Proofs.RepetitionEnds

/-!
# The rule for repetitions

The rule asks for a condition on cursors that the inner step and the first one keep.  It holds behind
every iteration found, and so the last step is tried only where it holds.
-/

namespace TextMatch.Repetition

open Outcome Step

variable {repetition : Repetition Step} {before after : Cursor → Prop}
variable {onFailure : Failure → Prop}

/-! ## The greedy phase -/

theorem leads_stepAfter
    (inner : repetition.inner.Leads before before onFailure)
    (first : ∀ step ∈ repetition.first.parts, step.Leads before before onFailure) (count : Nat) :
    (repetition.stepAfter count).Leads before before onFailure := by
  rw [stepAfter]
  by_cases isFirst : count = 0
  · simp only [isFirst, if_true]
    cases edge : repetition.first with
    | absent => exact inner
    | optional part =>
        have partLeads := first part (by simp [edge, Edge.parts])
        intro cursor holds
        exact Meets.orElse (partLeads cursor holds) (inner cursor holds)
    | required part => exact first part (by simp [edge, Edge.parts])
  · simpa only [isFirst, if_false] using inner

theorem meets_iterate
    (leads : ∀ count, (repetition.stepAfter count).Leads before before onFailure)
    (count : Nat) (cursor : Cursor) (holds : before cursor) :
    (repetition.iterate count cursor).Meets
      (fun iterations => ∀ iteration ∈ iterations, before iteration.1) onFailure := by
  fun_induction Repetition.iterate repetition count cursor with
  | case1 => simp
  | case2 count cursor notFull failure failed =>
      have stepMeets := leads count cursor holds
      rw [failed] at stepMeets
      exact stepMeets
  | case3 => simp
  | case4 count cursor notFull next matched advances inductionHypothesis =>
      have nextHolds := leads count cursor holds
      rw [matched] at nextHolds
      apply Meets.map
      apply (inductionHypothesis nextHolds).imp
      intro later laterHolds iteration member
      rcases List.mem_cons.mp member with rfl | member
      · exact nextHolds
      · exact laterHolds iteration member
  | case5 count cursor notFull next matched stays =>
      have nextHolds := leads count cursor holds
      rw [matched] at nextHolds
      intro iteration member
      rcases List.mem_cons.mp member with rfl | member
      · exact nextHolds
      · obtain rfl := List.eq_of_mem_replicate member
        exact nextHolds

theorem holds_cursorBehind {entry : Cursor} {iterations : List Iteration}
    (entryHolds : before entry) (holds : ∀ iteration ∈ iterations, before iteration.1) :
    before (cursorBehind entry iterations) := by
  rw [cursorBehind]
  cases latest : iterations.getLast? with
  | none => exact entryHolds
  | some iteration => exact holds iteration (List.mem_of_getLast? latest)

/-! ## The repetition -/

theorem meets_settle {entry : Cursor}
    (lastLeads : ∀ step ∈ repetition.last.parts, step.Leads before after onFailure)
    (stay : ∀ cursor, before cursor → after cursor) (entryHolds : before entry)
    {iterations : List Iteration} (holds : ∀ iteration ∈ iterations, before iteration.1) :
    (repetition.settle entry iterations).Meets (fun result => after result.1) onFailure := by
  have ends := ends_settle repetition entry iterations
  generalize repetition.settle entry iterations = outcome at ends
  cases ends with
  | empty _ =>
      rw [emptyMatch]
      by_cases enough : repetition.least = 0
      · simpa [enough] using stay entry entryHolds
      · simp [enough]
  | greedy _ =>
      rw [greedyMatch]
      by_cases tooFew : iterations.length < repetition.least
      · simp [tooFew]
      · simpa [tooFew] using stay _ (holds_cursorBehind entryHolds holds)
  | @closed last number member _ =>
      have behind : before (cursorBehind entry (iterations.take number)) :=
        holds_cursorBehind entryHolds fun iteration kept =>
          holds iteration (List.mem_of_mem_take kept)
      apply meets_closeAfter
      exact (lastLeads last member _ behind).imp fun _ reached _ => reached

theorem meets_run (refusals : RefusalsMeet before onFailure)
    (inner : repetition.inner.Leads before before onFailure)
    (first : ∀ step ∈ repetition.first.parts, step.Leads before before onFailure)
    (last : ∀ step ∈ repetition.last.parts, step.Leads before after onFailure)
    (stay : ∀ cursor, before cursor → after cursor) {cursor : Cursor} (holds : before cursor) :
    (repetition.run cursor).Meets (fun result => after result.1) onFailure := by
  apply meets_guarded (refusals cursor · holds)
  intro _
  apply Meets.bind (meets_iterate (leads_stepAfter inner first) 0 cursor holds)
  intro iterations iterationsHold
  exact meets_settle last stay holds iterationsHold

theorem leads_step (refusals : RefusalsMeet before onFailure)
    (inner : repetition.inner.Leads before before onFailure)
    (first : ∀ step ∈ repetition.first.parts, step.Leads before before onFailure)
    (last : ∀ step ∈ repetition.last.parts, step.Leads before after onFailure)
    (stay : ∀ cursor, before cursor → after cursor) :
    repetition.step.Leads before after onFailure :=
  fun _ holds => Meets.map (meets_run refusals inner first last stay holds)

end TextMatch.Repetition
