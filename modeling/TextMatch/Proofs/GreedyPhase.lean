import TextMatch.Proofs.StepEquations
import TextMatch.Proofs.TailGhosts

/-!
# The greedy phase of a repetition

The iterations that a repetition finds are those that its steps make one behind the other.  They end
where the next step does not match, where there are as many as there may be, or where one does not
advance: that one would come to the same for ever.  Made once more from the start, fewer steps come
to fewer of these iterations, and more steps come to nothing or to no more.
-/

namespace TextMatch

namespace Step

variable {step : Step} {cursor : Cursor} {captures : List Capture}

/-- A step that comes back to where it was made comes to the same for ever. -/
theorem follow_replicate (idles : step cursor = .matched (cursor, captures)) (number : Nat) :
    follow (List.replicate number step) cursor =
      .matched (cursor, (List.replicate number captures).flatten) := by
  induction number with
  | zero => rfl
  | succ number inductionHypothesis =>
      rw [List.replicate_succ, follow_cons_of_matched idles, inductionHypothesis,
        List.replicate_succ, List.flatten_cons, Outcome.map]

/-- From a ready cursor, a match advances. -/
def Advances (step : Step) : Prop :=
  ∀ cursor next captures, cursor.Ready → step cursor = .matched (next, captures) →
    cursor.position < next.position

theorem advances_codePoint (members : CodePointClass) : (codePoint members).Advances := by
  intro cursor next captures ready matched
  rw [codePoint_of_ready members ready] at matched
  cases decoded : cursor.view.decodeAt cursor.position with
  | none =>
      rw [decoded] at matched
      contradiction
  | some found =>
      obtain ⟨char, count⟩ := found
      have positive := (View.bounds_of_decodeAt decoded).2
      rw [decoded] at matched
      dsimp only at matched
      split at matched
      · obtain rfl : cursor.moved count = next :=
          congrArg Prod.fst (Outcome.matched.inj matched)
        rw [Cursor.position_moved (View.add_le_length_of_decodeAt decoded)]
        exact Nat.lt_add_of_pos_right positive
      · contradiction

theorem Advances.silent (advances : step.Advances) : step.silent.Advances := by
  intro cursor next captures ready matched
  obtain ⟨⟨same, inside⟩, found, silentEq⟩ := Outcome.exists_of_map_eq_matched matched
  obtain rfl : same = next := congrArg Prod.fst silentEq
  exact advances cursor same inside ready found

theorem Advances.recorded {step : Step} (advances : step.Advances) (built : step.Built)
    (name : String) : (recorded name step).Advances := by
  intro cursor next captures ready matched
  obtain ⟨node, recordedEq, -⟩ := built.recorded_of_ready name ready
  rw [recordedEq] at matched
  obtain ⟨⟨same, inside⟩, found, resultEq⟩ := Outcome.exists_of_map_eq_matched matched
  obtain rfl : same = next := congrArg Prod.fst resultEq
  exact advances cursor same inside ready found

end Step

namespace Repetition

variable {repetition : Repetition Step} {count number most : Nat} {cursor : Cursor}
variable {iteration : Iteration} {iterations : List Iteration}

/-! ## Iterations found -/

/-- The iterations that follow `count` others, with the reason why they end. -/
inductive Greedy (repetition : Repetition Step) : Nat → Cursor → List Iteration → Prop
  | full {count : Nat} {cursor : Cursor} :
      repetition.isFull count = true → Greedy repetition count cursor []
  | stuck {count : Nat} {cursor : Cursor} :
      repetition.stepAfter count cursor = .noMatch → Greedy repetition count cursor []
  | next {count : Nat} {cursor : Cursor} {iteration : Iteration} {later : List Iteration} :
      repetition.stepAfter count cursor = .matched iteration →
      Greedy repetition (count + 1) iteration.1 later →
      Greedy repetition count cursor (iteration :: later)
  | idle {count : Nat} {cursor : Cursor} {iteration : Iteration} :
      repetition.stepAfter count cursor = .matched iteration →
      ¬ iteration.1.remaining < cursor.remaining →
      Greedy repetition count cursor
        (iteration :: List.replicate (repetition.missing (count + 1)) iteration)

theorem greedy_of_iterate (found : repetition.iterate count cursor = .matched iterations) :
    Greedy repetition count cursor iterations := by
  fun_induction Repetition.iterate repetition count cursor generalizing iterations with
  | case1 count cursor full =>
      obtain rfl := Outcome.matched.inj found
      exact .full full
  | case2 => contradiction
  | case3 count cursor _ stuck =>
      obtain rfl := Outcome.matched.inj found
      exact .stuck stuck
  | case4 count cursor _ next matched _ inductionHypothesis =>
      obtain ⟨later, laterFound, rfl⟩ := Outcome.exists_of_map_eq_matched found
      exact .next matched (inductionHypothesis laterFound)
  | case5 count cursor _ next matched idles =>
      obtain rfl := Outcome.matched.inj found
      exact .idle matched idles

theorem missing_le (repetition : Repetition Step) (count : Nat) :
    repetition.missing count ≤ repetition.least - count := by
  rw [missing]
  cases repetition.most with
  | none => exact Nat.le_refl _
  | some most => exact Nat.sub_le_sub_right (Nat.min_le_left _ _) count

/-- The steps of the `number` iterations that follow `count` others. -/
def stepsAfter (repetition : Repetition Step) (count number : Nat) : List Step :=
  (List.range' count number).map repetition.stepAfter

theorem stepsAfter_succ (repetition : Repetition Step) (count number : Nat) :
    repetition.stepsAfter count (number + 1) =
      repetition.stepAfter count :: repetition.stepsAfter (count + 1) number := by
  rw [stepsAfter, List.range'_succ, List.map_cons, stepsAfter]

/-- Behind the first iteration all steps are alike. -/
theorem stepsAfter_succ_eq_replicate (repetition : Repetition Step) (count number : Nat) :
    repetition.stepsAfter (count + 1) number = List.replicate number repetition.inner := by
  induction number generalizing count with
  | zero => rfl
  | succ number inductionHypothesis =>
      rw [stepsAfter_succ, inductionHypothesis, List.replicate_succ]
      rfl

/-! ## Iterations made once more -/

/-- Where iterations that begin at `entry` lead, with the captures of all of them. -/
def trace (entry : Cursor) (iterations : List Iteration) : Cursor × List Capture :=
  (cursorBehind entry iterations, (iterations.map Prod.snd).flatten)

theorem trace_cons (entry : Cursor) (first : Iteration) (later : List Iteration) :
    trace entry (first :: later) =
      ((trace first.1 later).1, first.2 ++ (trace first.1 later).2) := by
  rw [trace, cursorBehind_cons]
  rfl

theorem trace_replicate {captures : List Capture} (entry : Cursor) (number : Nat) :
    trace entry (List.replicate number (entry, captures)) =
      (entry, (List.replicate number captures).flatten) := by
  induction number with
  | zero => rfl
  | succ number inductionHypothesis =>
      rw [List.replicate_succ, trace_cons, inductionHypothesis, List.replicate_succ,
        List.flatten_cons]

/-- Iterations that come back to where they begin lead nowhere. -/
theorem cursorBehind_replicate {captures : List Capture} (entry : Cursor) (number : Nat) :
    cursorBehind entry (List.replicate number (entry, captures)) = entry :=
  congrArg Prod.fst (trace_replicate entry number)

/-- What an iteration uses is a step like any other. -/
theorem built_stepAfter (built : ∀ step ∈ repetition.parts, step.Built) (count : Nat) :
    (repetition.stepAfter count).Built := by
  have inner := built repetition.inner repetition.inner_mem_parts
  rw [stepAfter]
  by_cases isFirst : count = 0
  · simp only [isFirst, if_true]
    cases edge : repetition.first with
    | absent => exact inner
    | optional part =>
        have first := built part (mem_parts_of_first (by simp [edge, Edge.parts]))
        dsimp only
        rw [first.orElse_eq_firstOf repetition.inner]
        exact .firstOf (by simpa using ⟨first, inner⟩)
    | required part => exact built part (mem_parts_of_first (by simp [edge, Edge.parts]))
  · simpa only [isFirst, if_false] using inner

/-- What lets iterations be made once more: no part fails, none but the last leaves a ghost, and a
first part of its own advances. -/
structure Retraceable (repetition : Repetition Step) : Prop where
  neverFails : ∀ step ∈ repetition.parts, step.NeverFails
  inner : repetition.inner.KeepsReady
  first : ∀ step ∈ repetition.first.parts, step.KeepsReady
  advances : ∀ step ∈ repetition.first.parts, step.Advances

namespace Retraceable

theorem leads_stepAfter (retraceable : repetition.Retraceable) (count : Nat) :
    (repetition.stepAfter count).Leads Cursor.Ready Cursor.Ready fun _ => False := by
  apply Repetition.leads_stepAfter
  · exact retraceable.inner.and_neverFails (retraceable.neverFails _ repetition.inner_mem_parts)
  · intro step member
    exact (retraceable.first step member).and_neverFails
      (retraceable.neverFails step (mem_parts_of_first member))

theorem ready_of_stepAfter (retraceable : repetition.Retraceable) (ready : cursor.Ready)
    (matched : repetition.stepAfter count cursor = .matched iteration) : iteration.1.Ready :=
  (retraceable.leads_stepAfter count cursor ready).of_matched matched

/-- The greedy phase comes to an end. -/
theorem exists_iterate (retraceable : repetition.Retraceable) (ready : cursor.Ready)
    (count : Nat) : ∃ iterations, repetition.iterate count cursor = .matched iterations := by
  fun_induction Repetition.iterate repetition count cursor with
  | case1 => exact ⟨_, rfl⟩
  | case2 count cursor _ failure failed =>
      exact ((retraceable.leads_stepAfter count cursor ready).of_failed failed).elim
  | case3 => exact ⟨_, rfl⟩
  | case4 count cursor _ next matched _ inductionHypothesis =>
      obtain ⟨later, found⟩ := inductionHypothesis (retraceable.ready_of_stepAfter ready matched)
      rw [found]
      exact ⟨_, rfl⟩
  | case5 => exact ⟨_, rfl⟩

/-- An iteration that does not advance is one of the repeated part. -/
theorem inner_of_idle (retraceable : repetition.Retraceable) (ready : cursor.Ready)
    (matched : repetition.stepAfter count cursor = .matched (cursor, iteration.2)) :
    repetition.inner cursor = .matched (cursor, iteration.2) := by
  have never : ∀ part ∈ repetition.first.parts, part cursor ≠ .matched (cursor, iteration.2) :=
    fun part member same =>
      Nat.lt_irrefl _ (retraceable.advances part member _ _ _ ready same)
  rw [stepAfter] at matched
  by_cases isFirst : count = 0
  · simp only [isFirst, if_true] at matched
    cases edge : repetition.first with
    | absent => simpa only [edge] using matched
    | required part =>
        rw [edge] at matched
        exact absurd matched (never part (by simp [edge, Edge.parts]))
    | optional part =>
        rw [edge] at matched
        dsimp only at matched
        cases outcome : part cursor with
        | noMatch => simpa only [outcome, Outcome.orElse] using matched
        | failed failure =>
            rw [outcome] at matched
            contradiction
        | matched result =>
            rw [outcome] at matched
            exact absurd (outcome.trans matched) (never part (by simp [edge, Edge.parts]))
  · simpa only [isFirst, if_false] using matched

/-- An iteration that does not advance stays where it is, and so do those of the repeated part. -/
theorem idle (retraceable : repetition.Retraceable)
    (built : ∀ step ∈ repetition.parts, step.Built) (ready : cursor.Ready)
    (matched : repetition.stepAfter count cursor = .matched iteration)
    (idles : ¬ iteration.1.remaining < cursor.remaining) :
    iteration = (cursor, iteration.2) ∧
      repetition.inner cursor = .matched (cursor, iteration.2) := by
  have same : iteration.1 = cursor :=
    ((built_stepAfter built count).reached_of_matched ready matched).eq_of_remaining ready idles
  have iterationEq : iteration = (cursor, iteration.2) := by
    rw [← same]
  rw [iterationEq] at matched
  exact ⟨iterationEq, retraceable.inner_of_idle ready matched⟩

/-- Fewer steps come to fewer iterations. -/
theorem follow_take (retraceable : repetition.Retraceable)
    (built : ∀ step ∈ repetition.parts, step.Built)
    (greedy : Greedy repetition count cursor iterations) (ready : cursor.Ready)
    (fewer : number ≤ iterations.length) :
    Step.follow (repetition.stepsAfter count number) cursor =
      .matched (trace cursor (iterations.take number)) := by
  induction greedy generalizing number with
  | full =>
      obtain rfl := Nat.le_zero.mp fewer
      rfl
  | stuck =>
      obtain rfl := Nat.le_zero.mp fewer
      rfl
  | @next count cursor iteration later matched _ inductionHypothesis =>
      cases number with
      | zero => rfl
      | succ number =>
          have further := inductionHypothesis (retraceable.ready_of_stepAfter ready matched)
            (Nat.le_of_succ_le_succ fewer)
          rw [List.take_succ_cons, trace_cons, stepsAfter_succ, Step.follow_cons_of_matched matched,
            further, Outcome.map]
  | @idle count cursor iteration matched idles =>
      cases number with
      | zero => rfl
      | succ number =>
          obtain ⟨iterationEq, again⟩ := retraceable.idle built ready matched idles
          rw [List.take_succ_cons, List.take_replicate,
            Nat.min_eq_left (by simpa using fewer), trace_cons, stepsAfter_succ,
            stepsAfter_succ_eq_replicate, iterationEq, trace_replicate]
          rw [iterationEq] at matched
          rw [Step.follow_cons_of_matched matched, Step.follow_replicate again, Outcome.map]

/-- More steps do not match, or come to where the iterations found have led: then the repeated part
matches without advancing, and the iterations found are as many as there must be. -/
theorem follow_beyond (retraceable : repetition.Retraceable)
    (built : ∀ step ∈ repetition.parts, step.Built)
    (greedy : Greedy repetition count cursor iterations) (ready : cursor.Ready)
    (bounded : repetition.most = some most) (more : iterations.length < number)
    (within : count + number ≤ most) :
    Step.follow (repetition.stepsAfter count number) cursor = .noMatch ∨
      (∃ captures, Step.follow (repetition.stepsAfter count number) cursor =
          .matched (cursorBehind cursor iterations, captures)) ∧
        ¬ repetition.inner.Advances ∧ iterations ≠ [] ∧
        repetition.least ≤ count + iterations.length := by
  obtain ⟨number, rfl⟩ := Nat.exists_eq_succ_of_ne_zero (Nat.ne_zero_of_lt more)
  rw [Nat.succ_eq_add_one, stepsAfter_succ]
  induction greedy generalizing number with
  | @full count cursor full =>
      simp only [isFull, bounded, decide_eq_true_eq] at full
      omega
  | @stuck count cursor stuck =>
      exact .inl (Step.follow_cons_of_noMatch stuck)
  | @next count cursor iteration later matched _ inductionHypothesis =>
      rw [List.length_cons] at more
      obtain ⟨number, rfl⟩ : ∃ before, number = before + 1 :=
        Nat.exists_eq_succ_of_ne_zero (by omega)
      have further := inductionHypothesis (retraceable.ready_of_stepAfter ready matched) number
        (by omega) (by omega)
      rw [← stepsAfter_succ] at further
      rw [Step.follow_cons_of_matched matched]
      rcases further with stuck | ⟨⟨captures, same⟩, idles, -, enough⟩
      · left
        rw [stuck]
        rfl
      · right
        rw [same, cursorBehind_cons, List.length_cons]
        exact ⟨⟨_, rfl⟩, idles, List.cons_ne_nil _ _, by omega⟩
  | @idle count cursor iteration matched idles =>
      right
      obtain ⟨iterationEq, again⟩ := retraceable.idle built ready matched idles
      refine ⟨⟨iteration.2 ++ (List.replicate number iteration.2).flatten, ?_⟩, ?_,
        List.cons_ne_nil _ _, ?_⟩
      · rw [← List.replicate_succ, iterationEq, cursorBehind_replicate]
        rw [iterationEq] at matched
        rw [Step.follow_cons_of_matched matched, stepsAfter_succ_eq_replicate,
          Step.follow_replicate again, Outcome.map]
      · exact fun advances => Nat.lt_irrefl _ (advances _ _ _ ready again)
      · simp only [List.length_cons, List.length_replicate, missing, bounded] at more ⊢
        omega

theorem silent (retraceable : repetition.Retraceable) :
    (repetition.map Step.silent).Retraceable where
  neverFails := by
    rw [parts_map, List.forall_mem_map]
    exact fun step member => (retraceable.neverFails step member).silent
  inner := Step.Leads.silent retraceable.inner
  first := by
    rw [map, Edge.parts_map, List.forall_mem_map]
    exact fun step member => Step.Leads.silent (retraceable.first step member)
  advances := by
    rw [map, Edge.parts_map, List.forall_mem_map]
    exact fun step member => (retraceable.advances step member).silent

end Retraceable

end Repetition

end TextMatch
