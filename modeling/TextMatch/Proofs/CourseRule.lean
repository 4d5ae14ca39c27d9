import TextMatch.Proofs.ReadySteps

/-!
# Courses of matches

A course says how the captures of a match lie between the cursor where it began and the one where it
ended.  A relation that survives putting matches one behind the other, and putting a group around a
match, holds of everything that a matcher or a pattern does.
-/

namespace TextMatch

open Outcome (Meets)

/-- What may be known of a match from its two cursors and its captures. -/
structure Course where
  holds : Cursor → Cursor → List Capture → Prop
  /-- It holds where nothing was recorded. -/
  bare : ∀ {start finish}, start.Ready → start.Reached finish → holds start finish []
  /-- It goes on from match to match. -/
  join : ∀ {start middle finish front back}, start.Ready → start.Reached middle →
    middle.Ready → middle.Reached finish → holds start middle front → holds middle finish back →
    holds start finish (front ++ back)
  /-- A match that went nowhere may be counted again. -/
  again : ∀ {start finish captures}, start.Ready → start.Reached finish →
    finish.position = start.position → holds start finish captures →
    holds finish finish captures
  /-- It holds of a group if it holds of what is inside. -/
  node : ∀ {start finish capture}, start.Ready → start.Reached finish →
    capture.Spans start.view start.position finish.captureEnd finish.position →
    holds start finish capture.children → holds start finish [capture]

namespace Course

variable {course : Course} {step : Step} {start cursor : Cursor}

/-- A match stays on course. -/
def Kept (course : Course) (start : Cursor) (result : Cursor × List Capture) : Prop :=
  start.Reached result.1 ∧ course.holds start result.1 result.2

/-- A step stays on course wherever matching may go on. -/
def Steps (course : Course) (step : Step) : Prop :=
  ∀ cursor, cursor.Ready → (step cursor).Meets (course.Kept cursor) fun _ => True

theorem Kept.join {front back : List Capture} {middle finish : Cursor} (ready : start.Ready)
    (first : course.Kept start (middle, front)) (middleReady : middle.Ready)
    (second : course.Kept middle (finish, back)) :
    course.Kept start (finish, front ++ back) :=
  ⟨first.1.trans second.1,
    course.join ready first.1 middleReady second.1 first.2 second.2⟩

theorem kept_stay (ready : start.Ready) : course.Kept start (start, []) :=
  ⟨ready.reached, course.bare ready ready.reached⟩

/-- Steps that record nothing stay on course. -/
theorem steps_of_bare (built : step.Built) (bare : step.Bare) : course.Steps step := by
  intro cursor ready
  have reached := built.orderly cursor cursor ready.reached
  have records := bare cursor
  cases outcome : step cursor with
  | matched result =>
      rw [outcome] at reached records
      obtain ⟨next, captures⟩ := result
      obtain rfl : captures = [] := records
      exact ⟨reached, course.bare ready reached⟩
  | noMatch => trivial
  | failed failure => trivial

/-- Behind a match there is a ready cursor, or every step fails. -/
theorem meets_next (built : step.Built) (steps : course.Steps step) (ordered : cursor.Ordered) :
    (step cursor).Meets (fun result => cursor.Ready ∧ course.Kept cursor result)
      fun _ => True := by
  cases matchable : cursor.requireMatchable with
  | error failure =>
      rw [built.eq_failed matchable]
      trivial
  | ok =>
      have ready := ordered.ready_of_requireMatchable matchable
      exact (steps cursor ready).imp fun _ kept => ⟨ready, kept⟩

/-! ## Steps built from steps -/

theorem meets_follow {steps : List Step} (built : ∀ step ∈ steps, step.Built)
    (every : ∀ step ∈ steps, course.Steps step) (ready : cursor.Ready) :
    (Step.follow steps cursor).Meets (course.Kept cursor) fun _ => True := by
  induction steps generalizing cursor with
  | nil => exact kept_stay ready
  | cons step rest inductionHypothesis =>
      apply Meets.bind (every step List.mem_cons_self cursor ready)
      rintro ⟨middle, captures⟩ kept
      cases matchable : middle.requireMatchable with
      | ok =>
          have middleReady := kept.1.ordered.ready_of_requireMatchable matchable
          apply Meets.bind (inductionHypothesis
            (fun later member => built later (List.mem_cons_of_mem step member))
            (fun later member => every later (List.mem_cons_of_mem step member)) middleReady)
          rintro ⟨next, more⟩ further
          exact kept.join ready middleReady further
      | error failure =>
          -- Behind a ghost only the end of the sequence is left.
          cases rest with
          | nil =>
              change course.Kept cursor (middle, captures ++ [])
              rw [List.append_nil]
              exact kept
          | cons next others =>
              have refused := (built next (by simp)).eq_failed matchable
              simp only [Step.follow, refused]
              trivial

theorem steps_sequence {steps : List Step} (built : ∀ step ∈ steps, step.Built)
    (every : ∀ step ∈ steps, course.Steps step) : course.Steps (Step.sequence steps) := by
  intro cursor ready
  rw [Step.sequence, Step.guarded_of_ready _ ready]
  exact meets_follow built every ready

theorem steps_firstOf {steps : List Step} (every : ∀ step ∈ steps, course.Steps step) :
    course.Steps (Step.firstOf steps) := by
  intro cursor ready
  rw [Step.firstOf, Step.guarded_of_ready _ ready]
  induction steps with
  | nil => trivial
  | cons step rest inductionHypothesis =>
      have restMeets := inductionHypothesis fun later member =>
        every later (List.mem_cons_of_mem step member)
      exact Meets.orElse (every step List.mem_cons_self cursor ready) restMeets

theorem steps_optional (inner : course.Steps step) : course.Steps step.optional := by
  intro cursor ready
  rw [Step.optional, Step.guarded_of_ready _ ready]
  exact Meets.orElse (inner cursor ready) (kept_stay ready)

theorem steps_recorded (name : String) (built : step.Built) (inner : course.Steps step) :
    course.Steps (Step.recorded name step) := by
  intro cursor ready
  obtain ⟨node, recordedEq, records⟩ := built.recorded_of_ready name ready
  have kept := inner cursor ready
  rw [recordedEq]
  cases outcome : step cursor with
  | matched result =>
      rw [outcome] at kept
      obtain ⟨-, childrenEq, spans⟩ := records result outcome
      have holds : course.holds cursor result.1 (node result).children := childrenEq ▸ kept.2
      exact ⟨kept.1, course.node ready kept.1 spans holds⟩
  | noMatch => trivial
  | failed failure => trivial

/-! ## Repetitions -/

open Repetition (cursorBehind)

/-- Every iteration stays on course from the one before it. -/
inductive Trail (course : Course) : Cursor → List Iteration → Prop
  | nil (start : Cursor) : Trail course start []
  | cons {start : Cursor} {iteration : Iteration} {later : List Iteration} :
      start.Ready → course.Kept start iteration → Trail course iteration.1 later →
      Trail course start (iteration :: later)

variable {iterations : List Iteration}

theorem Trail.take (trail : Trail course start iterations) (count : Nat) :
    Trail course start (iterations.take count) := by
  induction trail generalizing count with
  | nil start => simpa using .nil start
  | cons ready kept later inductionHypothesis =>
      cases count with
      | zero => exact .nil _
      | succ count => exact .cons ready kept (inductionHypothesis count)

/-- The iterations together stay on course. -/
theorem Trail.kept (trail : Trail course start iterations) (ready : start.Ready) :
    course.Kept start
      (cursorBehind start iterations, (iterations.map Prod.snd).flatten) := by
  induction trail with
  | nil start => exact kept_stay ready
  | @cons start iteration later _ kept laterTrail inductionHypothesis =>
      rw [Repetition.cursorBehind_cons]
      cases laterTrail with
      | nil => simpa [cursorBehind] using kept
      | cons middleReady kept' further =>
          exact kept.join ready middleReady (inductionHypothesis middleReady)

theorem trail_replicate {next : Iteration} (ready : next.1.Ready)
    (kept : course.Kept next.1 next) (count : Nat) :
    Trail course next.1 (List.replicate count next) := by
  induction count with
  | zero => exact .nil _
  | succ count inductionHypothesis => exact .cons ready kept inductionHypothesis

section

variable {repetition : Repetition Step}

theorem steps_stepAfter (built : ∀ step ∈ repetition.parts, step.Built)
    (every : ∀ step ∈ repetition.parts, course.Steps step) (count : Nat)
    (ordered : cursor.Ordered) :
    (repetition.stepAfter count cursor).Meets
      (fun result => cursor.Ready ∧ course.Kept cursor result) fun _ => True := by
  have partMeets : ∀ step ∈ repetition.parts, (step cursor).Meets
      (fun result => cursor.Ready ∧ course.Kept cursor result) fun _ => True :=
    fun step member => meets_next (built step member) (every step member) ordered
  have inner := partMeets repetition.inner repetition.inner_mem_parts
  rw [Repetition.stepAfter]
  by_cases isFirst : count = 0
  · simp only [isFirst, if_true]
    cases edge : repetition.first with
    | absent => exact inner
    | optional part =>
        have first := partMeets part (Repetition.mem_parts_of_first (by simp [edge, Edge.parts]))
        exact Meets.orElse first inner
    | required part =>
        exact partMeets part (Repetition.mem_parts_of_first (by simp [edge, Edge.parts]))
  · simpa only [isFirst, if_false] using inner

theorem meets_iterate (built : ∀ step ∈ repetition.parts, step.Built)
    (every : ∀ step ∈ repetition.parts, course.Steps step) (count : Nat) (cursor : Cursor)
    (ordered : cursor.Ordered) :
    (repetition.iterate count cursor).Meets (Trail course cursor) fun _ => True := by
  fun_induction Repetition.iterate repetition count cursor with
  | case1 => exact .nil _
  | case2 => trivial
  | case3 => exact .nil _
  | case4 count cursor notFull next matched advances inductionHypothesis =>
      have meets := steps_stepAfter built every count ordered
      obtain ⟨ready, kept⟩ := meets.of_matched matched
      apply Meets.map
      apply (inductionHypothesis kept.1.ordered).imp
      exact fun _ later => .cons ready kept later
  | case5 count cursor notFull next matched stays =>
      have meets := steps_stepAfter built every count ordered
      obtain ⟨ready, kept⟩ := meets.of_matched matched
      have same : next.1 = cursor := kept.1.eq_of_remaining ready stays
      have nextReady : next.1.Ready := same ▸ ready
      have keptAgain : course.Kept next.1 next :=
        ⟨nextReady.reached, course.again ready kept.1 (congrArg Cursor.position same) kept.2⟩
      exact .cons ready kept (trail_replicate nextReady keptAgain _)

end

/-- A repetition stays on course, with the captures of all iterations. -/
def KeptRounds (course : Course) (start : Cursor) (result : Cursor × List (List Capture)) : Prop :=
  course.Kept start (result.1, result.2.flatten)

variable {repetition : Repetition Step}

theorem meets_settle (built : ∀ step ∈ repetition.parts, step.Built)
    (every : ∀ step ∈ repetition.parts, course.Steps step) {entry : Cursor} (ready : entry.Ready)
    (onCourse : Trail course entry iterations) :
    (repetition.settle entry iterations).Meets (course.KeptRounds entry) fun _ => True := by
  have ends := Repetition.ends_settle repetition entry iterations
  generalize repetition.settle entry iterations = outcome at ends
  cases ends with
  | empty _ =>
      rw [Repetition.emptyMatch]
      split
      · exact kept_stay ready
      · trivial
  | greedy _ =>
      rw [Repetition.greedyMatch]
      split
      · trivial
      · exact onCourse.kept ready
  | @closed last number member _ =>
      have isPart := Repetition.mem_parts_of_last member
      have kept := (onCourse.take number).kept ready
      apply Repetition.meets_closeAfter
      apply (meets_next (built last isPart) (every last isPart) kept.1.ordered).imp
      rintro ⟨next, captures⟩ ⟨behindReady, lastKept⟩ _
      have joined := kept.join ready behindReady lastKept
      simpa [KeptRounds] using joined

theorem steps_repetition (built : ∀ step ∈ repetition.parts, step.Built)
    (every : ∀ step ∈ repetition.parts, course.Steps step) :
    course.Steps repetition.step := by
  intro cursor ready
  rw [Repetition.step, Repetition.run, Step.guarded_of_ready _ ready]
  apply Meets.map
  apply Meets.bind (meets_iterate built every 0 cursor ready.ordered)
  exact fun _ onCourse => meets_settle built every ready onCourse

/-! ## All steps -/

/-- Whatever a matcher or a pattern does stays on course. -/
theorem steps_of_built (course : Course) (built : step.Built) : course.Steps step := by
  induction built with
  | codePoint members => exact steps_of_bare (.codePoint members) (Step.bare_codePoint members)
  | require test => exact steps_of_bare (.require test) (Step.bare_require test)
  | literals set => exact steps_of_bare (.literals set) (Step.bare_literals set)
  | silent built _ => exact steps_of_bare built.silent (Step.bare_silent _)
  | negation built _ => exact steps_of_bare built.negation (Step.bare_negation _)
  | ahead built _ => exact steps_of_bare built.ahead (Step.bare_ahead _)
  | ghost built _ => exact steps_of_bare built.ghost (Step.bare_ghost _)
  | sequence built parts => exact steps_sequence built parts
  | firstOf _ choices => exact steps_firstOf choices
  | optional _ inner => exact steps_optional inner
  | recorded name built inner => exact steps_recorded name built inner
  | repetition built parts => exact steps_repetition built parts

end Course

end TextMatch
