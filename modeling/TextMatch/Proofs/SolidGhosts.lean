import TextMatch.Proofs.ReadySteps
import TextMatch.Proofs.RepetitionLikeness
import TextMatch.Proofs.TailGhosts

/-!
# Matchers without their ghosts

A ghost only moves the end of the capture.  The matcher in which every ghost is captured like any
other text, the solid matcher, takes the same way through the text: it matches where the matcher
does and as far, with as many iterations and with the same captures, the ghosts of which belong to
their contents.
-/

namespace TextMatch

/-! ## Capturing ghosts -/

mutual

/-- The matcher with sequences of one part in the place of its ghosts. -/
def Matcher.solid : Matcher → Matcher
  | .codePoint members => .codePoint members
  | .anchor anchor => .anchor anchor
  | .literals set => .literals set
  | .sequence parts => .sequence (Matcher.solidEach parts)
  | .firstOf choices => .firstOf (Matcher.solidEach choices)
  | .optional inner => .optional inner.solid
  | .negation inner => .negation inner.solid
  | .repetition repetition => .repetition (Matcher.solidRepetition repetition)
  | .ahead inner => .ahead inner.solid
  | .behind members => .behind members
  | .behindWord words => .behindWord words
  | .ghost inner => .sequence [inner.solid]
  | .delegate inner => .delegate inner.solid
  | .pattern pattern => .pattern pattern.solid

def Matcher.solidEach : List Matcher → List Matcher
  | [] => []
  | first :: rest => first.solid :: Matcher.solidEach rest

def Matcher.solidRepetition : Repetition Matcher → Repetition Matcher
  | ⟨least, most, inner, first, last⟩ =>
      ⟨least, most, inner.solid, Matcher.solidEdge first, Matcher.solidEdge last⟩

def Matcher.solidEdge : Edge Matcher → Edge Matcher
  | .absent => .absent
  | .optional part => .optional part.solid
  | .required part => .required part.solid

/-- The pattern with sequences of one part in the place of its ghosts. -/
def Pattern.solid : Pattern → Pattern
  | .group group => .group group.solid
  | .unnamed matcher => .unnamed matcher.solid
  | .sequence parts => .sequence (Pattern.solidEach parts)
  | .firstOf choices => .firstOf (Pattern.solidEach choices)
  | .optional inner => .optional inner.solid
  | .repetition repetition => .repetition (Pattern.solidRepetition repetition)

def Pattern.solidEach : List Pattern → List Pattern
  | [] => []
  | first :: rest => first.solid :: Pattern.solidEach rest

def Pattern.solidRepetition : Repetition Pattern → Repetition Pattern
  | ⟨least, most, inner, first, last⟩ =>
      ⟨least, most, inner.solid, Pattern.solidEdge first, Pattern.solidEdge last⟩

def Pattern.solidEdge : Edge Pattern → Edge Pattern
  | .absent => .absent
  | .optional part => .optional part.solid
  | .required part => .required part.solid

def Group.solid : Group → Group
  | .around name matcher => .around name matcher.solid
  | .nested name pattern => .nested name pattern.solid

end

theorem Matcher.steps_solidEach (parts : List Matcher) :
    Matcher.steps (Matcher.solidEach parts) = parts.map fun part => part.solid.step := by
  induction parts with
  | nil => rfl
  | cons part rest inductionHypothesis =>
      rw [Matcher.solidEach, Matcher.steps, inductionHypothesis, List.map_cons]

theorem Matcher.repetitionOfSteps_solidRepetition (repetition : Repetition Matcher) :
    Matcher.repetitionOfSteps (Matcher.solidRepetition repetition) =
      repetition.map fun part => part.solid.step := by
  obtain ⟨least, most, inner, first, last⟩ := repetition
  cases first <;> cases last <;> rfl

theorem Pattern.steps_solidEach (parts : List Pattern) :
    Pattern.steps (Pattern.solidEach parts) = parts.map fun part => part.solid.step := by
  induction parts with
  | nil => rfl
  | cons part rest inductionHypothesis =>
      rw [Pattern.solidEach, Pattern.steps, inductionHypothesis, List.map_cons]

theorem Pattern.repetitionOfSteps_solidRepetition (repetition : Repetition Pattern) :
    Pattern.repetitionOfSteps (Pattern.solidRepetition repetition) =
      repetition.map fun part => part.solid.step := by
  obtain ⟨least, most, inner, first, last⟩ := repetition
  cases first <;> cases last <;> rfl

/-- The cursor with its ghost captured. -/
def Cursor.solid (cursor : Cursor) : Cursor :=
  { cursor with captureEnd := cursor.position }

mutual

/-- The capture with the ghosts in it as parts of the contents. -/
def Capture.solid : Capture → Capture
  | ⟨name, whole, _, children⟩ => ⟨name, whole, whole, Capture.solidEach children⟩

def Capture.solidEach : List Capture → List Capture
  | [] => []
  | capture :: rest => capture.solid :: Capture.solidEach rest

end

theorem Capture.solidEach_eq_map (captures : List Capture) :
    Capture.solidEach captures = captures.map Capture.solid := by
  induction captures with
  | nil => rfl
  | cons capture rest inductionHypothesis =>
      rw [Capture.solidEach, inductionHypothesis, List.map_cons]

theorem Capture.solid_eq (capture : Capture) :
    capture.solid =
      ⟨capture.name, capture.whole, capture.whole, capture.children.map Capture.solid⟩ := by
  cases capture
  rw [Capture.solid, Capture.solidEach_eq_map]

theorem Cursor.Ready.solid_eq {cursor : Cursor} (ready : cursor.Ready) : cursor.solid = cursor := by
  obtain ⟨view, start, captureEnd, position, isValid⟩ := cursor
  obtain rfl : captureEnd = position := ready.noGhost
  rfl

/-- Where an attempt has led, only the position and the end of the capture are its own. -/
theorem Cursor.Reached.solid_eq {origin cursor : Cursor} (ready : origin.Ready)
    (reached : origin.Reached cursor) :
    cursor.solid = { origin with captureEnd := cursor.position, position := cursor.position } := by
  obtain ⟨view, start, captureEnd, position, isValid⟩ := cursor
  obtain rfl : view = origin.view := reached.sameView
  obtain rfl : start = origin.start := reached.sameStart
  obtain rfl : isValid = true := reached.isValid
  rw [Cursor.solid, ← ready.isValid]

/-! ## Runs beside solid runs -/

open Outcome (Pairs)

/-- An attempt beside one that captures the ghosts.  They part where the first one fails, and so are
compared only as long as that one leaves no ghost behind which something is matched. -/
def solidly : Likeness where
  cursors left right := left.Ordered ∧ right = left.solid
  captures left right := right = left.map Capture.solid
  excuses _ := True
  guards := by
    rintro left right ⟨ordered, rfl⟩
    cases matchable : left.requireMatchable with
    | error failure => exact .excused _ trivial
    | ok =>
        have ready := ordered.ready_of_requireMatchable matchable
        rw [ready.solid_eq, matchable]
        exact .matched trivial
  position := by
    rintro left right ⟨-, rfl⟩
    rfl
  remaining := by
    rintro left right ⟨-, rfl⟩
    rfl
  nil := rfl
  append := by
    rintro front front' back back' rfl rfl
    rw [List.map_append]

variable {step step' : Step}

/-- Steps need only be compared where matching may go on, and there from the same cursor. -/
theorem solidly_of_ready (built : step.Built)
    (pairs : ∀ cursor : Cursor, cursor.Ready →
      Pairs (fun left right => right = (left.1.solid, left.2.map Capture.solid)) (fun _ => True)
        (step cursor) (step' cursor)) :
    solidly.Steps step step' := by
  rintro cursor _ ⟨ordered, rfl⟩
  cases matchable : cursor.requireMatchable with
  | error failure =>
      rw [built.eq_failed matchable]
      exact .excused _ trivial
  | ok =>
      have ready := ordered.ready_of_requireMatchable matchable
      have reached := built.orderly cursor cursor ready.reached
      have ends := pairs cursor ready
      rw [ready.solid_eq]
      generalize step cursor = outcome at reached ends
      generalize step' cursor = outcome' at ends
      cases ends with
      | matched same =>
          subst same
          exact .matched ⟨⟨Cursor.Reached.ordered reached, rfl⟩, rfl⟩
      | noMatch => exact .noMatch
      | failed failure => exact .failed failure
      | excused _ excused => exact .excused _ excused

/-- Steps that leave no ghost and record nothing are solid themselves. -/
theorem solidly_self (built : step.Built) (bare : step.Bare) (keeps : step.KeepsReady) :
    solidly.Steps step step := by
  apply solidly_of_ready built
  intro cursor ready
  apply Pairs.refl
  rintro ⟨next, captures⟩ matched
  have nextReady : next.Ready := (keeps cursor ready).of_matched matched
  obtain rfl : captures = [] := (bare cursor).of_matched matched
  rw [nextReady.solid_eq, List.map_nil]

theorem solidly_ahead (built : step.Built) (alike : solidly.Steps step step') :
    solidly.Steps step.ahead step'.ahead := by
  apply solidly_of_ready built.ahead
  intro cursor ready
  have freshReady := Cursor.ready_fresh ready.position_le
  rw [Step.ahead_of_ready step ready, Step.ahead_of_ready step' ready]
  apply (alike _ _ ⟨freshReady.ordered, freshReady.solid_eq.symm⟩).map
  intro _ _ _
  rw [ready.solid_eq, List.map_nil]

/-- A ghost ends where a sequence of its one part ends. -/
theorem solidly_ghost (built : step.Built) (alike : solidly.Steps step step') :
    solidly.Steps step.ghost (Step.sequence [step']).silent := by
  apply solidly_of_ready built.ghost
  intro cursor ready
  have reached := built.orderly cursor cursor ready.reached
  have ends := alike cursor cursor ⟨ready.ordered, ready.solid_eq.symm⟩
  rw [built.ghost_of_ready ready, Step.silent, Step.sequence, Step.guarded_of_ready _ ready]
  unfold Step.follow
  generalize step cursor = outcome at reached ends
  generalize step' cursor = outcome' at ends
  cases ends with
  | noMatch => exact .noMatch
  | failed failure => exact .failed failure
  | excused _ excused => exact .excused _ excused
  | @matched result result' results =>
      obtain ⟨⟨-, nextEq⟩, -⟩ := results
      have reached : cursor.Reached result.1 := reached
      refine .matched ?_
      rw [nextEq, reached.solid_eq ready]
      rfl

/-- The solid capture of the same name and the same whole text, which is all content. -/
theorem Capture.eq_solid {capture capture' : Capture} {view : View}
    {first contentEnd wholeEnd : Nat} (sameName : capture'.name = capture.name)
    (children : capture'.children = capture.children.map Capture.solid)
    (spans : capture.Spans view first contentEnd wholeEnd)
    (spans' : capture'.Spans view first wholeEnd wholeEnd) : capture' = capture.solid := by
  have sameWhole : capture'.whole = capture.whole :=
    Except.ok.inj (spans'.whole.symm.trans spans.whole)
  have allContent : capture'.content = capture.whole :=
    Except.ok.inj (spans'.content.symm.trans spans.whole)
  obtain ⟨name', whole', content', children'⟩ := capture'
  rw [Capture.solid_eq, ← sameName, ← children]
  cases sameWhole
  cases allContent
  rfl

theorem solidly_recorded (name : String) (built : step.Built) (built' : step'.Built)
    (alike : solidly.Steps step step') :
    solidly.Steps (Step.recorded name step) (Step.recorded name step') := by
  apply solidly_of_ready (built.recorded name)
  intro cursor ready
  have ends := alike cursor cursor ⟨ready.ordered, ready.solid_eq.symm⟩
  obtain ⟨node, recordedEq, records⟩ := built.recorded_of_ready name ready
  obtain ⟨node', recordedEq', records'⟩ := built'.recorded_of_ready name ready
  rw [recordedEq, recordedEq']
  generalize step cursor = outcome at ends records
  generalize step' cursor = outcome' at ends records'
  cases ends with
  | noMatch => exact .noMatch
  | failed failure => exact .failed failure
  | excused _ excused => exact .excused _ excused
  | @matched result result' results =>
      obtain ⟨⟨-, nextEq⟩, childrenEq⟩ := results
      obtain ⟨nameEq, inside, spans⟩ := records result rfl
      obtain ⟨nameEq', inside', spans'⟩ := records' result' rfl
      have children : (node' result').children = (node result).children.map Capture.solid := by
        rw [inside', inside]
        exact childrenEq
      rw [nextEq] at spans'
      have sameNode := Capture.eq_solid (nameEq'.trans nameEq.symm) children spans spans'
      refine .matched ?_
      dsimp only
      rw [nextEq, sameNode, List.map_singleton]

/-! ## Matchers and patterns -/

/-- Every matcher and every pattern runs beside the solid one. -/
theorem hereditary_solidly :
    Hereditary (fun matcher => solidly.Steps matcher.step matcher.solid.step)
      (fun pattern => solidly.Steps pattern.step pattern.solid.step) where
  codePoint members :=
    solidly_self (.codePoint members) (Step.bare_codePoint members)
      (Step.keepsReady_codePoint members)
  anchor anchor :=
    solidly_self (.require anchor.holds) (Step.bare_require _) (Step.keepsReady_require _)
  literals set :=
    solidly_self (.literals set) (Step.bare_literals set) (Step.keepsReady_literals set)
  sequence parts alike := by
    rw [Matcher.solid, Matcher.step, Matcher.step, Matcher.steps_eq_map, Matcher.steps_solidEach]
    exact (Likeness.sequence alike).silent
  firstOf choices alike := by
    rw [Matcher.solid, Matcher.step, Matcher.step, Matcher.steps_eq_map, Matcher.steps_solidEach]
    exact (Likeness.firstOf alike).silent
  optional inner alike := alike.optional.silent
  negation inner alike := alike.negation
  repetition repetition alike := by
    rw [Matcher.solid, Matcher.step, Matcher.step, Matcher.repetitionOfSteps_eq_map,
      Matcher.repetitionOfSteps_solidRepetition]
    exact (Likeness.repetition_step alike).silent
  ahead inner alike := solidly_ahead inner.built_step alike
  behind _ := solidly_self (.require _) (Step.bare_require _) (Step.keepsReady_require _)
  behindWord _ := solidly_self (.require _) (Step.bare_require _) (Step.keepsReady_require _)
  ghost inner alike := solidly_ghost inner.built_step alike
  delegate inner alike := alike
  pattern pattern alike := alike
  around name matcher alike :=
    solidly_recorded name matcher.built_step matcher.solid.built_step alike
  nested name pattern alike :=
    solidly_recorded name pattern.built_step pattern.solid.built_step alike
  unnamed matcher alike := alike.silent
  patternSequence parts alike := by
    rw [Pattern.solid, Pattern.step, Pattern.step, Pattern.steps_eq_map, Pattern.steps_solidEach]
    exact Likeness.sequence alike
  patternFirstOf choices alike := by
    rw [Pattern.solid, Pattern.step, Pattern.step, Pattern.steps_eq_map, Pattern.steps_solidEach]
    exact Likeness.firstOf alike
  patternOptional inner alike := alike.optional
  patternRepetition repetition alike := by
    rw [Pattern.solid, Pattern.step, Pattern.step, Pattern.repetitionOfSteps_eq_map,
      Pattern.repetitionOfSteps_solidRepetition]
    exact Likeness.repetition_step alike

/-! ## What ghosts decide -/

theorem Matcher.run_solid (matcher : Matcher) {cursor : Cursor} (ready : cursor.Ready)
    (noFailure : ∀ failure, matcher.run cursor ≠ .failed failure) :
    matcher.solid.run cursor = (matcher.run cursor).map Cursor.solid := by
  have ends := hereditary_solidly.matcher matcher cursor cursor
    ⟨ready.ordered, ready.solid_eq.symm⟩
  apply Pairs.eq_map _ noFailure
  exact ends.map fun _ _ results => results.1.2

theorem Pattern.step_solid (pattern : Pattern) {cursor : Cursor} (ready : cursor.Ready)
    (noFailure : ∀ failure, pattern.step cursor ≠ .failed failure) :
    pattern.solid.step cursor =
      (pattern.step cursor).map fun result => (result.1.solid, result.2.map Capture.solid) := by
  have ends := hereditary_solidly.patternOf pattern cursor cursor
    ⟨ready.ordered, ready.solid_eq.symm⟩
  apply Pairs.eq_map _ noFailure
  exact ends.imp fun _ _ results => Prod.ext results.1.2 results.2

/-- The captures of every iteration, of which there are as many. -/
theorem solidly_rounds {rounds rounds' : List (List Capture)}
    (alike : List.Forall₂ solidly.captures rounds rounds') :
    rounds' = rounds.map fun captures => captures.map Capture.solid := by
  induction alike with
  | nil => rfl
  | cons first _ inductionHypothesis => rw [List.map_cons, ← inductionHypothesis, ← first]

theorem Matcher.count_solid (repetition : Repetition Matcher) {cursor : Cursor}
    (ready : cursor.Ready)
    (noFailure : ∀ failure, Matcher.count repetition cursor ≠ .failed failure) :
    Matcher.count (Matcher.solidRepetition repetition) cursor =
      (Matcher.count repetition cursor).map fun result => (result.1.solid, result.2) := by
  apply Pairs.eq_map _ noFailure
  unfold Matcher.count
  rw [Matcher.repetitionOfSteps_eq_map, Matcher.repetitionOfSteps_solidRepetition]
  have every := fun part (_ : part ∈ repetition.parts) => hereditary_solidly.matcher part
  apply (Likeness.run every ⟨ready.ordered, ready.solid_eq.symm⟩).map
  exact fun _ _ rounds => Prod.ext rounds.1.2 rounds.2.length_eq.symm

theorem Pattern.rounds_solid (repetition : Repetition Pattern) {cursor : Cursor}
    (ready : cursor.Ready)
    (noFailure : ∀ failure, (Pattern.repetitionOfSteps repetition).run cursor ≠ .failed failure) :
    (Pattern.repetitionOfSteps (Pattern.solidRepetition repetition)).run cursor =
      ((Pattern.repetitionOfSteps repetition).run cursor).map fun result =>
        (result.1.solid, result.2.map fun captures => captures.map Capture.solid) := by
  apply Pairs.eq_map _ noFailure
  rw [Pattern.repetitionOfSteps_eq_map, Pattern.repetitionOfSteps_solidRepetition]
  have every := fun part (_ : part ∈ repetition.parts) => hereditary_solidly.patternOf part
  apply (Likeness.run every ⟨ready.ordered, ready.solid_eq.symm⟩).imp
  exact fun _ _ rounds => Prod.ext rounds.1.2 (solidly_rounds rounds.2)

/-- Ghosts only move the end of the capture.  Where a matcher or a pattern does not fail, the solid
one comes to the same: it matches where the other does and as far, but has captured all that it has
looked at; it records the same captures, the ghosts of which belong to their contents; and it makes
as many iterations. -/
theorem ghosts_only_move_captures :
    (∀ (matcher : Matcher) (cursor : Cursor), cursor.Ready →
        (∀ failure, matcher.run cursor ≠ .failed failure) →
        matcher.solid.run cursor = (matcher.run cursor).map Cursor.solid) ∧
      (∀ (pattern : Pattern) (cursor : Cursor), cursor.Ready →
        (∀ failure, pattern.step cursor ≠ .failed failure) →
        pattern.solid.step cursor =
          (pattern.step cursor).map fun result =>
            (result.1.solid, result.2.map Capture.solid)) ∧
      (∀ (repetition : Repetition Matcher) (cursor : Cursor), cursor.Ready →
        (∀ failure, Matcher.count repetition cursor ≠ .failed failure) →
        Matcher.count (Matcher.solidRepetition repetition) cursor =
          (Matcher.count repetition cursor).map fun result => (result.1.solid, result.2)) ∧
      (∀ (repetition : Repetition Pattern) (cursor : Cursor), cursor.Ready →
        (∀ failure, (Pattern.repetitionOfSteps repetition).run cursor ≠ .failed failure) →
        (Pattern.repetitionOfSteps (Pattern.solidRepetition repetition)).run cursor =
          ((Pattern.repetitionOfSteps repetition).run cursor).map fun result =>
            (result.1.solid, result.2.map fun captures => captures.map Capture.solid)) := by
  refine ⟨?_, ?_, ?_, ?_⟩
  · exact fun matcher _ ready noFailure => matcher.run_solid ready noFailure
  · exact fun pattern _ ready noFailure => pattern.step_solid ready noFailure
  · exact fun repetition _ ready noFailure => Matcher.count_solid repetition ready noFailure
  · exact fun repetition _ ready noFailure => Pattern.rounds_solid repetition ready noFailure

theorem ghosts_only_move_captures_of_entries :
    let view := View.ofString "ab;"
    let cursor := Cursor.ofView view
    let mark : Matcher := .ghost (.codePoint (.literal ';'))
    let letter : Matcher := .sequence [.negation mark, .codePoint .any]
    let letters : Repetition Matcher := ⟨1, some 4, letter, .absent, .required mark⟩
    let entry : Pattern := .group (.around "entry" (.repetition letters))
    let entries : Repetition Pattern := .exactly 1 entry
    cursor.Ready ∧
      (Matcher.repetition letters).run cursor = .matched ⟨view, 0, 2, 3, true⟩ ∧
      (Matcher.repetition letters).solid.run cursor = .matched ⟨view, 0, 3, 3, true⟩ ∧
      Matcher.count letters cursor = .matched (⟨view, 0, 2, 3, true⟩, 3) ∧
      Matcher.count (Matcher.solidRepetition letters) cursor =
        .matched (⟨view, 0, 3, 3, true⟩, 3) ∧
      entry.solid.step cursor =
        (entry.step cursor).map (fun result => (result.1.solid, result.2.map Capture.solid)) ∧
      (Pattern.repetitionOfSteps (Pattern.solidRepetition entries)).run cursor =
        ((Pattern.repetitionOfSteps entries).run cursor).map fun result =>
          (result.1.solid, result.2.map fun captures => captures.map Capture.solid) := by
  intro view cursor mark letter letters entry entries
  obtain ⟨matchers, patterns, counts, rounds⟩ := ghosts_only_move_captures
  have ready : cursor.Ready := Cursor.ready_fresh (Nat.zero_le _)
  have matched : (Matcher.repetition letters).run cursor = .matched ⟨view, 0, 2, 3, true⟩ := by
    decide +kernel
  have counted : Matcher.count letters cursor = .matched (⟨view, 0, 2, 3, true⟩, 3) := by
    decide +kernel
  have solidMatched := matchers (.repetition letters) cursor ready (by simp [matched])
  have solidCounted := counts letters cursor ready (by simp [counted])
  rw [matched] at solidMatched
  rw [counted] at solidCounted
  have entryRun : entry.run cursor = .matched ⟨view, 0, 2, 3, true⟩ := by decide +kernel
  obtain ⟨result, captured, -⟩ := Outcome.exists_of_map_eq_matched entryRun
  have entriesRun : ((Pattern.repetitionOfSteps entries).run cursor).map Prod.fst =
      .matched ⟨view, 0, 2, 3, true⟩ := by decide +kernel
  obtain ⟨all, allCaptured, -⟩ := Outcome.exists_of_map_eq_matched entriesRun
  exact ⟨ready, matched, solidMatched, counted, solidCounted,
    patterns entry cursor ready (by simp [captured]),
    rounds entries cursor ready (by simp [allCaptured])⟩

end TextMatch
