import TextMatch.Proofs.ReadySteps
import TextMatch.Proofs.RepetitionLikeness

/-!
# Patterns without their captures

A pattern matches what the matcher matches that is left of it when its groups are forgotten:
captures are recorded beside the match and decide nothing.
-/

namespace TextMatch

/-! ## Forgetting captures -/

mutual

/-- The matcher with matchers in the place of the patterns in it. -/
def Matcher.strip : Matcher → Matcher
  | .codePoint members => .codePoint members
  | .anchor anchor => .anchor anchor
  | .literals set => .literals set
  | .sequence parts => .sequence (Matcher.stripEach parts)
  | .firstOf choices => .firstOf (Matcher.stripEach choices)
  | .optional inner => .optional inner.strip
  | .negation inner => .negation inner.strip
  | .repetition repetition => .repetition (Matcher.stripRepetition repetition)
  | .ahead inner => .ahead inner.strip
  | .behind members => .behind members
  | .behindWord words => .behindWord words
  | .ghost inner => .ghost inner.strip
  | .delegate inner => inner.strip
  | .pattern pattern => pattern.strip

def Matcher.stripEach : List Matcher → List Matcher
  | [] => []
  | first :: rest => first.strip :: Matcher.stripEach rest

def Matcher.stripRepetition : Repetition Matcher → Repetition Matcher
  | ⟨least, most, inner, first, last⟩ =>
      ⟨least, most, inner.strip, Matcher.stripEdge first, Matcher.stripEdge last⟩

def Matcher.stripEdge : Edge Matcher → Edge Matcher
  | .absent => .absent
  | .optional part => .optional part.strip
  | .required part => .required part.strip

/-- The matcher that is left of a pattern without its groups. -/
def Pattern.strip : Pattern → Matcher
  | .group (.around _ matcher) => matcher.strip
  | .group (.nested _ pattern) => pattern.strip
  | .unnamed matcher => matcher.strip
  | .sequence parts => .sequence (Pattern.stripEach parts)
  | .firstOf choices => .firstOf (Pattern.stripEach choices)
  | .optional inner => .optional inner.strip
  | .repetition repetition => .repetition (Pattern.stripRepetition repetition)

def Pattern.stripEach : List Pattern → List Matcher
  | [] => []
  | first :: rest => first.strip :: Pattern.stripEach rest

def Pattern.stripRepetition : Repetition Pattern → Repetition Matcher
  | ⟨least, most, inner, first, last⟩ =>
      ⟨least, most, inner.strip, Pattern.stripEdge first, Pattern.stripEdge last⟩

def Pattern.stripEdge : Edge Pattern → Edge Matcher
  | .absent => .absent
  | .optional part => .optional part.strip
  | .required part => .required part.strip

end

theorem Matcher.steps_stripEach (parts : List Matcher) :
    Matcher.steps (Matcher.stripEach parts) = parts.map fun part => part.strip.step := by
  induction parts with
  | nil => rfl
  | cons part rest inductionHypothesis =>
      rw [Matcher.stripEach, Matcher.steps, inductionHypothesis, List.map_cons]

theorem Matcher.repetitionOfSteps_stripRepetition (repetition : Repetition Matcher) :
    Matcher.repetitionOfSteps (Matcher.stripRepetition repetition) =
      repetition.map fun part => part.strip.step := by
  obtain ⟨least, most, inner, first, last⟩ := repetition
  cases first <;> cases last <;> rfl

theorem Pattern.steps_stripEach (parts : List Pattern) :
    Matcher.steps (Pattern.stripEach parts) = parts.map fun part => part.strip.step := by
  induction parts with
  | nil => rfl
  | cons part rest inductionHypothesis =>
      rw [Pattern.stripEach, Matcher.steps, inductionHypothesis, List.map_cons]

theorem Pattern.repetitionOfSteps_stripRepetition (repetition : Repetition Pattern) :
    Matcher.repetitionOfSteps (Pattern.stripRepetition repetition) =
      repetition.map fun part => part.strip.step := by
  obtain ⟨least, most, inner, first, last⟩ := repetition
  cases first <;> cases last <;> rfl

theorem Matcher.stripEach_eq_map (parts : List Matcher) :
    Matcher.stripEach parts = parts.map Matcher.strip := by
  induction parts with
  | nil => rfl
  | cons part rest inductionHypothesis =>
      rw [Matcher.stripEach, inductionHypothesis, List.map_cons]

theorem Pattern.stripEach_eq_map (parts : List Pattern) :
    Pattern.stripEach parts = parts.map Pattern.strip := by
  induction parts with
  | nil => rfl
  | cons part rest inductionHypothesis =>
      rw [Pattern.stripEach, inductionHypothesis, List.map_cons]

theorem Matcher.strip_sequence (parts : List Matcher) :
    (Matcher.sequence parts).strip = .sequence (parts.map Matcher.strip) := by
  rw [Matcher.strip, Matcher.stripEach_eq_map]

theorem Matcher.strip_firstOf (choices : List Matcher) :
    (Matcher.firstOf choices).strip = .firstOf (choices.map Matcher.strip) := by
  rw [Matcher.strip, Matcher.stripEach_eq_map]

theorem Pattern.strip_sequence (parts : List Pattern) :
    (Pattern.sequence parts).strip = .sequence (parts.map Pattern.strip) := by
  rw [Pattern.strip, Pattern.stripEach_eq_map]

theorem Pattern.strip_firstOf (choices : List Pattern) :
    (Pattern.firstOf choices).strip = .firstOf (choices.map Pattern.strip) := by
  rw [Pattern.strip, Pattern.stripEach_eq_map]

theorem Matcher.stripRepetition_eq_map (repetition : Repetition Matcher) :
    Matcher.stripRepetition repetition = repetition.map Matcher.strip := by
  obtain ⟨least, most, inner, first, last⟩ := repetition
  cases first <;> cases last <;> rfl

theorem Pattern.stripRepetition_eq_map (repetition : Repetition Pattern) :
    Pattern.stripRepetition repetition = repetition.map Pattern.strip := by
  obtain ⟨least, most, inner, first, last⟩ := repetition
  cases first <;> cases last <;> rfl

/-! ## Agreement -/

open Outcome (Pairs Same)

/-- Two attempts go from the same cursor to the same cursor, whatever they capture. -/
def agreement : Likeness where
  cursors left right := left = right ∧ left.Ordered
  captures _ _ := True
  excuses _ := False
  guards := by
    rintro left right ⟨rfl, -⟩
    exact Pairs.refl _ fun _ _ => trivial
  position := by
    rintro left right ⟨rfl, -⟩
    rfl
  remaining := by
    rintro left right ⟨rfl, -⟩
    rfl
  nil := trivial
  append := fun _ _ => trivial

variable {step step' : Step}

/-- Steps need only be compared where matching may go on. -/
theorem agree_of_ready (built : step.Built) (built' : step'.Built)
    (agree : ∀ cursor : Cursor, cursor.Ready →
      Same (fun left right => left.1 = right.1) (step cursor) (step' cursor)) :
    agreement.Steps step step' := by
  rintro cursor _ ⟨rfl, ordered⟩
  cases matchable : cursor.requireMatchable with
  | error failure =>
      rw [built.eq_failed matchable, built'.eq_failed matchable]
      exact .failed failure
  | ok =>
      have ready := ordered.ready_of_requireMatchable matchable
      have reached := built.orderly cursor cursor ready.reached
      have ends := agree cursor ready
      generalize step cursor = outcome at reached ends
      generalize step' cursor = outcome' at ends
      cases ends with
      | matched same => exact .matched ⟨⟨same, Cursor.Reached.ordered reached⟩, trivial⟩
      | noMatch => exact .noMatch
      | failed failure => exact .failed failure
      | excused _ excused => exact .excused _ excused

theorem agree_self (built : step.Built) : agreement.Steps step step :=
  agree_of_ready built built fun _ _ => Pairs.refl _ fun _ _ => rfl

theorem agree_silent_left (agree : agreement.Steps step step') :
    agreement.Steps step.silent step' :=
  fun left right alike => (agree left right alike).map_left fun _ _ results => results

theorem agree_silent_right (agree : agreement.Steps step step') :
    agreement.Steps step step'.silent :=
  fun left right alike => (agree left right alike).map_right fun _ _ results => results

theorem agree_ahead (built : step.Built) (built' : step'.Built)
    (agree : agreement.Steps step step') : agreement.Steps step.ahead step'.ahead := by
  apply agree_of_ready built.ahead built'.ahead
  intro cursor ready
  have freshReady := Cursor.ready_fresh ready.position_le
  rw [Step.ahead_of_ready step ready, Step.ahead_of_ready step' ready]
  exact (agree _ _ ⟨rfl, freshReady.ordered⟩).map fun _ _ _ => rfl

theorem agree_ghost (built : step.Built) (built' : step'.Built)
    (agree : agreement.Steps step step') : agreement.Steps step.ghost step'.ghost := by
  apply agree_of_ready built.ghost built'.ghost
  intro cursor ready
  rw [built.ghost_of_ready ready, built'.ghost_of_ready ready]
  apply (agree _ _ ⟨rfl, ready.ordered⟩).map
  intro result result' results
  rw [agreement.position results.1]

/-- A group goes where its part goes. -/
theorem agree_recorded (name : String) (built : step.Built) (built' : step'.Built)
    (agree : agreement.Steps step step') : agreement.Steps (Step.recorded name step) step' := by
  apply agree_of_ready (built.recorded name) built'
  intro cursor ready
  obtain ⟨node, recordedEq, -⟩ := built.recorded_of_ready name ready
  rw [recordedEq]
  exact (agree _ _ ⟨rfl, ready.ordered⟩).map_left fun _ _ results => results.1.1

/-! ## Matchers and patterns -/

/-- Every matcher and every pattern agrees with what is left of it. -/
theorem hereditary_agreement :
    Hereditary (fun matcher => agreement.Steps matcher.step matcher.strip.step)
      (fun pattern => agreement.Steps pattern.step pattern.strip.step) where
  codePoint members := agree_self (.codePoint members)
  anchor anchor := agree_self (.require anchor.holds)
  literals set := agree_self (.literals set)
  sequence parts agree := by
    rw [Matcher.strip, Matcher.step, Matcher.step, Matcher.steps_eq_map, Matcher.steps_stripEach]
    exact (Likeness.sequence agree).silent
  firstOf choices agree := by
    rw [Matcher.strip, Matcher.step, Matcher.step, Matcher.steps_eq_map, Matcher.steps_stripEach]
    exact (Likeness.firstOf agree).silent
  optional inner agree := agree.optional.silent
  negation inner agree := agree.negation
  repetition repetition agree := by
    rw [Matcher.strip, Matcher.step, Matcher.step, Matcher.repetitionOfSteps_eq_map,
      Matcher.repetitionOfSteps_stripRepetition]
    exact (Likeness.repetition_step agree).silent
  ahead inner agree := agree_ahead inner.built_step inner.strip.built_step agree
  behind _ := agree_self (.require _)
  behindWord _ := agree_self (.require _)
  ghost inner agree := agree_ghost inner.built_step inner.strip.built_step agree
  delegate inner agree := agree
  pattern pattern agree := agree
  around name matcher agree :=
    agree_recorded name matcher.built_step matcher.strip.built_step agree
  nested name pattern agree :=
    agree_recorded name pattern.built_step pattern.strip.built_step agree
  unnamed matcher agree := agree_silent_left agree
  patternSequence parts agree := by
    rw [Pattern.strip, Pattern.step, Matcher.step, Pattern.steps_eq_map, Pattern.steps_stripEach]
    exact agree_silent_right (Likeness.sequence agree)
  patternFirstOf choices agree := by
    rw [Pattern.strip, Pattern.step, Matcher.step, Pattern.steps_eq_map, Pattern.steps_stripEach]
    exact agree_silent_right (Likeness.firstOf agree)
  patternOptional inner agree := agree_silent_right agree.optional
  patternRepetition repetition agree := by
    rw [Pattern.strip, Pattern.step, Matcher.step, Pattern.repetitionOfSteps_eq_map,
      Pattern.repetitionOfSteps_stripRepetition]
    exact agree_silent_right (Likeness.repetition_step agree)

/-- A matcher and a pattern of which the same is left without groups go to the same place. -/
theorem Matcher.run_eq_of_strip {matcher : Matcher} {pattern : Pattern} {cursor : Cursor}
    (same : matcher.strip = pattern.strip) (ordered : cursor.Ordered) :
    matcher.run cursor = pattern.run cursor := by
  have ofMatcher := hereditary_agreement.matcher matcher cursor cursor ⟨rfl, ordered⟩
  have ofPattern := hereditary_agreement.patternOf pattern cursor cursor ⟨rfl, ordered⟩
  rw [same] at ofMatcher
  calc
    matcher.run cursor = pattern.strip.run cursor :=
      Outcome.map_eq_map (ofMatcher.imp fun _ _ results => results.1.1)
    _ = pattern.run cursor :=
      (Outcome.map_eq_map (ofPattern.imp fun _ _ results => results.1.1)).symm

/-! ## Matchers that are patterns -/

/-- The pattern that a matcher is, by itself or in boxes. -/
def Matcher.pattern? : Matcher → Option Pattern
  | .pattern found => some found
  | .delegate inner => inner.pattern?
  | _ => none

theorem Matcher.step_of_pattern? {matcher : Matcher} {pattern : Pattern}
    (isPattern : matcher.pattern? = some pattern) : matcher.step = pattern.step := by
  fun_induction Matcher.pattern? matcher with
  | case1 inner =>
      rw [Matcher.step, Option.some.inj isPattern]
  | case2 inner inductionHypothesis => exact inductionHypothesis isPattern
  | case3 => contradiction

open Outcome (Meets)

/-- A matcher that is no pattern records nothing, whatever is inside it. -/
theorem Matcher.bare_of_pattern? {matcher : Matcher} (notPattern : matcher.pattern? = none) :
    matcher.step.Bare := by
  fun_induction Matcher.pattern? matcher with
  | case1 => contradiction
  | case2 inner inductionHypothesis => exact inductionHypothesis notPattern
  | case3 matcher notItself notBoxed =>
      cases matcher with
      | codePoint members => exact Step.bare_codePoint members
      | anchor anchor => exact Step.bare_require anchor.holds
      | literals set => exact Step.bare_literals set
      | sequence | firstOf | optional | repetition => exact Step.bare_silent _
      | negation inner => exact Step.bare_negation inner.step
      | ahead inner => exact Step.bare_ahead inner.step
      | behind | behindWord => exact Step.bare_require _
      | ghost inner => exact Step.bare_ghost inner.step
      | delegate inner => exact absurd rfl (notBoxed inner)
      | pattern pattern => exact absurd rfl (notItself pattern)

theorem Group.children_of_pattern? {matcher : Matcher} (notPattern : matcher.pattern? = none)
    {name : String} {cursor next : Cursor} {capture : Capture}
    (matched : (Group.around name matcher).capture cursor = .matched (next, capture)) :
    capture.children = [] := by
  have records : ((Group.around name matcher).capture cursor).Meets
      (fun result => result.2.children = []) fun _ => True := by
    apply Meets.ofExcept_bind _ fun _ _ => trivial
    intro _ _
    apply Meets.bind (Matcher.bare_of_pattern? notPattern cursor)
    rintro ⟨middle, children⟩ bare
    apply Meets.ofExcept_bind _ fun _ _ => trivial
    intro whole _
    apply Meets.ofExcept_bind _ fun _ _ => trivial
    exact fun content _ => bare
  exact records.of_matched matched

/-! ## The capture layer -/

/-- Captures decide nothing: a pattern runs as what is left of it without its groups.  A group
around a matcher has the captures of the pattern that the matcher is, and none if it is no
pattern. -/
theorem captures_decide_nothing :
    (∀ (pattern : Pattern) (cursor : Cursor), cursor.Ordered →
        pattern.run cursor = pattern.strip.run cursor) ∧
      (∀ (matcher : Matcher) (cursor : Cursor), cursor.Ordered →
        matcher.run cursor = matcher.strip.run cursor) ∧
      (∀ (name : String) (matcher : Matcher) (pattern : Pattern) (cursor : Cursor),
        matcher.pattern? = some pattern →
        (Group.around name matcher).capture cursor =
          (Group.nested name pattern).capture cursor) ∧
      (∀ (name : String) (matcher : Matcher) (cursor next : Cursor) (capture : Capture),
        matcher.pattern? = none →
        (Group.around name matcher).capture cursor = .matched (next, capture) →
        capture.children = []) := by
  refine ⟨?_, ?_, ?_, ?_⟩
  · intro pattern cursor ordered
    have agree := hereditary_agreement.patternOf pattern cursor cursor ⟨rfl, ordered⟩
    exact Outcome.map_eq_map (agree.imp fun _ _ results => results.1.1)
  · intro matcher cursor ordered
    have agree := hereditary_agreement.matcher matcher cursor cursor ⟨rfl, ordered⟩
    exact Outcome.map_eq_map (agree.imp fun _ _ results => results.1.1)
  · intro name matcher pattern cursor isPattern
    rw [Group.capture, Group.capture, Matcher.step_of_pattern? isPattern]
  · exact fun _ _ _ _ _ notPattern matched => Group.children_of_pattern? notPattern matched

theorem captures_decide_nothing_in_entry :
    let cursor := Cursor.ofView (View.ofString "k;")
    let next : Cursor := ⟨View.ofString "k;", 0, 1, 2, true⟩
    let entry : Pattern := .sequence [
      .group (.around "key" (.codePoint .any)),
      .optional (.group (.around "end" (.ghost (.codePoint (.literal ';')))))]
    let boxed : Matcher := .delegate (.delegate (.pattern entry))
    let leaf : Matcher := .optional (.pattern entry)
    cursor.Ordered ∧ next.Ordered ∧ entry.strip.run cursor = .matched next ∧
      entry.run cursor = entry.strip.run cursor ∧
      entry.run next = entry.strip.run next ∧
      boxed.run cursor = boxed.strip.run cursor ∧
      boxed.pattern? = some entry ∧
      (Group.around "entry" boxed).capture cursor = (Group.nested "entry" entry).capture cursor ∧
      leaf.pattern? = none ∧
      ∃ capture, (Group.around "leaf" leaf).capture cursor = .matched (next, capture) ∧
        capture.children = [] := by
  intro cursor next entry boxed leaf
  obtain ⟨patterns, matchers, sameAsNested, leaves⟩ := captures_decide_nothing
  have ordered : cursor.Ordered := (Cursor.ready_fresh (Nat.zero_le _)).ordered
  have nextOrdered : next.Ordered := ⟨by decide, by decide, by decide⟩
  refine ⟨ordered, nextOrdered, by decide, patterns entry cursor ordered,
    patterns entry next nextOrdered, matchers boxed cursor ordered, rfl,
    sameAsNested "entry" boxed entry cursor rfl, rfl, _, rfl, ?_⟩
  exact leaves "leaf" leaf cursor next _ rfl rfl

end TextMatch
