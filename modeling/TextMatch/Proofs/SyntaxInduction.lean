import TextMatch.Proofs.StepRules

/-!
# Induction on matchers and patterns

Matchers and patterns are built from each other, in lists, repetitions and edges.  What holds of all
of them is proved by one induction, which asks for one case per constructor and hides the lists.
-/

namespace TextMatch

/-! ## Changing parts -/

section

variable {alpha beta gamma : Type}

def Edge.map (change : alpha → beta) : Edge alpha → Edge beta
  | .absent => .absent
  | .optional part => .optional (change part)
  | .required part => .required (change part)

def Repetition.map (change : alpha → beta) (repetition : Repetition alpha) : Repetition beta where
  least := repetition.least
  most := repetition.most
  inner := change repetition.inner
  first := repetition.first.map change
  last := repetition.last.map change

theorem Edge.parts_map (change : alpha → beta) (edge : Edge alpha) :
    (edge.map change).parts = edge.parts.map change := by
  cases edge <;> rfl

theorem Edge.isRequired_map (change : alpha → beta) (edge : Edge alpha) :
    (edge.map change).isRequired = edge.isRequired := by
  cases edge <;> rfl

theorem Repetition.parts_map (change : alpha → beta) (repetition : Repetition alpha) :
    (repetition.map change).parts = repetition.parts.map change := by
  simp [Repetition.map, Repetition.parts, Edge.parts_map]

theorem Edge.map_map (first : alpha → beta) (second : beta → gamma) (edge : Edge alpha) :
    (edge.map first).map second = edge.map (second ∘ first) := by
  cases edge <;> rfl

theorem Repetition.map_map (first : alpha → beta) (second : beta → gamma)
    (repetition : Repetition alpha) :
    (repetition.map first).map second = repetition.map (second ∘ first) := by
  simp only [Repetition.map, Edge.map_map, Function.comp_apply]

end

theorem Matcher.steps_eq_map (parts : List Matcher) :
    Matcher.steps parts = parts.map Matcher.step := by
  induction parts with
  | nil => rfl
  | cons part rest inductionHypothesis => rw [Matcher.steps, inductionHypothesis, List.map_cons]

theorem Matcher.edgeOfSteps_eq_map (edge : Edge Matcher) :
    Matcher.edgeOfSteps edge = edge.map Matcher.step := by
  cases edge <;> rfl

theorem Matcher.repetitionOfSteps_eq_map (repetition : Repetition Matcher) :
    Matcher.repetitionOfSteps repetition = repetition.map Matcher.step := by
  cases repetition
  simp only [Matcher.repetitionOfSteps, Repetition.map, Matcher.edgeOfSteps_eq_map]

theorem Matcher.count_eq_map (repetition : Repetition Matcher) (cursor : Cursor) :
    Matcher.count repetition cursor =
      ((repetition.map Matcher.step).run cursor).map fun result =>
        (result.1, result.2.length) := by
  rw [Matcher.count, Matcher.repetitionOfSteps_eq_map]

theorem Pattern.steps_eq_map (parts : List Pattern) :
    Pattern.steps parts = parts.map Pattern.step := by
  induction parts with
  | nil => rfl
  | cons part rest inductionHypothesis => rw [Pattern.steps, inductionHypothesis, List.map_cons]

theorem Pattern.step_sequence (parts : List Pattern) :
    (Pattern.sequence parts).step = Step.sequence (parts.map Pattern.step) := by
  rw [Pattern.step, Pattern.steps_eq_map]

theorem Pattern.step_firstOf (choices : List Pattern) :
    (Pattern.firstOf choices).step = Step.firstOf (choices.map Pattern.step) := by
  rw [Pattern.step, Pattern.steps_eq_map]

theorem Pattern.edgeOfSteps_eq_map (edge : Edge Pattern) :
    Pattern.edgeOfSteps edge = edge.map Pattern.step := by
  cases edge <;> rfl

theorem Pattern.repetitionOfSteps_eq_map (repetition : Repetition Pattern) :
    Pattern.repetitionOfSteps repetition = repetition.map Pattern.step := by
  cases repetition
  simp only [Pattern.repetitionOfSteps, Repetition.map, Pattern.edgeOfSteps_eq_map]

/-! ## The induction -/

/-- A property of matchers and one of patterns that pass from the parts to the whole. -/
structure Hereditary (ofMatcher : Matcher → Prop) (ofPattern : Pattern → Prop) : Prop where
  codePoint : ∀ members, ofMatcher (.codePoint members)
  anchor : ∀ anchor, ofMatcher (.anchor anchor)
  literals : ∀ set, ofMatcher (.literals set)
  sequence : ∀ parts, (∀ part ∈ parts, ofMatcher part) → ofMatcher (.sequence parts)
  firstOf : ∀ choices, (∀ choice ∈ choices, ofMatcher choice) → ofMatcher (.firstOf choices)
  optional : ∀ inner, ofMatcher inner → ofMatcher (.optional inner)
  negation : ∀ inner, ofMatcher inner → ofMatcher (.negation inner)
  repetition : ∀ repetition : Repetition Matcher, (∀ part ∈ repetition.parts, ofMatcher part) →
    ofMatcher (.repetition repetition)
  ahead : ∀ inner, ofMatcher inner → ofMatcher (.ahead inner)
  behind : ∀ members, ofMatcher (.behind members)
  behindWord : ∀ words, ofMatcher (.behindWord words)
  ghost : ∀ inner, ofMatcher inner → ofMatcher (.ghost inner)
  delegate : ∀ inner, ofMatcher inner → ofMatcher (.delegate inner)
  pattern : ∀ pattern, ofPattern pattern → ofMatcher (.pattern pattern)
  around : ∀ name matcher, ofMatcher matcher → ofPattern (.group (.around name matcher))
  nested : ∀ name pattern, ofPattern pattern → ofPattern (.group (.nested name pattern))
  unnamed : ∀ matcher, ofMatcher matcher → ofPattern (.unnamed matcher)
  patternSequence : ∀ parts, (∀ part ∈ parts, ofPattern part) → ofPattern (.sequence parts)
  patternFirstOf : ∀ choices, (∀ choice ∈ choices, ofPattern choice) →
    ofPattern (.firstOf choices)
  patternOptional : ∀ inner, ofPattern inner → ofPattern (.optional inner)
  patternRepetition : ∀ repetition : Repetition Pattern,
    (∀ part ∈ repetition.parts, ofPattern part) → ofPattern (.repetition repetition)

variable {ofMatcher : Matcher → Prop} {ofPattern : Pattern → Prop}

mutual

theorem Hereditary.matcher (hereditary : Hereditary ofMatcher ofPattern) :
    ∀ matcher, ofMatcher matcher
  | .codePoint members => hereditary.codePoint members
  | .anchor anchor => hereditary.anchor anchor
  | .literals set => hereditary.literals set
  | .sequence parts => hereditary.sequence parts (hereditary.matchers parts)
  | .firstOf choices => hereditary.firstOf choices (hereditary.matchers choices)
  | .optional inner => hereditary.optional inner (hereditary.matcher inner)
  | .negation inner => hereditary.negation inner (hereditary.matcher inner)
  | .repetition repetition =>
      hereditary.repetition repetition (hereditary.matcherRepetition repetition)
  | .ahead inner => hereditary.ahead inner (hereditary.matcher inner)
  | .behind members => hereditary.behind members
  | .behindWord words => hereditary.behindWord words
  | .ghost inner => hereditary.ghost inner (hereditary.matcher inner)
  | .delegate inner => hereditary.delegate inner (hereditary.matcher inner)
  | .pattern pattern => hereditary.pattern pattern (hereditary.patternOf pattern)

theorem Hereditary.matchers (hereditary : Hereditary ofMatcher ofPattern) :
    ∀ parts : List Matcher, ∀ part ∈ parts, ofMatcher part
  | [], part, member => by
      simp at member
  | first :: rest, part, member => by
      rcases List.mem_cons.mp member with isFirst | member
      · rw [isFirst]
        exact hereditary.matcher first
      · exact hereditary.matchers rest part member

theorem Hereditary.matcherRepetition (hereditary : Hereditary ofMatcher ofPattern) :
    ∀ repetition : Repetition Matcher, ∀ part ∈ repetition.parts, ofMatcher part
  | ⟨_, _, inner, first, last⟩, part, member => by
      rcases List.mem_cons.mp member with isFirst | member
      · rw [isFirst]
        exact hereditary.matcher inner
      · rcases List.mem_append.mp member with member | member
        · exact hereditary.matcherEdge first part member
        · exact hereditary.matcherEdge last part member

theorem Hereditary.matcherEdge (hereditary : Hereditary ofMatcher ofPattern) :
    ∀ edge : Edge Matcher, ∀ part ∈ edge.parts, ofMatcher part
  | .absent, part, member => by
      simp [Edge.parts] at member
  | .optional inner, part, member => by
      rw [List.mem_singleton.mp member]
      exact hereditary.matcher inner
  | .required inner, part, member => by
      rw [List.mem_singleton.mp member]
      exact hereditary.matcher inner

theorem Hereditary.patternOf (hereditary : Hereditary ofMatcher ofPattern) :
    ∀ pattern, ofPattern pattern
  | .group (.around name matcher) => hereditary.around name matcher (hereditary.matcher matcher)
  | .group (.nested name pattern) => hereditary.nested name pattern (hereditary.patternOf pattern)
  | .unnamed matcher => hereditary.unnamed matcher (hereditary.matcher matcher)
  | .sequence parts => hereditary.patternSequence parts (hereditary.patterns parts)
  | .firstOf choices => hereditary.patternFirstOf choices (hereditary.patterns choices)
  | .optional inner => hereditary.patternOptional inner (hereditary.patternOf inner)
  | .repetition repetition =>
      hereditary.patternRepetition repetition (hereditary.patternRepetitionParts repetition)

theorem Hereditary.patterns (hereditary : Hereditary ofMatcher ofPattern) :
    ∀ parts : List Pattern, ∀ part ∈ parts, ofPattern part
  | [], part, member => by
      simp at member
  | first :: rest, part, member => by
      rcases List.mem_cons.mp member with isFirst | member
      · rw [isFirst]
        exact hereditary.patternOf first
      · exact hereditary.patterns rest part member

theorem Hereditary.patternRepetitionParts (hereditary : Hereditary ofMatcher ofPattern) :
    ∀ repetition : Repetition Pattern, ∀ part ∈ repetition.parts, ofPattern part
  | ⟨_, _, inner, first, last⟩, part, member => by
      rcases List.mem_cons.mp member with isFirst | member
      · rw [isFirst]
        exact hereditary.patternOf inner
      · rcases List.mem_append.mp member with member | member
        · exact hereditary.patternEdge first part member
        · exact hereditary.patternEdge last part member

theorem Hereditary.patternEdge (hereditary : Hereditary ofMatcher ofPattern) :
    ∀ edge : Edge Pattern, ∀ part ∈ edge.parts, ofPattern part
  | .absent, part, member => by
      simp [Edge.parts] at member
  | .optional inner, part, member => by
      rw [List.mem_singleton.mp member]
      exact hereditary.patternOf inner
  | .required inner, part, member => by
      rw [List.mem_singleton.mp member]
      exact hereditary.patternOf inner

end

end TextMatch
