import TextMatch.Matcher
import TextMatch.Proofs.Outcomes

/-!
# Rules for steps

Every matcher and every pattern stands for a step that is built from a few kinds of steps.  What
holds of all of them is proved by induction on the way a step is built, with one rule for every kind
of step: the rules lead from conditions on the parts to a condition on the whole.
-/

namespace TextMatch

/-- The parts of an edge: one or none. -/
def Edge.parts {alpha : Type} : Edge alpha → List alpha
  | .absent => []
  | .optional part => [part]
  | .required part => [part]

/-- The repeated part and the parts of the edges. -/
def Repetition.parts {alpha : Type} (repetition : Repetition alpha) : List alpha :=
  repetition.inner :: (repetition.first.parts ++ repetition.last.parts)

namespace Repetition

variable {alpha : Type} {repetition : Repetition alpha} {part : alpha}

theorem inner_mem_parts (repetition : Repetition alpha) : repetition.inner ∈ repetition.parts :=
  List.mem_cons_self

theorem mem_parts_of_first (member : part ∈ repetition.first.parts) : part ∈ repetition.parts :=
  List.mem_cons_of_mem _ (List.mem_append_left _ member)

theorem mem_parts_of_last (member : part ∈ repetition.last.parts) : part ∈ repetition.parts :=
  List.mem_cons_of_mem _ (List.mem_append_right _ member)

end Repetition

namespace Step

/-- A group as a step, which records one capture. -/
def recorded (name : String) (step : Step) : Step := fun cursor =>
  (group name step cursor).map fun result => (result.1, [result.2])

/-! ## The steps of matchers and patterns -/

/-- The steps that matchers and patterns stand for. -/
inductive Built : Step → Prop
  | codePoint (members : CodePointClass) : Built (codePoint members)
  | require (test : Cursor → Bool) : Built (require test)
  | literals (set : LiteralSet) : Built (literals set)
  | silent {step : Step} : Built step → Built step.silent
  | sequence {steps : List Step} : (∀ step ∈ steps, Built step) → Built (sequence steps)
  | firstOf {steps : List Step} : (∀ step ∈ steps, Built step) → Built (firstOf steps)
  | optional {step : Step} : Built step → Built (optional step)
  | negation {step : Step} : Built step → Built (negation step)
  | ahead {step : Step} : Built step → Built (ahead step)
  | ghost {step : Step} : Built step → Built (ghost step)
  | recorded (name : String) {step : Step} : Built step → Built (recorded name step)
  | repetition {repetition : Repetition Step} :
      (∀ step ∈ repetition.parts, Built step) → Built repetition.step

end Step

mutual

theorem Matcher.built_step : ∀ matcher : Matcher, matcher.step.Built
  | .codePoint members => .codePoint members
  | .anchor anchor => .require anchor.holds
  | .literals set => .literals set
  | .sequence parts => .silent (.sequence (Matcher.built_steps parts))
  | .firstOf choices => .silent (.firstOf (Matcher.built_steps choices))
  | .optional inner => .silent (.optional inner.built_step)
  | .negation inner => .negation inner.built_step
  | .repetition repetition => .silent (.repetition (Matcher.built_repetition repetition))
  | .ahead inner => .ahead inner.built_step
  | .behind _ => .require _
  | .behindWord _ => .require _
  | .ghost inner => .ghost inner.built_step
  | .delegate inner => inner.built_step
  | .pattern pattern => pattern.built_step

theorem Matcher.built_steps :
    ∀ parts : List Matcher, ∀ step ∈ Matcher.steps parts, step.Built
  | [], step, member => by
      simp [Matcher.steps] at member
  | first :: rest, step, member => by
      rcases List.mem_cons.mp member with rfl | member
      · exact first.built_step
      · exact Matcher.built_steps rest step member

theorem Matcher.built_repetition : ∀ repetition : Repetition Matcher,
    ∀ step ∈ (Matcher.repetitionOfSteps repetition).parts, step.Built
  | ⟨_, _, inner, first, last⟩, step, member => by
      rcases List.mem_cons.mp member with rfl | member
      · exact inner.built_step
      · rcases List.mem_append.mp member with member | member
        · exact Matcher.built_edge first step member
        · exact Matcher.built_edge last step member

theorem Matcher.built_edge :
    ∀ edge : Edge Matcher, ∀ step ∈ (Matcher.edgeOfSteps edge).parts, step.Built
  | .absent, step, member => by
      simp [Matcher.edgeOfSteps, Edge.parts] at member
  | .optional part, step, member => by
      obtain rfl := List.mem_singleton.mp member
      exact part.built_step
  | .required part, step, member => by
      obtain rfl := List.mem_singleton.mp member
      exact part.built_step

theorem Pattern.built_step : ∀ pattern : Pattern, pattern.step.Built
  | .group (.around name matcher) => .recorded name matcher.built_step
  | .group (.nested name pattern) => .recorded name pattern.built_step
  | .unnamed matcher => .silent matcher.built_step
  | .sequence parts => .sequence (Pattern.built_steps parts)
  | .firstOf choices => .firstOf (Pattern.built_steps choices)
  | .optional inner => .optional inner.built_step
  | .repetition repetition => .repetition (Pattern.built_repetition repetition)

theorem Pattern.built_steps :
    ∀ parts : List Pattern, ∀ step ∈ Pattern.steps parts, step.Built
  | [], step, member => by
      simp [Pattern.steps] at member
  | first :: rest, step, member => by
      rcases List.mem_cons.mp member with rfl | member
      · exact first.built_step
      · exact Pattern.built_steps rest step member

theorem Pattern.built_repetition : ∀ repetition : Repetition Pattern,
    ∀ step ∈ (Pattern.repetitionOfSteps repetition).parts, step.Built
  | ⟨_, _, inner, first, last⟩, step, member => by
      rcases List.mem_cons.mp member with rfl | member
      · exact inner.built_step
      · rcases List.mem_append.mp member with member | member
        · exact Pattern.built_edge first step member
        · exact Pattern.built_edge last step member

theorem Pattern.built_edge :
    ∀ edge : Edge Pattern, ∀ step ∈ (Pattern.edgeOfSteps edge).parts, step.Built
  | .absent, step, member => by
      simp [Pattern.edgeOfSteps, Edge.parts] at member
  | .optional part, step, member => by
      obtain rfl := List.mem_singleton.mp member
      exact part.built_step
  | .required part, step, member => by
      obtain rfl := List.mem_singleton.mp member
      exact part.built_step

end

/-! ## Conditions on steps -/

open Outcome

namespace Step

/-- From a cursor that meets `before`, a match leads to one that meets `after`. -/
def Leads (step : Step) (before after : Cursor → Prop) (onFailure : Failure → Prop) : Prop :=
  ∀ cursor, before cursor → (step cursor).Meets (fun result => after result.1) onFailure

/-- Where matching may not go on at a cursor that meets `before`, the failure is a permitted one. -/
def RefusalsMeet (before : Cursor → Prop) (onFailure : Failure → Prop) : Prop :=
  ∀ cursor failure, before cursor → cursor.requireMatchable = .error failure → onFailure failure

variable {before after onInner : Cursor → Prop} {onFailure : Failure → Prop} {step : Step}
variable {steps : List Step}

theorem meets_guarded {alpha : Type} {attempt : Cursor → Outcome alpha} {onMatch : alpha → Prop}
    {cursor : Cursor}
    (refused : ∀ failure, cursor.requireMatchable = .error failure → onFailure failure)
    (allowed : cursor.requireMatchable = .ok () → (attempt cursor).Meets onMatch onFailure) :
    (guarded attempt cursor).Meets onMatch onFailure :=
  Meets.ofExcept_bind (fun _ matchable => allowed matchable) refused

theorem leads_guarded {attempt : Step} (refusals : RefusalsMeet before onFailure)
    (leads : attempt.Leads before after onFailure) :
    Leads (guarded attempt) before after onFailure := by
  intro cursor holds
  exact meets_guarded
    (fun failure refused => refusals cursor failure holds refused)
    (fun _ => leads cursor holds)

theorem Leads.silent (leads : step.Leads before after onFailure) :
    step.silent.Leads before after onFailure :=
  fun cursor holds => Meets.map (leads cursor holds)

theorem leads_require (test : Cursor → Bool) (refusals : RefusalsMeet before onFailure)
    (stay : ∀ cursor, before cursor → after cursor) :
    (require test).Leads before after onFailure := by
  apply leads_guarded refusals
  intro cursor holds
  by_cases passes : test cursor = true
  · simpa [passes] using stay cursor holds
  · simp [passes]

/-- All steps but the last keep the condition under which steps are made. -/
theorem leads_follow
    (initial : ∀ step ∈ steps.dropLast, step.Leads before before onFailure)
    (every : ∀ step ∈ steps, step.Leads before after onFailure)
    (stay : ∀ cursor, before cursor → after cursor) :
    Leads (follow steps) before after onFailure := by
  induction steps with
  | nil =>
      intro cursor holds
      exact stay cursor holds
  | cons step rest inductionHypothesis =>
      intro cursor holds
      have restLeads : rest ≠ [] → Leads (follow rest) before after onFailure := by
        intro nonempty
        apply inductionHypothesis
        · intro later member
          apply initial
          rw [List.dropLast_cons_of_ne_nil nonempty]
          exact List.mem_cons_of_mem step member
        · exact fun later member => every later (List.mem_cons_of_mem step member)
      by_cases isLast : rest = []
      · subst rest
        apply Meets.bind (every step (List.mem_cons_self) cursor holds)
        rintro ⟨middle, captures⟩ reached
        exact reached
      · have keeps : step.Leads before before onFailure := by
          apply initial
          rw [List.dropLast_cons_of_ne_nil isLast]
          exact List.mem_cons_self
        apply Meets.bind (keeps cursor holds)
        rintro ⟨middle, captures⟩ middleHolds
        apply Meets.bind (restLeads isLast middle middleHolds)
        rintro ⟨next, more⟩ reached
        exact reached

theorem leads_sequence (refusals : RefusalsMeet before onFailure)
    (initial : ∀ step ∈ steps.dropLast, step.Leads before before onFailure)
    (every : ∀ step ∈ steps, step.Leads before after onFailure)
    (stay : ∀ cursor, before cursor → after cursor) :
    (sequence steps).Leads before after onFailure :=
  leads_guarded refusals (leads_follow initial every stay)

theorem leads_firstOf (refusals : RefusalsMeet before onFailure)
    (every : ∀ step ∈ steps, step.Leads before after onFailure) :
    (firstOf steps).Leads before after onFailure := by
  apply leads_guarded refusals
  intro cursor holds
  induction steps with
  | nil => trivial
  | cons step rest inductionHypothesis =>
      have restMeets := inductionHypothesis fun later member =>
        every later (List.mem_cons_of_mem step member)
      exact Meets.orElse (every step List.mem_cons_self cursor holds) restMeets

theorem leads_optional (refusals : RefusalsMeet before onFailure)
    (leads : step.Leads before after onFailure)
    (stay : ∀ cursor, before cursor → after cursor) :
    (optional step).Leads before after onFailure :=
  leads_guarded refusals fun cursor holds =>
    Meets.orElse (leads cursor holds) (stay cursor holds)

theorem leads_negation (refusals : RefusalsMeet before onFailure)
    (leads : step.Leads before onInner onFailure)
    (stay : ∀ cursor, before cursor → after cursor) :
    (negation step).Leads before after onFailure := by
  apply leads_guarded refusals
  intro cursor holds
  have inner := leads cursor holds
  cases outcome : step cursor with
  | matched result => simp only [outcome, meets_noMatch]
  | noMatch =>
      simp only [outcome]
      exact stay cursor holds
  | failed failure =>
      simp only [outcome] at inner ⊢
      exact inner

/-! ## Steps that record nothing -/

/-- A step that records nothing. -/
def Bare (step : Step) : Prop :=
  ∀ cursor, (step cursor).Meets (fun result => result.2 = []) fun _ => True

theorem bare_guarded {attempt : Step} (bare : attempt.Bare) : Bare (guarded attempt) :=
  fun cursor => Meets.ofExcept_bind (fun _ _ => bare cursor) fun _ _ => trivial

theorem bare_silent (step : Step) : step.silent.Bare := by
  intro cursor
  exact Meets.map ((Outcome.meets_trivial (step cursor)).imp fun _ _ => rfl)

theorem bare_require (test : Cursor → Bool) : (require test).Bare := by
  apply bare_guarded
  intro cursor
  by_cases passes : test cursor = true
  · simp [passes]
  · simp [passes]

theorem bare_codePoint (members : CodePointClass) : (codePoint members).Bare := by
  apply bare_guarded
  intro cursor
  dsimp only
  split
  · trivial
  · split
    · exact Meets.ofExcept_bind (fun _ _ => rfl) fun _ _ => trivial
    · trivial

theorem bare_literals (set : LiteralSet) : (literals set).Bare := by
  apply bare_guarded
  intro cursor
  dsimp only
  split
  · trivial
  · exact Meets.ofExcept_bind (fun _ _ => rfl) fun _ _ => trivial

theorem bare_negation (step : Step) : step.negation.Bare := by
  apply bare_guarded
  intro cursor
  dsimp only
  split
  · trivial
  · rfl
  · trivial

theorem bare_ahead (step : Step) : step.ahead.Bare := by
  apply bare_guarded
  intro cursor
  apply Meets.ofExcept_bind _ fun _ _ => trivial
  exact fun fresh _ => Meets.bind (Outcome.meets_trivial (step fresh)) fun _ _ => rfl

theorem bare_ghost (step : Step) : step.ghost.Bare := by
  apply bare_guarded
  intro cursor
  apply Meets.bind (Outcome.meets_trivial (step cursor))
  intro result _
  exact Meets.ofExcept_bind (fun _ _ => rfl) fun _ _ => trivial

end Step

end TextMatch
