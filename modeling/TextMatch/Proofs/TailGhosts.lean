import TextMatch.Proofs.CursorOrder
import TextMatch.Proofs.SyntaxInduction

/-!
# Ghosts in tail position

A matcher fails only because it goes on behind a ghost of its own.  One whose ghosts all stand in
tail position therefore never fails: whatever is followed by something else is sealed, that is,
leaves no ghost.
-/

namespace TextMatch

/-! ## Sealed matchers -/

mutual

/-- A matcher with ghosts at most inside of negations and lookaheads, which leave nothing behind. -/
inductive Matcher.Sealed : Matcher → Prop
  | codePoint (members : CodePointClass) : Matcher.Sealed (.codePoint members)
  | anchor (anchor : Anchor) : Matcher.Sealed (.anchor anchor)
  | literals (set : LiteralSet) : Matcher.Sealed (.literals set)
  | sequence {parts : List Matcher} :
      (∀ part ∈ parts, Matcher.Sealed part) → Matcher.Sealed (.sequence parts)
  | firstOf {choices : List Matcher} :
      (∀ choice ∈ choices, Matcher.Sealed choice) → Matcher.Sealed (.firstOf choices)
  | optional {inner : Matcher} : Matcher.Sealed inner → Matcher.Sealed (.optional inner)
  | negation (inner : Matcher) : Matcher.Sealed (.negation inner)
  | repetition {repetition : Repetition Matcher} :
      (∀ part ∈ repetition.parts, Matcher.Sealed part) →
      Matcher.Sealed (.repetition repetition)
  | ahead (inner : Matcher) : Matcher.Sealed (.ahead inner)
  | behind (members : CodePointClass) : Matcher.Sealed (.behind members)
  | behindWord (words : List (List Char)) : Matcher.Sealed (.behindWord words)
  | delegate {inner : Matcher} : Matcher.Sealed inner → Matcher.Sealed (.delegate inner)
  | pattern {pattern : Pattern} : Pattern.Sealed pattern → Matcher.Sealed (.pattern pattern)

inductive Pattern.Sealed : Pattern → Prop
  | around (name : String) {matcher : Matcher} :
      Matcher.Sealed matcher → Pattern.Sealed (.group (.around name matcher))
  | nested (name : String) {pattern : Pattern} :
      Pattern.Sealed pattern → Pattern.Sealed (.group (.nested name pattern))
  | unnamed {matcher : Matcher} : Matcher.Sealed matcher → Pattern.Sealed (.unnamed matcher)
  | sequence {parts : List Pattern} :
      (∀ part ∈ parts, Pattern.Sealed part) → Pattern.Sealed (.sequence parts)
  | firstOf {choices : List Pattern} :
      (∀ choice ∈ choices, Pattern.Sealed choice) → Pattern.Sealed (.firstOf choices)
  | optional {inner : Pattern} : Pattern.Sealed inner → Pattern.Sealed (.optional inner)
  | repetition {repetition : Repetition Pattern} :
      (∀ part ∈ repetition.parts, Pattern.Sealed part) →
      Pattern.Sealed (.repetition repetition)

end

/-! ## Matchers with their ghosts last -/

mutual

/-- Throughout the matcher, all parts of a sequence but the last are sealed, and so are the repeated
part and the first part of a repetition. -/
inductive Matcher.GhostsLast : Matcher → Prop
  | codePoint (members : CodePointClass) : Matcher.GhostsLast (.codePoint members)
  | anchor (anchor : Anchor) : Matcher.GhostsLast (.anchor anchor)
  | literals (set : LiteralSet) : Matcher.GhostsLast (.literals set)
  | sequence {parts : List Matcher} :
      (∀ part ∈ parts, Matcher.GhostsLast part) → (∀ part ∈ parts.dropLast, part.Sealed) →
      Matcher.GhostsLast (.sequence parts)
  | firstOf {choices : List Matcher} :
      (∀ choice ∈ choices, Matcher.GhostsLast choice) → Matcher.GhostsLast (.firstOf choices)
  | optional {inner : Matcher} : Matcher.GhostsLast inner → Matcher.GhostsLast (.optional inner)
  | negation {inner : Matcher} : Matcher.GhostsLast inner → Matcher.GhostsLast (.negation inner)
  | repetition {repetition : Repetition Matcher} :
      (∀ part ∈ repetition.parts, Matcher.GhostsLast part) → repetition.inner.Sealed →
      (∀ part ∈ repetition.first.parts, part.Sealed) →
      Matcher.GhostsLast (.repetition repetition)
  | ahead {inner : Matcher} : Matcher.GhostsLast inner → Matcher.GhostsLast (.ahead inner)
  | behind (members : CodePointClass) : Matcher.GhostsLast (.behind members)
  | behindWord (words : List (List Char)) : Matcher.GhostsLast (.behindWord words)
  | ghost {inner : Matcher} : Matcher.GhostsLast inner → Matcher.GhostsLast (.ghost inner)
  | delegate {inner : Matcher} : Matcher.GhostsLast inner → Matcher.GhostsLast (.delegate inner)
  | pattern {pattern : Pattern} :
      Pattern.GhostsLast pattern → Matcher.GhostsLast (.pattern pattern)

inductive Pattern.GhostsLast : Pattern → Prop
  | around (name : String) {matcher : Matcher} :
      Matcher.GhostsLast matcher → Pattern.GhostsLast (.group (.around name matcher))
  | nested (name : String) {pattern : Pattern} :
      Pattern.GhostsLast pattern → Pattern.GhostsLast (.group (.nested name pattern))
  | unnamed {matcher : Matcher} :
      Matcher.GhostsLast matcher → Pattern.GhostsLast (.unnamed matcher)
  | sequence {parts : List Pattern} :
      (∀ part ∈ parts, Pattern.GhostsLast part) → (∀ part ∈ parts.dropLast, part.Sealed) →
      Pattern.GhostsLast (.sequence parts)
  | firstOf {choices : List Pattern} :
      (∀ choice ∈ choices, Pattern.GhostsLast choice) → Pattern.GhostsLast (.firstOf choices)
  | optional {inner : Pattern} : Pattern.GhostsLast inner → Pattern.GhostsLast (.optional inner)
  | repetition {repetition : Repetition Pattern} :
      (∀ part ∈ repetition.parts, Pattern.GhostsLast part) → repetition.inner.Sealed →
      (∀ part ∈ repetition.first.parts, part.Sealed) →
      Pattern.GhostsLast (.repetition repetition)

end

/-! ## Steps -/

namespace Step

open Outcome

/-- From a ready cursor, a match leads to a ready one. -/
def KeepsReady (step : Step) : Prop :=
  step.Leads Cursor.Ready Cursor.Ready fun _ => True

/-- From a ready cursor, the step does not fail. -/
def NeverFails (step : Step) : Prop :=
  step.Leads Cursor.Ready (fun _ => True) fun _ => False

variable {step : Step} {steps : List Step} {repetition : Repetition Step}

theorem refusalsMeet_ready (onFailure : Failure → Prop) :
    RefusalsMeet Cursor.Ready onFailure := by
  intro cursor failure ready refused
  rw [ready.requireMatchable] at refused
  contradiction

theorem KeepsReady.and_neverFails (keeps : step.KeepsReady) (never : step.NeverFails) :
    step.Leads Cursor.Ready Cursor.Ready fun _ => False := by
  intro cursor ready
  exact ((keeps cursor ready).and_of_never (never cursor ready)).imp fun _ both => both.1

theorem NeverFails.reached (never : step.NeverFails) (built : step.Built) {cursor : Cursor}
    (ready : cursor.Ready) :
    (step cursor).Meets (fun result => cursor.Reached result.1 ∧ True) fun _ => False :=
  (built.orderly cursor cursor ready.reached).and_of_never (never cursor ready)

theorem keepsReady_codePoint (members : CodePointClass) : (codePoint members).KeepsReady :=
  fun _ ready => meets_codePoint members ready fun _ may => ready.moved may.room

theorem keepsReady_literals (set : LiteralSet) : (literals set).KeepsReady :=
  fun _ ready => meets_literals set ready fun _ may => ready.moved may.room

theorem keepsReady_require (test : Cursor → Bool) : (require test).KeepsReady :=
  leads_require test (refusalsMeet_ready _) fun _ => id

theorem keepsReady_sequence (parts : ∀ step ∈ steps, step.KeepsReady) :
    (sequence steps).KeepsReady :=
  leads_sequence (refusalsMeet_ready _)
    (fun step member => parts step (List.dropLast_subset _ member)) parts fun _ => id

theorem keepsReady_firstOf (choices : ∀ step ∈ steps, step.KeepsReady) :
    (firstOf steps).KeepsReady :=
  leads_firstOf (refusalsMeet_ready _) choices

theorem KeepsReady.optional (inner : step.KeepsReady) : step.optional.KeepsReady :=
  leads_optional (refusalsMeet_ready _) inner fun _ => id

theorem keepsReady_negation (step : Step) : step.negation.KeepsReady := by
  have inner : step.Leads Cursor.Ready (fun _ => True) fun _ => True :=
    fun cursor _ => meets_trivial (step cursor)
  exact leads_negation (refusalsMeet_ready _) inner fun _ => id

theorem keepsReady_ahead (step : Step) : step.ahead.KeepsReady :=
  fun _ ready => meets_ahead ready (meets_trivial _) ready

theorem KeepsReady.recorded (keeps : step.KeepsReady) (built : step.Built) (name : String) :
    (recorded name step).KeepsReady := by
  intro cursor ready
  apply meets_recorded name Cursor.Ready ready
  have reached := built.orderly cursor cursor ready.reached
  have kept := keeps cursor ready
  cases outcome : step cursor with
  | matched result =>
      rw [outcome] at reached kept
      exact ⟨reached, kept⟩
  | noMatch => trivial
  | failed failure => trivial

theorem keepsReady_repetition (parts : ∀ step ∈ repetition.parts, step.KeepsReady) :
    repetition.step.KeepsReady := by
  apply Repetition.leads_step (refusalsMeet_ready _)
  · exact parts _ (Repetition.inner_mem_parts repetition)
  · exact fun step member => parts step (Repetition.mem_parts_of_first member)
  · exact fun step member => parts step (Repetition.mem_parts_of_last member)
  · exact fun _ => id

theorem neverFails_codePoint (members : CodePointClass) : (codePoint members).NeverFails :=
  fun _ ready => meets_codePoint members ready fun _ _ => trivial

theorem neverFails_literals (set : LiteralSet) : (literals set).NeverFails :=
  fun _ ready => meets_literals set ready fun _ _ => trivial

theorem neverFails_require (test : Cursor → Bool) : (require test).NeverFails :=
  leads_require test (refusalsMeet_ready _) fun _ _ => trivial

/-- Only the last step of a sequence may leave a ghost. -/
theorem neverFails_sequence (parts : ∀ step ∈ steps, step.NeverFails)
    (initial : ∀ step ∈ steps.dropLast, step.KeepsReady) : (sequence steps).NeverFails := by
  apply leads_sequence (refusalsMeet_ready _)
  · intro step member
    exact (initial step member).and_neverFails (parts step (List.dropLast_subset _ member))
  · exact parts
  · exact fun _ _ => trivial

theorem neverFails_firstOf (choices : ∀ step ∈ steps, step.NeverFails) :
    (firstOf steps).NeverFails :=
  leads_firstOf (refusalsMeet_ready _) choices

theorem NeverFails.optional (inner : step.NeverFails) : step.optional.NeverFails :=
  leads_optional (refusalsMeet_ready _) inner fun _ _ => trivial

theorem NeverFails.negation (inner : step.NeverFails) : step.negation.NeverFails :=
  leads_negation (refusalsMeet_ready _) inner fun _ _ => trivial

theorem NeverFails.ahead (inner : step.NeverFails) : step.ahead.NeverFails :=
  fun _ ready => meets_ahead ready (inner _ (Cursor.ready_fresh ready.position_le)) trivial

theorem NeverFails.ghost (never : step.NeverFails) (built : step.Built) :
    step.ghost.NeverFails := by
  intro cursor ready
  apply meets_ghost ready
  · exact (never.reached built ready).imp fun _ both => both.1
  · exact fun _ _ => trivial

theorem NeverFails.recorded (never : step.NeverFails) (built : step.Built) (name : String) :
    (recorded name step).NeverFails :=
  fun _ ready => meets_recorded name (fun _ => True) ready (never.reached built ready)

/-- Only the last iteration may leave a ghost: the last step is tried behind iterations that leave
none. -/
theorem neverFails_repetition (parts : ∀ step ∈ repetition.parts, step.NeverFails)
    (inner : repetition.inner.KeepsReady)
    (first : ∀ step ∈ repetition.first.parts, step.KeepsReady) :
    repetition.step.NeverFails := by
  apply Repetition.leads_step (refusalsMeet_ready _)
  · exact inner.and_neverFails (parts _ (Repetition.inner_mem_parts repetition))
  · intro step member
    exact (first step member).and_neverFails (parts step (Repetition.mem_parts_of_first member))
  · exact fun step member => parts step (Repetition.mem_parts_of_last member)
  · exact fun _ _ => trivial

end Step

/-! ## Sealed matchers leave no ghost -/

open Step

mutual

theorem Matcher.Sealed.keepsReady :
    ∀ {matcher : Matcher}, matcher.Sealed → matcher.step.KeepsReady
  | _, .codePoint members => keepsReady_codePoint members
  | _, .anchor anchor => keepsReady_require anchor.holds
  | _, .literals set => keepsReady_literals set
  | _, .sequence parts => by
      apply Leads.silent
      apply keepsReady_sequence
      rw [Matcher.steps_eq_map, List.forall_mem_map]
      exact fun part member => (parts part member).keepsReady
  | _, .firstOf choices => by
      apply Leads.silent
      apply keepsReady_firstOf
      rw [Matcher.steps_eq_map, List.forall_mem_map]
      exact fun choice member => (choices choice member).keepsReady
  | _, .optional inner => Leads.silent inner.keepsReady.optional
  | _, .negation inner => keepsReady_negation inner.step
  | _, .repetition parts => by
      apply Leads.silent
      apply keepsReady_repetition
      rw [Matcher.repetitionOfSteps_eq_map, Repetition.parts_map, List.forall_mem_map]
      exact fun part member => (parts part member).keepsReady
  | _, .ahead inner => keepsReady_ahead inner.step
  | _, .behind _ => keepsReady_require _
  | _, .behindWord _ => keepsReady_require _
  | _, .delegate inner => inner.keepsReady
  | _, .pattern pattern => pattern.keepsReady

theorem Pattern.Sealed.keepsReady :
    ∀ {pattern : Pattern}, pattern.Sealed → pattern.step.KeepsReady
  | _, .around name matcher => matcher.keepsReady.recorded (Matcher.built_step _) name
  | _, .nested name pattern => pattern.keepsReady.recorded (Pattern.built_step _) name
  | _, .unnamed matcher => Leads.silent matcher.keepsReady
  | _, .sequence parts => by
      apply keepsReady_sequence
      rw [Pattern.steps_eq_map, List.forall_mem_map]
      exact fun part member => (parts part member).keepsReady
  | _, .firstOf choices => by
      apply keepsReady_firstOf
      rw [Pattern.steps_eq_map, List.forall_mem_map]
      exact fun choice member => (choices choice member).keepsReady
  | _, .optional inner => inner.keepsReady.optional
  | _, .repetition parts => by
      apply keepsReady_repetition
      rw [Pattern.repetitionOfSteps_eq_map, Repetition.parts_map, List.forall_mem_map]
      exact fun part member => (parts part member).keepsReady

end

/-! ## Matchers with their ghosts last never fail -/

mutual

theorem Matcher.GhostsLast.neverFails :
    ∀ {matcher : Matcher}, matcher.GhostsLast → matcher.step.NeverFails
  | _, .codePoint members => neverFails_codePoint members
  | _, .anchor anchor => neverFails_require anchor.holds
  | _, .literals set => neverFails_literals set
  | _, .sequence parts initial => by
      apply Leads.silent
      apply neverFails_sequence
      · rw [Matcher.steps_eq_map, List.forall_mem_map]
        exact fun part member => (parts part member).neverFails
      · rw [Matcher.steps_eq_map, ← List.map_dropLast, List.forall_mem_map]
        exact fun part member => (initial part member).keepsReady
  | _, .firstOf choices => by
      apply Leads.silent
      apply neverFails_firstOf
      rw [Matcher.steps_eq_map, List.forall_mem_map]
      exact fun choice member => (choices choice member).neverFails
  | _, .optional inner => Leads.silent inner.neverFails.optional
  | _, .negation inner => inner.neverFails.negation
  | _, .repetition parts inner first => by
      apply Leads.silent
      apply neverFails_repetition
      · rw [Matcher.repetitionOfSteps_eq_map, Repetition.parts_map, List.forall_mem_map]
        exact fun part member => (parts part member).neverFails
      · rw [Matcher.repetitionOfSteps_eq_map]
        exact inner.keepsReady
      · rw [Matcher.repetitionOfSteps_eq_map, Repetition.map, Edge.parts_map, List.forall_mem_map]
        exact fun part member => (first part member).keepsReady
  | _, .ahead inner => inner.neverFails.ahead
  | _, .behind _ => neverFails_require _
  | _, .behindWord _ => neverFails_require _
  | _, .ghost inner => inner.neverFails.ghost (Matcher.built_step _)
  | _, .delegate inner => inner.neverFails
  | _, .pattern pattern => pattern.neverFails

theorem Pattern.GhostsLast.neverFails :
    ∀ {pattern : Pattern}, pattern.GhostsLast → pattern.step.NeverFails
  | _, .around name matcher => matcher.neverFails.recorded (Matcher.built_step _) name
  | _, .nested name pattern => pattern.neverFails.recorded (Pattern.built_step _) name
  | _, .unnamed matcher => Leads.silent matcher.neverFails
  | _, .sequence parts initial => by
      apply neverFails_sequence
      · rw [Pattern.steps_eq_map, List.forall_mem_map]
        exact fun part member => (parts part member).neverFails
      · rw [Pattern.steps_eq_map, ← List.map_dropLast, List.forall_mem_map]
        exact fun part member => (initial part member).keepsReady
  | _, .firstOf choices => by
      apply neverFails_firstOf
      rw [Pattern.steps_eq_map, List.forall_mem_map]
      exact fun choice member => (choices choice member).neverFails
  | _, .optional inner => inner.neverFails.optional
  | _, .repetition parts inner first => by
      apply neverFails_repetition
      · rw [Pattern.repetitionOfSteps_eq_map, Repetition.parts_map, List.forall_mem_map]
        exact fun part member => (parts part member).neverFails
      · rw [Pattern.repetitionOfSteps_eq_map]
        exact inner.keepsReady
      · rw [Pattern.repetitionOfSteps_eq_map, Repetition.map, Edge.parts_map, List.forall_mem_map]
        exact fun part member => (first part member).keepsReady

end

end TextMatch
