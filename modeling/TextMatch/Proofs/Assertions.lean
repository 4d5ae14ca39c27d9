import Mathlib.Logic.Basic
import TextMatch.Proofs.ContextIndependence
import TextMatch.Proofs.GreedyPhase
import TextMatch.Proofs.ReadingBack

/-!
# Assertions

An assertion says something about the text around a cursor and goes on from where the cursor stands,
whatever it has looked at.  To look ahead is to negate twice, although the one begins a new attempt
and the other goes on with what has been captured.  A word boundary lies where a code point of the
word stands on one side only, be it between two code points or at an end of the text.
-/

namespace TextMatch

open Outcome (Meets)

namespace Step

variable {step first second : Step} {steps : List Step} {cursor : Cursor} {holds holds' : Prop}

/-! ## Steps that stay -/

/-- A match leads back to the cursor that it began at. -/
def Stays (step : Step) : Prop :=
  ∀ origin : Cursor, step.Leads (· = origin) (· = origin) fun _ => True

theorem refusalsMeet_trivial (before : Cursor → Prop) : RefusalsMeet before fun _ => True :=
  fun _ _ _ _ => trivial

theorem stays_require (test : Cursor → Bool) : (require test).Stays :=
  fun _ => leads_require test (refusalsMeet_trivial _) fun _ => id

theorem stays_negation (step : Step) : step.negation.Stays := by
  intro origin
  have inner : step.Leads (· = origin) (fun _ => True) fun _ => True :=
    fun cursor _ => Outcome.meets_trivial (step cursor)
  exact leads_negation (refusalsMeet_trivial _) inner fun _ => id

theorem stays_ahead (step : Step) : step.ahead.Stays := by
  intro origin
  apply leads_guarded (refusalsMeet_trivial _)
  intro cursor atOrigin
  apply Meets.ofExcept_bind _ fun _ _ => trivial
  exact fun fresh _ => Meets.bind (Outcome.meets_trivial (step fresh)) fun _ _ => atOrigin

theorem Stays.silent (stays : step.Stays) : step.silent.Stays :=
  fun origin => (stays origin).silent

theorem stays_sequence (every : ∀ step ∈ steps, step.Stays) : (sequence steps).Stays := by
  intro origin
  apply leads_sequence (refusalsMeet_trivial _)
  · exact fun step member => every step (List.dropLast_subset _ member) origin
  · exact fun step member => every step member origin
  · exact fun _ => id

theorem stays_firstOf (every : ∀ step ∈ steps, step.Stays) : (firstOf steps).Stays :=
  fun origin => leads_firstOf (refusalsMeet_trivial _) fun step member => every step member origin

/-! ## Verdicts -/

/-- The step matches at the cursor just where `holds` is true, and does not fail. -/
structure Decides (step : Step) (cursor : Cursor) (holds : Prop) : Prop where
  matched : holds → ∃ result, step cursor = .matched result
  noMatch : ¬ holds → step cursor = .noMatch

/-- The step stays at the cursor where `holds` is true, and does not match where it is not. -/
structure Asserts (step : Step) (cursor : Cursor) (holds : Prop) : Prop where
  stays : holds → step cursor = .matched (cursor, [])
  noMatch : ¬ holds → step cursor = .noMatch

theorem Asserts.decides (asserts : step.Asserts cursor holds) : step.Decides cursor holds where
  matched := fun isTrue => ⟨_, asserts.stays isTrue⟩
  noMatch := asserts.noMatch

theorem Asserts.congr (asserts : step.Asserts cursor holds) (same : holds ↔ holds') :
    step.Asserts cursor holds' where
  stays := fun isTrue => asserts.stays (same.mpr isTrue)
  noMatch := fun isFalse => asserts.noMatch (mt same.mp isFalse)

theorem asserts_require (test : Cursor → Bool) (ready : cursor.Ready) :
    (require test).Asserts cursor (test cursor = true) where
  stays := by
    intro passes
    rw [require, guarded_of_ready _ ready, if_pos passes]
  noMatch := by
    intro fails
    rw [require, guarded_of_ready _ ready, if_neg fails]

theorem Decides.negation (decides : step.Decides cursor holds) (ready : cursor.Ready) :
    step.negation.Asserts cursor (¬ holds) where
  stays := by
    intro isFalse
    rw [Step.negation, guarded_of_ready _ ready, decides.noMatch isFalse]
  noMatch := by
    intro isTrue
    obtain ⟨result, matched⟩ := decides.matched (Classical.not_not.mp isTrue)
    rw [Step.negation, guarded_of_ready _ ready, matched]

theorem Decides.ahead (ready : cursor.Ready)
    (decides : step.Decides (Cursor.fresh cursor.view cursor.position) holds) :
    step.ahead.Asserts cursor holds where
  stays := by
    intro isTrue
    obtain ⟨result, matched⟩ := decides.matched isTrue
    rw [ahead_of_ready step ready, matched, Outcome.map]
  noMatch := by
    intro isFalse
    rw [ahead_of_ready step ready, decides.noMatch isFalse, Outcome.map]

theorem Asserts.silent (asserts : step.Asserts cursor holds) :
    step.silent.Asserts cursor holds where
  stays := by
    intro isTrue
    rw [Step.silent, asserts.stays isTrue, Outcome.map]
  noMatch := by
    intro isFalse
    rw [Step.silent, asserts.noMatch isFalse, Outcome.map]

/-- Two assertions, one behind the other. -/
theorem Asserts.and (asserts : first.Asserts cursor holds)
    (asserts' : second.Asserts cursor holds') (ready : cursor.Ready) :
    (sequence [first, second]).Asserts cursor (holds ∧ holds') where
  stays := by
    rintro ⟨isTrue, isTrue'⟩
    rw [sequence, guarded_of_ready _ ready, follow_cons_of_matched (asserts.stays isTrue),
      follow_singleton, asserts'.stays isTrue', Outcome.map, List.append_nil]
  noMatch := by
    intro isFalse
    rw [sequence, guarded_of_ready _ ready]
    by_cases isTrue : holds
    · rw [follow_cons_of_matched (asserts.stays isTrue), follow_singleton,
        asserts'.noMatch fun isTrue' => isFalse ⟨isTrue, isTrue'⟩, Outcome.map]
    · exact follow_cons_of_noMatch (asserts.noMatch isTrue)

/-- A choice between two assertions. -/
theorem Asserts.or (asserts : first.Asserts cursor holds)
    (asserts' : second.Asserts cursor holds') (ready : cursor.Ready) :
    (firstOf [first, second]).Asserts cursor (holds ∨ holds') where
  stays := by
    intro either
    rw [firstOf, guarded_of_ready _ ready, choose, choose_singleton]
    by_cases isTrue : holds
    · rw [asserts.stays isTrue, Outcome.orElse]
    · rw [asserts.noMatch isTrue, Outcome.orElse, asserts'.stays (either.resolve_left isTrue)]
  noMatch := by
    intro neither
    rw [not_or] at neither
    rw [firstOf, guarded_of_ready _ ready, choose, choose_singleton, asserts.noMatch neither.1,
      Outcome.orElse, asserts'.noMatch neither.2]

end Step

/-! ## Code points beside a cursor -/

namespace Cursor

/-- The code point before the cursor belongs to the class. -/
def HasBefore (cursor : Cursor) (members : CodePointClass) : Prop :=
  ∃ char count, cursor.previousCodePoint = some (char, count) ∧ members.contains char = true

/-- The code point at the cursor belongs to the class. -/
def HasAt (cursor : Cursor) (members : CodePointClass) : Prop :=
  ∃ char, cursor.currentCodePoint = some char ∧ members.contains char = true

variable {cursor : Cursor} {members : CodePointClass}

theorem previousCodePoint_of_isAtStart (atStart : cursor.isAtStart = true) :
    cursor.previousCodePoint = none := by
  rw [isAtStart, beq_iff_eq] at atStart
  rw [previousCodePoint, View.codePointBefore, if_pos (Or.inl atStart)]

theorem hasBefore_iff :
    cursor.HasBefore members ↔
      (!cursor.isAtStart && cursor.previousCodePoint.any fun previous =>
        members.contains previous.1) = true := by
  by_cases atStart : cursor.isAtStart = true
  · simp [HasBefore, previousCodePoint_of_isAtStart atStart]
  · simp [HasBefore, atStart, Option.any_eq_true]

theorem not_hasBefore_of_isAtStart (atStart : cursor.isAtStart = true) :
    ¬ cursor.HasBefore members := by
  rintro ⟨char, count, previous, -⟩
  rw [previousCodePoint_of_isAtStart atStart] at previous
  contradiction

theorem not_hasAt_of_isAtEnd (atEnd : cursor.isAtEnd = true) : ¬ cursor.HasAt members := by
  rintro ⟨char, current, -⟩
  rw [isAtEnd, beq_iff_eq] at atEnd
  rw [currentCodePoint, View.codePointAt, View.decodeAt,
    View.unit?_eq_none_of_le (Nat.le_of_eq atEnd.symm)] at current
  contradiction

/-- At a boundary, the code point before is the one that ends there. -/
theorem hasBefore_iff_of_isBoundary (ready : cursor.Ready)
    (boundary : cursor.view.IsBoundary cursor.position) :
    cursor.HasBefore members ↔
      ∃ start char count, cursor.view.IsBoundary start ∧
        cursor.view.decodeAt start = some (char, count) ∧ start + count = cursor.position ∧
        members.contains char = true := by
  constructor
  · rintro ⟨char, count, previous, isMember⟩
    cases position : cursor.position with
    | zero =>
        rw [previousCodePoint_of_isAtStart (beq_iff_eq.mpr position)] at previous
        contradiction
    | succ before =>
        have inside := ready.position_le
        rw [position] at boundary inside
        obtain ⟨start, char', count', startBoundary, decoded, endEq⟩ :=
          View.exists_decodeAt_of_isBoundary boundary inside
        rw [previousCodePoint, position, ← endEq,
          View.codePointBefore_of_decodeAt startBoundary decoded] at previous
        obtain ⟨rfl, rfl⟩ := Prod.mk.inj (Option.some.inj previous)
        exact ⟨start, _, _, startBoundary, decoded, endEq, isMember⟩
  · rintro ⟨start, char, count, startBoundary, decoded, endEq, isMember⟩
    refine ⟨char, count, ?_, isMember⟩
    rw [previousCodePoint, ← endEq, View.codePointBefore_of_decodeAt startBoundary decoded]

end Cursor

namespace Step

variable {cursor : Cursor}

theorem asserts_behind (members : CodePointClass) (ready : cursor.Ready) :
    (behind members).Asserts cursor (cursor.HasBefore members) :=
  (asserts_require _ ready).congr Cursor.hasBefore_iff.symm

theorem decides_codePoint (members : CodePointClass) (ready : cursor.Ready) :
    (codePoint members).Decides cursor (cursor.HasAt members) := by
  have step := codePoint_of_ready members ready
  cases decoded : cursor.view.decodeAt cursor.position with
  | none =>
      rw [decoded] at step
      refine ⟨?_, fun _ => step⟩
      rintro ⟨char, current, -⟩
      rw [Cursor.currentCodePoint, View.codePointAt, decoded] at current
      contradiction
  | some found =>
      obtain ⟨char, count⟩ := found
      rw [decoded] at step
      have current : cursor.currentCodePoint = some char := by
        rw [Cursor.currentCodePoint, View.codePointAt, decoded, Option.map_some]
      constructor
      · rintro ⟨char', current', isMember⟩
        obtain rfl := Option.some.inj (current.symm.trans current')
        exact ⟨_, step.trans (if_pos isMember)⟩
      · intro absent
        exact step.trans (if_neg fun isMember => absent ⟨char, current, isMember⟩)

end Step

namespace Matcher

variable {matcher : Matcher} {cursor next : Cursor}

/-! ## Matchers that assert -/

/-- Anchors, negations, looks ahead and behind, and word boundaries. -/
inductive IsAssertion : Matcher → Prop
  | anchor (anchor : Anchor) : IsAssertion (.anchor anchor)
  | negation (inner : Matcher) : IsAssertion (.negation inner)
  | ahead (inner : Matcher) : IsAssertion (.ahead inner)
  | behind (members : CodePointClass) : IsAssertion (.behind members)
  | behindWord (words : List (List Char)) : IsAssertion (.behindWord words)
  | boundary (members : CodePointClass) : IsAssertion (Matcher.boundary members)

theorem step_boundary (members : CodePointClass) :
    (Matcher.boundary members).step =
      (Step.firstOf [
        (Step.sequence [Step.behind members, (Step.codePoint members).negation]).silent,
        (Step.sequence [(Step.behind members).negation,
          (Step.codePoint members).ahead]).silent]).silent := by
  simp only [Matcher.boundary, Matcher.step, Matcher.steps]

theorem stays_boundary (members : CodePointClass) : (Matcher.boundary members).step.Stays := by
  have atEnd : (Step.sequence [Step.behind members, (Step.codePoint members).negation]).Stays :=
    Step.stays_sequence <| by simpa using ⟨Step.stays_require _, Step.stays_negation _⟩
  have atStart : (Step.sequence [(Step.behind members).negation,
      (Step.codePoint members).ahead]).Stays :=
    Step.stays_sequence <| by simpa using ⟨Step.stays_negation _, Step.stays_ahead _⟩
  rw [step_boundary]
  apply Step.Stays.silent
  apply Step.stays_firstOf
  simpa using ⟨atEnd.silent, atStart.silent⟩

theorem IsAssertion.stays (isAssertion : matcher.IsAssertion) : matcher.step.Stays := by
  cases isAssertion with
  | anchor anchor => exact Step.stays_require anchor.holds
  | negation inner => exact Step.stays_negation inner.step
  | ahead inner => exact Step.stays_ahead inner.step
  | behind members => exact Step.stays_require _
  | behindWord words => exact Step.stays_require _
  | boundary members => exact stays_boundary members

theorem IsAssertion.eq_of_run (isAssertion : matcher.IsAssertion)
    (matched : matcher.run cursor = .matched next) : next = cursor := by
  have meets : (matcher.run cursor).Meets (· = cursor) fun _ => True :=
    Meets.map (isAssertion.stays cursor cursor rfl)
  exact meets.of_matched matched

/-! ## Looking ahead and negating -/

theorem run_negation_of_ready (matcher : Matcher) (ready : cursor.Ready) :
    (Matcher.negation matcher).run cursor =
      match matcher.run cursor with
      | .matched _ => .noMatch
      | .noMatch => .matched cursor
      | .failed failure => .failed failure := by
  rw [run, step, Step.negation, Step.guarded_of_ready _ ready, run]
  cases matcher.step cursor <;> rfl

/-- A look ahead comes to what the matcher comes to at the cursor itself, whatever it has
captured. -/
theorem run_ahead_of_ready (matcher : Matcher) (ready : cursor.Ready) :
    (Matcher.ahead matcher).run cursor = (matcher.run cursor).map fun _ => cursor := by
  have level := (Cursor.ready_fresh ready.position_le).level ready rfl rfl
  have runs := matcher.run_twins level.sameText level.twins
  have freshAlike : (matcher.run (Cursor.fresh cursor.view cursor.position)).map (fun _ => cursor) =
      (matcher.run cursor).map fun _ => cursor :=
    Outcome.map_eq_map (runs.imp fun _ _ _ => rfl)
  rw [← freshAlike, run, step, Step.ahead_of_ready _ ready, run]
  cases matcher.step (Cursor.fresh cursor.view cursor.position) <;> rfl

theorem run_negation_negation (matcher : Matcher) (ready : cursor.Ready) :
    (Matcher.negation (.negation matcher)).run cursor = (Matcher.ahead matcher).run cursor := by
  rw [run_negation_of_ready _ ready, run_negation_of_ready _ ready, run_ahead_of_ready _ ready]
  cases matcher.run cursor <;> rfl

theorem run_negation_eq_noMatch_iff (matcher : Matcher) (ready : cursor.Ready) :
    (Matcher.negation matcher).run cursor = .noMatch ↔
      (Matcher.ahead matcher).run cursor = .matched cursor := by
  rw [run_negation_of_ready _ ready, run_ahead_of_ready _ ready]
  cases matcher.run cursor <;> simp [Outcome.map]

/-! ## Word boundaries -/

theorem asserts_boundary (members : CodePointClass) (ready : cursor.Ready) :
    (Matcher.boundary members).step.Asserts cursor
      (Xor (cursor.HasBefore members) (cursor.HasAt members)) := by
  have behind := Step.asserts_behind members ready
  have freshReady : (Cursor.fresh cursor.view cursor.position).Ready :=
    Cursor.ready_fresh ready.position_le
  have notAt := (Step.decides_codePoint members ready).negation ready
  have ahead := (Step.decides_codePoint members freshReady).ahead ready
  have atEnd := (behind.and notAt ready).silent
  have atStart := ((behind.decides.negation ready).and ahead ready).silent
  rw [step_boundary]
  exact ((atEnd.or atStart ready).silent).congr (or_congr_right and_comm)

theorem run_boundary_of_ready (members : CodePointClass) (ready : cursor.Ready) :
    ((Matcher.boundary members).run cursor = .matched cursor ↔
        Xor (cursor.HasBefore members) (cursor.HasAt members)) ∧
      ∀ failure, (Matcher.boundary members).run cursor ≠ .failed failure := by
  have asserts := asserts_boundary members ready
  rw [run]
  by_cases onOneSide : Xor (cursor.HasBefore members) (cursor.HasAt members)
  · rw [asserts.stays onOneSide, Outcome.map]
    exact ⟨iff_of_true rfl onOneSide, by simp⟩
  · rw [asserts.noMatch onOneSide, Outcome.map]
    exact ⟨iff_of_false (by simp) onOneSide, by simp⟩

end Matcher

/-! ## Assertions in general -/

/-- An assertion that holds leaves the cursor where it is.  Where matching may go on, two negations
are a look ahead, one negation holds where the look ahead does not match, and a word boundary holds
where a code point of the word stands on just one side of the cursor; at either end of the text
there is none on that side. -/
theorem assertions_leave_cursors_alone :
    (∀ (matcher : Matcher) (cursor next : Cursor), matcher.IsAssertion →
        matcher.run cursor = .matched next → next = cursor) ∧
      ∀ cursor : Cursor, cursor.Ready →
        (∀ matcher : Matcher,
          (Matcher.negation (.negation matcher)).run cursor = (Matcher.ahead matcher).run cursor ∧
            ((Matcher.negation matcher).run cursor = .noMatch ↔
              (Matcher.ahead matcher).run cursor = .matched cursor)) ∧
          ∀ members : CodePointClass,
            ((Matcher.boundary members).run cursor = .matched cursor ↔
                Xor (cursor.HasBefore members) (cursor.HasAt members)) ∧
              (∀ failure, (Matcher.boundary members).run cursor ≠ .failed failure) ∧
              (cursor.isAtStart = true → ¬ cursor.HasBefore members) ∧
              (cursor.isAtEnd = true → ¬ cursor.HasAt members) ∧
              (cursor.view.IsBoundary cursor.position →
                (cursor.HasBefore members ↔
                  ∃ start char count, cursor.view.IsBoundary start ∧
                    cursor.view.decodeAt start = some (char, count) ∧
                    start + count = cursor.position ∧ members.contains char = true)) := by
  refine ⟨fun _ _ _ isAssertion => isAssertion.eq_of_run, ?_⟩
  intro cursor ready
  constructor
  · intro matcher
    exact ⟨matcher.run_negation_negation ready, matcher.run_negation_eq_noMatch_iff ready⟩
  · intro members
    obtain ⟨holds, neverFails⟩ := Matcher.run_boundary_of_ready members ready
    exact ⟨holds, neverFails, Cursor.not_hasBefore_of_isAtStart, Cursor.not_hasAt_of_isAtEnd,
      Cursor.hasBefore_iff_of_isBoundary ready⟩

/-- Behind the first letter of a word, with that letter captured, a look ahead at the second letter
and a ghost behind it. -/
theorem assertions_leave_cursors_alone_in_word :
    let view := View.ofString "ab c"
    let letter : CodePointClass := .range 'a' 'z'
    let glance : Matcher := .sequence [.codePoint letter, .ghost (.codePoint .any)]
    let inside : Cursor := ⟨view, 0, 1, 1, true⟩
    let behind : Cursor := ⟨view, 0, 2, 2, true⟩
    (inside.Ready ∧ glance.run inside = .matched ⟨view, 0, 2, 3, true⟩ ∧
        (Matcher.ahead glance).IsAssertion ∧
        ∃ next, (Matcher.ahead glance).run inside = .matched next ∧ next = inside) ∧
      (Matcher.negation (.negation glance)).run inside = .matched inside ∧
      (Matcher.negation glance).run inside = .noMatch ∧
      behind.Ready ∧ Xor (behind.HasBefore letter) (behind.HasAt letter) := by
  intro view letter glance inside behind
  obtain ⟨stays, agree⟩ := assertions_leave_cursors_alone
  have insideReady : inside.Ready := ⟨rfl, by decide, rfl, by decide⟩
  have behindReady : behind.Ready := ⟨rfl, by decide, rfl, by decide⟩
  obtain ⟨negations, -⟩ := agree inside insideReady
  obtain ⟨twice, once⟩ := negations glance
  have ahead : (Matcher.ahead glance).run inside = .matched inside := by decide +kernel
  have isAssertion : (Matcher.ahead glance).IsAssertion := .ahead glance
  have holds : (Matcher.boundary letter).run behind = .matched behind := by decide +kernel
  obtain ⟨-, boundaries⟩ := agree behind behindReady
  exact ⟨⟨insideReady, by decide +kernel, isAssertion, inside, ahead,
      stays _ _ _ isAssertion ahead⟩, twice.trans ahead, once.mpr ahead, behindReady,
    (boundaries letter).1.mp holds⟩

end TextMatch
