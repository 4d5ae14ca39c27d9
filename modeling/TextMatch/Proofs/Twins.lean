import TextMatch.Proofs.RepetitionLikeness
import TextMatch.Proofs.SameText

/-!
# Attempts on views of the same text

Two attempts that begin equally far in views of the same text stay side by side, though the views
lie elsewhere and the attempts have captured more or less before.  No step sees anything but the
units of its view, so that the captures are shifted and nothing else differs.
-/

namespace TextMatch

open Outcome (Same)

/-- Of views of the same length the same slices can be taken. -/
theorem View.sameSlice_of_length {left right : View} (sameLength : left.length = right.length)
    (first last : Nat) :
    Same (left.SameSlice right) (.ofExcept (left.slice first last))
      (.ofExcept (right.slice first last)) := by
  by_cases inside : first ≤ last ∧ last ≤ left.length
  · obtain ⟨piece, sliced⟩ := View.exists_slice inside.1 inside.2
    obtain ⟨piece', sliced'⟩ := View.exists_slice inside.1 (sameLength ▸ inside.2)
    rw [sliced, sliced']
    exact .matched ⟨first, last, sliced, sliced'⟩
  · have outside := inside
    rw [sameLength] at outside
    rw [View.slice, View.slice, dif_neg inside, dif_neg outside, sameLength]
    exact .failed _

/-- Slices of the same text are taken side by side. -/
theorem View.SameText.slice {left right : View} (same : left.SameText right) (first last : Nat) :
    Same (left.SameSlice right) (.ofExcept (left.slice first last))
      (.ofExcept (right.slice first last)) :=
  View.sameSlice_of_length same.length first last

/-! ## Cursors side by side -/

namespace Cursor

/-- Two attempts are equally far, each on the view and from the start of its own origin. -/
structure Twins (origin origin' left right : Cursor) : Prop where
  view : left.view = origin.view
  view' : right.view = origin'.view
  start : left.start = origin.start
  start' : right.start = origin'.start
  captureEnd : left.captureEnd = right.captureEnd
  position : left.position = right.position
  isValid : left.isValid = right.isValid

variable {origin origin' left right : Cursor}

theorem Twins.sameText (twins : Twins origin origin' left right)
    (same : origin.view.SameText origin'.view) : left.view.SameText right.view := by
  rw [twins.view, twins.view']
  exact same

theorem Twins.hasGhost (twins : Twins origin origin' left right) :
    left.hasGhost = right.hasGhost := by
  rw [Cursor.hasGhost, Cursor.hasGhost, twins.captureEnd, twins.position]

theorem Twins.requireMatchable (twins : Twins origin origin' left right) :
    left.requireMatchable = right.requireMatchable := by
  simp only [Cursor.requireMatchable, requireValid, requireNoGhost, twins.hasGhost,
    twins.captureEnd, twins.position, twins.isValid]

theorem Twins.requireRoom (twins : Twins origin origin' left right)
    (same : origin.view.SameText origin'.view) (count : Nat) :
    left.requireRoom count = right.requireRoom count := by
  simp only [Cursor.requireRoom, (twins.sameText same).length, (twins.sameText same).addOffset,
    twins.position]

theorem Twins.advance (twins : Twins origin origin' left right)
    (same : origin.view.SameText origin'.view) (count : Nat) :
    Same (Twins origin origin') (.ofExcept (left.advance count))
      (.ofExcept (right.advance count)) := by
  have sameText := twins.sameText same
  unfold Cursor.advance
  rw [twins.requireMatchable, twins.requireRoom same]
  cases right.requireMatchable with
  | error failure => exact .failed failure
  | ok =>
      cases right.requireRoom count with
      | error failure => exact .failed failure
      | ok =>
          exact .matched {
            view := twins.view
            view' := twins.view'
            start := twins.start
            start' := twins.start'
            captureEnd := (sameText.addOffset _ count).trans
              (congrArg (right.view.addOffset · count) twins.captureEnd)
            position := (sameText.addOffset _ count).trans
              (congrArg (right.view.addOffset · count) twins.position)
            isValid := twins.isValid }

theorem Twins.advanceCodePoint (twins : Twins origin origin' left right)
    (same : origin.view.SameText origin'.view) :
    Same (Twins origin origin') (.ofExcept left.advanceCodePoint)
      (.ofExcept right.advanceCodePoint) := by
  have sameText := twins.sameText same
  unfold Cursor.advanceCodePoint
  rw [twins.position, sameText.codePointLengthAt, sameText.length, twins.requireMatchable]
  cases right.view.codePointLengthAt right.position with
  | zero =>
      cases right.requireMatchable with
      | error failure => exact .failed failure
      | ok => exact .failed _
  | succ count => exact twins.advance same (count + 1)

theorem Twins.advanceGhost (twins : Twins origin origin' left right)
    (same : origin.view.SameText origin'.view) (count : Nat) :
    Same (Twins origin origin') (.ofExcept (left.advanceGhost count))
      (.ofExcept (right.advanceGhost count)) := by
  have sameText := twins.sameText same
  unfold Cursor.advanceGhost Cursor.requireValid
  rw [twins.isValid, twins.requireRoom same]
  cases right.isValid with
  | false => exact .failed _
  | true =>
      cases right.requireRoom count with
      | error failure => exact .failed failure
      | ok =>
          exact .matched {
            view := twins.view
            view' := twins.view'
            start := twins.start
            start' := twins.start'
            captureEnd := twins.captureEnd
            position := (sameText.addOffset _ count).trans
              (congrArg (right.view.addOffset · count) twins.position)
            isValid := twins.isValid }

/-- Fresh cursors at the same offset are side by side. -/
theorem twins_fresh (view view' : View) (offset : Nat) :
    Twins (fresh view offset) (fresh view' offset) (fresh view offset) (fresh view' offset) :=
  ⟨rfl, rfl, rfl, rfl, rfl, rfl, rfl⟩

theorem same_atOffset {view view' : View} (same : view.SameText view') (offset : Nat) :
    Same (fun left right => left = fresh view offset ∧ right = fresh view' offset)
      (.ofExcept (atOffset view offset)) (.ofExcept (atOffset view' offset)) := by
  rw [atOffset, atOffset, same.length]
  by_cases inside : offset ≤ view'.length
  · simp only [inside, if_true]
    exact .matched ⟨rfl, rfl⟩
  · simp only [inside, if_false]
    exact .failed _

end Cursor

open Cursor (Twins)

/-- The captures have the same name, span the same slices, and have such captures inside. -/
inductive Capture.Shifted (view view' : View) : Capture → Capture → Prop
  | intro {left right : Capture} :
      left.name = right.name → view.SameSlice view' left.whole right.whole →
      view.SameSlice view' left.content right.content →
      List.Forall₂ (Shifted view view') left.children right.children →
      Shifted view view' left right

/-- Attempts that stay side by side. -/
def twins {origin origin' : Cursor} (same : origin.view.SameText origin'.view) : Likeness where
  cursors := Twins origin origin'
  captures := List.Forall₂ (Capture.Shifted origin.view origin'.view)
  excuses _ := False
  guards := by
    intro left right alike
    rw [alike.requireMatchable]
    exact Outcome.Pairs.refl _ fun _ _ => trivial
  position := fun alike => alike.position
  remaining := by
    intro left right alike
    rw [Cursor.remaining, Cursor.remaining, alike.position, (alike.sameText same).length]
  nil := .nil
  append := fun front back => List.rel_append front back

/-! ## Steps -/

namespace Step

variable {step : Step}

/-- The step does the same wherever its text lies. -/
def Portable (step : Step) : Prop :=
  ∀ (origin origin' : Cursor) (same : origin.view.SameText origin'.view),
    (twins same).Steps step step

theorem portable_require {test : Cursor → Bool}
    (tests : ∀ {left right : Cursor}, left.view.SameText right.view →
      left.position = right.position → test left = test right) :
    (require test).Portable :=
  fun _ _ same => Likeness.require fun _ _ (alike : Twins _ _ _ _) =>
    tests (alike.sameText same) alike.position

theorem portable_anchor (anchor : Anchor) : (require anchor.holds).Portable := by
  apply portable_require
  intro left right same samePosition
  cases anchor <;>
    simp only [Anchor.holds, Cursor.isAtStart, Cursor.isAtEnd, samePosition, same.length]

theorem portable_behind (members : CodePointClass) : (behind members).Portable := by
  apply portable_require
  intro left right same samePosition
  simp only [Cursor.isAtStart, Cursor.previousCodePoint, samePosition, same.codePointBefore]

theorem portable_behindWord (words : List (List Char)) : (behindWord words).Portable := by
  apply portable_require
  intro left right same samePosition
  simp only [Cursor.isAtStart, samePosition, same.endsWithAt]

theorem portable_codePoint (members : CodePointClass) : (codePoint members).Portable := by
  intro origin origin' same
  apply Likeness.guarded
  intro left right (alike : Twins origin origin' left right)
  have sameChar : left.currentCodePoint = right.currentCodePoint := by
    rw [Cursor.currentCodePoint, Cursor.currentCodePoint, alike.position,
      (alike.sameText same).codePointAt]
  dsimp only
  rw [sameChar]
  cases right.currentCodePoint with
  | none => exact .noMatch
  | some char =>
      cases isMember : members.contains char with
      | false => simpa [isMember] using .noMatch
      | true =>
          simp only [isMember, if_true]
          apply (alike.advanceCodePoint same).bind
          exact fun _ _ nextAlike => .matched ⟨nextAlike, .nil⟩

theorem portable_literals (set : LiteralSet) : (literals set).Portable := by
  intro origin origin' same
  apply Likeness.guarded
  intro left right (alike : Twins origin origin' left right)
  dsimp only
  rw [alike.position, (alike.sameText same).longestAt?]
  cases set.longestAt? right.view right.position with
  | none => exact .noMatch
  | some count =>
      apply (alike.advance same count).bind
      exact fun _ _ nextAlike => .matched ⟨nextAlike, .nil⟩

theorem Portable.ahead (portable : step.Portable) : step.ahead.Portable := by
  intro origin origin' same
  apply Likeness.guarded
  intro left right (alike : Twins origin origin' left right)
  have sameText := alike.sameText same
  dsimp only
  unfold Cursor.freshAtPosition
  rw [alike.position]
  apply (Cursor.same_atOffset sameText right.position).bind
  rintro _ _ ⟨rfl, rfl⟩
  -- The assertion is an attempt of its own, from a start of its own.
  have freshAlike := Cursor.twins_fresh left.view right.view right.position
  apply (portable (Cursor.fresh left.view right.position)
    (Cursor.fresh right.view right.position) sameText _ _ freshAlike).bind
  exact fun _ _ _ => .matched ⟨alike, .nil⟩

theorem Portable.ghost (portable : step.Portable) : step.ghost.Portable := by
  intro origin origin' same
  apply Likeness.guarded
  intro left right (alike : Twins origin origin' left right)
  apply (portable _ _ same left right alike).bind
  rintro ⟨inner, captures⟩ ⟨inner', captures'⟩ ⟨innerAlike, -⟩
  dsimp only
  rw [innerAlike.position, alike.position]
  apply (alike.advanceGhost same _).bind
  exact fun _ _ nextAlike => .matched ⟨nextAlike, .nil⟩

/-- Groups of the same name record captures that are shifted. -/
theorem Portable.group (portable : step.Portable) (name : String) {origin origin' : Cursor}
    (same : origin.view.SameText origin'.view) {left right : Cursor}
    (alike : Twins origin origin' left right) :
    Same
      (fun found found' => Twins origin origin' found.1 found'.1 ∧
        Capture.Shifted origin.view origin'.view found.2 found'.2)
      (Step.group name step left) (Step.group name step right) := by
  apply ((twins same).guards alike).bind
  intro _ _ _
  apply (portable _ _ same left right alike).bind
  rintro ⟨next, children⟩ ⟨next', children'⟩ ⟨nextAlike, childrenAlike⟩
  dsimp only
  rw [nextAlike.view, nextAlike.view', nextAlike.position, nextAlike.captureEnd, alike.position]
  apply (same.slice _ _).bind
  intro whole whole' wholeAlike
  apply (same.slice _ _).bind
  intro content content' contentAlike
  exact .matched ⟨nextAlike, .intro rfl wholeAlike contentAlike childrenAlike⟩

theorem Portable.recorded (portable : step.Portable) (name : String) :
    (Step.recorded name step).Portable := by
  intro origin origin' same left right (alike : Twins origin origin' left right)
  apply (portable.group name same alike).map
  exact fun _ _ found => ⟨found.1, .cons found.2 .nil⟩

end Step

/-! ## Matchers and patterns -/

/-- Every matcher and every pattern does the same wherever its text lies. -/
theorem hereditary_portable :
    Hereditary (fun matcher => matcher.step.Portable) (fun pattern => pattern.step.Portable) where
  codePoint := Step.portable_codePoint
  anchor := Step.portable_anchor
  literals := Step.portable_literals
  sequence parts portable := by
    rw [Matcher.step, Matcher.steps_eq_map]
    exact fun _ _ same =>
      (Likeness.sequence fun part member => portable part member _ _ same).silent
  firstOf choices portable := by
    rw [Matcher.step, Matcher.steps_eq_map]
    exact fun _ _ same =>
      (Likeness.firstOf fun part member => portable part member _ _ same).silent
  optional inner portable := fun _ _ same => (portable _ _ same).optional.silent
  negation inner portable := fun _ _ same => (portable _ _ same).negation
  repetition repetition portable := by
    rw [Matcher.step, Matcher.repetitionOfSteps_eq_map]
    exact fun _ _ same =>
      (Likeness.repetition_step fun part member => portable part member _ _ same).silent
  ahead _ portable := portable.ahead
  behind := Step.portable_behind
  behindWord := Step.portable_behindWord
  ghost _ portable := portable.ghost
  delegate _ portable := portable
  pattern _ portable := portable
  around name _ portable := portable.recorded name
  nested name _ portable := portable.recorded name
  unnamed _ portable := fun _ _ same => (portable _ _ same).silent
  patternSequence parts portable := by
    rw [Pattern.step, Pattern.steps_eq_map]
    exact fun _ _ same => Likeness.sequence fun part member => portable part member _ _ same
  patternFirstOf choices portable := by
    rw [Pattern.step, Pattern.steps_eq_map]
    exact fun _ _ same => Likeness.firstOf fun part member => portable part member _ _ same
  patternOptional _ portable := fun _ _ same => (portable _ _ same).optional
  patternRepetition repetition portable := by
    rw [Pattern.step, Pattern.repetitionOfSteps_eq_map]
    exact fun _ _ same => Likeness.repetition_step fun part member => portable part member _ _ same

theorem Matcher.portable (matcher : Matcher) : matcher.step.Portable :=
  hereditary_portable.matcher matcher

theorem Pattern.portable (pattern : Pattern) : pattern.step.Portable :=
  hereditary_portable.patternOf pattern

end TextMatch
