import TextMatch.Cursor.Action
import TextMatch.Cursor.Progress
import TextMatch.Proofs.CursorOrder

/-!
# Cursors that actions lead to

An action moves a cursor only after it has checked the move, so that the offsets of a cursor stay in
order whatever is done with it.  But the check is made on a sum of machine words.  A move by so many
units that the sum does not fit in a word passes it, and leads back.
-/

namespace TextMatch.Cursor

/-- The offset that a move by a number of units leads to fits in a word. -/
def Fits (cursor : Cursor) : Action → Prop
  | .advance count | .advanceGhost count =>
      cursor.position + count.toNat < cursor.view.offsetBound
  | .advanceStart | .advanceCodePoint | .invalidate | .freshAtPosition | .freshAtCaptureEnd
  | .apply _ => True

instance (cursor : Cursor) : (action : Action) → Decidable (cursor.Fits action)
  | .advance _ | .advanceGhost _ => inferInstanceAs (Decidable (_ < _))
  | .advanceStart | .advanceCodePoint | .invalidate | .freshAtPosition | .freshAtCaptureEnd
  | .apply _ => inferInstanceAs (Decidable True)

/-- The cursors that actions lead to, from fresh ones inside their text, without a move to an offset
that does not fit in a word. -/
inductive Reachable : Cursor → Prop
  | fresh {view : View} {offset : Nat} : offset ≤ view.length → Reachable (fresh view offset)
  | perform {cursor : Cursor} (action : Action) :
      Reachable cursor → cursor.Fits action → Reachable (cursor.perform action).2

variable {cursor next : Cursor} {count offset : Nat} {view : View}

/-! ## What a move has checked -/

theorem room_of_requireRoom (room : cursor.requireRoom count = .ok ()) :
    cursor.view.addOffset cursor.position count ≤ cursor.view.length := by
  rw [requireRoom] at room
  split at room
  · contradiction
  · omega

theorem eq_of_advance (moved : cursor.advance count = .ok next) :
    cursor.view.addOffset cursor.position count ≤ cursor.view.length ∧
      next = cursor.moved count := by
  unfold advance at moved
  cases matchable : cursor.requireMatchable with
  | error failure => simp [matchable, bind, Except.bind] at moved
  | ok =>
      cases room : cursor.requireRoom count with
      | error failure => simp [matchable, room, bind, Except.bind] at moved
      | ok =>
          simp only [matchable, room, bind, Except.bind, pure, Except.pure,
            Except.ok.injEq] at moved
          exact ⟨room_of_requireRoom room, moved.symm⟩

theorem eq_of_advanceGhost (moved : cursor.advanceGhost count = .ok next) :
    cursor.view.addOffset cursor.position count ≤ cursor.view.length ∧
      next = cursor.movedGhost count := by
  unfold advanceGhost at moved
  cases valid : cursor.requireValid with
  | error failure => simp [valid, bind, Except.bind] at moved
  | ok =>
      cases room : cursor.requireRoom count with
      | error failure => simp [valid, room, bind, Except.bind] at moved
      | ok =>
          simp only [valid, room, bind, Except.bind, pure, Except.pure, Except.ok.injEq] at moved
          exact ⟨room_of_requireRoom room, moved.symm⟩

theorem eq_of_atOffset (found : atOffset view offset = .ok next) :
    offset ≤ view.length ∧ next = fresh view offset := by
  rw [atOffset] at found
  split at found
  · rename_i inside
    exact ⟨inside, (Except.ok.inj found).symm⟩
  · contradiction

theorem eq_of_requireFresh (isFresh : cursor.requireFresh = .ok ()) :
    cursor.captureEnd = cursor.start := by
  unfold requireFresh at isFresh
  cases valid : cursor.requireValid with
  | error failure => simp [valid, bind, Except.bind] at isFresh
  | ok => simpa [valid, isEmptyMatch, bind, Except.bind] using isFresh

theorem position_le_of_requireNoGhost (noGhost : cursor.requireNoGhost = .ok ()) :
    cursor.position ≤ cursor.captureEnd := by
  simpa [requireNoGhost, hasGhost] using noGhost

/-- The start moves only where nothing was captured and nothing looked at. -/
theorem eq_of_advanceStart (moved : cursor.advanceStart = .ok next) :
    cursor.captureEnd = cursor.start ∧ cursor.position ≤ cursor.captureEnd ∧
      next = { cursor with
        start := cursor.start + cursor.view.codePointLengthAt cursor.start
        captureEnd := cursor.start + cursor.view.codePointLengthAt cursor.start
        position := cursor.start + cursor.view.codePointLengthAt cursor.start } := by
  unfold advanceStart at moved
  cases isFresh : cursor.requireFresh with
  | error failure => simp [isFresh, bind, Except.bind] at moved
  | ok =>
      cases noGhost : cursor.requireNoGhost with
      | error failure => simp [isFresh, noGhost, bind, Except.bind] at moved
      | ok =>
          simp only [isFresh, noGhost, bind, Except.bind] at moved
          refine ⟨eq_of_requireFresh isFresh, position_le_of_requireNoGhost noGhost, ?_⟩
          split at moved
          · contradiction
          · rename_i count lengthEq
            rw [lengthEq]
            exact (Except.ok.inj moved).symm

/-- A code point ends inside the text, so that no offset wraps around. -/
theorem advance_of_advanceCodePoint (moved : cursor.advanceCodePoint = .ok next) :
    cursor.position + cursor.view.codePointLengthAt cursor.position < cursor.view.offsetBound ∧
      cursor.advance (cursor.view.codePointLengthAt cursor.position) = .ok next := by
  unfold advanceCodePoint at moved
  split at moved
  · cases matchable : cursor.requireMatchable with
    | error failure => simp [matchable, bind, Except.bind] at moved
    | ok => simp [matchable, bind, Except.bind] at moved
  · rename_i count lengthEq
    obtain ⟨char, decoded⟩ := View.exists_decodeAt_of_lt (lt_length_of_codePointLengthAt lengthEq)
    have room := View.add_le_length_of_decodeAt decoded
    rw [← View.codePointLengthAt_of_decodeAt decoded] at room
    refine ⟨Nat.lt_of_le_of_lt room cursor.view.length_lt_offsetBound, ?_⟩
    rw [lengthEq]
    exact moved

/-! ## Actions keep the order -/

theorem Ordered.advance (ordered : cursor.Ordered)
    (fits : cursor.position + count < cursor.view.offsetBound)
    (moved : cursor.advance count = .ok next) : next.Ordered := by
  obtain ⟨room, rfl⟩ := eq_of_advance moved
  have captureFits : cursor.captureEnd + count < cursor.view.offsetBound :=
    Nat.lt_of_le_of_lt (Nat.add_le_add_right ordered.captureEnd_le count) fits
  rw [View.addOffset_of_lt fits] at room
  rw [Cursor.moved, View.addOffset_of_lt fits, View.addOffset_of_lt captureFits]
  exact {
    start_le := Nat.le_add_right_of_le ordered.start_le
    captureEnd_le := Nat.add_le_add_right ordered.captureEnd_le count
    position_le := room }

theorem Ordered.advanceGhost (ordered : cursor.Ordered)
    (fits : cursor.position + count < cursor.view.offsetBound)
    (moved : cursor.advanceGhost count = .ok next) : next.Ordered := by
  obtain ⟨room, rfl⟩ := eq_of_advanceGhost moved
  rw [View.addOffset_of_lt fits] at room
  rw [movedGhost, View.addOffset_of_lt fits]
  exact {
    start_le := ordered.start_le
    captureEnd_le := Nat.le_add_right_of_le ordered.captureEnd_le
    position_le := room }

theorem Ordered.advanceCodePoint (ordered : cursor.Ordered)
    (moved : cursor.advanceCodePoint = .ok next) : next.Ordered := by
  obtain ⟨fits, moved⟩ := advance_of_advanceCodePoint moved
  exact ordered.advance fits moved

theorem ordered_of_atOffset (found : atOffset view offset = .ok next) : next.Ordered := by
  obtain ⟨inside, rfl⟩ := eq_of_atOffset found
  exact (ready_fresh inside).ordered

theorem ordered_of_advanceStart (moved : cursor.advanceStart = .ok next) : next.Ordered := by
  have inside := (progress_of_advanceStart moved).2.2
  obtain ⟨char, decoded⟩ := View.exists_decodeAt_of_lt inside
  have room := View.add_le_length_of_decodeAt decoded
  rw [← View.codePointLengthAt_of_decodeAt decoded] at room
  obtain ⟨-, -, rfl⟩ := eq_of_advanceStart moved
  exact ⟨Nat.le_refl _, Nat.le_refl _, room⟩

theorem Ordered.settleMove (ordered : cursor.Ordered) {moved : Except Failure Cursor}
    (keeps : ∀ next, moved = .ok next → next.Ordered) : (cursor.settleMove moved).2.Ordered := by
  cases moved with
  | ok next => exact keeps next rfl
  | error failure => exact ordered

theorem Ordered.apply (ordered : cursor.Ordered) (matcher : Matcher) :
    (cursor.apply matcher).2.Ordered := by
  unfold Cursor.apply
  split
  · exact ordered
  · cases outcome : matcher.run cursor with
    | matched next =>
        obtain ⟨result, matched, rfl⟩ := Outcome.exists_of_map_eq_matched outcome
        have ready := matcher.built_step.ready_of_matched ordered matched
        exact Reached.ordered ((matcher.meets_run ready).of_matched outcome)
    | noMatch => exact ⟨ordered.start_le, ordered.captureEnd_le, ordered.position_le⟩
    | failed failure => exact ordered

theorem Ordered.perform (ordered : cursor.Ordered) {action : Action} (fits : cursor.Fits action) :
    (cursor.perform action).2.Ordered := by
  cases action with
  | advance count => exact ordered.settleMove fun _ moved => ordered.advance fits moved
  | advanceGhost count => exact ordered.settleMove fun _ moved => ordered.advanceGhost fits moved
  | advanceStart => exact ordered.settleMove fun _ moved => ordered_of_advanceStart moved
  | advanceCodePoint => exact ordered.settleMove fun _ moved => ordered.advanceCodePoint moved
  | invalidate => exact ⟨ordered.start_le, ordered.captureEnd_le, ordered.position_le⟩
  | freshAtPosition => exact ordered.settleMove fun _ found => ordered_of_atOffset found
  | freshAtCaptureEnd => exact ordered.settleMove fun _ found => ordered_of_atOffset found
  | apply matcher => exact ordered.apply matcher

/-- Whatever is done with a cursor, its offsets stay in order and inside its text, as long as they
fit in words. -/
theorem Reachable.ordered (reachable : cursor.Reachable) : cursor.Ordered := by
  induction reachable with
  | fresh inside => exact (ready_fresh inside).ordered
  | perform action _ fits inductionHypothesis => exact inductionHypothesis.perform fits

end TextMatch.Cursor
