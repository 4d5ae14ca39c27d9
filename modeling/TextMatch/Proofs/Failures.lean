import TextMatch.Proofs.TailGhosts
import TextMatch.Proofs.TokenTiling
import TextMatch.Splitter

/-!
# Failures

Where matching may go on, nothing fails but for a ghost that something is to be matched behind, and
neither does anything that searches a text or splits it.
-/

namespace TextMatch

open Cursor (GhostFailure)

/-! ## Splitters -/

namespace Splitter

variable {view : View} {offset : Nat}

theorem ghostFailure_of_endsAt (splitter : Splitter) {failure : Failure}
    (failed : splitter.endsAt view offset = .error failure) :
    GhostFailure view failure := by
  rw [endsAt] at failed
  split at failed
  · contradiction
  · rename_i endMark _
    split at failed
    · rename_i inside
      have meets := endMark.meets_run (Cursor.ready_fresh inside)
      rw [Cursor.atOffset_of_le inside] at failed
      simp only [bind, Except.bind] at failed
      cases outcome : endMark.run (Cursor.fresh view offset) with
      | matched next =>
          rw [outcome] at failed
          contradiction
      | noMatch =>
          rw [outcome] at failed
          contradiction
      | failed reason =>
          rw [outcome] at failed
          simp only [Outcome.toExcept, Except.error.injEq] at failed
          rw [← failed]
          exact meets.of_failed outcome
    · contradiction

theorem meets_segmentsFrom (splitter : Splitter) (view : View) (offset : Nat) :
    (splitter.segmentsFrom view offset).Meets (fun _ => True) (GhostFailure view) := by
  rw [segmentsFrom]
  split
  · rename_i inside
    have ready := Cursor.ready_fresh (Nat.le_of_lt inside)
    apply Outcome.Meets.of_ok (Cursor.atOffset_of_le (Nat.le_of_lt inside))
    apply Outcome.Meets.bind (splitter.content.meets_capture ready.reached)
    rintro ⟨behind, segment⟩ behindReached
    -- The content may have left a ghost, behind which the delimiter is refused.
    have delimiterMeets := (Step.Built.ghost splitter.delimiter.built_step).orderly _ behind
      behindReached
    cases outcome : Step.ghost splitter.delimiter.step behind with
    | failed failure =>
        rw [outcome] at delimiterMeets
        simp only [outcome]
        exact delimiterMeets
    | matched result =>
        obtain ⟨delimited, captures⟩ := result
        rw [outcome] at delimiterMeets
        simp only [outcome]
        have reached : (Cursor.fresh view offset).Reached delimited := delimiterMeets
        have notBefore : offset ≤ delimited.position :=
          Nat.le_trans reached.captureEnd_le reached.captureEnd_le_position
        obtain ⟨whole, sliced⟩ := View.exists_slice notBefore reached.position_le
        apply Outcome.Meets.of_ok sliced
        apply Outcome.Meets.ofExcept_bind
        · intro ends _
          cases ends with
          | true => trivial
          | false =>
              have moved := lt_nextOffset delimited.position inside
              apply Outcome.Meets.bind (meets_segmentsFrom splitter view _)
              exact fun _ _ => trivial
        · exact fun _ failed => splitter.ghostFailure_of_endsAt failed
    | noMatch =>
        simp only [outcome]
        split
        · trivial
        · apply Outcome.Meets.ofExcept_bind
          · intro ends _
            cases ends <;> trivial
          · exact fun _ failed => splitter.ghostFailure_of_endsAt failed
  · trivial
termination_by view.length - offset

end Splitter

/-! ## Finders -/

namespace Finder

variable {finder : Finder} {view : View} {failure : Failure}

theorem ghostFailure_of_find {offset : Nat} (inside : offset ≤ view.length)
    (failed : finder.find view offset = .error failure) : GhostFailure view failure := by
  have result := find_result finder inside
  rw [failed] at result
  cases result with
  | failed visits _ failed => exact ghostFailure_of_run visits.le_length failed

theorem Breaks.cause {offset : Nat} (breaks : Breaks finder view offset failure) :
    GhostFailure view failure ∨
      ∃ place, place ≤ view.length ∧ failure = .zeroWidthMatch place := by
  cases breaks with
  | matcher _ _ _ ghost => exact Or.inl ghost
  | zeroWidth visits => exact Or.inr ⟨_, visits.le_length, rfl⟩

theorem cause_of_mem_items (member : .error failure ∈ finder.items view) :
    GhostFailure view failure ∨
      ∃ place, place ≤ view.length ∧ failure = .zeroWidthMatch place := by
  have reads := reads_of_loop (loop_items finder view) View.isBoundary_zero (Nat.zero_le _)
  generalize finder.items view = items at member reads
  cases reads with
  | whole => simp at member
  | broken _ _ breaks =>
      obtain rfl : failure = _ := by simpa using member
      exact breaks.cause

theorem cause_of_next {count : Nat}
    (failed : ((TokenStream.start finder view).afterCalls count).next.1 =
      some (.error failure)) :
    GhostFailure view failure ∨
      ∃ place, place ≤ view.length ∧ failure = .zeroWidthMatch place := by
  rw [(remains_start (loop_items finder view)).next_afterCalls] at failed
  exact cause_of_mem_items (List.mem_of_getElem? failed)

end Finder

/-! ## Where failures come from -/

theorem Step.NeverFails.run_ne_failed {step : Step} (never : step.NeverFails) {cursor : Cursor}
    (ready : cursor.Ready) (failure : Failure) :
    (step cursor).map Prod.fst ≠ .failed failure := by
  intro failed
  have meets : ((step cursor).map Prod.fst).Meets (fun _ => True) fun _ => False :=
    Outcome.Meets.map (never cursor ready)
  exact meets.of_failed failed

/-- Where matching may go on, a failure comes from matching behind a ghost of one's own, in
searches and splitters as well; a stream of tokens also refuses empty matches.  With the ghosts in
tail position there is no failure at all. -/
theorem failures_come_from_ghosts :
    (∀ (matcher : Matcher) (cursor : Cursor) (failure : Failure), cursor.Ready →
        matcher.run cursor = .failed failure → GhostFailure cursor.view failure) ∧
      (∀ (pattern : Pattern) (cursor : Cursor) (failure : Failure), cursor.Ready →
        pattern.run cursor = .failed failure → GhostFailure cursor.view failure) ∧
      (∀ (finder : Finder) (view : View) (offset : Nat) (failure : Failure),
        offset ≤ view.length → finder.find view offset = .error failure →
        GhostFailure view failure) ∧
      (∀ (finder : Finder) (view : View) (count : Nat) (failure : Failure),
        ((TokenStream.start finder view).afterCalls count).next.1 = some (.error failure) →
        GhostFailure view failure ∨
          ∃ place, place ≤ view.length ∧ failure = .zeroWidthMatch place) ∧
      (∀ (splitter : Splitter) (view : View) (failure : Failure),
        splitter.split view = .failed failure → GhostFailure view failure) ∧
      (∀ (matcher : Matcher) (cursor : Cursor) (failure : Failure), matcher.GhostsLast →
        cursor.Ready → matcher.run cursor ≠ .failed failure) ∧
      (∀ (pattern : Pattern) (cursor : Cursor) (failure : Failure), pattern.GhostsLast →
        cursor.Ready → pattern.run cursor ≠ .failed failure) := by
  refine ⟨?_, ?_, ?_, ?_, ?_, ?_, ?_⟩
  · exact fun matcher _ _ ready failed => (matcher.built_step.meets_run ready).of_failed failed
  · exact fun pattern _ _ ready failed => (pattern.built_step.meets_run ready).of_failed failed
  · exact fun _ _ _ _ inside failed => Finder.ghostFailure_of_find inside failed
  · exact fun _ _ _ _ failed => Finder.cause_of_next failed
  · exact fun splitter view _ failed => (splitter.meets_segmentsFrom view 0).of_failed failed
  · exact fun _ _ failure last ready => last.neverFails.run_ne_failed ready failure
  · exact fun _ _ failure last ready => last.neverFails.run_ne_failed ready failure

theorem failures_come_from_ghosts_of_pair :
    let cursor := Cursor.ofView (View.ofString "ab")
    let ghostLast : Matcher := .sequence [.codePoint .any, .ghost (.codePoint .any)]
    let ghostFirst : Matcher := .sequence [.ghost (.codePoint .any), .codePoint .any]
    cursor.Ready ∧ ghostLast.GhostsLast ∧
      (∀ failure, ghostLast.run cursor ≠ .failed failure) ∧
      ghostFirst.run cursor = .failed (.matchAfterGhost 0 1) ∧
      GhostFailure cursor.view (.matchAfterGhost 0 1) := by
  intro cursor ghostLast ghostFirst
  obtain ⟨fails, -, -, -, -, never, -⟩ := failures_come_from_ghosts
  have ready : cursor.Ready := Cursor.ready_fresh (Nat.zero_le _)
  have last : ghostLast.GhostsLast := by
    apply Matcher.GhostsLast.sequence
    · simp [Matcher.GhostsLast.codePoint, Matcher.GhostsLast.ghost]
    · simp [Matcher.Sealed.codePoint]
  have failed : ghostFirst.run cursor = .failed (.matchAfterGhost 0 1) := by decide
  exact ⟨ready, last, fun failure => never ghostLast cursor failure last ready, failed,
    fails ghostFirst cursor _ ready failed⟩

end TextMatch
