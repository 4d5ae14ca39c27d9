import TextMatch.Proofs.CourseRule

/-!
# Trees of captures

The captures of a match lie one behind the other in the text that was matched, and the captures
inside one of them lie so in its text.  Only the last capture of a row may have a ghost, and its
ghost is the one that ends the match.
-/

namespace TextMatch

namespace Capture

/-! ## All captures of a tree -/

/-- A property that passes from a capture to those inside it holds of all that are visited. -/
theorem forall_visit {holds : Capture → Prop} {stack : List Capture}
    (every : ∀ capture ∈ stack, holds capture)
    (passes : ∀ capture, holds capture → ∀ child ∈ capture.children, holds child) :
    ∀ capture ∈ visit stack, holds capture := by
  fun_induction visit stack with
  | case1 => simp
  | case2 top stack inductionHypothesis =>
      have topHolds := every top List.mem_cons_self
      have childrenHold : ∀ capture ∈ top.children ++ stack, holds capture := by
        intro capture member
        rcases List.mem_append.mp member with inside | below
        · exact passes top topHolds capture inside
        · exact every capture (List.mem_cons_of_mem top below)
      intro capture member
      rcases List.mem_cons.mp member with rfl | member
      · exact topHolds
      · exact inductionHypothesis childrenHold capture member

/-! ## Rows of captures -/

mutual

/-- The capture spans `first..wholeEnd`, its content ends at `contentEnd`, and the captures inside
it lie in a row within it. -/
inductive Placed (view : View) : (first contentEnd wholeEnd : Nat) → Capture → Prop
  | intro {first contentEnd wholeEnd : Nat} {capture : Capture} :
      capture.Spans view first contentEnd wholeEnd → contentEnd ≤ wholeEnd →
      Row view first contentEnd wholeEnd capture.children →
      Placed view first contentEnd wholeEnd capture

/-- The captures lie one behind the other from `first` on: their contents end before `contentEnd`
and their whole texts before `wholeEnd`.  One that has a ghost is the last and reaches both ends. -/
inductive Row (view : View) : (first contentEnd wholeEnd : Nat) → List Capture → Prop
  | nil {first contentEnd wholeEnd : Nat} : Row view first contentEnd wholeEnd []
  | cons {first contentEnd wholeEnd begins content whole : Nat} {capture : Capture}
      {rest : List Capture} :
      first ≤ begins → Placed view begins content whole capture →
      content ≤ contentEnd → whole ≤ wholeEnd →
      (content < whole → rest = [] ∧ content = contentEnd ∧ whole = wholeEnd) →
      Row view whole contentEnd wholeEnd rest →
      Row view first contentEnd wholeEnd (capture :: rest)

end

variable {view : View} {first middle contentEnd wholeEnd : Nat} {front back row : List Capture}

theorem Row.start_earlier (laid : Row view middle contentEnd wholeEnd row)
    (earlier : first ≤ middle) : Row view first contentEnd wholeEnd row := by
  cases laid with
  | nil => exact .nil
  | cons behind placed contentLe wholeLe ghostEnds rest =>
      exact .cons (Nat.le_trans earlier behind) placed contentLe wholeLe ghostEnds rest

/-- Rows are put one behind the other where the first one has room for no ghost. -/
theorem Row.append (frontLaid : Row view first middle middle front) (forward : first ≤ middle)
    (backLaid : Row view middle contentEnd wholeEnd back) (contentLe : middle ≤ contentEnd)
    (wholeLe : middle ≤ wholeEnd) : Row view first contentEnd wholeEnd (front ++ back) := by
  induction front generalizing first with
  | nil => exact backLaid.start_earlier forward
  | cons capture rest inductionHypothesis =>
      obtain _ | ⟨behind, placed, contentBefore, wholeBefore, ghostEnds, restLaid⟩ := frontLaid
      have noGhost := fun ghost => (ghostEnds ghost).2
      refine .cons behind placed (Nat.le_trans contentBefore contentLe)
        (Nat.le_trans wholeBefore wholeLe) ?_ (inductionHypothesis restLaid wholeBefore)
      intro ghost
      have ends := noGhost ghost
      omega

theorem Row.singleton {capture : Capture}
    (placed : Placed view first contentEnd wholeEnd capture) :
    Row view first contentEnd wholeEnd [capture] :=
  .cons (Nat.le_refl _) placed (Nat.le_refl _) (Nat.le_refl _) (fun _ => ⟨rfl, rfl, rfl⟩) .nil

/-! ## Ghosts inside captures -/

/-- The capture has its place, and if it has a ghost, it reaches the ends of the match. -/
def PlacedUpTo (view : View) (contentEnd wholeEnd : Nat) (capture : Capture) : Prop :=
  ∃ begins content whole, Placed view begins content whole capture ∧
    (content < whole → content = contentEnd ∧ whole = wholeEnd)

theorem Row.placedUpTo (laid : Row view first contentEnd wholeEnd row) :
    ∀ capture ∈ row, PlacedUpTo view contentEnd wholeEnd capture := by
  induction row generalizing first with
  | nil => simp
  | cons top rest inductionHypothesis =>
      obtain _ | ⟨-, placed, -, -, ghostEnds, restLaid⟩ := laid
      intro capture member
      rcases List.mem_cons.mp member with rfl | member
      · exact ⟨_, _, _, placed, fun ghost => (ghostEnds ghost).2⟩
      · exact inductionHypothesis restLaid capture member

/-- A ghost inside a capture is the ghost of that capture. -/
theorem PlacedUpTo.children {capture : Capture}
    (upTo : PlacedUpTo view contentEnd wholeEnd capture) :
    ∀ child ∈ capture.children, PlacedUpTo view contentEnd wholeEnd child := by
  obtain ⟨begins, content, whole, ⟨-, -, laid⟩, ghostEnds⟩ := upTo
  intro child member
  obtain ⟨begins', content', whole', placed, innerEnds⟩ := laid.placedUpTo child member
  refine ⟨begins', content', whole', placed, ?_⟩
  intro ghost
  obtain ⟨rfl, rfl⟩ := innerEnds ghost
  exact ghostEnds ghost

theorem PlacedUpTo.spans {capture : Capture}
    (upTo : PlacedUpTo view contentEnd wholeEnd capture)
    (ghost : capture.content.length < capture.whole.length) :
    ∃ begins, capture.Spans view begins contentEnd wholeEnd := by
  obtain ⟨begins, content, whole, ⟨spans, -, -⟩, ghostEnds⟩ := upTo
  rw [View.length_of_slice spans.content, View.length_of_slice spans.whole] at ghost
  obtain ⟨rfl, rfl⟩ := ghostEnds (by omega)
  exact ⟨begins, spans⟩

end Capture

/-! ## The captures of a match -/

open Capture (Row)

/-- The captures of a match lie in a row between its ends. -/
def Course.rows : Course where
  holds start finish captures :=
    Row start.view start.position finish.captureEnd finish.position captures
  bare := fun _ _ => .nil
  join := by
    intro start middle finish front back ready reached middleReady further frontLaid backLaid
    rw [reached.sameView] at backLaid
    rw [middleReady.noGhost] at frontLaid
    have forward := ready.position_le_of_reached reached
    have forward' := middleReady.position_le_of_reached further
    exact frontLaid.append (Nat.le_trans forward.1 forward.2) backLaid forward'.1
      (Nat.le_trans forward'.1 forward'.2)
  again := by
    intro start finish captures _ reached same laid
    rw [reached.sameView, same]
    rwa [same] at laid
  node := by
    intro start finish capture _ reached spans laid
    exact Row.singleton ⟨spans, reached.captureEnd_le_position, laid⟩

/-- A group records one capture, which spans the match. -/
theorem Group.exists_capture (group : Group) {cursor next : Cursor} {captures : List Capture}
    (ready : cursor.Ready)
    (matched : (Pattern.group group).step cursor = .matched (next, captures)) :
    ∃ capture, captures = [capture] ∧
      capture.Spans cursor.view cursor.position next.captureEnd next.position := by
  have recorded : ∃ name step, Step.Built step ∧
      (Pattern.group group).step = Step.recorded name step := by
    cases group with
    | around name matcher => exact ⟨name, matcher.step, matcher.built_step, rfl⟩
    | nested name pattern => exact ⟨name, pattern.step, pattern.built_step, rfl⟩
  obtain ⟨name, step, built, stepEq⟩ := recorded
  obtain ⟨node, recordedEq, records⟩ := built.recorded_of_ready name ready
  rw [stepEq, recordedEq] at matched
  obtain ⟨result, outcome, resultEq⟩ := Outcome.exists_of_map_eq_matched matched
  obtain ⟨rfl, rfl⟩ := Prod.mk.inj resultEq
  exact ⟨node result, rfl, (records result outcome).2.2⟩

/-- The captures of a match lie in a row between its ends, and so do the captures inside each of
them.  A capture with a ghost, however deep it lies, ends where the match ends.  A group records one
capture, which spans the match. -/
theorem captures_lie_in_rows (pattern : Pattern) {cursor next : Cursor} {captures : List Capture}
    (ordered : cursor.Ordered) (matched : pattern.step cursor = .matched (next, captures)) :
    Row cursor.view cursor.position next.captureEnd next.position captures ∧
      (∀ capture ∈ Capture.visit captures, capture.content.length < capture.whole.length →
        ∃ first, capture.Spans cursor.view first next.captureEnd next.position) ∧
      ∀ group, pattern = .group group → ∃ capture, captures = [capture] ∧
        capture.Spans cursor.view cursor.position next.captureEnd next.position := by
  have ready := pattern.built_step.ready_of_matched ordered matched
  have laid : Row cursor.view cursor.position next.captureEnd next.position captures :=
    ((Course.rows.steps_of_built pattern.built_step cursor ready).of_matched matched).2
  refine ⟨laid, ?_, ?_⟩
  · intro capture member ghost
    have upTo := Capture.forall_visit laid.placedUpTo (fun _ holds => holds.children)
      capture member
    exact upTo.spans ghost
  · rintro group rfl
    exact group.exists_capture ready matched

theorem captures_lie_in_rows_of_entry :
    let cursor := Cursor.ofView (View.ofString "k;")
    let next : Cursor := ⟨View.ofString "k;", 0, 1, 2, true⟩
    let entry : Pattern := .sequence [
      .group (.around "key" (.codePoint .any)),
      .optional (.group (.around "end" (.ghost (.codePoint (.literal ';')))))]
    let pattern : Pattern := .group (.nested "entry" entry)
    ∃ captures, cursor.Ordered ∧ pattern.step cursor = .matched (next, captures) ∧
      Row cursor.view 0 1 2 captures ∧
      (∀ capture ∈ Capture.visit captures, capture.content.length < capture.whole.length →
        ∃ first, capture.Spans cursor.view first 1 2) ∧
      ∃ capture, captures = [capture] ∧ capture.Spans cursor.view 0 1 2 := by
  intro cursor next entry pattern
  have ordered : cursor.Ordered := (Cursor.ready_fresh (Nat.zero_le _)).ordered
  obtain ⟨captures, matched⟩ : ∃ captures, pattern.step cursor = .matched (next, captures) :=
    ⟨_, rfl⟩
  obtain ⟨laid, ghosts, groups⟩ := captures_lie_in_rows pattern ordered matched
  exact ⟨captures, ordered, matched, laid, ghosts, groups _ rfl⟩

end TextMatch
