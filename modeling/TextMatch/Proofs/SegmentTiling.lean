import Mathlib.Data.List.Chain
import TextMatch.Proofs.CaptureTrees
import TextMatch.Proofs.WholePairs

/-!
# How segments tile a text

A splitter goes forward in the text.  Its segments lie one behind the other from the start of the
text on, with one code point left out behind each segment that is empty, and the last of them lies
where the text or the end mark stops it.  The end mark is looked for wherever the splitter goes on,
but never at the start of the text.
-/

namespace TextMatch

/-- A group that matches records one capture, which spans the match. -/
theorem Group.spans_of_capture (group : Group) {cursor behind : Cursor} {segment : Capture}
    (ready : cursor.Ready) (captured : group.capture cursor = .matched (behind, segment)) :
    segment.Spans cursor.view cursor.position behind.captureEnd behind.position := by
  have matched : (Pattern.group group).step cursor = .matched (behind, [segment]) := by
    simp only [Pattern.step, captured, Outcome.map]
  obtain ⟨capture, same, spans⟩ := group.exists_capture ready matched
  rw [(List.cons.inj same).1]
  exact spans

namespace Splitter

variable {splitter : Splitter} {view : View} {offset first stop next : Nat} {segment : Capture}
  {segments : List Capture}

/-! ## The end mark -/

/-- The end mark matches at `offset`. -/
def EndsAt (splitter : Splitter) (view : View) (offset : Nat) : Prop :=
  ∃ endMark ∈ splitter.endMark, ∃ behind,
    endMark.run (Cursor.fresh view offset) = .matched behind

theorem endsAt_of_unmarked (unmarked : splitter.endMark = none) :
    splitter.endsAt view offset = .ok false := by
  rw [endsAt, unmarked]

theorem endsAt_of_mark {endMark : Matcher} (given : splitter.endMark = some endMark)
    (inside : offset ≤ view.length) :
    splitter.endsAt view offset =
      (endMark.run (Cursor.fresh view offset)).toExcept.map Option.isSome := by
  simp only [endsAt, given, if_pos inside, Cursor.atOffset_of_le inside, bind, Except.bind]
  cases endMark.run (Cursor.fresh view offset) with
  | matched behind => rfl
  | noMatch => rfl
  | failed failure => rfl

theorem endsAt_iff {found : Bool} (inside : offset ≤ view.length)
    (looked : splitter.endsAt view offset = .ok found) :
    found = true ↔ splitter.EndsAt view offset := by
  cases given : splitter.endMark with
  | none =>
      rw [endsAt_of_unmarked given] at looked
      obtain rfl := Except.ok.inj looked
      simp [EndsAt, given]
  | some endMark =>
      rw [endsAt_of_mark given inside] at looked
      simp only [EndsAt, given, Option.mem_some_iff, exists_eq_left']
      cases outcome : endMark.run (Cursor.fresh view offset) with
      | matched behind =>
          rw [outcome] at looked
          obtain rfl := Except.ok.inj looked
          simp
      | noMatch =>
          rw [outcome] at looked
          obtain rfl := Except.ok.inj looked
          simp
      | failed failure =>
          rw [outcome] at looked
          contradiction

theorem run_endMark_of_endsAt {endMark : Matcher} (given : splitter.endMark = some endMark)
    (inside : offset ≤ view.length) (looked : splitter.endsAt view offset = .ok false) :
    endMark.run (Cursor.fresh view offset) = .noMatch := by
  rw [endsAt_of_mark given inside] at looked
  cases outcome : endMark.run (Cursor.fresh view offset) with
  | noMatch => rfl
  | matched behind =>
      rw [outcome] at looked
      exact Bool.noConfusion (Except.ok.inj looked)
  | failed failure =>
      rw [outcome] at looked
      contradiction

/-! ## From segment to segment -/

/-- The place behind a segment that spans `first..stop`: its end, or one code point later if it is
empty. -/
inductive Follows (view : View) (first stop : Nat) : Nat → Prop
  | nonempty : first < stop → Follows view first stop stop
  | empty {char : Char} {count : Nat} :
      first = stop → view.decodeAt first = some (char, count) →
      Follows view first stop (first + count)

theorem follows_nextOffset (inside : first < view.length) (ordered : first ≤ stop) :
    Follows view first stop (nextOffset view first stop) := by
  rw [nextOffset]
  split
  · rename_i nonempty
    exact .nonempty nonempty
  · rename_i empty
    obtain ⟨char, decoded⟩ := View.exists_decodeAt_of_lt inside
    rw [View.codePointLengthAt_of_decodeAt decoded]
    exact .empty (by omega) decoded

theorem Follows.lt (follows : Follows view first stop next) : first < next := by
  cases follows with
  | nonempty forward => exact forward
  | empty _ decoded => exact Nat.lt_add_of_pos_right (View.bounds_of_decodeAt decoded).2

theorem Follows.le_length (follows : Follows view first stop next)
    (inside : stop ≤ view.length) : next ≤ view.length := by
  cases follows with
  | nonempty => exact inside
  | empty _ decoded => exact View.add_le_length_of_decodeAt decoded

theorem reached_of_content {behind : Cursor} (inside : first < view.length)
    (captured : splitter.content.capture (Cursor.fresh view first) = .matched (behind, segment)) :
    (Cursor.fresh view first).Reached behind :=
  (splitter.content.meets_capture
    (Cursor.ready_fresh (Nat.le_of_lt inside)).reached).of_matched captured

theorem spans_of_content {behind : Cursor} (inside : first < view.length)
    (captured : splitter.content.capture (Cursor.fresh view first) = .matched (behind, segment)) :
    segment.Spans view first behind.captureEnd behind.position :=
  splitter.content.spans_of_capture (Cursor.ready_fresh (Nat.le_of_lt inside)) captured

theorem isAtEnd_iff {behind : Cursor} (reached : (Cursor.fresh view first).Reached behind) :
    behind.isAtEnd = true ↔ behind.position = view.length := by
  rw [Cursor.isAtEnd, beq_iff_eq, reached.sameView]
  rfl

theorem Delimits.inside (delimits : Delimits splitter view first segment stop) :
    first < view.length := by
  cases delimits
  assumption

/-- The content of a segment starts with its whole and ends in it. -/
theorem Delimits.spans (delimits : Delimits splitter view first segment stop) :
    ∃ contentEnd, segment.Spans view first contentEnd stop ∧ contentEnd ≤ stop := by
  obtain ⟨inside, captured, ghost, sliced⟩ := delimits
  have behindReached := reached_of_content inside captured
  have built : (Step.ghost splitter.delimiter.step).Built := .ghost splitter.delimiter.built_step
  have behindReady := built.ready_of_matched behindReached.ordered ghost
  have forward := behindReady.position_le_of_reached (built.reached_of_matched behindReady ghost)
  refine ⟨_, ⟨sliced, (spans_of_content inside captured).content⟩, ?_⟩
  exact Nat.le_trans behindReached.captureEnd_le_position (Nat.le_trans forward.1 forward.2)

theorem Delimits.stop_le (delimits : Delimits splitter view first segment stop) :
    stop ≤ view.length := by
  obtain ⟨contentEnd, spans, -⟩ := delimits.spans
  exact (View.bounds_of_slice spans.whole).2

theorem Delimits.follows (delimits : Delimits splitter view first segment stop) :
    Follows view first stop (nextOffset view first stop) := by
  obtain ⟨contentEnd, spans, -⟩ := delimits.spans
  exact follows_nextOffset delimits.inside (View.bounds_of_slice spans.whole).1

theorem Delimits.next_le (delimits : Delimits splitter view first segment stop) :
    nextOffset view first stop ≤ view.length :=
  delimits.follows.le_length delimits.stop_le

/-- A splitter goes on at `next` behind the segment at `offset`. -/
def GoesOn (splitter : Splitter) (view : View) (offset next : Nat) : Prop :=
  ∃ segment stop, Delimits splitter view offset segment stop ∧
    next = nextOffset view offset stop ∧ splitter.endsAt view next = .ok false

theorem GoesOn.forward (goesOn : GoesOn splitter view offset next) :
    offset < next ∧ next ≤ view.length := by
  obtain ⟨segment, stop, delimits, rfl, -⟩ := goesOn
  exact ⟨delimits.follows.lt, delimits.next_le⟩

/-- A splitter goes on at most as often as there are units. -/
theorem length_le_of_isChain {later : List Nat} :
    ∀ {offset : Nat}, List.IsChain (GoesOn splitter view) (offset :: later) →
      later.length ≤ view.length - offset := by
  induction later with
  | nil => exact fun _ => Nat.zero_le _
  | cons next rest inductionHypothesis =>
      intro offset chain
      rw [List.isChain_cons_cons] at chain
      obtain ⟨goesOn, further⟩ := chain
      have forward := goesOn.forward
      have bound := inductionHypothesis further
      rw [List.length_cons]
      omega

/-! ## Segments in a row -/

/-- Why a splitter stops at a last segment that spans `first..stop`. -/
def StopsAt (splitter : Splitter) (view : View) (first stop : Nat) : Prop :=
  ∃ next, Follows view first stop next ∧
    (next = view.length ∨ splitter.EndsAt view next ∨
      first = stop ∧ splitter.EndsAt view stop)

/-- The segments lie in a row from `first` on, and the splitter stops at the last of them. -/
inductive Laid (splitter : Splitter) (view : View) : Nat → List Capture → Prop
  | last {first contentEnd stop : Nat} {segment : Capture} :
      segment.Spans view first contentEnd stop → contentEnd ≤ stop →
      StopsAt splitter view first stop → Laid splitter view first [segment]
  | next {first contentEnd stop next : Nat} {segment : Capture} {later : List Capture} :
      segment.Spans view first contentEnd stop → contentEnd ≤ stop →
      Follows view first stop next → Laid splitter view next later →
      Laid splitter view first (segment :: later)

theorem Splits.length_le (splits : Splits splitter view offset segments) :
    segments.length ≤ view.length - offset := by
  induction splits with
  | finished => exact Nat.zero_le _
  | last inside =>
      rw [List.length_singleton]
      omega
  | ended delimits =>
      have inside := delimits.inside
      rw [List.length_singleton]
      omega
  | next delimits _ _ inductionHypothesis =>
      have inside := delimits.inside
      have forward := delimits.follows.lt
      rw [List.length_cons]
      omega

theorem Splits.eq_nil_iff (splits : Splits splitter view offset segments) :
    segments = [] ↔ view.length ≤ offset := by
  cases splits with
  | finished outside => simp [outside]
  | last inside => simp [inside]
  | ended delimits => simp [delimits.inside]
  | next delimits => simp [delimits.inside]

theorem laid_of_splits (splits : Splits splitter view offset segments)
    (inside : offset < view.length) : Laid splitter view offset segments := by
  induction splits with
  | finished outside => omega
  | last _ captured _ stops =>
      rename_i offset behind segment _ _
      have reached := reached_of_content inside captured
      have spans := spans_of_content inside captured
      have bounds := View.bounds_of_slice spans.whole
      refine .last spans reached.captureEnd_le_position
        ⟨_, follows_nextOffset inside bounds.1, ?_⟩
      rcases stops with atEnd | marked
      · -- Where the text ends behind the content, the content is not empty.
        have endEq := (isAtEnd_iff reached).mp atEnd
        left
        rw [nextOffset, if_pos (endEq ▸ inside), endEq]
      · have ends := (endsAt_iff bounds.2 marked).mp rfl
        right
        by_cases nonempty : offset < behind.position
        · left
          rwa [nextOffset, if_pos nonempty]
        · exact Or.inr ⟨Nat.le_antisymm bounds.1 (Nat.not_lt.mp nonempty), ends⟩
  | ended delimits marked =>
      obtain ⟨contentEnd, spans, inOrder⟩ := delimits.spans
      have ends := (endsAt_iff delimits.next_le marked).mp rfl
      exact .last spans inOrder ⟨_, delimits.follows, Or.inr (Or.inl ends)⟩
  | next delimits _ later inductionHypothesis =>
      obtain ⟨contentEnd, spans, inOrder⟩ := delimits.spans
      rcases Nat.lt_or_eq_of_le delimits.next_le with further | atEnd
      · exact .next spans inOrder delimits.follows (inductionHypothesis further)
      · obtain rfl := later.eq_nil_iff.mpr (Nat.le_of_eq atEnd.symm)
        exact .last spans inOrder ⟨_, delimits.follows, Or.inl atEnd⟩

/-- Without an end mark, segments that are not empty join to the rest of the text. -/
theorem Splits.join (splits : Splits splitter view offset segments)
    (unmarked : splitter.endMark = none) (boundary : view.IsBoundary offset)
    (nonempty : ∀ segment ∈ segments, segment.whole.isEmpty = false) {rest : View}
    (sliced : view.slice offset view.length = .ok rest) :
    segments.flatMap (fun segment => segment.whole.units) = rest.units ∧
      String.join (segments.map fun segment => segment.whole.text) = rest.text := by
  induction splits generalizing rest with
  | finished outside =>
      have noUnits : rest.units = [] := by
        rw [View.units_of_slice sliced, Nat.sub_eq_zero_of_le outside, List.take_zero]
      rw [View.text, noUnits]
      exact ⟨rfl, rfl⟩
  | last inside captured _ stops =>
      rename_i offset behind segment _
      have reached := reached_of_content inside captured
      have whole := (spans_of_content inside captured).whole
      have atEnd : behind.position = view.length := by
        rcases stops with atEnd | marked
        · exact (isAtEnd_iff reached).mp atEnd
        · rw [endsAt_of_unmarked unmarked] at marked
          contradiction
      have same : segment.whole = rest := by
        rw [atEnd] at whole
        exact Except.ok.inj (whole.symm.trans sliced)
      rw [← same]
      constructor
      · exact List.flatMap_singleton _ _
      · rw [List.map_singleton, String.join_cons, String.join_nil, String.append_empty]
  | ended _ marked =>
      rw [endsAt_of_unmarked unmarked] at marked
      contradiction
  | next delimits _ _ inductionHypothesis =>
      rename_i offset stop segment later _ _
      obtain ⟨contentEnd, spans, -⟩ := delimits.spans
      have laterBoundary := (delimits.keepsPairs boundary).2
      have bounds := View.bounds_of_slice spans.whole
      have notEmpty := nonempty segment List.mem_cons_self
      rw [← Bool.not_eq_true, View.isEmpty_iff_of_slice spans.whole] at notEmpty
      have nextEq : nextOffset view offset stop = stop := by
        rw [nextOffset, if_pos (Nat.lt_of_le_of_ne bounds.1 notEmpty)]
      rw [nextEq] at laterBoundary inductionHypothesis
      obtain ⟨back, backSliced⟩ := View.exists_slice bounds.2 (Nat.le_refl view.length)
      obtain ⟨unitsEq, textEq⟩ := inductionHypothesis laterBoundary
        (fun found member => nonempty found (List.mem_cons_of_mem segment member)) backSliced
      constructor
      · rw [List.flatMap_cons, unitsEq, View.units_of_slices spans.whole backSliced sliced]
      · rw [List.map_cons, String.join_cons, textEq,
          View.text_of_slices spans.whole backSliced sliced laterBoundary]

/-! ## Splitting without success -/

/-- There is no segment at `offset`: the content does not match, or it matches and is followed by no
delimiter, not by the end of the text and not by the end mark. -/
inductive Rejects (splitter : Splitter) (view : View) (offset : Nat) : Prop
  | content :
      splitter.content.capture (Cursor.fresh view offset) = .noMatch →
      Rejects splitter view offset
  | behind {behind : Cursor} {segment : Capture} :
      splitter.content.capture (Cursor.fresh view offset) = .matched (behind, segment) →
      splitter.delimiter.run behind = .noMatch → behind.position ≠ view.length →
      ¬ splitter.EndsAt view behind.position → Rejects splitter view offset

theorem run_of_ghost_eq_noMatch {matcher : Matcher} {cursor : Cursor} (ordered : cursor.Ordered)
    (missed : Step.ghost matcher.step cursor = .noMatch) : matcher.run cursor = .noMatch := by
  have built : (Step.ghost matcher.step).Built := .ghost matcher.built_step
  have ready := built.ready_of_ne_failed ordered (by simp [missed])
  rw [matcher.built_step.ghost_of_ready ready, Outcome.map_eq_noMatch_iff] at missed
  rw [Matcher.run, missed, Outcome.map]

/-- A splitter that finds nothing from `offset` on finds no segment there, or goes on from there in
vain. -/
theorem rejects_or_goes_on (rejected : splitter.segmentsFrom view offset = .noMatch) :
    offset < view.length ∧
      (Rejects splitter view offset ∨ ∃ segment stop,
        Delimits splitter view offset segment stop ∧
          splitter.endsAt view (nextOffset view offset stop) = .ok false ∧
          splitter.segmentsFrom view (nextOffset view offset stop) = .noMatch) := by
  rw [segmentsFrom] at rejected
  split at rejected
  · rename_i inside
    refine ⟨inside, ?_⟩
    rw [Outcome.ofExcept_bind_eq_noMatch_iff, Cursor.atOffset_of_le (Nat.le_of_lt inside)]
      at rejected
    obtain ⟨cursor, sameCursor, rejected⟩ := rejected
    obtain rfl := Except.ok.inj sameCursor
    rw [Outcome.bind_eq_noMatch_iff] at rejected
    rcases rejected with captured | ⟨⟨behind, segment⟩, captured, rejected⟩
    · exact Or.inl (.content captured)
    · have reached := reached_of_content inside captured
      cases ghost : Step.ghost splitter.delimiter.step behind with
      | failed failure => simp [ghost] at rejected
      | noMatch =>
          have noDelimiter := run_of_ghost_eq_noMatch reached.ordered ghost
          simp only [ghost] at rejected
          split at rejected
          · contradiction
          · rename_i notAtEnd
            rw [isAtEnd_iff reached] at notAtEnd
            rw [Outcome.ofExcept_bind_eq_noMatch_iff] at rejected
            obtain ⟨found, looked, rejected⟩ := rejected
            have marked := endsAt_iff reached.position_le looked
            cases found with
            | true => contradiction
            | false =>
                left
                exact .behind captured noDelimiter notAtEnd (marked.not.mp Bool.false_ne_true)
      | matched result =>
          obtain ⟨delimited, captures⟩ := result
          simp only [ghost] at rejected
          rw [Outcome.ofExcept_bind_eq_noMatch_iff] at rejected
          obtain ⟨whole, sliced, rejected⟩ := rejected
          rw [Outcome.ofExcept_bind_eq_noMatch_iff] at rejected
          obtain ⟨found, looked, rejected⟩ := rejected
          cases found with
          | true => contradiction
          | false =>
              rw [if_neg Bool.false_ne_true, Outcome.bind_eq_noMatch_iff] at rejected
              rcases rejected with rejected | ⟨later, -, returned⟩
              · right
                exact ⟨_, _, .intro inside captured ghost sliced, looked, rejected⟩
              · contradiction
  · contradiction

theorem exists_rejects (offset : Nat) (scans : Scans splitter view offset)
    (rejected : splitter.segmentsFrom view offset = .noMatch) :
    ∃ place, Scans splitter view place ∧ place < view.length ∧
      Rejects splitter view place := by
  obtain ⟨inside, here | ⟨segment, stop, delimits, looked, later⟩⟩ := rejects_or_goes_on rejected
  · exact ⟨offset, scans, inside, here⟩
  · have forward := delimits.follows.lt
    exact exists_rejects _ (.next scans delimits looked) later
termination_by view.length - offset

/-! ## Before the end mark -/

/-- A segment that others follow, before an end mark: the end mark stands neither where the splitter
goes on nor, unless that is the start of the text, at the end of the segment. -/
inductive Unmarked (view : View) (endMark : Matcher) (segment : Capture) : Prop
  | intro {first stop next : Nat} :
      view.slice first stop = .ok segment.whole → Follows view first stop next →
      endMark.run (Cursor.fresh view next) = .noMatch →
      (0 < stop → endMark.run (Cursor.fresh view stop) = .noMatch) →
      Unmarked view endMark segment

theorem Delimits.unmarked {endMark : Matcher} (given : splitter.endMark = some endMark)
    (delimits : Delimits splitter view first segment stop)
    (arrived : 0 < first → endMark.run (Cursor.fresh view first) = .noMatch)
    (looked : splitter.endsAt view (nextOffset view first stop) = .ok false) :
    Unmarked view endMark segment := by
  obtain ⟨contentEnd, spans, -⟩ := delimits.spans
  have nextUnmarked := run_endMark_of_endsAt given delimits.next_le looked
  refine .intro spans.whole delimits.follows nextUnmarked ?_
  intro behindStart
  rcases Nat.lt_or_eq_of_le (View.bounds_of_slice spans.whole).1 with nonempty | rfl
  · rwa [nextOffset, if_pos nonempty] at nextUnmarked
  · exact arrived behindStart

/-- All segments but the last are unmarked if the place of the first one is. -/
theorem Splits.unmarked {endMark : Matcher} (given : splitter.endMark = some endMark)
    (splits : Splits splitter view offset segments)
    (arrived : 0 < offset → endMark.run (Cursor.fresh view offset) = .noMatch) :
    ∀ segment ∈ segments.dropLast, Unmarked view endMark segment := by
  induction splits with
  | finished => simp
  | last => simp
  | ended => simp
  | next delimits looked later inductionHypothesis =>
      rename_i offset stop segment found
      have nextUnmarked := run_endMark_of_endsAt given delimits.next_le looked
      have unmarked := delimits.unmarked given arrived looked
      intro earlier member
      cases found with
      | nil => simp at member
      | cons second rest =>
          rw [List.dropLast_cons_cons, List.mem_cons] at member
          rcases member with rfl | further
          · exact unmarked
          · exact inductionHypothesis (fun _ => nextUnmarked) earlier further

end Splitter

open Splitter

/-- Every splitter goes forward until the text or the end mark stops it.  The segments that it finds
lie in a row, and there are no more of them than units; without an end mark, they join to the text
unless one of them is empty.  A splitter that finds nothing was rejected at a place that it
reached. -/
theorem splitters_tile_texts (splitter : Splitter) (view : View) :
    (∀ offset next, GoesOn splitter view offset next → offset < next ∧ next ≤ view.length) ∧
      (∀ places, List.IsChain (GoesOn splitter view) places → places.length ≤ view.length + 1) ∧
      (∀ segments, splitter.split view = .matched segments →
        segments.length ≤ view.length ∧ (segments = [] ↔ view.length = 0) ∧
          (segments ≠ [] → Laid splitter view 0 segments) ∧
          (splitter.endMark = none →
            (∀ segment ∈ segments, segment.whole.isEmpty = false) →
            segments.flatMap (fun segment => segment.whole.units) = view.units ∧
              String.join (segments.map fun segment => segment.whole.text) = view.text)) ∧
      (splitter.split view = .noMatch →
        ∃ offset, Scans splitter view offset ∧ offset < view.length ∧
          Rejects splitter view offset) := by
  refine ⟨fun _ _ goesOn => goesOn.forward, ?_, ?_, exists_rejects 0 .start⟩
  · intro places chain
    cases places with
    | nil => exact Nat.zero_le _
    | cons first later =>
        have bound := length_le_of_isChain chain
        rw [List.length_cons]
        omega
  · intro segments split
    have splits := splits_of_split split
    have emptyIff : segments = [] ↔ view.length = 0 := by
      rw [splits.eq_nil_iff, Nat.le_zero]
    refine ⟨splits.length_le, emptyIff, ?_, ?_⟩
    · intro nonempty
      exact laid_of_splits splits (Nat.pos_of_ne_zero fun empty => nonempty (emptyIff.mpr empty))
    · intro unmarked nonempty
      exact splits.join unmarked View.isBoundary_zero nonempty (View.slice_whole view)

theorem splitters_tile_texts_of_items :
    let view := View.ofString "a,;b"
    let plain : Splitter := ⟨.around "item" (.codePoint .any), .optional (.codePoint (.literal ',')),
      none⟩
    let strict : Splitter := ⟨.around "item" (.codePoint .any), .codePoint (.literal ','), none⟩
    ∃ segments, plain.split view = .matched segments ∧ segments.length = 3 ∧
      Laid plain view 0 segments ∧
      segments.flatMap (fun segment => segment.whole.units) = view.units ∧
      strict.split view = .noMatch ∧
      ∃ offset, Scans strict view offset ∧ offset < view.length ∧
        Rejects strict view offset := by
  intro view plain strict
  obtain ⟨-, -, found, -⟩ := splitters_tile_texts plain view
  obtain ⟨-, -, -, rejected⟩ := splitters_tile_texts strict view
  have wholes : (plain.split view).map
      (fun segments => segments.map fun segment => segment.whole.isEmpty) =
      .matched [false, false, false] := by
    decide +kernel
  obtain ⟨segments, split, wholesEq⟩ := Outcome.exists_of_map_eq_matched wholes
  have lengthEq : segments.length = 3 := by
    rw [← List.length_map, wholesEq]
    rfl
  have nonempty : ∀ segment ∈ segments, segment.whole.isEmpty = false := by
    intro segment member
    have inWholes := List.mem_map_of_mem (f := fun found => found.whole.isEmpty) member
    rw [wholesEq] at inWholes
    simpa using inWholes
  obtain ⟨-, -, laid, joins⟩ := found segments split
  have strictSplit : strict.split view = .noMatch := by
    have none : (strict.split view).map List.length = .noMatch := by decide +kernel
    exact Outcome.map_eq_noMatch_iff.mp none
  have someSegments : segments ≠ [] := by
    rintro rfl
    contradiction
  exact ⟨segments, split, lengthEq, laid someSegments, (joins rfl nonempty).1, strictSplit,
    rejected strictSplit⟩

/-- No end mark stands at the end of a segment that others follow, except at the start of the text,
behind a first segment that is empty; nor does one stand where the splitter goes on. -/
theorem splitters_stop_at_end_marks (splitter : Splitter) (view : View) (endMark : Matcher)
    (segments : List Capture) (given : splitter.endMark = some endMark)
    (split : splitter.split view = .matched segments) :
    ∀ segment ∈ segments.dropLast, Unmarked view endMark segment :=
  (splits_of_split split).unmarked given fun behindStart => absurd behindStart (Nat.lt_irrefl 0)

theorem splitters_stop_at_end_marks_of_items :
    let view := View.ofString "a,b;c"
    let endMark : Matcher := .codePoint (.literal ';')
    let splitter : Splitter := ⟨.around "item" (.codePoint (.range 'a' 'z')),
      .optional (.codePoint (.literal ',')), some endMark⟩
    ∃ first second, splitter.split view = .matched [first, second] ∧
      .ok first.whole = view.slice 0 2 ∧ .ok second.whole = view.slice 2 3 ∧
      Unmarked view endMark first := by
  intro view endMark splitter
  have wholes : (splitter.split view).map (List.map fun segment => Except.ok segment.whole) =
      .matched [view.slice 0 2, view.slice 2 3] := by
    decide +kernel
  obtain ⟨segments, split, wholesEq⟩ := Outcome.exists_of_map_eq_matched wholes
  obtain ⟨first, later, rfl, firstEq, laterEq⟩ := List.map_eq_cons_iff.mp wholesEq
  obtain ⟨second, rfl, secondEq⟩ := List.map_eq_singleton_iff.mp laterEq
  have unmarked := splitters_stop_at_end_marks splitter view endMark _ rfl split first
    List.mem_cons_self
  exact ⟨first, second, split, firstEq, secondEq, unmarked⟩

/-- An end mark at the start of the text does not stop a splitter behind an empty segment. -/
theorem empty_segment_passes_end_mark :
    let view := View.ofString ";a"
    let endMark : Matcher := .codePoint (.literal ';')
    let splitter : Splitter := ⟨.around "item" (.optional (.codePoint (.literal 'a'))),
      .optional (.codePoint (.literal ',')), some endMark⟩
    endMark.run (Cursor.fresh view 0) = .matched ⟨view, 0, 1, 1, true⟩ ∧
      ∃ first second, splitter.split view = .matched [first, second] ∧
        .ok first.whole = view.slice 0 0 ∧ .ok second.whole = view.slice 1 2 := by
  intro view endMark splitter
  refine ⟨by decide +kernel, ?_⟩
  have wholes : (splitter.split view).map (List.map fun segment => Except.ok segment.whole) =
      .matched [view.slice 0 0, view.slice 1 2] := by
    decide +kernel
  obtain ⟨segments, split, wholesEq⟩ := Outcome.exists_of_map_eq_matched wholes
  obtain ⟨first, later, rfl, firstEq, laterEq⟩ := List.map_eq_cons_iff.mp wholesEq
  obtain ⟨second, rfl, secondEq⟩ := List.map_eq_singleton_iff.mp laterEq
  exact ⟨first, second, split, firstEq, secondEq⟩

end TextMatch
