import TextMatch.Proofs.TokenLoop
import TextMatch.Proofs.Twins
import TextMatch.Splitter

/-!
# Independence of the context

What matches at a place depends on the units of the view and on the place alone: not on the text
around the view, and not on what an attempt has captured before it came there.  Hence splitters and
searches cut views of the same text into the same pieces.
-/

namespace TextMatch

open Cursor (Twins fresh)
open Outcome (Same)

/-! ## Attempts -/

namespace Cursor

/-- The cursors have come equally far in views of the same text, wherever they began. -/
structure Level (left right : Cursor) : Prop where
  sameText : left.view.SameText right.view
  captureEnd : left.captureEnd = right.captureEnd
  position : left.position = right.position
  isValid : left.isValid = right.isValid

variable {left right : Cursor}

/-- Where matching may go on, only the position counts. -/
theorem Ready.level (ready : left.Ready) (ready' : right.Ready)
    (sameText : left.view.SameText right.view) (samePosition : left.position = right.position) :
    left.Level right where
  sameText := sameText
  captureEnd := by rw [ready.noGhost, ready'.noGhost, samePosition]
  position := samePosition
  isValid := by rw [ready.isValid, ready'.isValid]

theorem Level.twins (level : left.Level right) : Twins left right left right :=
  ⟨rfl, rfl, rfl, rfl, level.captureEnd, level.position, level.isValid⟩

end Cursor

section

variable {origin origin' left right : Cursor}

theorem Matcher.run_twins (matcher : Matcher) (same : origin.view.SameText origin'.view)
    (alike : Twins origin origin' left right) :
    Same (Twins origin origin') (matcher.run left) (matcher.run right) :=
  (matcher.portable _ _ same left right alike).map fun _ _ results => results.1

/-- Repetitions side by side make as many iterations. -/
theorem Matcher.count_twins (repetition : Repetition Matcher)
    (same : origin.view.SameText origin'.view) (alike : Twins origin origin' left right) :
    Same (fun found found' => Twins origin origin' found.1 found'.1 ∧ found.2 = found'.2)
      (Matcher.count repetition left) (Matcher.count repetition right) := by
  unfold Matcher.count
  rw [Matcher.repetitionOfSteps_eq_map]
  have every : ∀ part ∈ repetition.parts, (twins same).Steps part.step part.step :=
    fun part _ => part.portable _ _ same
  apply (Likeness.run every alike).map
  exact fun _ _ rounds => ⟨rounds.1, rounds.2.length_eq⟩

theorem Pattern.rounds_twins (repetition : Repetition Pattern)
    (same : origin.view.SameText origin'.view) (alike : Twins origin origin' left right) :
    Same
      (fun found found' => Twins origin origin' found.1 found'.1 ∧
        List.Forall₂ (List.Forall₂ (Capture.Shifted origin.view origin'.view)) found.2 found'.2)
      ((Pattern.repetitionOfSteps repetition).run left)
      ((Pattern.repetitionOfSteps repetition).run right) := by
  rw [Pattern.repetitionOfSteps_eq_map]
  have every : ∀ part ∈ repetition.parts, (twins same).Steps part.step part.step :=
    fun part _ => part.portable _ _ same
  exact Likeness.run every alike

theorem Group.capture_twins (group : Group) (same : origin.view.SameText origin'.view)
    (alike : Twins origin origin' left right) :
    Same
      (fun found found' => Twins origin origin' found.1 found'.1 ∧
        Capture.Shifted origin.view origin'.view found.2 found'.2)
      (group.capture left) (group.capture right) := by
  cases group with
  | around name matcher => exact matcher.portable.group name same alike
  | nested name pattern => exact pattern.portable.group name same alike

end

variable {view view' : View}

/-! ## Splitters -/

theorem Capture.Shifted.withWhole {left right : Capture}
    (shifted : Capture.Shifted view view' left right) {whole whole' : View}
    (wholes : view.SameSlice view' whole whole') :
    Capture.Shifted view view' { left with whole } { right with whole := whole' } := by
  cases shifted with
  | intro sameName _ contents children => exact .intro sameName wholes contents children

namespace Splitter

theorem endsAt_congr (splitter : Splitter) (same : view.SameText view') (offset : Nat) :
    splitter.endsAt view offset = splitter.endsAt view' offset := by
  unfold endsAt
  cases splitter.endMark with
  | none => rfl
  | some endMark =>
      dsimp only
      rw [same.length]
      by_cases inside : offset ≤ view'.length
      · have inside' := inside
        rw [← same.length] at inside'
        have runs := endMark.run_twins same (Cursor.twins_fresh view view' offset)
        simp only [inside, if_true, Cursor.atOffset_of_le inside, Cursor.atOffset_of_le inside',
          bind, Except.bind]
        generalize endMark.run (fresh view offset) = outcome at runs
        generalize endMark.run (fresh view' offset) = outcome' at runs
        cases runs with
        | matched => rfl
        | noMatch => rfl
        | failed failure => rfl
        | excused _ excused => exact excused.elim
      · simp only [inside, if_false]

theorem nextOffset_congr (same : view.SameText view') (offset stop : Nat) :
    nextOffset view offset stop = nextOffset view' offset stop := by
  rw [nextOffset, nextOffset, same.codePointLengthAt]

theorem segmentsFrom_shifted (splitter : Splitter) (same : view.SameText view') (offset : Nat) :
    Same (List.Forall₂ (Capture.Shifted view view')) (splitter.segmentsFrom view offset)
      (splitter.segmentsFrom view' offset) := by
  rw [segmentsFrom, segmentsFrom]
  by_cases inside : offset < view.length
  · have inside' := inside
    rw [same.length] at inside'
    simp only [inside, inside', dite_true]
    apply (Cursor.same_atOffset same offset).bind
    rintro _ _ ⟨rfl, rfl⟩
    have freshAlike := Cursor.twins_fresh view view' offset
    apply (splitter.content.capture_twins same freshAlike).bind
    rintro ⟨behind, segment⟩ ⟨behind', segment'⟩ ⟨behindAlike, segmentAlike⟩
    have delimiterAlike := splitter.delimiter.portable.ghost _ _ same behind behind' behindAlike
    dsimp only
    generalize Step.ghost splitter.delimiter.step behind = outcome at delimiterAlike
    generalize Step.ghost splitter.delimiter.step behind' = outcome' at delimiterAlike
    cases delimiterAlike with
    | failed failure => exact .failed failure
    | excused _ excused => exact excused.elim
    | noMatch =>
        have sameEnd : behind.isAtEnd = behind'.isAtEnd := by
          rw [Cursor.isAtEnd, Cursor.isAtEnd, behindAlike.position,
            (behindAlike.sameText same).length]
        have lastAlike : Same (List.Forall₂ (Capture.Shifted view view'))
            (.matched [segment]) (.matched [segment']) := .matched (.cons segmentAlike .nil)
        dsimp only
        rw [sameEnd, behindAlike.position, splitter.endsAt_congr same]
        split
        · exact lastAlike
        · apply (Outcome.same_self _).bind
          rintro ends _ rfl
          cases ends with
          | true => exact lastAlike
          | false => exact .noMatch
    | @matched result result' results =>
        have delimitedAlike : Twins _ _ result.1 result'.1 := results.1
        have moved := lt_nextOffset result'.1.position inside
        dsimp only
        rw [delimitedAlike.position, ← nextOffset_congr same, ← splitter.endsAt_congr same]
        apply (same.slice _ _).bind
        intro whole whole' wholeAlike
        have segmentAlike' :
            Capture.Shifted view view' { segment with whole } { segment' with whole := whole' } :=
          segmentAlike.withWhole wholeAlike
        apply (Outcome.same_self _).bind
        rintro ends _ rfl
        cases ends with
        | true => exact .matched (.cons segmentAlike' .nil)
        | false =>
            apply (segmentsFrom_shifted splitter same _).bind
            exact fun _ _ laterAlike => .matched (.cons segmentAlike' laterAlike)
  · have outside := inside
    rw [same.length] at outside
    simp only [inside, outside, dite_false]
    exact .matched .nil
termination_by view.length - offset

end Splitter

/-! ## Searches -/

/-- The cursors have the same offsets, each on its own view. -/
def Cursor.Shifted (view view' : View) (left right : Cursor) : Prop :=
  left.view = view ∧ right = { left with view := view' }

/-- The searches found the same, each in its own view. -/
structure Found.Shifted (view view' : View) (left right : Found) : Prop where
  fragment : view.SameSlice view' left.fragment right.fragment
  matched : Option.Rel (Cursor.Shifted view view') left.matched right.matched

/-- The tokens are of the same kind and span the same slices. -/
structure Token.Shifted (view view' : View) (left right : Token) : Prop where
  category : left.category = right.category
  kind : left.kind = right.kind
  text : view.SameSlice view' left.text right.text

theorem Cursor.Twins.shifted {offset : Nat} {left right : Cursor}
    (alike : Twins (fresh view offset) (fresh view' offset) left right) :
    Cursor.Shifted view view' left right := by
  refine ⟨alike.view, ?_⟩
  cases left
  cases right
  rw [Cursor.mk.injEq]
  exact ⟨alike.view', alike.start'.trans alike.start.symm, alike.captureEnd.symm,
    alike.position.symm, alike.isValid.symm⟩

namespace Finder

theorem notFound_shifted (sameLength : view.length = view'.length) (origin : Nat) :
    Same (Found.Shifted view view') (.ofExcept (notFound view origin))
      (.ofExcept (notFound view' origin)) := by
  unfold notFound
  rw [Outcome.ofExcept_bind, Outcome.ofExcept_bind, sameLength]
  apply (View.sameSlice_of_length sameLength _ _).bind
  exact fun _ _ fragments => .matched ⟨fragments, .none⟩

/-- Searches side by side go from code point to code point and end at the same place. -/
theorem scan_shifted (matcher : Matcher) (same : view.SameText view') {origin place : Nat}
    (inside : place ≤ view.length) :
    Same (Found.Shifted view view') (.ofExcept (scan matcher origin (fresh view place)))
      (.ofExcept (scan matcher origin (fresh view' place))) := by
  have runs := matcher.run_twins same (Cursor.twins_fresh view view' place)
  generalize outcome : matcher.run (fresh view place) = result at runs
  generalize outcome' : matcher.run (fresh view' place) = result' at runs
  cases runs with
  | excused _ excused => exact excused.elim
  | failed failure =>
      rw [scan, outcome, scan, outcome']
      exact .failed failure
  | @matched next next' alike =>
      have sameStart : next'.start = next.start := alike.start'.trans alike.start.symm
      rw [scan, outcome, scan, outcome']
      dsimp only
      rw [Outcome.ofExcept_bind, Outcome.ofExcept_bind, sameStart]
      apply (same.slice _ _).bind
      exact fun _ _ fragments => .matched ⟨fragments, .some alike.shifted⟩
  | noMatch =>
      rcases Nat.lt_or_eq_of_le inside with before | atEnd
      · obtain ⟨char, decoded⟩ := View.exists_decodeAt_of_lt before
        have decoded' := decoded
        rw [same.decodeAt] at decoded'
        have positive := (View.bounds_of_decodeAt decoded).2
        rw [scan_of_noMatch outcome decoded, scan_of_noMatch outcome' decoded']
        exact scan_shifted matcher same (View.add_le_length_of_decodeAt decoded)
      · subst place
        rw [same.length] at outcome'
        rw [scan_of_end outcome, same.length, scan_of_end outcome']
        exact notFound_shifted same.length origin
termination_by view.length - place

theorem find_shifted (finder : Finder) (same : view.SameText view') (offset : Nat) :
    Same (Found.Shifted view view') (.ofExcept (finder.find view offset))
      (.ofExcept (finder.find view' offset)) := by
  by_cases inside : offset ≤ view.length
  · have inside' := inside
    rw [same.length] at inside'
    rw [find_eq_scan finder inside, find_eq_scan finder inside']
    exact scan_shifted finder.matcher same inside
  · have outside' := Nat.not_le.mp inside
    rw [same.length] at outside'
    rw [find_eq_error finder (Nat.not_le.mp inside), find_eq_error finder outside', same.length]
    exact .failed _

/-- The finder finds the same in both views, wherever the search begins. -/
structure FindsAlike (finder : Finder) (view view' : View) : Prop where
  length : view.length = view'.length
  find : ∀ offset, Same (Found.Shifted view view') (.ofExcept (finder.find view offset))
    (.ofExcept (finder.find view' offset))

variable {finder : Finder}

theorem findsAlike_of_sameText (finder : Finder) (same : view.SameText view') :
    finder.FindsAlike view view' :=
  ⟨same.length, finder.find_shifted same⟩

theorem FindsAlike.of_absent (alike : finder.FindsAlike view view') {offset : Nat}
    {fragment : View} (absent : finder.find view offset = .ok ⟨fragment, none⟩) :
    ∃ fragment', finder.find view' offset = .ok ⟨fragment', none⟩ ∧
      view.SameSlice view' fragment fragment' := by
  have results := alike.find offset
  rw [absent] at results
  obtain ⟨⟨fragment', matched'⟩, absent', ⟨fragments, matchAlike⟩⟩ := results.exists_ok
  cases matchAlike with
  | none => exact ⟨fragment', absent', fragments⟩

theorem FindsAlike.of_found (alike : finder.FindsAlike view view') {offset : Nat}
    {fragment : View} {cursor : Cursor}
    (found : finder.find view offset = .ok ⟨fragment, some cursor⟩) :
    cursor.view = view ∧
      ∃ fragment', finder.find view' offset = .ok ⟨fragment', some { cursor with view := view' }⟩ ∧
        view.SameSlice view' fragment fragment' := by
  have results := alike.find offset
  rw [found] at results
  obtain ⟨⟨fragment', matched'⟩, found', ⟨fragments, matchAlike⟩⟩ := results.exists_ok
  cases matchAlike with
  | some cursors =>
      obtain ⟨sameView, rfl⟩ := cursors
      exact ⟨sameView, fragment', found', fragments⟩

/-! ## Streams of tokens -/

/-- What two streams give out: the same failure, or tokens that are shifted. -/
def ItemShifted (view view' : View) (left right : TokenStream.Item) : Prop :=
  Same (Token.Shifted view view') (.ofExcept left) (.ofExcept right)

theorem fragmentTokens_shifted (finder : Finder) {fragment fragment' : View}
    (fragments : view.SameSlice view' fragment fragment') :
    List.Forall₂ (ItemShifted view view') ((finder.fragmentTokens fragment).map .ok)
      ((finder.fragmentTokens fragment').map .ok) := by
  obtain ⟨first, last, sliced, sliced'⟩ := fragments
  have sameEmpty : fragment.isEmpty = fragment'.isEmpty := by
    rw [View.isEmpty, View.isEmpty, View.length_of_slice sliced, View.length_of_slice sliced']
  unfold fragmentTokens
  rw [sameEmpty]
  split
  · exact .nil
  · exact .cons (.matched ⟨rfl, rfl, first, last, sliced, sliced'⟩) .nil

theorem matchTokens_shifted (finder : Finder) {fragment fragment' captured captured' : View}
    (fragments : view.SameSlice view' fragment fragment')
    (captures : view.SameSlice view' captured captured') :
    List.Forall₂ (ItemShifted view view') ((finder.matchTokens fragment captured).map .ok)
      ((finder.matchTokens fragment' captured').map .ok) := by
  unfold matchTokens
  rw [List.map_append, List.map_append]
  exact List.rel_append (finder.fragmentTokens_shifted fragments)
    (.cons (.matched ⟨rfl, rfl, captures⟩) .nil)

/-- The searches behind one stream are those behind the other. -/
theorem Loop.shifted {offset : Nat} {items : List TokenStream.Item}
    (loop : Loop finder view offset items) (alike : finder.FindsAlike view view') :
    ∃ items', Loop finder view' offset items' ∧
      List.Forall₂ (ItemShifted view view') items items' := by
  induction loop with
  | finished outside =>
      rw [alike.length] at outside
      exact ⟨[], .finished outside, .nil⟩
  | @failed offset failure inside failed =>
      have results := alike.find offset
      rw [failed] at results
      rw [alike.length] at inside
      exact ⟨_, .failed inside results.eq_error, .cons (.failed _) .nil⟩
  | rest inside absent =>
      obtain ⟨fragment', absent', fragments⟩ := alike.of_absent absent
      rw [alike.length] at inside
      exact ⟨_, .rest inside absent', finder.fragmentTokens_shifted fragments⟩
  | zeroWidth inside found isEmpty =>
      obtain ⟨-, fragment', found', -⟩ := alike.of_found found
      rw [alike.length] at inside
      exact ⟨_, .zeroWidth inside found' isEmpty, .cons (.failed _) .nil⟩
  | @found offset fragment captured cursor items inside found notEmpty capturedEq _
      inductionHypothesis =>
      obtain ⟨rfl, fragment', found', fragments⟩ := alike.of_found found
      rw [alike.length] at inside
      have captures : Same (cursor.view.SameSlice view') (.ofExcept cursor.captured)
          (.ofExcept { cursor with view := view' }.captured) :=
        View.sameSlice_of_length alike.length _ _
      rw [capturedEq] at captures
      obtain ⟨captured', capturedEq', pieces⟩ := captures.exists_ok
      obtain ⟨items', loop', itemsAlike⟩ := inductionHypothesis
      exact ⟨_, .found inside found' notEmpty capturedEq' loop',
        List.rel_append (finder.matchTokens_shifted fragments pieces) itemsAlike⟩

theorem FindsAlike.items (alike : finder.FindsAlike view view') :
    List.Forall₂ (ItemShifted view view') (finder.items view) (finder.items view') := by
  obtain ⟨items', loop', itemsAlike⟩ := (loop_items finder view).shifted alike
  rw [items_eq_of_loop loop']
  exact itemsAlike

theorem items_shifted (finder : Finder) (same : view.SameText view') :
    List.Forall₂ (ItemShifted view view') (finder.items view) (finder.items view') :=
  (finder.findsAlike_of_sameText same).items

/-- The first failure ends the one stream where it ends the other. -/
theorem mapM_shifted {items items' : List TokenStream.Item}
    (itemsAlike : List.Forall₂ (ItemShifted view view') items items') :
    Same (List.Forall₂ (Token.Shifted view view')) (.ofExcept (items.mapM id))
      (.ofExcept (items'.mapM id)) := by
  induction itemsAlike with
  | nil => exact .matched .nil
  | cons itemAlike _ inductionHypothesis =>
      rw [List.mapM_cons, List.mapM_cons, Outcome.ofExcept_bind, Outcome.ofExcept_bind]
      apply Outcome.Pairs.bind itemAlike
      intro token token' tokenAlike
      rw [Outcome.ofExcept_bind, Outcome.ofExcept_bind]
      apply inductionHypothesis.bind
      exact fun _ _ laterAlike => .matched (.cons tokenAlike laterAlike)

end Finder

/-! ## The context plays no part -/

/-- From level cursors, matchers and patterns come to the same: both match equally far, each from
its own start, with shifted captures and as many iterations, or both miss, or both fail alike.  So
do splitters, searches and streams of tokens on views of the same text. -/
theorem matching_ignores_context :
    (∀ (matcher : Matcher) (left right : Cursor), left.Level right →
        Same (Twins left right) (matcher.run left) (matcher.run right)) ∧
      (∀ (pattern : Pattern) (left right : Cursor), left.Level right →
        Same
          (fun found found' => Twins left right found.1 found'.1 ∧
            List.Forall₂ (Capture.Shifted left.view right.view) found.2 found'.2)
          (pattern.step left) (pattern.step right)) ∧
      (∀ (repetition : Repetition Matcher) (left right : Cursor), left.Level right →
        Same (fun found found' => Twins left right found.1 found'.1 ∧ found.2 = found'.2)
          (Matcher.count repetition left) (Matcher.count repetition right)) ∧
      (∀ (repetition : Repetition Pattern) (left right : Cursor), left.Level right →
        Same
          (fun found found' => Twins left right found.1 found'.1 ∧
            List.Forall₂ (List.Forall₂ (Capture.Shifted left.view right.view)) found.2 found'.2)
          ((Pattern.repetitionOfSteps repetition).run left)
          ((Pattern.repetitionOfSteps repetition).run right)) ∧
      (∀ (splitter : Splitter) (view view' : View), view.SameText view' →
        Same (List.Forall₂ (Capture.Shifted view view')) (splitter.split view)
          (splitter.split view')) ∧
      (∀ (finder : Finder) (view view' : View) (offset : Nat), view.SameText view' →
        Same (Found.Shifted view view') (.ofExcept (finder.find view offset))
          (.ofExcept (finder.find view' offset))) ∧
      (∀ (finder : Finder) (view view' : View), view.SameText view' →
        List.Forall₂ (Finder.ItemShifted view view') (finder.items view) (finder.items view') ∧
          Same (List.Forall₂ (Token.Shifted view view')) (.ofExcept (finder.tokens view))
            (.ofExcept (finder.tokens view'))) := by
  refine ⟨?_, ?_, ?_, ?_, ?_, ?_, ?_⟩
  · exact fun matcher _ _ level => matcher.run_twins level.sameText level.twins
  · exact fun pattern _ _ level => pattern.portable _ _ level.sameText _ _ level.twins
  · exact fun repetition _ _ level => Matcher.count_twins repetition level.sameText level.twins
  · exact fun repetition _ _ level => Pattern.rounds_twins repetition level.sameText level.twins
  · exact fun splitter _ _ same => splitter.segmentsFrom_shifted same 0
  · exact fun finder _ _ offset same => finder.find_shifted same offset
  · intro finder view view' same
    have itemsAlike := finder.items_shifted same
    exact ⟨itemsAlike, Finder.mapM_shifted itemsAlike⟩

theorem matching_ignores_context_in_slices :
    let whole := View.ofString "ka;"
    let outer := View.ofString "<ka;>"
    let entry : Pattern := .sequence [
      .group (.around "key" (.codePoint .any)),
      .optional (.group (.around "end" (.ghost (.codePoint (.literal ';')))))]
    let splitter : Splitter := ⟨.nested "entry" entry, .codePoint .any, none⟩
    ∃ middle view, outer.slice 1 5 = .ok middle ∧ middle.slice 0 3 = .ok view ∧
      let left := fresh whole 1
      let right : Cursor := ⟨view, 0, 1, 1, true⟩
      left.Level right ∧ entry.run left = .matched ⟨whole, 1, 2, 3, true⟩ ∧
        entry.run right = .matched ⟨view, 0, 2, 3, true⟩ ∧
        Same
          (fun found found' => Twins left right found.1 found'.1 ∧
            List.Forall₂ (Capture.Shifted whole view) found.2 found'.2)
          (entry.step left) (entry.step right) ∧
        Same (List.Forall₂ (Capture.Shifted whole view)) (splitter.split whole)
          (splitter.split view) := by
  intro whole outer entry splitter
  obtain ⟨-, patterns, -, -, splitters, -⟩ := matching_ignores_context
  refine ⟨_, _, rfl, rfl, ?_⟩
  intro left right
  have sameText : whole.SameText right.view := by
    unfold View.SameText
    decide +kernel
  have ready : left.Ready := Cursor.ready_fresh (by decide)
  have ready' : right.Ready := ⟨rfl, by decide, rfl, by decide⟩
  have level : left.Level right := ready.level ready' sameText rfl
  exact ⟨level, by decide +kernel, by decide +kernel, patterns entry left right level,
    splitters splitter whole right.view sameText⟩

end TextMatch
