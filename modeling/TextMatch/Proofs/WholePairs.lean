import TextMatch.Proofs.CourseRule
import TextMatch.Proofs.Segments
import TextMatch.Proofs.TokenTiling

/-!
# Surrogate pairs stay whole

A match that begins at a boundary ends at one, and so does everything that it records.  Streams of
tokens and splitters begin at the start of the text and go from boundary to boundary, so that no
piece of text that they give out ends inside a surrogate pair.
-/

namespace TextMatch

open Outcome (Meets)

/-- The piece is a slice of the view that starts and ends at a boundary. -/
def View.KeepsPairs (view piece : View) : Prop :=
  ∃ first last, view.slice first last = .ok piece ∧ view.IsBoundary first ∧ view.IsBoundary last

/-! ## Captures -/

namespace Capture

def KeepsPairs (view : View) (capture : Capture) : Prop :=
  view.KeepsPairs capture.whole ∧ view.KeepsPairs capture.content

/-- The captures and all those inside them keep pairs whole. -/
def AllKeepPairs (view : View) (captures : List Capture) : Prop :=
  ∀ capture ∈ visit captures, capture.KeepsPairs view

variable {view : View} {capture : Capture} {front back rest : List Capture}

theorem visit_append (front back : List Capture) :
    visit (front ++ back) = visit front ++ visit back := by
  fun_induction visit front with
  | case1 => rfl
  | case2 top stack inductionHypothesis =>
      rw [List.append_assoc] at inductionHypothesis
      rw [List.cons_append, visit, inductionHypothesis, List.cons_append]

theorem allKeepPairs_nil : AllKeepPairs view [] := by
  simp [AllKeepPairs, visit]

theorem AllKeepPairs.append (frontKeep : AllKeepPairs view front)
    (backKeep : AllKeepPairs view back) : AllKeepPairs view (front ++ back) := by
  intro capture member
  rw [visit_append] at member
  rcases List.mem_append.mp member with inFront | inBack
  · exact frontKeep capture inFront
  · exact backKeep capture inBack

theorem allKeepPairs_cons_iff :
    AllKeepPairs view (capture :: rest) ↔
      capture.KeepsPairs view ∧ AllKeepPairs view capture.children ∧ AllKeepPairs view rest := by
  simp only [AllKeepPairs, visit, visit_append, List.forall_mem_cons, List.forall_mem_append]

end Capture

open Capture (AllKeepPairs)

/-- Where a match begins at a boundary, its captures keep pairs whole. -/
def Course.wholePairs : Course where
  holds start _ captures :=
    start.view.IsBoundary start.position → AllKeepPairs start.view captures
  bare := fun _ _ _ => Capture.allKeepPairs_nil
  join := by
    intro start middle finish front back _ reached _ _ frontKeep backKeep boundary
    have behind := (reached.boundaries boundary).2
    rw [reached.sameView] at backKeep
    exact (frontKeep boundary).append (backKeep behind)
  again := by
    intro start finish captures _ reached same keep boundary
    rw [reached.sameView] at boundary ⊢
    exact keep (same ▸ boundary)
  node := by
    intro start finish capture _ reached spans keep boundary
    have ends := reached.boundaries boundary
    rw [Capture.allKeepPairs_cons_iff]
    exact ⟨⟨⟨_, _, spans.whole, boundary, ends.2⟩, ⟨_, _, spans.content, boundary, ends.1⟩⟩,
      keep boundary, Capture.allKeepPairs_nil⟩

theorem Pattern.keepsPairs (pattern : Pattern) {cursor next : Cursor} {captures : List Capture}
    (ready : cursor.Ready) (boundary : cursor.view.IsBoundary cursor.position)
    (matched : pattern.step cursor = .matched (next, captures)) :
    (cursor.view.IsBoundary next.captureEnd ∧ cursor.view.IsBoundary next.position) ∧
      AllKeepPairs cursor.view captures := by
  have kept := (Course.wholePairs.steps_of_built pattern.built_step cursor ready).of_matched matched
  exact ⟨kept.1.boundaries boundary, kept.2 boundary⟩

theorem Group.keepsPairs (group : Group) {cursor next : Cursor} {capture : Capture}
    (ready : cursor.Ready) (boundary : cursor.view.IsBoundary cursor.position)
    (matched : group.capture cursor = .matched (next, capture)) :
    AllKeepPairs cursor.view [capture] := by
  have stepMatched : (Pattern.group group).step cursor = .matched (next, [capture]) := by
    simp only [Pattern.step, matched, Outcome.map]
  exact ((Pattern.group group).keepsPairs ready boundary stepMatched).2

/-! ## Streams of tokens -/

namespace TokenStream

/-- The next search of the stream begins at a boundary, and its pending token keeps pairs whole. -/
structure AtBoundary (view : View) (stream : TokenStream) : Prop where
  sameView : stream.view = view
  fits : stream.cache.Fits view
  offset : view.IsBoundary stream.offset
  pending : ∀ token, stream.pending = some token → view.KeepsPairs token.text

/-- What a stream gives out keeps pairs whole, and leaves the next search at a boundary. -/
def NextKeepsPairs (view : View) (result : Option Item × TokenStream) : Prop :=
  (∀ token, result.1 = some (.ok token) → view.KeepsPairs token.text) ∧
    result.2.AtBoundary view

variable {view : View} {stream later : TokenStream}

theorem nextKeepsPairs_none (atBoundary : later.AtBoundary view) :
    NextKeepsPairs view (none, later) :=
  ⟨by simp, atBoundary⟩

theorem nextKeepsPairs_error (failure : Failure) (atBoundary : later.AtBoundary view) :
    NextKeepsPairs view (some (.error failure), later) :=
  ⟨by simp, atBoundary⟩

theorem nextKeepsPairs_token {token : Token} (keeps : view.KeepsPairs token.text)
    (atBoundary : later.AtBoundary view) : NextKeepsPairs view (some (.ok token), later) := by
  refine ⟨?_, atBoundary⟩
  intro other same
  obtain rfl : token = other := by simpa using same
  exact keeps

theorem atBoundary_start (finder : Finder) (view : View) :
    (start finder view).AtBoundary view where
  sameView := rfl
  fits := LiteralSet.ScanCache.fits_empty view
  offset := View.isBoundary_zero
  pending := by simp [start]

/-- The end of a stream leaves its state at the boundary where it was. -/
theorem AtBoundary.done (atBoundary : stream.AtBoundary view) :
    { stream with isDone := true }.AtBoundary view :=
  ⟨atBoundary.sameView, atBoundary.fits, atBoundary.offset, atBoundary.pending⟩

theorem AtBoundary.afterSearch (atBoundary : stream.AtBoundary view)
    (inside : stream.offset ≤ view.length) :
    NextKeepsPairs view
      (stream.afterSearch (stream.finder.find view stream.offset)) := by
  have result := Finder.find_result stream.finder inside
  generalize stream.finder.find view stream.offset = found at result
  cases result with
  | failed => exact nextKeepsPairs_error _ atBoundary.done
  | @absent fragment _ sliced =>
      have keeps : view.KeepsPairs fragment :=
        ⟨_, _, sliced, atBoundary.offset, View.isBoundary_length⟩
      simp only [TokenStream.afterSearch, afterFound]
      split
      · exact nextKeepsPairs_none atBoundary.done
      · exact nextKeepsPairs_token keeps atBoundary.done
  | @matched place next fragment visits _ matched sliced =>
      have reached := Finder.reached_of_run visits.le_length matched
      have boundary := Finder.isBoundary_of_visits atBoundary.offset visits
      have ends := (reached.boundaries boundary).1
      have fragmentKeeps : view.KeepsPairs fragment :=
        ⟨_, _, sliced, atBoundary.offset, boundary⟩
      obtain ⟨captured, capturedEq⟩ := Finder.exists_captured reached
      have capturedKeeps : view.KeepsPairs captured := by
        rw [Finder.captured_of_reached reached] at capturedEq
        exact ⟨_, _, capturedEq, boundary, ends⟩
      simp only [TokenStream.afterSearch, afterFound, capturedEq]
      split
      · exact nextKeepsPairs_error _ atBoundary.done
      · split
        · exact nextKeepsPairs_token capturedKeeps
            ⟨atBoundary.sameView, atBoundary.fits, ends, atBoundary.pending⟩
        · -- The match is kept back while the fragment is given out.
          have pendingKeeps : ∀ token, some (stream.token .found captured) = some token →
              view.KeepsPairs token.text := by
            intro token same
            obtain rfl := Option.some.inj same
            exact capturedKeeps
          exact nextKeepsPairs_token fragmentKeeps
            ⟨atBoundary.sameView, atBoundary.fits, ends, pendingKeeps⟩

theorem AtBoundary.next (atBoundary : stream.AtBoundary view) :
    NextKeepsPairs view stream.next := by
  cases pending : stream.pending with
  | some token =>
      simp only [TokenStream.next, pending]
      exact nextKeepsPairs_token (atBoundary.pending token pending)
        ⟨atBoundary.sameView, atBoundary.fits, atBoundary.offset, by simp⟩
  | none =>
      obtain rfl := atBoundary.sameView
      by_cases ends : (stream.isDone || decide (stream.view.length ≤ stream.offset)) = true
      · simp only [TokenStream.next, pending, ends, if_true]
        exact nextKeepsPairs_none ⟨rfl, atBoundary.fits, atBoundary.offset, by simp⟩
      · simp only [Bool.or_eq_true, decide_eq_true_eq, not_or, Bool.not_eq_true] at ends
        obtain ⟨notDone, inside⟩ := ends
        obtain ⟨cache, fits, nextEq⟩ :=
          exists_next_eq pending notDone atBoundary.fits (Nat.not_le.mp inside)
        have laterAtBoundary : { stream with cache := cache }.AtBoundary stream.view :=
          ⟨rfl, fits, atBoundary.offset, atBoundary.pending⟩
        rw [nextEq]
        exact laterAtBoundary.afterSearch (Nat.le_of_not_le inside)

theorem AtBoundary.afterCalls (atBoundary : stream.AtBoundary view) (count : Nat) :
    (stream.afterCalls count).AtBoundary view := by
  induction count generalizing stream with
  | zero => exact atBoundary
  | succ count inductionHypothesis => exact inductionHypothesis atBoundary.next.2

end TokenStream

/-! ## Splitters -/

namespace Splitter

variable {splitter : Splitter} {view : View} {offset stop : Nat} {segment : Capture}

theorem isBoundary_nextOffset (inside : offset < view.length) (boundary : view.IsBoundary stop) :
    view.IsBoundary (nextOffset view offset stop) := by
  rw [nextOffset]
  split
  · exact boundary
  · obtain ⟨char, decoded⟩ := View.exists_decodeAt_of_lt inside
    rw [View.codePointLengthAt_of_decodeAt decoded]
    exact View.isBoundary_add_of_decodeAt decoded

/-- A segment that begins at a boundary keeps pairs whole, and the next place is a boundary. -/
theorem Delimits.keepsPairs (delimits : Delimits splitter view offset segment stop)
    (boundary : view.IsBoundary offset) :
    AllKeepPairs view [segment] ∧ view.IsBoundary (nextOffset view offset stop) := by
  have stops : view.IsBoundary stop := by
    obtain ⟨delimited, reached, rfl⟩ := delimits.reached
    exact (reached.boundaries boundary).2
  cases delimits with
  | intro inside captured ghost sliced =>
      have ready := Cursor.ready_fresh (Nat.le_of_lt inside)
      have keeps : AllKeepPairs view _ := splitter.content.keepsPairs ready boundary captured
      rw [Capture.allKeepPairs_cons_iff] at keeps ⊢
      exact ⟨⟨⟨⟨_, _, sliced, boundary, stops⟩, keeps.1.2⟩, keeps.2⟩,
        isBoundary_nextOffset inside stops⟩

theorem isBoundary_of_scans (scans : Scans splitter view offset) : view.IsBoundary offset := by
  induction scans with
  | start => exact View.isBoundary_zero
  | next _ delimits _ boundary => exact (delimits.keepsPairs boundary).2

theorem Splits.keepsPairs {segments : List Capture} (splits : Splits splitter view offset segments)
    (boundary : view.IsBoundary offset) : AllKeepPairs view segments := by
  induction splits with
  | finished => exact Capture.allKeepPairs_nil
  | last inside captured =>
      have ready := Cursor.ready_fresh (Nat.le_of_lt inside)
      exact splitter.content.keepsPairs ready boundary captured
  | ended delimits => exact (delimits.keepsPairs boundary).1
  | next delimits _ _ inductionHypothesis =>
      have keeps := delimits.keepsPairs boundary
      exact keeps.1.append (inductionHypothesis keeps.2)

end Splitter

/-! ## No pair is cut -/

/-- From a boundary, a match leads to boundaries, and so do the captures on the way, however deep
they lie.  Hence the tokens of a text and the segments of a splitter keep pairs whole, and every
search and every segment begins at a boundary. -/
theorem matching_keeps_pairs :
    (∀ (matcher : Matcher) (cursor next : Cursor), cursor.Ready →
        cursor.view.IsBoundary cursor.position → matcher.run cursor = .matched next →
        cursor.view.IsBoundary next.captureEnd ∧ cursor.view.IsBoundary next.position) ∧
      (∀ (pattern : Pattern) (cursor next : Cursor) (captures : List Capture), cursor.Ready →
        cursor.view.IsBoundary cursor.position →
        pattern.step cursor = .matched (next, captures) →
        (cursor.view.IsBoundary next.captureEnd ∧ cursor.view.IsBoundary next.position) ∧
          ∀ capture ∈ Capture.visit captures, capture.KeepsPairs cursor.view) ∧
      (∀ (finder : Finder) (view : View) (count : Nat),
        view.IsBoundary ((TokenStream.start finder view).afterCalls count).offset ∧
          ∀ token, ((TokenStream.start finder view).afterCalls count).next.1 =
            some (.ok token) → view.KeepsPairs token.text) ∧
      (∀ (splitter : Splitter) (view : View) (offset : Nat), splitter.Scans view offset →
        view.IsBoundary offset) ∧
      (∀ (splitter : Splitter) (view : View) (segments : List Capture),
        splitter.split view = .matched segments →
        ∀ capture ∈ Capture.visit segments, capture.KeepsPairs view) := by
  refine ⟨?_, ?_, ?_, ?_, ?_⟩
  · intro matcher cursor next ready boundary matched
    exact ((matcher.meets_run ready).of_matched matched).boundaries boundary
  · exact fun pattern _ _ _ ready boundary matched => pattern.keepsPairs ready boundary matched
  · intro finder view count
    have atBoundary := (TokenStream.atBoundary_start finder view).afterCalls count
    exact ⟨atBoundary.offset, atBoundary.next.1⟩
  · exact fun _ _ _ scans => Splitter.isBoundary_of_scans scans
  · intro splitter view segments split
    exact (Splitter.splits_of_split split).keepsPairs View.isBoundary_zero

theorem matching_keeps_pairs_of_smile :
    let view := View.ofUnits #[0xDE00, 0xD83D, 0xDE00]
    let cursor := Cursor.fresh view 1
    let next : Cursor := ⟨view, 1, 3, 3, true⟩
    let smile : Group := .around "smile" (.literals (.ofWords [['😀']] false))
    let splitter : Splitter := ⟨.around "segment" (.codePoint .any), .codePoint .any, none⟩
    ∃ captures segments, cursor.Ready ∧ view.IsBoundary 1 ∧ ¬ view.IsBoundary 2 ∧
      (Pattern.group smile).step cursor = .matched (next, captures) ∧ view.IsBoundary 3 ∧
      (∀ capture ∈ Capture.visit captures, capture.KeepsPairs view) ∧
      splitter.split view = .matched segments ∧
      ∀ capture ∈ Capture.visit segments, capture.KeepsPairs view := by
  intro view cursor next smile splitter
  obtain ⟨-, patterns, -, -, splits⟩ := matching_keeps_pairs
  have ready : cursor.Ready := Cursor.ready_fresh (by decide)
  have boundary : view.IsBoundary 1 := by decide
  have run : (Pattern.group smile).run cursor = .matched next := by decide +kernel
  obtain ⟨⟨behind, captures⟩, matched, rfl⟩ := Outcome.exists_of_map_eq_matched run
  obtain ⟨ends, keep⟩ := patterns (.group smile) cursor next captures ready boundary matched
  have count : (splitter.split view).map List.length = .matched 1 := by decide +kernel
  obtain ⟨segments, split, -⟩ := Outcome.exists_of_map_eq_matched count
  exact ⟨captures, segments, ready, boundary, by decide, matched, ends.2, keep, split,
    splits splitter view segments split⟩

end TextMatch
