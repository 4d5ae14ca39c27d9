import TextMatch.Finder
import TextMatch.Proofs.LiteralSearch
import TextMatch.Proofs.ReadySteps

/-!
# Searches

A search tries its place of origin and the boundaries behind it, up to the end of the text, and
comes to the first of them where the matcher matches or fails.  A search for words is one for the
matcher of these words.
-/

namespace TextMatch

/-! ## Fresh cursors -/

namespace Cursor

variable {view : View} {index count : Nat} {char : Char}

theorem requireFresh_fresh : (fresh view index).requireFresh = .ok () := by
  simp [requireFresh, requireValid, isEmptyMatch, fresh, bind, Except.bind]

theorem requireNoGhost_fresh : (fresh view index).requireNoGhost = .ok () := by
  simp [requireNoGhost, hasGhost, fresh]

theorem advanceStart_fresh (decoded : view.decodeAt index = some (char, count)) :
    (fresh view index).advanceStart = .ok (fresh view (index + count)) := by
  have lengthEq : (fresh view index).view.codePointLengthAt (fresh view index).start = count :=
    View.codePointLengthAt_of_decodeAt decoded
  have positive := (View.bounds_of_decodeAt decoded).2
  obtain ⟨before, rfl⟩ : ∃ before, count = before + 1 := ⟨count - 1, by omega⟩
  simp only [advanceStart, requireFresh_fresh, requireNoGhost_fresh, lengthEq, bind, Except.bind]
  rfl

theorem isAtEnd_fresh_iff : (fresh view index).isAtEnd = true ↔ index = view.length := by
  simp [isAtEnd, fresh]

end Cursor

namespace Finder

open Cursor

variable {set : LiteralSet} {view : View} {origin place count : Nat}

theorem exists_notFound (inside : origin ≤ view.length) :
    ∃ fragment, view.slice origin view.length = .ok fragment ∧
      notFound view origin = .ok ⟨fragment, none⟩ := by
  obtain ⟨fragment, sliced⟩ := View.exists_slice inside (Nat.le_refl _)
  refine ⟨fragment, sliced, ?_⟩
  rw [notFound, sliced]
  rfl

/-! ## From place to place -/

section

variable {matcher : Matcher}

theorem scan_of_end (missed : matcher.run (fresh view view.length) = .noMatch) :
    scan matcher origin (fresh view view.length) = notFound view origin := by
  have atEnd : (fresh view view.length).isAtEnd = true := isAtEnd_fresh_iff.mpr rfl
  rw [scan, missed]
  simp only [atEnd, if_true]
  rfl

theorem scan_of_noMatch {char : Char} (missed : matcher.run (fresh view place) = .noMatch)
    (decoded : view.decodeAt place = some (char, count)) :
    scan matcher origin (fresh view place) = scan matcher origin (fresh view (place + count)) := by
  have inside := (View.bounds_of_decodeAt decoded).1
  have notAtEnd : ¬(fresh view place).isAtEnd = true := by
    rw [isAtEnd_fresh_iff]
    omega
  have moved := advanceStart_fresh decoded
  rw [scan, missed]
  simp only [if_neg notAtEnd]
  split
  · rename_i failure refused
    rw [moved] at refused
    contradiction
  · rename_i next movedTo
    rw [moved] at movedTo
    injection movedTo with nextEq
    rw [nextEq]

end

/-! ## Searches for words -/

theorem run_literals_of_none (inside : place ≤ view.length)
    (absent : set.longestAt? view place = none) :
    (Matcher.literals set).run (fresh view place) = .noMatch := by
  have absent' : set.longestAt? (fresh view place).view (fresh view place).position = none :=
    absent
  rw [Matcher.run, Matcher.step, Step.literals_of_ready set (ready_fresh inside), absent']
  rfl

theorem run_literals_of_some (inside : place ≤ view.length)
    (found : set.longestAt? view place = some count) :
    (Matcher.literals set).run (fresh view place) =
      .matched ((fresh view place).moved count) := by
  have found' : set.longestAt? (fresh view place).view (fresh view place).position = some count :=
    found
  rw [Matcher.run, Matcher.step, Step.literals_of_ready set (ready_fresh inside), found']
  rfl

theorem scan_literals (inside : place ≤ view.length) :
    scan (.literals set) origin (fresh view place) =
      foundAt view origin (set.plainScan view place) := by
  fun_induction LiteralSet.plainScan set view place with
  | case1 place count found =>
      have advanced := (ready_fresh inside).advance (LiteralSet.bounds_of_longestAt? found inside).1
      rw [scan, run_literals_of_some inside found]
      simp only [foundAt, atOffset_of_le inside, bind, Except.bind, advanced]
      rfl
  | case2 place absent noCodePoint =>
      have outside := View.length_le_of_decodeAt_eq_none noCodePoint
      obtain rfl : place = view.length := Nat.le_antisymm inside outside
      exact scan_of_end (run_literals_of_none inside absent)
  | case3 place absent char count decoded inductionHypothesis =>
      rw [scan_of_noMatch (run_literals_of_none inside absent) decoded]
      exact inductionHypothesis (View.add_le_length_of_decodeAt decoded)

/-- The matcher for which a finder searches. -/
def matcher (finder : Finder) : Matcher :=
  match finder.target with
  | .matcher matcher => matcher
  | .literals set _ => .literals set

variable {cache : LiteralSet.ScanCache}

/-- A search comes to the same whatever the searches before it have left. -/
theorem findWith_eq_scan (finder : Finder) (inside : origin ≤ view.length)
    (fits : cache.Fits view) :
    (finder.findWith (fresh view origin) cache).1 =
      scan finder.matcher origin (fresh view origin) := by
  rw [findWith, Finder.matcher]
  simp only [requireFresh_fresh, requireNoGhost_fresh]
  cases finder.target with
  | matcher matcher => rfl
  | literals set search =>
      have plain := LiteralSet.find?_eq_plainScan search fits origin
      simp only [findLiteral, scan_literals inside, ← plain]
      rfl

theorem fits_of_findWith (finder : Finder) (origin : Nat) (fits : cache.Fits view) :
    (finder.findWith (fresh view origin) cache).2.Fits view := by
  rw [findWith]
  simp only [requireFresh_fresh, requireNoGhost_fresh]
  cases finder.target with
  | matcher matcher => exact fits
  | literals set search => exact LiteralSet.fits_of_find? search fits origin

theorem find_eq_scan (finder : Finder) (inside : origin ≤ view.length) :
    finder.find view origin = scan finder.matcher origin (fresh view origin) := by
  rw [← findWith_eq_scan finder inside (LiteralSet.ScanCache.fits_empty view)]
  simp only [find, atOffset_of_le inside, bind, Except.bind]
  rfl

theorem findWith_eq_find (finder : Finder) (inside : origin ≤ view.length)
    (fits : cache.Fits view) :
    (finder.findWith (fresh view origin) cache).1 = finder.find view origin := by
  rw [findWith_eq_scan finder inside fits, find_eq_scan finder inside]

theorem find_eq_error (finder : Finder) (outside : view.length < origin) :
    finder.find view origin = .error (.offsetOutOfRange origin view.length) := by
  simp [find, atOffset, Nat.not_le.mpr outside, bind, Except.bind]

/-! ## Matches at a fresh cursor -/

section

variable {matcher : Matcher} {next : Cursor}

theorem reached_of_run (inside : place ≤ view.length)
    (matched : matcher.run (fresh view place) = .matched next) :
    (fresh view place).Reached next :=
  (matcher.meets_run (ready_fresh inside)).of_matched matched

theorem ghostFailure_of_run (inside : place ≤ view.length) {failure : Failure}
    (failed : matcher.run (fresh view place) = .failed failure) :
    GhostFailure view failure :=
  (matcher.meets_run (ready_fresh inside)).of_failed failed

theorem captureEnd_le_of_reached (reached : (fresh view place).Reached next) :
    next.captureEnd ≤ view.length :=
  Nat.le_trans reached.captureEnd_le_position reached.position_le

theorem captured_of_reached (reached : (fresh view place).Reached next) :
    next.captured = view.slice place next.captureEnd := by
  rw [captured, reached.sameView, reached.sameStart]
  rfl

theorem exists_captured (reached : (fresh view place).Reached next) :
    ∃ captured, next.captured = .ok captured := by
  rw [captured_of_reached reached]
  exact View.exists_slice reached.captureEnd_le (captureEnd_le_of_reached reached)

theorem isEmptyMatch_iff (reached : (fresh view place).Reached next) :
    next.isEmptyMatch = true ↔ next.captureEnd = place := by
  rw [isEmptyMatch, reached.sameStart, beq_iff_eq]
  rfl

theorem lt_captureEnd_of_not_isEmptyMatch (reached : (fresh view place).Reached next)
    (notEmpty : next.isEmptyMatch = false) :
    place < next.captureEnd := by
  have forward : place ≤ next.captureEnd := reached.captureEnd_le
  have differ : next.captureEnd ≠ place := by
    rw [ne_eq, ← isEmptyMatch_iff reached, notEmpty]
    exact Bool.false_ne_true
  omega

end

/-! ## The place of a match -/

/-- The places that a search may try. -/
structure Visits (view : View) (origin place : Nat) : Prop where
  origin_le : origin ≤ place
  le_length : place ≤ view.length
  boundary : place = origin ∨ view.IsBoundary place

/-- The matcher does not match where a search from `origin` tries it before `place`. -/
def Misses (matcher : Matcher) (view : View) (origin place : Nat) : Prop :=
  ∀ earlier, Visits view origin earlier → earlier < place →
    matcher.run (fresh view earlier) = .noMatch

/-- What a search comes to. -/
inductive SearchResult (matcher : Matcher) (view : View) (origin : Nat) :
    Except Failure Found → Prop
  | failed {place : Nat} {failure : Failure} :
      Visits view origin place → Misses matcher view origin place →
      matcher.run (fresh view place) = .failed failure →
      SearchResult matcher view origin (.error failure)
  | matched {place : Nat} {next : Cursor} {fragment : View} :
      Visits view origin place → Misses matcher view origin place →
      matcher.run (fresh view place) = .matched next →
      view.slice origin place = .ok fragment →
      SearchResult matcher view origin (.ok ⟨fragment, some next⟩)
  | absent {fragment : View} :
      Misses matcher view origin (view.length + 1) →
      view.slice origin view.length = .ok fragment →
      SearchResult matcher view origin (.ok ⟨fragment, none⟩)

variable {matcher : Matcher}

theorem visits_origin (inside : origin ≤ view.length) : Visits view origin origin :=
  ⟨Nat.le_refl _, inside, Or.inl rfl⟩

theorem misses_origin : Misses matcher view origin origin := by
  intro earlier visits before
  have notBefore := visits.origin_le
  omega

/-- Between a place and the end of its code point there is no place to try. -/
theorem Misses.extend (misses : Misses matcher view origin place) (originLe : origin ≤ place)
    (missed : matcher.run (fresh view place) = .noMatch) {char : Char}
    (decoded : view.decodeAt place = some (char, count)) :
    Misses matcher view origin (place + count) := by
  intro earlier visits before
  rcases Nat.lt_trichotomy earlier place with left | here | right
  · exact misses earlier visits left
  · rw [here]
    exact missed
  · rcases visits.boundary with atOrigin | boundary
    · omega
    · have behind := View.add_le_of_isBoundary decoded right boundary
      omega

theorem Misses.past_end (misses : Misses matcher view origin view.length)
    (missed : matcher.run (fresh view view.length) = .noMatch) :
    Misses matcher view origin (view.length + 1) := by
  intro earlier visits before
  rcases Nat.lt_or_eq_of_le visits.le_length with left | here
  · exact misses earlier visits left
  · rw [here]
    exact missed

theorem scan_result (matcher : Matcher) {view : View} {origin place : Nat}
    (visits : Visits view origin place) (misses : Misses matcher view origin place) :
    SearchResult matcher view origin (scan matcher origin (fresh view place)) := by
  -- The recursion is on the text behind `place`; `misses` is what it carries along.
  cases outcome : matcher.run (fresh view place) with
  | failed failure =>
      rw [scan, outcome]
      exact .failed visits misses outcome
  | matched next =>
      have start : next.start = place := (reached_of_run visits.le_length outcome).sameStart
      obtain ⟨fragment, sliced⟩ := View.exists_slice visits.origin_le visits.le_length
      rw [scan, outcome]
      simp only [start]
      have sliced' : (fresh view place).view.slice origin place = .ok fragment := sliced
      rw [sliced']
      exact .matched visits misses outcome sliced
  | noMatch =>
      rcases Nat.lt_or_eq_of_le visits.le_length with inside | atEnd
      · obtain ⟨char, decoded⟩ := View.exists_decodeAt_of_lt inside
        rw [scan_of_noMatch outcome decoded]
        have positive := (View.bounds_of_decodeAt decoded).2
        apply scan_result
        · exact {
            origin_le := Nat.le_add_right_of_le visits.origin_le
            le_length := View.add_le_length_of_decodeAt decoded
            boundary := Or.inr (View.isBoundary_add_of_decodeAt decoded) }
        · exact misses.extend visits.origin_le outcome decoded
      · subst place
        obtain ⟨fragment, sliced, notFoundEq⟩ := exists_notFound visits.origin_le
        rw [scan_of_end outcome, notFoundEq]
        exact .absent (misses.past_end outcome) sliced
termination_by view.length - place

theorem find_result (finder : Finder) (inside : origin ≤ view.length) :
    SearchResult finder.matcher view origin (finder.find view origin) := by
  rw [find_eq_scan finder inside]
  exact scan_result finder.matcher (visits_origin inside) misses_origin

end Finder

end TextMatch
