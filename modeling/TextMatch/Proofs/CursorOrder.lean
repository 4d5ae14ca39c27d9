import TextMatch.Proofs.LiteralBounds
import TextMatch.Proofs.RepetitionRule
import TextMatch.Proofs.Slices

/-!
# The order of cursors

Matching never leaves the text and never goes back: from a cursor that may be matched at, a match
leads to a cursor over the same text with the same start, whose capture and position lie in order
behind those of the first.  A cursor that was given up or has a ghost is refused.
-/

namespace TextMatch

namespace Cursor

/-! ## Cursors that may be matched at -/

/-- A cursor at which matching may go on, with its offsets in order and inside its text. -/
structure Ready (cursor : Cursor) : Prop where
  isValid : cursor.isValid = true
  start_le : cursor.start ≤ cursor.captureEnd
  noGhost : cursor.captureEnd = cursor.position
  position_le : cursor.position ≤ cursor.view.length

/-- A cursor with its offsets in order and inside its text, valid or not and with or without a
ghost. -/
structure Ordered (cursor : Cursor) : Prop where
  start_le : cursor.start ≤ cursor.captureEnd
  captureEnd_le : cursor.captureEnd ≤ cursor.position
  position_le : cursor.position ≤ cursor.view.length

/-- The cursors that an attempt begun at `origin` may lead to. -/
structure Reached (origin cursor : Cursor) : Prop where
  sameView : cursor.view = origin.view
  sameStart : cursor.start = origin.start
  isValid : cursor.isValid = true
  start_le : cursor.start ≤ cursor.captureEnd
  captureEnd_le : origin.captureEnd ≤ cursor.captureEnd
  captureEnd_le_position : cursor.captureEnd ≤ cursor.position
  position_le : cursor.position ≤ origin.view.length
  boundaries : origin.view.IsBoundary origin.position →
    origin.view.IsBoundary cursor.captureEnd ∧ origin.view.IsBoundary cursor.position

/-- The failure to match behind a ghost that lies in the text. -/
def GhostFailure (view : View) (failure : Failure) : Prop :=
  ∃ captureEnd position, failure = .matchAfterGhost captureEnd position ∧
    captureEnd < position ∧ position ≤ view.length

variable {origin cursor middle : Cursor} {count offset : Nat} {view : View}

theorem Ready.reached (ready : cursor.Ready) : Reached cursor cursor where
  sameView := rfl
  sameStart := rfl
  isValid := ready.isValid
  start_le := ready.start_le
  captureEnd_le := Nat.le_refl _
  captureEnd_le_position := Nat.le_of_eq ready.noGhost
  position_le := ready.position_le
  boundaries := by
    intro boundary
    exact ⟨ready.noGhost ▸ boundary, boundary⟩

theorem Reached.trans (first : Reached origin middle) (second : Reached middle cursor) :
    Reached origin cursor where
  sameView := second.sameView.trans first.sameView
  sameStart := second.sameStart.trans first.sameStart
  isValid := second.isValid
  start_le := second.start_le
  captureEnd_le := Nat.le_trans first.captureEnd_le second.captureEnd_le
  captureEnd_le_position := second.captureEnd_le_position
  position_le := first.sameView ▸ second.position_le
  boundaries := by
    intro boundary
    have middleBoundary := (first.boundaries boundary).2
    rw [← first.sameView] at middleBoundary ⊢
    exact second.boundaries middleBoundary

theorem Ready.ordered (ready : cursor.Ready) : cursor.Ordered where
  start_le := ready.start_le
  captureEnd_le := Nat.le_of_eq ready.noGhost
  position_le := ready.position_le

theorem Reached.ordered (reached : Reached origin cursor) : cursor.Ordered where
  start_le := reached.start_le
  captureEnd_le := reached.captureEnd_le_position
  position_le := reached.sameView ▸ reached.position_le

theorem ready_fresh (inside : offset ≤ view.length) : (fresh view offset).Ready where
  isValid := rfl
  start_le := Nat.le_refl _
  noGhost := rfl
  position_le := inside

/-! ## Refusal -/

theorem requireMatchable_of_invalid (invalid : cursor.isValid = false) :
    cursor.requireMatchable = .error .invalidated := by
  simp [requireMatchable, requireValid, invalid, bind, Except.bind]

theorem requireMatchable_of_ghost (valid : cursor.isValid = true)
    (ghost : cursor.captureEnd < cursor.position) :
    cursor.requireMatchable = .error (.matchAfterGhost cursor.captureEnd cursor.position) := by
  simp [requireMatchable, requireValid, requireNoGhost, hasGhost, valid, ghost, bind, Except.bind]

theorem requireMatchable_of_noGhost (valid : cursor.isValid = true)
    (noGhost : cursor.position ≤ cursor.captureEnd) :
    cursor.requireMatchable = .ok () := by
  simp [requireMatchable, requireValid, requireNoGhost, hasGhost, valid, noGhost, bind,
    Except.bind]

theorem Ready.requireMatchable (ready : cursor.Ready) : cursor.requireMatchable = .ok () :=
  requireMatchable_of_noGhost ready.isValid (Nat.le_of_eq ready.noGhost.symm)

theorem Ordered.ready_of_requireMatchable (ordered : cursor.Ordered)
    (matchable : cursor.requireMatchable = .ok ()) : cursor.Ready := by
  have valid : cursor.isValid = true := by
    by_cases invalid : cursor.isValid = false
    · rw [requireMatchable_of_invalid invalid] at matchable
      contradiction
    · simpa using invalid
  have noGhost : ¬ cursor.captureEnd < cursor.position := by
    intro ghost
    rw [requireMatchable_of_ghost valid ghost] at matchable
    contradiction
  exact {
    isValid := valid
    start_le := ordered.start_le
    noGhost := Nat.le_antisymm ordered.captureEnd_le (Nat.not_lt.mp noGhost)
    position_le := ordered.position_le }

theorem Reached.ready_of_requireMatchable (reached : Reached origin cursor)
    (matchable : cursor.requireMatchable = .ok ()) : cursor.Ready :=
  reached.ordered.ready_of_requireMatchable matchable

theorem Reached.ghostFailure (reached : Reached origin cursor) {failure : Failure}
    (refused : cursor.requireMatchable = .error failure) : GhostFailure origin.view failure := by
  by_cases ghost : cursor.captureEnd < cursor.position
  · rw [requireMatchable_of_ghost reached.isValid ghost] at refused
    injection refused with failureEq
    exact ⟨_, _, failureEq.symm, ghost, reached.position_le⟩
  · rw [requireMatchable_of_noGhost reached.isValid (Nat.not_lt.mp ghost)] at refused
    contradiction

theorem refusalsMeet_reached (origin : Cursor) :
    Step.RefusalsMeet (Reached origin) (GhostFailure origin.view) :=
  fun _ _ reached refused => reached.ghostFailure refused

/-! ## Moves -/

theorem moved_moved (cursor : Cursor) (first second : Nat) :
    (cursor.moved first).moved second = cursor.moved (first + second) := by
  simp only [moved, View.addOffset_addOffset]

theorem requireRoom_of_le (room : cursor.position + count ≤ cursor.view.length) :
    cursor.requireRoom count = .ok () := by
  rw [requireRoom, View.addOffset_of_le room, if_neg (Nat.not_lt.mpr room)]

theorem advance_of_matchable (matchable : cursor.requireMatchable = .ok ())
    (room : cursor.position + count ≤ cursor.view.length) :
    cursor.advance count = .ok (cursor.moved count) := by
  simp only [Cursor.advance, matchable, requireRoom_of_le room, bind, Except.bind, pure,
    Except.pure]

/-- Inside the text a move adds to the offsets of a cursor at which matching may go on. -/
theorem Ready.moved_eq (ready : cursor.Ready)
    (room : cursor.position + count ≤ cursor.view.length) :
    cursor.moved count =
      { cursor with
        captureEnd := cursor.position + count
        position := cursor.position + count } := by
  rw [Cursor.moved, ready.noGhost, View.addOffset_of_le room]

theorem Ready.moved_zero (ready : cursor.Ready) : cursor.moved 0 = cursor := by
  have samePlace := ready.noGhost
  rw [ready.moved_eq ready.position_le, Nat.add_zero]
  cases cursor
  simp_all only

theorem position_moved (room : cursor.position + count ≤ cursor.view.length) :
    (cursor.moved count).position = cursor.position + count :=
  View.addOffset_of_le room

theorem moved_fresh (room : offset + count ≤ view.length) :
    (fresh view offset).moved count = ⟨view, offset, offset + count, offset + count, true⟩ := by
  simp only [Cursor.moved, fresh, View.addOffset_of_le room]

theorem Ready.advance (ready : cursor.Ready)
    (room : cursor.position + count ≤ cursor.view.length) :
    cursor.advance count = .ok (cursor.moved count) :=
  advance_of_matchable ready.requireMatchable room

theorem advanceCodePoint_of_matchable (matchable : cursor.requireMatchable = .ok ()) {char : Char}
    (decoded : cursor.view.decodeAt cursor.position = some (char, count)) :
    cursor.advanceCodePoint = .ok (cursor.moved count) := by
  have lengthEq := View.codePointLengthAt_of_decodeAt decoded
  have positive := (View.bounds_of_decodeAt decoded).2
  rw [Cursor.advanceCodePoint]
  cases count with
  | zero => contradiction
  | succ before =>
      simp only [lengthEq]
      exact advance_of_matchable matchable (View.add_le_length_of_decodeAt decoded)

/-- The next `count` units lie in the text, and if they start at a boundary, they end at one. -/
structure MayCapture (cursor : Cursor) (count : Nat) : Prop where
  room : cursor.position + count ≤ cursor.view.length
  boundary : cursor.view.IsBoundary cursor.position →
    cursor.view.IsBoundary (cursor.position + count)

theorem Ready.moved (ready : cursor.Ready)
    (room : cursor.position + count ≤ cursor.view.length) : (cursor.moved count).Ready where
  isValid := ready.isValid
  start_le := by
    have startLe := ready.start_le
    rw [ready.noGhost] at startLe
    rw [ready.moved_eq room]
    exact Nat.le_add_right_of_le startLe
  noGhost := by rw [ready.moved_eq room]
  position_le := by
    rw [ready.moved_eq room]
    exact room

theorem Ready.reached_moved (ready : cursor.Ready) (may : cursor.MayCapture count) :
    Reached cursor (cursor.moved count) := by
  have startLe := ready.start_le
  have noGhost := ready.noGhost
  rw [ready.moved_eq may.room]
  exact {
    sameView := rfl
    sameStart := rfl
    isValid := ready.isValid
    start_le := by dsimp only; omega
    captureEnd_le := by dsimp only; omega
    captureEnd_le_position := Nat.le_refl _
    position_le := may.room
    boundaries := fun boundary => ⟨may.boundary boundary, may.boundary boundary⟩ }

theorem atOffset_of_le (inside : offset ≤ view.length) :
    atOffset view offset = .ok (fresh view offset) := by
  simp [atOffset, inside]

theorem Ready.freshAtPosition (ready : cursor.Ready) :
    cursor.freshAtPosition = .ok (fresh cursor.view cursor.position) :=
  atOffset_of_le ready.position_le

theorem Ready.advanceGhost (ready : cursor.Ready)
    (room : cursor.position + count ≤ cursor.view.length) :
    cursor.advanceGhost count = .ok { cursor with position := cursor.position + count } := by
  simp only [Cursor.advanceGhost, requireValid, ready.isValid, if_true, requireRoom_of_le room,
    movedGhost, View.addOffset_of_le room, bind, Except.bind, pure, Except.pure]

theorem Ready.position_le_of_reached (ready : cursor.Ready) {next : Cursor}
    (reached : Reached cursor next) :
    cursor.position ≤ next.captureEnd ∧ next.captureEnd ≤ next.position := by
  have forward := reached.captureEnd_le
  rw [ready.noGhost] at forward
  exact ⟨forward, reached.captureEnd_le_position⟩

/-- A ghost may reach as far as a match. -/
theorem Ready.reached_ghost (ready : cursor.Ready) {next : Cursor}
    (reached : Reached cursor next) : Reached cursor { cursor with position := next.position } where
  sameView := rfl
  sameStart := rfl
  isValid := ready.isValid
  start_le := ready.start_le
  captureEnd_le := Nat.le_refl _
  captureEnd_le_position := by
    have forward := ready.position_le_of_reached reached
    have noGhost := ready.noGhost
    dsimp only
    omega
  position_le := reached.position_le
  boundaries := fun boundary =>
    ⟨(ready.reached.boundaries boundary).1, (reached.boundaries boundary).2⟩

end Cursor

/-! ## Steps at a cursor that may be matched at -/

namespace Step

open Outcome

variable {step : Step} {cursor : Cursor} {onFailure : Failure → Prop}
variable {onMatch : Cursor × List Capture → Prop}

theorem meets_guarded_of_ready {alpha : Type} {attempt : Cursor → Outcome alpha}
    {onMatch : alpha → Prop} (ready : cursor.Ready)
    (meets : (attempt cursor).Meets onMatch onFailure) :
    (guarded attempt cursor).Meets onMatch onFailure :=
  Meets.of_ok ready.requireMatchable meets

theorem meets_codePoint (members : CodePointClass) (ready : cursor.Ready)
    (captures : ∀ count, cursor.MayCapture count → onMatch (cursor.moved count, [])) :
    (codePoint members cursor).Meets onMatch onFailure := by
  apply meets_guarded_of_ready ready
  cases decoded : cursor.view.decodeAt cursor.position with
  | none => simp [Cursor.currentCodePoint, View.codePointAt, decoded]
  | some found =>
      obtain ⟨char, count⟩ := found
      simp only [Cursor.currentCodePoint, View.codePointAt, decoded, Option.map_some]
      by_cases isMember : members.contains char = true
      · simp only [isMember, if_true]
        apply Meets.of_ok (Cursor.advanceCodePoint_of_matchable ready.requireMatchable decoded)
        exact captures count {
          room := View.add_le_length_of_decodeAt decoded
          boundary := fun _ => View.isBoundary_add_of_decodeAt decoded }
      · simp [isMember]

theorem meets_literals (set : LiteralSet) (ready : cursor.Ready)
    (captures : ∀ count, cursor.MayCapture count → onMatch (cursor.moved count, [])) :
    (literals set cursor).Meets onMatch onFailure := by
  apply meets_guarded_of_ready ready
  cases found : set.longestAt? cursor.view cursor.position with
  | none => simp
  | some length =>
      obtain ⟨room, boundary⟩ := LiteralSet.bounds_of_longestAt? found ready.position_le
      apply Meets.of_ok (ready.advance room)
      exact captures length ⟨room, boundary⟩

theorem meets_ahead (ready : cursor.Ready)
    (inner : (step (Cursor.fresh cursor.view cursor.position)).Meets (fun _ => True) onFailure)
    (stay : onMatch (cursor, [])) : (ahead step cursor).Meets onMatch onFailure := by
  apply meets_guarded_of_ready ready
  apply Meets.of_ok ready.freshAtPosition
  exact Meets.bind inner fun _ _ => stay

theorem meets_ghost (ready : cursor.Ready)
    (inner : (step cursor).Meets (fun result => cursor.Reached result.1) onFailure)
    (ghosts : ∀ next, cursor.Reached next →
      onMatch ({ cursor with position := next.position }, [])) :
    (ghost step cursor).Meets onMatch onFailure := by
  apply meets_guarded_of_ready ready
  apply Meets.bind inner
  rintro ⟨next, captures⟩ reached
  have forward := ready.position_le_of_reached reached
  have target : cursor.position + (next.position - cursor.position) = next.position := by
    dsimp only at forward
    omega
  have room : cursor.position + (next.position - cursor.position) ≤ cursor.view.length := by
    rw [target]
    exact reached.position_le
  apply Meets.of_ok (ready.advanceGhost room)
  rw [target]
  exact ghosts next reached

theorem meets_recorded (name : String) (holds : Cursor → Prop) (ready : cursor.Ready)
    (inner : (step cursor).Meets
      (fun result => cursor.Reached result.1 ∧ holds result.1) onFailure) :
    (recorded name step cursor).Meets (fun result => holds result.1) onFailure := by
  apply Meets.map
  apply meets_guarded_of_ready ready
  apply Meets.bind inner
  rintro ⟨next, children⟩ ⟨reached, nextHolds⟩
  have forward := ready.position_le_of_reached reached
  have inside := reached.position_le
  rw [← reached.sameView] at inside
  obtain ⟨whole, wholeEq⟩ := View.exists_slice (Nat.le_trans forward.1 forward.2) inside
  obtain ⟨content, contentEq⟩ := View.exists_slice forward.1 (Nat.le_trans forward.2 inside)
  apply Meets.of_ok wholeEq
  apply Meets.of_ok contentEq
  exact nextHolds

/-! ## Refusal -/

theorem guarded_of_refused {alpha : Type} {attempt : Cursor → Outcome alpha} {failure : Failure}
    (refused : cursor.requireMatchable = .error failure) :
    guarded attempt cursor = .failed failure := by
  rw [guarded, refused]
  rfl

theorem guarded_of_matchable {alpha : Type} (attempt : Cursor → Outcome alpha)
    (matchable : cursor.requireMatchable = .ok ()) : guarded attempt cursor = attempt cursor := by
  rw [guarded, matchable]
  rfl

/-- An attempt that refuses such a cursor itself need not be guarded. -/
theorem guarded_of_refusing {alpha : Type} {attempt : Cursor → Outcome alpha}
    (refuses : ∀ failure, cursor.requireMatchable = .error failure →
      attempt cursor = .failed failure) :
    guarded attempt cursor = attempt cursor := by
  cases matchable : cursor.requireMatchable with
  | error failure => rw [guarded_of_refused matchable, refuses failure matchable]
  | ok => exact guarded_of_matchable attempt matchable

/-- No step gets past a cursor that may not be matched at. -/
theorem Built.eq_failed (built : step.Built) {failure : Failure}
    (refused : cursor.requireMatchable = .error failure) : step cursor = .failed failure := by
  induction built with
  | silent _ inner =>
      rw [Step.silent, inner]
      rfl
  | recorded name _ _ =>
      rw [Step.recorded, group, guarded_of_refused refused]
      rfl
  | repetition _ _ =>
      rw [Repetition.step, Repetition.run, guarded_of_refused refused]
      rfl
  | codePoint | require | literals | sequence | firstOf | optional | negation | ahead | ghost =>
      exact guarded_of_refused refused

/-- A step does not fail only where matching may go on. -/
theorem Built.ready_of_ne_failed (built : step.Built) (ordered : cursor.Ordered)
    (unfailing : ∀ failure, step cursor ≠ .failed failure) : cursor.Ready := by
  cases matchable : cursor.requireMatchable with
  | ok => exact ordered.ready_of_requireMatchable matchable
  | error failure => exact absurd (built.eq_failed matchable) (unfailing failure)

/-- A step matches only where matching may go on. -/
theorem Built.ready_of_matched (built : step.Built) {result : Cursor × List Capture}
    (ordered : cursor.Ordered) (matched : step cursor = .matched result) : cursor.Ready :=
  built.ready_of_ne_failed ordered (by simp [matched])

/-! ## Order -/

/-- Wherever an attempt has led, the step leads on in order, and fails only behind a ghost. -/
def Orderly (step : Step) : Prop :=
  ∀ origin : Cursor,
    step.Leads origin.Reached origin.Reached (Cursor.GhostFailure origin.view)

/-- A step need only be looked at where matching may go on. -/
theorem Built.orderly_of_ready (built : step.Built)
    (meets : ∀ cursor : Cursor, cursor.Ready →
      (step cursor).Meets (fun result => cursor.Reached result.1)
        (Cursor.GhostFailure cursor.view)) :
    step.Orderly := by
  intro origin cursor reached
  cases matchable : cursor.requireMatchable with
  | error failure =>
      rw [built.eq_failed matchable]
      exact reached.ghostFailure matchable
  | ok =>
      rw [← reached.sameView]
      apply (meets cursor (reached.ready_of_requireMatchable matchable)).imp
      exact fun _ nextReached => reached.trans nextReached

theorem Built.orderly (built : step.Built) : step.Orderly := by
  induction built with
  | codePoint members =>
      apply (Built.codePoint members).orderly_of_ready
      intro cursor ready
      exact meets_codePoint members ready fun _ may => ready.reached_moved may
  | require test =>
      intro origin
      exact leads_require test (Cursor.refusalsMeet_reached origin) fun _ => id
  | literals set =>
      apply (Built.literals set).orderly_of_ready
      intro cursor ready
      exact meets_literals set ready fun _ may => ready.reached_moved may
  | silent _ inner => exact fun origin => (inner origin).silent
  | sequence _ parts =>
      intro origin
      apply leads_sequence (Cursor.refusalsMeet_reached origin)
      · exact fun step member => parts step (List.dropLast_subset _ member) origin
      · exact fun step member => parts step member origin
      · exact fun _ => id
  | firstOf _ choices =>
      intro origin
      apply leads_firstOf (Cursor.refusalsMeet_reached origin)
      exact fun step member => choices step member origin
  | optional _ inner =>
      intro origin
      exact leads_optional (Cursor.refusalsMeet_reached origin) (inner origin) fun _ => id
  | negation _ inner =>
      intro origin
      exact leads_negation (Cursor.refusalsMeet_reached origin) (inner origin) fun _ => id
  | ahead built inner =>
      apply built.ahead.orderly_of_ready
      intro cursor ready
      have freshReady : (Cursor.fresh cursor.view cursor.position).Ready :=
        Cursor.ready_fresh ready.position_le
      have meets := inner _ _ freshReady.reached
      exact meets_ahead ready (meets.imp fun _ _ => trivial) ready.reached
  | ghost built inner =>
      apply built.ghost.orderly_of_ready
      intro cursor ready
      exact meets_ghost ready (inner _ _ ready.reached) fun _ reached =>
        ready.reached_ghost reached
  | recorded name built inner =>
      apply (built.recorded name).orderly_of_ready
      intro cursor ready
      apply meets_recorded name cursor.Reached ready
      exact (inner _ _ ready.reached).imp fun _ reached => ⟨reached, reached⟩
  | repetition _ parts =>
      rename_i repetition _
      intro origin
      apply Repetition.leads_step (Cursor.refusalsMeet_reached origin)
      · exact parts _ (Repetition.inner_mem_parts repetition) origin
      · exact fun step member => parts step (Repetition.mem_parts_of_first member) origin
      · exact fun step member => parts step (Repetition.mem_parts_of_last member) origin
      · exact fun _ => id

theorem Built.reached_of_matched (built : step.Built) {result : Cursor × List Capture}
    (ready : cursor.Ready) (matched : step cursor = .matched result) : cursor.Reached result.1 :=
  (built.orderly cursor cursor ready.reached).of_matched matched

end Step

/-! ## Matchers and patterns -/

theorem Step.Built.meets_run {step : Step} (built : step.Built) {cursor : Cursor}
    (ready : cursor.Ready) :
    ((step cursor).map Prod.fst).Meets cursor.Reached (Cursor.GhostFailure cursor.view) :=
  Outcome.Meets.map (built.orderly cursor cursor ready.reached)

theorem Matcher.meets_run (matcher : Matcher) {cursor : Cursor} (ready : cursor.Ready) :
    (matcher.run cursor).Meets cursor.Reached (Cursor.GhostFailure cursor.view) :=
  matcher.built_step.meets_run ready

theorem Group.meets_capture (group : Group) {origin cursor : Cursor}
    (reached : origin.Reached cursor) :
    (group.capture cursor).Meets (fun result => origin.Reached result.1)
      (Cursor.GhostFailure origin.view) := by
  have meets := (Pattern.built_step (.group group)).orderly origin cursor reached
  rw [Pattern.step, Outcome.meets_map_iff] at meets
  exact meets

/-- Matches a pattern at a cursor, whatever it captures. -/
def Pattern.run (pattern : Pattern) (cursor : Cursor) : Outcome Cursor :=
  (pattern.step cursor).map Prod.fst

/-- An attempt goes forward in the text and refuses cursors that may not be matched at. -/
structure KeepsOrder (attempt : Cursor → Outcome Cursor) : Prop where
  ordered : ∀ {cursor next}, cursor.Ready → attempt cursor = .matched next →
    next.view = cursor.view ∧ next.start = cursor.start ∧ next.isValid = true ∧
      cursor.captureEnd ≤ next.captureEnd ∧ next.captureEnd ≤ next.position ∧
      next.position ≤ cursor.view.length
  refusesGhost : ∀ {cursor}, cursor.isValid = true → cursor.captureEnd < cursor.position →
    attempt cursor = .failed (.matchAfterGhost cursor.captureEnd cursor.position)
  refusesInvalid : ∀ {cursor}, cursor.isValid = false → attempt cursor = .failed .invalidated

theorem Step.Built.keepsOrder {step : Step} (built : step.Built) :
    KeepsOrder fun cursor => (step cursor).map Prod.fst where
  ordered := by
    intro cursor next ready matched
    have reached := (built.meets_run ready).of_matched matched
    exact ⟨reached.sameView, reached.sameStart, reached.isValid, reached.captureEnd_le,
      reached.captureEnd_le_position, reached.position_le⟩
  refusesGhost := by
    intro cursor valid ghost
    simp only [built.eq_failed (Cursor.requireMatchable_of_ghost valid ghost)]
    rfl
  refusesInvalid := by
    intro cursor invalid
    simp only [built.eq_failed (Cursor.requireMatchable_of_invalid invalid)]
    rfl

/-- Every matcher and every pattern goes forward in the text, and refuses cursors that were given
up or have a ghost, whatever the text. -/
theorem matching_keeps_order :
    (∀ matcher : Matcher, KeepsOrder matcher.run) ∧
      ∀ pattern : Pattern, KeepsOrder pattern.run :=
  ⟨fun matcher => matcher.built_step.keepsOrder, fun pattern => pattern.built_step.keepsOrder⟩

theorem matching_keeps_order_before_ghost :
    let cursor := Cursor.ofView (View.ofString "ab")
    let next : Cursor := ⟨View.ofString "ab", 0, 1, 2, true⟩
    let matcher : Matcher := .sequence [.codePoint .any, .ghost (.codePoint .any)]
    cursor.Ready ∧ matcher.run cursor = .matched next ∧
      (cursor.captureEnd ≤ next.captureEnd ∧ next.captureEnd ≤ next.position) ∧
      matcher.run next = .failed (.matchAfterGhost 1 2) ∧
      matcher.run next.invalidate = .failed .invalidated := by
  intro cursor next matcher
  have keeps := matching_keeps_order.1 matcher
  have ready : cursor.Ready := Cursor.ready_fresh (Nat.zero_le _)
  have matched : matcher.run cursor = .matched next := by decide
  obtain ⟨-, -, -, forward, inOrder, -⟩ := keeps.ordered ready matched
  refine ⟨ready, matched, ⟨forward, inOrder⟩, ?_, ?_⟩
  · exact keeps.refusesGhost rfl (by decide)
  · exact keeps.refusesInvalid rfl

end TextMatch
