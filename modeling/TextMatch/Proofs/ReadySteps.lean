import TextMatch.Proofs.CursorOrder

/-!
# Steps where matching may go on

At a ready cursor nothing is refused and no slice fails, so that a step built from another one is a
plain function of what that one comes to.
-/

namespace TextMatch

/-- The capture spans the units `first..wholeEnd` of a view, and its content ends at
`contentEnd`. -/
structure Capture.Spans (capture : Capture) (view : View) (first contentEnd wholeEnd : Nat) :
    Prop where
  whole : view.slice first wholeEnd = .ok capture.whole
  content : view.slice first contentEnd = .ok capture.content

/-- Fewer units remain where a match has advanced, and only there. -/
theorem Cursor.Reached.remaining_lt_iff {origin cursor : Cursor} (reached : origin.Reached cursor) :
    cursor.remaining < origin.remaining ↔ origin.position < cursor.position := by
  have inside := reached.position_le
  rw [Cursor.remaining, Cursor.remaining, reached.sameView]
  omega

/-- A match that does not advance does not move at all: where nothing was read there is no room for
a ghost either. -/
theorem Cursor.Reached.eq_of_remaining {origin cursor : Cursor} (reached : origin.Reached cursor)
    (ready : origin.Ready) (idles : ¬ cursor.remaining < origin.remaining) : cursor = origin := by
  have forward := ready.position_le_of_reached reached
  rw [reached.remaining_lt_iff] at idles
  have samePosition : cursor.position = origin.position := by omega
  have sameEnd : cursor.captureEnd = origin.captureEnd := by
    rw [ready.noGhost]
    omega
  have sameValidity : cursor.isValid = origin.isValid := by
    rw [reached.isValid, ready.isValid]
  have sameView := reached.sameView
  have sameStart := reached.sameStart
  cases cursor
  cases origin
  simp only [Cursor.mk.injEq]
  exact ⟨sameView, sameStart, sameEnd, samePosition, sameValidity⟩

namespace Step

variable {step : Step} {cursor : Cursor}

theorem guarded_of_ready {alpha : Type} (attempt : Cursor → Outcome alpha)
    (ready : cursor.Ready) : guarded attempt cursor = attempt cursor :=
  guarded_of_matchable attempt ready.requireMatchable

theorem codePoint_of_matchable (members : CodePointClass)
    (matchable : cursor.requireMatchable = .ok ()) :
    codePoint members cursor =
      match cursor.view.decodeAt cursor.position with
      | none => .noMatch
      | some (char, count) =>
          if members.contains char then .matched (cursor.moved count, []) else .noMatch := by
  rw [codePoint, guarded_of_matchable _ matchable]
  cases decoded : cursor.view.decodeAt cursor.position with
  | none => simp only [Cursor.currentCodePoint, View.codePointAt, decoded, Option.map_none]
  | some found =>
      obtain ⟨char, count⟩ := found
      simp only [Cursor.currentCodePoint, View.codePointAt, decoded, Option.map_some,
        Cursor.advanceCodePoint_of_matchable matchable decoded]
      rfl

theorem codePoint_of_ready (members : CodePointClass) (ready : cursor.Ready) :
    codePoint members cursor =
      match cursor.view.decodeAt cursor.position with
      | none => .noMatch
      | some (char, count) =>
          if members.contains char then .matched (cursor.moved count, []) else .noMatch :=
  codePoint_of_matchable members ready.requireMatchable

theorem codePoint_of_member {members : CodePointClass} {char : Char} {count : Nat}
    (ready : cursor.Ready) (decoded : cursor.view.decodeAt cursor.position = some (char, count))
    (isMember : members.contains char = true) :
    codePoint members cursor = .matched (cursor.moved count, []) := by
  rw [codePoint_of_ready members ready, decoded]
  exact if_pos isMember

theorem codePoint_of_noMember {members : CodePointClass} (ready : cursor.Ready)
    (ends : ∀ char count, cursor.view.decodeAt cursor.position = some (char, count) →
      members.contains char = false) : codePoint members cursor = .noMatch := by
  rw [codePoint_of_ready members ready]
  cases decoded : cursor.view.decodeAt cursor.position with
  | none => rfl
  | some found => exact if_neg (Bool.eq_false_iff.mp (ends found.1 found.2 decoded))

theorem literals_of_ready (set : LiteralSet) (ready : cursor.Ready) :
    literals set cursor =
      match set.longestAt? cursor.view cursor.position with
      | none => .noMatch
      | some length => .matched (cursor.moved length, []) := by
  rw [literals, guarded_of_ready _ ready]
  cases found : set.longestAt? cursor.view cursor.position with
  | none => rfl
  | some length =>
      have room := (LiteralSet.bounds_of_longestAt? found ready.position_le).1
      simp only [ready.advance room]
      rfl

theorem ahead_of_ready (step : Step) (ready : cursor.Ready) :
    ahead step cursor =
      (step (Cursor.fresh cursor.view cursor.position)).map fun _ => (cursor, []) := by
  rw [ahead, guarded_of_ready _ ready]
  simp only [ready.freshAtPosition]
  exact bind_pure_comp (fun _ => (cursor, [])) (step (Cursor.fresh cursor.view cursor.position))

theorem Built.ghost_of_ready (built : step.Built) (ready : cursor.Ready) :
    step.ghost cursor =
      (step cursor).map fun result => ({ cursor with position := result.1.position }, []) := by
  have meets := built.orderly cursor cursor ready.reached
  rw [Step.ghost, guarded_of_ready _ ready]
  cases outcome : step cursor with
  | noMatch => rfl
  | failed failure => rfl
  | matched result =>
      have reached : cursor.Reached result.1 := meets.of_matched outcome
      have forward := ready.position_le_of_reached reached
      have target : cursor.position + (result.1.position - cursor.position) =
          result.1.position := by omega
      have room : cursor.position + (result.1.position - cursor.position) ≤
          cursor.view.length := by
        rw [target]
        exact reached.position_le
      have advanced := ready.advanceGhost room
      rw [target] at advanced
      simp only [bind, Outcome.bind, Outcome.map, Outcome.ofExcept, pure, advanced]

/-- A group records one capture, from where it begins to where its part ends. -/
theorem Built.recorded_of_ready (built : step.Built) (name : String) (ready : cursor.Ready) :
    ∃ node : Cursor × List Capture → Capture,
      Step.recorded name step cursor =
        (step cursor).map (fun result => (result.1, [node result])) ∧
        ∀ result, step cursor = .matched result →
          (node result).name = name ∧ (node result).children = result.2 ∧
            (node result).Spans cursor.view cursor.position result.1.captureEnd
              result.1.position := by
  have meets := built.orderly cursor cursor ready.reached
  unfold Step.recorded group
  rw [guarded_of_ready _ ready]
  cases outcome : step cursor with
  | noMatch => exact ⟨fun _ => ⟨name, cursor.view, cursor.view, []⟩, rfl, by simp⟩
  | failed failure => exact ⟨fun _ => ⟨name, cursor.view, cursor.view, []⟩, rfl, by simp⟩
  | matched result =>
      have reached : cursor.Reached result.1 := meets.of_matched outcome
      have forward := ready.position_le_of_reached reached
      obtain ⟨whole, wholeEq⟩ := View.exists_slice (Nat.le_trans forward.1 forward.2)
        reached.position_le
      obtain ⟨content, contentEq⟩ := View.exists_slice forward.1
        (Nat.le_trans forward.2 reached.position_le)
      refine ⟨fun found => ⟨name, whole, content, found.2⟩, ?_, ?_⟩
      · simp only [bind, Outcome.bind, Outcome.map, Outcome.ofExcept, pure, reached.sameView,
          wholeEq, contentEq]
      · rintro found same
        obtain rfl := Outcome.matched.inj same
        exact ⟨rfl, rfl, wholeEq, contentEq⟩

end Step

end TextMatch
