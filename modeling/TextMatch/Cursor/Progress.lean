import TextMatch.Cursor

/-!
# Progress of cursors

A cursor whose start moves on keeps its view and comes closer to the end of it.
-/

namespace TextMatch.Cursor

theorem lt_length_of_codePointLengthAt {view : View} {index count : Nat}
    (positive : view.codePointLengthAt index = count + 1) :
    index < view.length := by
  unfold View.codePointLengthAt at positive
  cases decoded : view.decodeAt index with
  | none =>
      simp [decoded] at positive
  | some found =>
      obtain ⟨char, count⟩ := found
      exact (View.bounds_of_decodeAt decoded).1

/-- Moving the start keeps the view, and the start moves on from inside it. -/
theorem progress_of_advanceStart {cursor next : Cursor}
    (moved : cursor.advanceStart = .ok next) :
    next.view = cursor.view ∧ cursor.start < next.start ∧
      cursor.start < cursor.view.length := by
  rw [advanceStart] at moved
  cases fresh : cursor.requireFresh with
  | error failure =>
      simp [fresh, bind, Except.bind] at moved
  | ok =>
      cases noGhost : cursor.requireNoGhost with
      | error failure =>
          simp [fresh, noGhost, bind, Except.bind] at moved
      | ok =>
          simp only [fresh, noGhost, bind, Except.bind] at moved
          split at moved
          · contradiction
          · rename_i count positive
            have inside := lt_length_of_codePointLengthAt positive
            simp only [pure, Except.pure, Except.ok.injEq] at moved
            subst next
            exact ⟨rfl, by simp, inside⟩

end TextMatch.Cursor
