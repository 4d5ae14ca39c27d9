import TextMatch.Proofs.Assertions
import TextMatch.Proofs.ClassExpressions
import TextMatch.Proofs.SpelledLiterals

/-!
# Looks behind

A look behind reads backwards, with rules of its own for pairs and for the units of words.  What it
finds is what matching forward captures from some place before the cursor up to the cursor; only at
the start of the text, where nothing stands before, it does not even find the empty word.
-/

namespace TextMatch

/-! ## Matching up to a place -/

/-- Matching on a fresh cursor at `first` captures the units `first..stop` and nothing behind
them. -/
def Matcher.Captures (matcher : Matcher) (view : View) (first stop : Nat) : Prop :=
  ∃ next, matcher.run (Cursor.fresh view first) = .matched next ∧
    next.captureEnd = stop ∧ next.position = stop

namespace Matcher

variable {view : View} {first stop : Nat}

theorem captures_codePoint_iff (members : CodePointClass) (inside : first ≤ view.length) :
    (Matcher.codePoint members).Captures view first stop ↔
      ∃ char count, view.decodeAt first = some (char, count) ∧ first + count = stop ∧
        members.contains char = true := by
  constructor
  · intro captures
    rcases captures with ⟨next, matched, -, positionEq⟩
    rcases (run_codePoint_eq_matched_iff members).mp matched with
      ⟨-, char, count, decoded, isMember, movedEq⟩
    rw [movedEq, Cursor.position_moved (View.add_le_length_of_decodeAt decoded)] at positionEq
    exact ⟨char, count, decoded, positionEq, isMember⟩
  · intro reads
    rcases reads with ⟨char, count, decoded, stopEq, isMember⟩
    have matchable := (Cursor.ready_fresh inside).requireMatchable
    have target := Cursor.moved_fresh (View.add_le_length_of_decodeAt decoded)
    refine ⟨⟨view, first, first + count, first + count, true⟩, ?_, stopEq, stopEq⟩
    exact (run_codePoint_eq_matched_iff members).mpr
      ⟨matchable, char, count, decoded, isMember, target.symm⟩

theorem captures_literal_iff (text : String) (inside : first ≤ view.length) :
    (Matcher.literals (LiteralSet.ofStrings [text] false)).Captures view first stop ↔
      view.readsAt first text = true ∧ first + (CodeUnit.ofString text).length = stop := by
  have longest := LiteralSet.longestAt?_eq_find? (LiteralSet.longestFirst_singleton text) inside
  cases occurs : view.readsAt first text with
  | true =>
      rw [List.find?_cons_of_pos occurs, Option.map_some] at longest
      rw [Captures, Finder.run_literals_of_some inside longest,
        Cursor.moved_fresh (LiteralSet.bounds_of_longestAt? longest inside).1]
      simp only [Outcome.matched.injEq, exists_eq_left', true_and]
      exact and_self_iff
  | false =>
      rw [List.find?_cons_of_neg (Bool.eq_false_iff.mp occurs), List.find?_nil,
        Option.map_none] at longest
      rw [Captures, Finder.run_literals_of_none inside longest]
      simp

end Matcher

/-! ## Looking behind -/

namespace Step

variable {step step' : Step} {cursor : Cursor} {holds : Prop}

theorem Asserts.eq_of_asserts (asserts : step.Asserts cursor holds)
    (asserts' : step'.Asserts cursor holds) : step cursor = step' cursor := by
  by_cases isTrue : holds
  · rw [asserts.stays isTrue, asserts'.stays isTrue]
  · rw [asserts.noMatch isTrue, asserts'.noMatch isTrue]

/-- At a boundary, the code point before the cursor is captured from where it starts. -/
theorem asserts_behind_of_isBoundary (members : CodePointClass) (ready : cursor.Ready)
    (boundary : cursor.view.IsBoundary cursor.position) :
    (behind members).Asserts cursor
      (∃ start < cursor.position, cursor.view.IsBoundary start ∧
        (Matcher.codePoint members).Captures cursor.view start cursor.position) := by
  apply (asserts_behind members ready).congr
  rw [Cursor.hasBefore_iff_of_isBoundary ready boundary]
  constructor
  · intro before
    rcases before with ⟨start, char, count, startBoundary, decoded, endEq, isMember⟩
    have bounds := View.bounds_of_decodeAt decoded
    refine ⟨start, by omega, startBoundary, ?_⟩
    exact (Matcher.captures_codePoint_iff members (Nat.le_of_lt bounds.1)).mpr
      ⟨char, count, decoded, endEq, isMember⟩
  · intro before
    rcases before with ⟨start, isBefore, startBoundary, captures⟩
    have inside : start ≤ cursor.view.length :=
      Nat.le_trans (Nat.le_of_lt isBefore) ready.position_le
    rcases (Matcher.captures_codePoint_iff members inside).mp captures with
      ⟨char, count, decoded, endEq, isMember⟩
    exact ⟨start, char, count, startBoundary, decoded, endEq, isMember⟩

/-- A word ends at the cursor if matching captures it from as many units before as it has. -/
theorem asserts_behindWord (strings : List String) (ready : cursor.Ready) :
    (behindWord (strings.map String.toList)).Asserts cursor
      (0 < cursor.position ∧ ∃ text ∈ strings,
        (CodeUnit.ofString text).length ≤ cursor.position ∧
          (Matcher.literals (LiteralSet.ofStrings [text] false)).Captures cursor.view
            (cursor.position - (CodeUnit.ofString text).length) cursor.position) := by
  have ends : ∀ text : String,
      cursor.view.endsWithAt cursor.position (CodeUnit.ofChars text.toList) = true ↔
        (CodeUnit.ofString text).length ≤ cursor.position ∧
          (Matcher.literals (LiteralSet.ofStrings [text] false)).Captures cursor.view
            (cursor.position - (CodeUnit.ofString text).length) cursor.position := by
    intro text
    have inside := ready.position_le
    rw [View.endsWithAt, Bool.and_eq_true, Bool.and_eq_true, decide_eq_true_eq, decide_eq_true_eq,
      and_iff_right inside]
    apply and_congr_right
    intro fits
    have startInside : cursor.position - (CodeUnit.ofString text).length ≤ cursor.view.length :=
      Nat.le_trans (Nat.sub_le _ _) inside
    have arrives : cursor.position - (CodeUnit.ofString text).length +
        (CodeUnit.ofString text).length = cursor.position :=
      Nat.sub_add_cancel fits
    rw [Matcher.captures_literal_iff text startInside, and_iff_left arrives]
    exact Iff.rfl
  apply (asserts_require _ ready).congr
  simp only [Bool.and_eq_true, Bool.not_eq_true', Cursor.isAtStart, beq_eq_false_iff_ne,
    Nat.pos_iff_ne_zero, List.any_map, List.any_eq_true, Function.comp_apply, ends]

end Step

/-- A look behind for a class finds, at a boundary, what the class captures up to the cursor.  One for
words finds what one of them captures up to it, in whatever order they are given and however often,
unless the cursor stands at the start of the text. -/
theorem looks_behind_mirror_matches {cursor : Cursor} (ready : cursor.Ready) :
    (cursor.view.IsBoundary cursor.position → ∀ members : CodePointClass,
      (Matcher.behind members).step.Asserts cursor
        (∃ start < cursor.position, cursor.view.IsBoundary start ∧
          (Matcher.codePoint members).Captures cursor.view start cursor.position)) ∧
      (∀ strings : List String,
        (Matcher.behindWord (strings.map String.toList)).step.Asserts cursor
          (0 < cursor.position ∧ ∃ text ∈ strings,
            (CodeUnit.ofString text).length ≤ cursor.position ∧
              (Matcher.literals (LiteralSet.ofStrings [text] false)).Captures cursor.view
                (cursor.position - (CodeUnit.ofString text).length) cursor.position)) ∧
      ∀ strings strings' : List String, (∀ text, text ∈ strings ↔ text ∈ strings') →
        (Matcher.behindWord (strings.map String.toList)).step cursor =
          (Matcher.behindWord (strings'.map String.toList)).step cursor := by
  refine ⟨?_, ?_, ?_⟩
  · intro boundary members
    exact Step.asserts_behind_of_isBoundary members ready boundary
  · exact fun strings => Step.asserts_behindWord strings ready
  · intro strings strings' same
    have asserts := Step.asserts_behindWord strings ready
    have asserts' := Step.asserts_behindWord strings' ready
    simp only [← same] at asserts'
    exact asserts.eq_of_asserts asserts'

theorem looks_behind_mirror_matches_of_smile :
    let view := View.ofString "a😀b"
    let cursor := Cursor.fresh view 3
    let smile : CodePointClass := .literal '😀'
    let words := ["b", "", "a😀"]
    cursor.Ready ∧ view.IsBoundary 3 ∧
      (Matcher.codePoint smile).Captures view 1 3 ∧
      (Matcher.behind smile).step cursor = .matched (cursor, []) ∧
      (Matcher.behindWord (words.map String.toList)).step cursor = .matched (cursor, []) := by
  intro view cursor smile words
  have ready : cursor.Ready := Cursor.ready_fresh (by decide)
  have boundary : view.IsBoundary 3 := by decide
  rcases looks_behind_mirror_matches ready with ⟨classes, literals, -⟩
  have smileCaptured : (Matcher.codePoint smile).Captures view 1 3 :=
    ⟨⟨view, 1, 3, 3, true⟩, by decide +kernel, rfl, rfl⟩
  have wordCaptured :
      (Matcher.literals (LiteralSet.ofStrings ["a😀"] false)).Captures view 0 3 :=
    ⟨⟨view, 0, 3, 3, true⟩, by decide +kernel, rfl, rfl⟩
  refine ⟨ready, boundary, smileCaptured, ?_, ?_⟩
  · exact (classes boundary smile).stays ⟨1, by decide, by decide, smileCaptured⟩
  · exact (literals words).stays ⟨by decide, "a😀", by decide, by decide, wordCaptured⟩

end TextMatch
