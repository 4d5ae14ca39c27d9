import Mathlib.Data.List.Forall2
import TextMatch.Proofs.Likeness
import TextMatch.Proofs.RepetitionRule
import TextMatch.Proofs.SyntaxInduction

/-!
# Repetitions that run alike

Two repetitions with the same bounds, whose steps run alike, find iterations that are alike, give up
as many of them, and so come to results that are alike, with as many iterations.
-/

namespace TextMatch.Likeness

open Outcome (Pairs)
open Repetition (close cursorBehind retreat)

variable {likeness : Likeness} {alpha : Type} {repetition : Repetition alpha}
variable {of of' : alpha → Step}

/-! ## The greedy phase -/

theorem stepAfter (every : ∀ part ∈ repetition.parts, likeness.Steps (of part) (of' part))
    (count : Nat) :
    likeness.Steps ((repetition.map of).stepAfter count)
      ((repetition.map of').stepAfter count) := by
  have inner := every repetition.inner repetition.inner_mem_parts
  have first := fun part member => every part (Repetition.mem_parts_of_first member)
  unfold Repetition.stepAfter Repetition.map
  by_cases isFirst : count = 0
  · simp only [isFirst, if_true]
    cases edge : repetition.first with
    | absent => exact inner
    | optional part =>
        have partAlike := first part (by simp [edge, Edge.parts])
        exact fun left right alike => (partAlike left right alike).orElse (inner left right alike)
    | required part => exact first part (by simp [edge, Edge.parts])
  · simpa only [isFirst, if_false] using inner

theorem forall₂_replicate {left right : Iteration} (results : likeness.Results left right)
    (count : Nat) :
    List.Forall₂ likeness.Results (List.replicate count left) (List.replicate count right) := by
  induction count with
  | zero => exact .nil
  | succ count inductionHypothesis => exact .cons results inductionHypothesis

/-- The iterations found are alike, one by one. -/
theorem iterate (every : ∀ part ∈ repetition.parts, likeness.Steps (of part) (of' part))
    (count : Nat) (left right : Cursor) (alike : likeness.cursors left right) :
    Pairs (List.Forall₂ likeness.Results) likeness.excuses
      ((repetition.map of).iterate count left) ((repetition.map of').iterate count right) := by
  have stepAlike := stepAfter every count left right alike
  have sameFull : (repetition.map of').isFull count = (repetition.map of).isFull count := rfl
  rw [Repetition.iterate, Repetition.iterate, sameFull]
  by_cases full : (repetition.map of).isFull count = true
  · simp only [full, if_true]
    exact .matched .nil
  · simp only [full, Bool.false_eq_true, if_false]
    generalize (repetition.map of).stepAfter count left = outcome at stepAlike
    generalize (repetition.map of').stepAfter count right = outcome' at stepAlike
    cases stepAlike with
    | noMatch => exact .matched .nil
    | failed failure => exact .failed failure
    | excused _ excused => exact .excused _ excused
    | @matched next next' results =>
        dsimp only
        rw [← likeness.remaining alike, ← likeness.remaining results.1]
        by_cases advances : next.1.remaining < left.remaining
        · simp only [advances, if_true]
          apply (iterate every (count + 1) next.1 next'.1 results.1).map
          exact fun _ _ later => .cons results later
        · simp only [advances, if_false]
          exact .matched (.cons results (forall₂_replicate results _))
termination_by left.remaining

theorem cursorBehind_alike {entry entry' : Cursor} {iterations iterations' : List Iteration}
    (alike : likeness.cursors entry entry')
    (found : List.Forall₂ likeness.Results iterations iterations') :
    likeness.cursors (cursorBehind entry iterations) (cursorBehind entry' iterations') := by
  induction found generalizing entry entry' with
  | nil => exact alike
  | @cons iteration iteration' rest rest' results found inductionHypothesis =>
      rw [Repetition.cursorBehind_cons, Repetition.cursorBehind_cons]
      exact inductionHypothesis results.1

/-! ## The last iteration -/

/-- Results of repetitions are alike with the captures of every iteration, of which there are as
many. -/
def Rounds (likeness : Likeness) (left right : Cursor × List (List Capture)) : Prop :=
  likeness.cursors left.1 right.1 ∧ List.Forall₂ likeness.captures left.2 right.2

theorem captures_of_results {iterations iterations' : List Iteration}
    (found : List.Forall₂ likeness.Results iterations iterations') :
    List.Forall₂ likeness.captures (iterations.map Prod.snd) (iterations'.map Prod.snd) := by
  rw [List.forall₂_map_left_iff, List.forall₂_map_right_iff]
  exact found.imp fun _ _ results => results.2

theorem flatten_alike {rounds rounds' : List (List Capture)}
    (alike : List.Forall₂ likeness.captures rounds rounds') :
    likeness.captures rounds.flatten rounds'.flatten := by
  induction alike with
  | nil => exact likeness.nil
  | cons first _ inductionHypothesis => exact likeness.append first inductionHypothesis

section

variable {last last' : Step} {accepts accepts' : Cursor → Bool} {entry entry' : Cursor}
variable {trail trail' : List Iteration}

theorem isRequired_map (repetition : Repetition alpha) (of : alpha → Step) :
    (repetition.map of).first.isRequired = repetition.first.isRequired :=
  Edge.isRequired_map of repetition.first

theorem close_alike (lastAlike : likeness.Steps last last')
    (accept : ∀ left right, likeness.cursors left right → accepts left = accepts' right)
    {left right : Cursor} (alike : likeness.cursors left right)
    (found : List.Forall₂ likeness.Results trail trail') :
    Pairs likeness.Rounds likeness.excuses (close last accepts left trail)
      (close last' accepts' right trail') := by
  have outcomes := lastAlike left right alike
  unfold close
  generalize last left = outcome at outcomes
  generalize last' right = outcome' at outcomes
  cases outcomes with
  | noMatch => exact .noMatch
  | failed failure => exact .failed failure
  | excused _ excused => exact .excused _ excused
  | @matched next next' results =>
      dsimp only
      rw [accept next.1 next'.1 results.1]
      cases accepts' next'.1 with
      | false => exact .noMatch
      | true =>
          refine .matched ⟨results.1, ?_⟩
          exact List.forall₂_reverse_iff.mpr (.cons results.2 (captures_of_results found))

theorem retreat_alike (lastAlike : likeness.Steps last last')
    (accept : ∀ left right, likeness.cursors left right → accepts left = accepts' right)
    (alike : likeness.cursors entry entry')
    (found : List.Forall₂ likeness.Results trail trail') (spare : Nat) :
    Pairs likeness.Rounds likeness.excuses (retreat last accepts entry spare trail)
      (retreat last' accepts' entry' spare trail') := by
  induction found generalizing spare with
  | nil =>
      simp only [retreat]
      exact close_alike lastAlike accept alike .nil
  | cons results found inductionHypothesis =>
      have here := close_alike lastAlike accept results.1 (.cons results found)
      cases spare with
      | zero => exact here
      | succ spare => exact here.orElse (inductionHypothesis spare)

theorem finish_alike (lastAlike : likeness.Steps last last')
    (accept : ∀ left right, likeness.cursors left right → accepts left = accepts' right)
    (alike : likeness.cursors entry entry')
    (found : List.Forall₂ likeness.Results trail trail') :
    Pairs likeness.Rounds likeness.excuses
      ((repetition.map of).finish last accepts entry trail)
      ((repetition.map of').finish last' accepts' entry' trail') := by
  have sameFewest :
      (repetition.map of').fewestBeforeLast = (repetition.map of).fewestBeforeLast := by
    unfold Repetition.fewestBeforeLast
    rw [isRequired_map, isRequired_map]
    rfl
  have closing : ∀ {kept kept' : List Iteration}, List.Forall₂ likeness.Results kept kept' →
      Pairs likeness.Rounds likeness.excuses
        ((repetition.map of).closeBehind last accepts entry kept)
        ((repetition.map of').closeBehind last' accepts' entry' kept') := by
    intro kept kept' keptAlike
    unfold Repetition.closeBehind
    rw [← keptAlike.length_eq, sameFewest]
    split
    · exact .noMatch
    · exact retreat_alike lastAlike accept alike (List.forall₂_reverse_iff.mpr keptAlike) _
  unfold Repetition.finish
  have sameMost : (repetition.map of').most = (repetition.map of).most := rfl
  rw [sameMost]
  cases (repetition.map of).most with
  | none => exact closing found
  | some most =>
      cases most with
      | zero => exact .noMatch
      | succ most => exact closing (List.forall₂_take most found)

end

/-! ## The repetition -/

theorem settle (every : ∀ part ∈ repetition.parts, likeness.Steps (of part) (of' part))
    {entry entry' : Cursor} (alike : likeness.cursors entry entry')
    {iterations iterations' : List Iteration}
    (found : List.Forall₂ likeness.Results iterations iterations') :
    Pairs likeness.Rounds likeness.excuses ((repetition.map of).settle entry iterations)
      ((repetition.map of').settle entry' iterations') := by
  have last := fun part member => every part (Repetition.mem_parts_of_last member)
  have behind := cursorBehind_alike alike found
  have empty : Pairs likeness.Rounds likeness.excuses ((repetition.map of).emptyMatch entry)
      ((repetition.map of').emptyMatch entry') := by
    unfold Repetition.emptyMatch Repetition.map
    dsimp only
    split
    · exact .matched ⟨alike, .nil⟩
    · exact .noMatch
  have greedy : Pairs likeness.Rounds likeness.excuses
      ((repetition.map of).greedyMatch entry iterations)
      ((repetition.map of').greedyMatch entry' iterations') := by
    unfold Repetition.greedyMatch Repetition.map
    dsimp only
    rw [← found.length_eq]
    split
    · exact .noMatch
    · exact .matched ⟨behind, captures_of_results found⟩
  have sameEmpty : iterations'.isEmpty = iterations.isEmpty := by
    cases found <;> rfl
  unfold Repetition.settle
  rw [isRequired_map, isRequired_map, sameEmpty]
  split
  · exact empty
  · unfold Repetition.map at empty greedy ⊢
    dsimp only
    cases edge : repetition.last with
    | absent => exact greedy
    | optional part =>
        have partAlike := last part (by simp [edge, Edge.parts])
        have accept : ∀ left right, likeness.cursors left right →
            (repetition.map of).keepsGreedy entry iterations left =
              (repetition.map of').keepsGreedy entry' iterations' right := by
          intro left right cursorsAlike
          unfold Repetition.keepsGreedy Repetition.map
          rw [found.length_eq, likeness.position behind, likeness.position cursorsAlike]
        exact (finish_alike partAlike accept alike found).orElse greedy
    | required part =>
        have partAlike := last part (by simp [edge, Edge.parts])
        exact (finish_alike partAlike (fun _ _ _ => rfl) alike found).orElse empty

theorem run (every : ∀ part ∈ repetition.parts, likeness.Steps (of part) (of' part))
    {left right : Cursor} (alike : likeness.cursors left right) :
    Pairs likeness.Rounds likeness.excuses ((repetition.map of).run left)
      ((repetition.map of').run right) := by
  apply (likeness.guards alike).bind
  intro _ _ _
  apply (iterate every 0 left right alike).bind
  exact fun _ _ found => settle every alike found

theorem repetition_step (every : ∀ part ∈ repetition.parts, likeness.Steps (of part) (of' part)) :
    likeness.Steps (repetition.map of).step (repetition.map of').step := by
  intro left right alike
  apply (run every alike).map
  exact fun _ _ rounds => ⟨rounds.1, flatten_alike rounds.2⟩

end TextMatch.Likeness
