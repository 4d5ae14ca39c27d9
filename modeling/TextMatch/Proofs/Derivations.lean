import TextMatch.Proofs.GreedyPhase
import TextMatch.Proofs.RepetitionEnds

/-!
# Derivations of repetitions

A repetition that matches has matched part by part: every iteration is a match of a part that it may
use, where the iteration before it has ended.  There is one exception: a first part that matches the
empty text is counted again, in place of the repeated part, for as many iterations as must be.
-/

namespace TextMatch

/-! ## Parts that an iteration may use -/

namespace Repetition

section

variable {alpha : Type}

/-- Whether iteration `index` may use a part, if it does not use the last one. -/
def MayMake (repetition : Repetition alpha) (index : Nat) (part : alpha) : Prop :=
  index = 0 ∧ part ∈ repetition.first.parts ∨
    (index = 0 → repetition.first.isRequired = false) ∧ part = repetition.inner

/-- Whether iteration `index` of `count` may use a part. -/
def MayUse (repetition : Repetition alpha) (count index : Nat) (part : alpha) : Prop :=
  (index + 1 = count → repetition.last.isRequired = false) ∧ repetition.MayMake index part ∨
    index + 1 = count ∧ (count = 1 → repetition.first.isRequired = false) ∧
      part ∈ repetition.last.parts

end

/-- Whether iteration `index`, made at `here`, may stand for one more match of the first part, which
has matched the empty text at `entry`. -/
structure MayCopy (repetition : Repetition Matcher) (entry : Cursor) (index : Nat) (here : Cursor)
    (part : Matcher) : Prop where
  isFirst : part ∈ repetition.first.parts
  isEmpty : part.run entry = .matched entry
  here_eq : here = entry
  index_pos : 0 < index
  index_lt : index < repetition.least

end Repetition

/-- A way from iteration `index` at a cursor to the end of `count` iterations at `next`: each
iteration is a match of a part that is allowed there. -/
inductive Derivation (allows : Nat → Cursor → Matcher → Prop) (count : Nat) (next : Cursor) :
    Nat → Cursor → Prop
  | done : Derivation allows count next count next
  | step {index : Nat} {cursor middle : Cursor} {part : Matcher} :
      allows index cursor part → part.run cursor = .matched middle →
      Derivation allows count next (index + 1) middle →
      Derivation allows count next index cursor

namespace Derivation

variable {allows allows' : Nat → Cursor → Matcher → Prop} {count index number : Nat}
variable {cursor next : Cursor} {part : Matcher}

theorem imp (derivation : Derivation allows count next index cursor)
    (weaker : ∀ index here part, allows index here part → allows' index here part) :
    Derivation allows' count next index cursor := by
  induction derivation with
  | done => exact .done
  | step allowed matched _ inductionHypothesis =>
      exact .step (weaker _ _ _ allowed) matched inductionHypothesis

/-- A part that matches the empty text may be made any number of times before the rest. -/
theorem repeated (matched : part.run cursor = .matched cursor) (number index : Nat)
    (allowed : ∀ made, made < number → allows (index + made) cursor part)
    (rest : Derivation allows count next (index + number) cursor) :
    Derivation allows count next index cursor := by
  induction number generalizing index with
  | zero => exact rest
  | succ number inductionHypothesis =>
      refine .step (allowed 0 (Nat.zero_lt_succ number)) matched ?_
      apply inductionHypothesis
      · intro made fewer
        have further := allowed (made + 1) (Nat.succ_lt_succ fewer)
        rwa [← Nat.add_assoc, Nat.add_right_comm] at further
      · rwa [← Nat.add_assoc, Nat.add_right_comm] at rest

end Derivation

/-! ## Iterations found -/

namespace Repetition

variable {repetition : Repetition Matcher} {entry cursor next : Cursor} {count index number : Nat}
variable {iteration : Iteration} {iterations : List Iteration}

theorem exists_part_of_stepAfter
    (matched : (repetition.map Matcher.step).stepAfter index cursor = .matched iteration) :
    ∃ part, repetition.MayMake index part ∧ part.step cursor = .matched iteration := by
  rw [stepAfter] at matched
  by_cases isFirst : index = 0
  · rw [if_pos isFirst] at matched
    cases edge : repetition.first with
    | absent =>
        simp only [map, edge, Edge.map] at matched
        refine ⟨repetition.inner, .inr ⟨fun _ => by rw [edge]; rfl, rfl⟩, matched⟩
    | required part =>
        simp only [map, edge, Edge.map] at matched
        exact ⟨part, .inl ⟨isFirst, by simp [edge, Edge.parts]⟩, matched⟩
    | optional part =>
        simp only [map, edge, Edge.map] at matched
        cases outcome : part.step cursor with
        | matched result =>
            rw [outcome] at matched
            exact ⟨part, .inl ⟨isFirst, by simp [edge, Edge.parts]⟩, outcome.trans matched⟩
        | noMatch =>
            rw [outcome] at matched
            exact ⟨repetition.inner, .inr ⟨fun _ => by rw [edge]; rfl, rfl⟩, matched⟩
        | failed failure =>
            rw [outcome] at matched
            contradiction
  · rw [if_neg isFirst] at matched
    exact ⟨repetition.inner, .inr ⟨fun first => absurd first isFirst, rfl⟩, matched⟩

/-- An iteration that is found is a match of a part that it may use. -/
theorem made_of_stepAfter (ordered : cursor.Ordered)
    (matched : (repetition.map Matcher.step).stepAfter index cursor = .matched iteration) :
    ∃ part, repetition.MayMake index part ∧ part.run cursor = .matched iteration.1 ∧
      cursor.Ready ∧ cursor.Reached iteration.1 := by
  obtain ⟨part, mayMake, made⟩ := exists_part_of_stepAfter matched
  have ready := part.built_step.ready_of_matched ordered made
  refine ⟨part, mayMake, ?_, ready, part.built_step.reached_of_matched ready made⟩
  rw [Matcher.run, made, Outcome.map]

/-- The iterations found are derived one by one, as many of them as are kept. -/
theorem derivation_of_greedy {allows : Nat → Cursor → Matcher → Prop}
    (greedy : Greedy (repetition.map Matcher.step) index cursor iterations)
    (ordered : cursor.Ordered) (begins : index = 0 → cursor = entry)
    (fewer : number ≤ iterations.length)
    (allowed : ∀ made here part, made < index + number →
      repetition.MayMake made part ∨ repetition.MayCopy entry made here part →
      allows made here part)
    (rest : Derivation allows count next (index + number)
      (cursorBehind cursor (iterations.take number))) :
    Derivation allows count next index cursor := by
  induction greedy generalizing number with
  | full =>
      obtain rfl := Nat.le_zero.mp fewer
      exact rest
  | stuck =>
      obtain rfl := Nat.le_zero.mp fewer
      exact rest
  | @next index cursor iteration later matched _ inductionHypothesis =>
      cases number with
      | zero => exact rest
      | succ number =>
          obtain ⟨part, mayMake, ran, -, reached⟩ := made_of_stepAfter ordered matched
          have sameCount : index + (number + 1) = index + 1 + number := by omega
          rw [List.take_succ_cons, cursorBehind_cons, sameCount] at rest
          rw [sameCount] at allowed
          refine .step (allowed index cursor part (by omega) (.inl mayMake)) ran ?_
          have notFirst : index + 1 = 0 → iteration.1 = entry :=
            fun zero => absurd zero (Nat.succ_ne_zero index)
          exact inductionHypothesis reached.ordered notFirst (Nat.le_of_succ_le_succ fewer) allowed
            rest
  | @idle index cursor iteration matched idles =>
      cases number with
      | zero => exact rest
      | succ number =>
          obtain ⟨part, mayMake, ran, ready, reached⟩ := made_of_stepAfter ordered matched
          obtain ⟨again, captures⟩ := iteration
          obtain rfl : again = cursor := reached.eq_of_remaining ready idles
          have few : number ≤ repetition.least - (index + 1) := by
            rw [List.length_cons, List.length_replicate] at fewer
            exact Nat.le_trans (Nat.le_of_succ_le_succ fewer) (missing_le _ (index + 1))
          rw [← List.replicate_succ, List.take_replicate, Nat.min_eq_left (by simpa using fewer),
            cursorBehind_replicate] at rest
          refine Derivation.repeated ran (number + 1) index ?_ rest
          intro more inside
          apply allowed _ _ _ (Nat.add_lt_add_left inside index)
          rcases mayMake with ⟨rfl, isFirst⟩ | ⟨spare, isInner⟩
          · obtain rfl := begins rfl
            by_cases zero : more = 0
            · left
              exact .inl ⟨by omega, isFirst⟩
            · right
              exact {
                isFirst
                isEmpty := ran
                here_eq := rfl
                index_pos := by omega
                index_lt := by omega }
          · left
            exact .inr ⟨fun zero => spare (by omega), isInner⟩

end Repetition

/-! ## Repetitions that match -/

/-- Every iteration is a match of a part that it may use, or is counted for a first part that has
matched the empty text. -/
theorem Matcher.derivation_of_count {repetition : Repetition Matcher} {cursor next : Cursor}
    {count : Nat} (ordered : cursor.Ordered)
    (matched : Matcher.count repetition cursor = .matched (next, count)) :
    Derivation (fun index here part => repetition.MayUse count index part ∨
        (index + 1 = count → repetition.last.isRequired = false) ∧
          repetition.MayCopy cursor index here part)
      count next 0 cursor := by
  rw [Matcher.count_eq_map] at matched
  obtain ⟨result, ran, same⟩ := Outcome.exists_of_map_eq_matched matched
  obtain rfl : result.1 = next := congrArg Prod.fst same
  obtain rfl : result.2.length = count := congrArg Prod.snd same
  obtain ⟨iterations, found, settled⟩ := Repetition.exists_iterations_of_run ran
  have greedy := Repetition.greedy_of_iterate found
  have ends := (repetition.map Matcher.step).ends_settle cursor iterations
  generalize (repetition.map Matcher.step).settle cursor iterations = outcome at ends settled
  cases ends with
  | empty _ =>
      obtain ⟨-, rfl⟩ := Repetition.emptyMatch_eq_matched settled
      exact .done
  | greedy lastOptional =>
      rw [Repetition.map, Edge.isRequired_map] at lastOptional
      obtain ⟨-, rfl⟩ := Repetition.greedyMatch_eq_matched settled
      dsimp only
      rw [List.length_map]
      apply Repetition.derivation_of_greedy greedy ordered (fun _ => rfl) (Nat.le_refl _)
      · intro made here part _ makes
        apply makes.imp
        · exact fun mayMake => .inl ⟨fun _ => lastOptional, mayMake⟩
        · exact fun mayCopy => ⟨fun _ => lastOptional, mayCopy⟩
      · rw [List.take_length, Nat.zero_add]
        exact .done
  | @closed last number member mayClose =>
      obtain ⟨-, counted, captures, made⟩ := Repetition.closeAfter_eq_matched settled
      rw [Repetition.map, Edge.parts_map] at member
      obtain ⟨part, isLast, rfl⟩ := List.mem_map.mp member
      have ran : part.run (Repetition.cursorBehind cursor (iterations.take number)) =
          .matched result.1 := by
        rw [Matcher.run, made, Outcome.map]
      rw [counted, List.length_take_of_le mayClose.le_length]
      apply Repetition.derivation_of_greedy greedy ordered (fun _ => rfl) mayClose.le_length
      · intro made here part before makes
        apply makes.imp
        · exact fun mayMake => .inl ⟨fun isLast => by omega, mayMake⟩
        · exact fun mayCopy => ⟨fun isLast => by omega, mayCopy⟩
      · rw [Nat.zero_add]
        refine .step (.inl (.inr ⟨rfl, ?_, isLast⟩)) ran .done
        intro single
        rw [← Edge.isRequired_map Matcher.step, Bool.eq_false_iff]
        intro required
        have firstRequired : (repetition.map Matcher.step).first.isRequired = true := required
        have one := Repetition.one_le_fewestBeforeLast firstRequired
        have enough := mayClose.fewest_le
        omega

/-- A repetition that matches has a derivation, in which every iteration is a match of a part that
it may use, unless a first part matches the empty text and there must be more than one iteration:
then its match may be counted for those that follow, too. -/
theorem repetitions_have_derivations (repetition : Repetition Matcher) (cursor next : Cursor)
    (count : Nat) (ordered : cursor.Ordered)
    (matched : Matcher.count repetition cursor = .matched (next, count)) :
    Derivation (fun index here part => repetition.MayUse count index part ∨
          (index + 1 = count → repetition.last.isRequired = false) ∧
            repetition.MayCopy cursor index here part)
        count next 0 cursor ∧
      ((∀ part ∈ repetition.first.parts, 1 < repetition.least →
          part.run cursor ≠ .matched cursor) →
        Derivation (fun index _ part => repetition.MayUse count index part)
          count next 0 cursor) := by
  have derivation := Matcher.derivation_of_count ordered matched
  refine ⟨derivation, ?_⟩
  intro neverCopied
  apply derivation.imp
  intro index here part allowed
  rcases allowed with mayUse | ⟨-, mayCopy⟩
  · exact mayUse
  · have many : 1 < repetition.least := Nat.lt_of_le_of_lt mayCopy.index_pos mayCopy.index_lt
    exact absurd mayCopy.isEmpty (neverCopied part mayCopy.isFirst many)

theorem repetitions_have_derivations_of_words :
    let letter : Matcher := .codePoint (.literal 'a')
    let sign : Matcher := .codePoint (.literal '-')
    let stop : Matcher := .codePoint (.literal '.')
    let word : Repetition Matcher := ⟨2, some 4, letter, .optional sign, .required stop⟩
    let cursor := Cursor.ofView (View.ofString "-aa.")
    let next : Cursor := ⟨View.ofString "-aa.", 0, 4, 4, true⟩
    cursor.Ordered ∧ Matcher.count word cursor = .matched (next, 4) ∧
      (∀ part ∈ word.first.parts, 1 < word.least → part.run cursor ≠ .matched cursor) ∧
      Derivation (fun index _ part => word.MayUse 4 index part) 4 next 0 cursor := by
  intro letter sign stop word cursor next
  have ordered : cursor.Ordered := (Cursor.ready_fresh (Nat.zero_le _)).ordered
  have matched : Matcher.count word cursor = .matched (next, 4) := by
    decide +kernel
  have neverCopied : ∀ part ∈ word.first.parts, 1 < word.least →
      part.run cursor ≠ .matched cursor := by
    intro part member _
    obtain rfl := List.mem_singleton.mp member
    decide +kernel
  have derivations := repetitions_have_derivations word cursor next 4 ordered matched
  exact ⟨ordered, matched, neverCopied, derivations.2 neverCopied⟩

/-- A first part at the start of the text is counted twice, without a letter behind it. -/
theorem first_part_is_counted_again :
    let letter : Matcher := .codePoint (.literal 'a')
    let word : Repetition Matcher := ⟨2, none, letter, .required (.anchor .textStart), .absent⟩
    let cursor := Cursor.ofView (View.ofString "b")
    Matcher.count word cursor = .matched (cursor, 2) ∧
      ¬ Derivation (fun index _ part => word.MayUse 2 index part) 2 cursor 0 cursor := by
  intro letter word cursor
  refine ⟨by decide +kernel, ?_⟩
  intro derivation
  have started : (Matcher.anchor .textStart).run cursor = .matched cursor := by
    decide +kernel
  have stuck : letter.run cursor = .noMatch := by
    decide +kernel
  cases derivation with
  | @step _ _ middle part allowed matched rest =>
      have isFirst : part = .anchor .textStart := by
        simpa [Repetition.MayUse, Repetition.MayMake, word, Edge.parts, Edge.isRequired]
          using allowed
      rw [isFirst, started] at matched
      obtain rfl := Outcome.matched.inj matched
      cases rest with
      | @step _ _ _ part allowed again _ =>
          have isInner : part = letter := by
            simpa [Repetition.MayUse, Repetition.MayMake, word, Edge.parts, Edge.isRequired]
              using allowed
          rw [isInner, stuck] at again
          contradiction

end TextMatch
