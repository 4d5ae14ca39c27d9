import TextMatch.Proofs.RepetitionBounds
import TextMatch.Proofs.UnrolledRepetitions

/-!
# Repetitions of one part

A repetition without a first and a last part of its own is its parts written out: those that must be
stand one behind the other, and those that may be behind them, each an option inside the one before.
The search makes a part that does not advance once where the parts written out make it again and
again, and comes to the same.
-/

namespace TextMatch

open Outcome (Same)

/-! ## Parts written out -/

section

variable {alpha beta : Type}

/-- At most `number` parts one behind the other: each of them is an option, with the next one
inside. -/
def optionals (sequence : List alpha → alpha) (optional : alpha → alpha) (part : alpha) :
    Nat → List alpha
  | 0 => []
  | 1 => [optional part]
  | number + 2 => [optional (sequence (part :: optionals sequence optional part (number + 1)))]

/-- From `least` to `most` parts one behind the other. -/
def writtenOut (sequence : List alpha → alpha) (optional : alpha → alpha) (part : alpha)
    (least most : Nat) : List alpha :=
  List.replicate least part ++ optionals sequence optional part (most - least)

variable {sequence : List alpha → alpha} {optional : alpha → alpha} {part : alpha}
variable {sequence' : List beta → beta} {optional' : beta → beta} {change : alpha → beta}

theorem writtenOut_self (count : Nat) :
    writtenOut sequence optional part count count = List.replicate count part := by
  rw [writtenOut, Nat.sub_self, optionals, List.append_nil]

theorem writtenOut_zero (most : Nat) :
    writtenOut sequence optional part 0 most = optionals sequence optional part most :=
  rfl

theorem writtenOut_succ (least most : Nat) :
    writtenOut sequence optional part (least + 1) (most + 1) =
      part :: writtenOut sequence optional part least most := by
  rw [writtenOut, Nat.add_sub_add_right, List.replicate_succ, List.cons_append, writtenOut]

section

variable (ofSequence : ∀ parts, change (sequence parts) = sequence' (parts.map change))
variable (ofOptional : ∀ inner, change (optional inner) = optional' (change inner))

include ofSequence ofOptional

theorem optionals_map (part : alpha) (number : Nat) :
    (optionals sequence optional part number).map change =
      optionals sequence' optional' (change part) number := by
  fun_induction optionals sequence optional part number with
  | case1 => rfl
  | case2 => rw [List.map_singleton, ofOptional, optionals]
  | case3 number inductionHypothesis =>
      rw [List.map_singleton, ofOptional, ofSequence, List.map_cons, inductionHypothesis, optionals]

theorem writtenOut_map (part : alpha) (least most : Nat) :
    (writtenOut sequence optional part least most).map change =
      writtenOut sequence' optional' (change part) least most := by
  rw [writtenOut, List.map_append, List.map_replicate, optionals_map ofSequence ofOptional,
    writtenOut]

end

end

namespace Step

variable {step : Step} {cursor : Cursor} {captures : List Capture}

/-- At most `number` times a step, as options one inside the other. -/
abbrev options (step : Step) : Nat → List Step :=
  optionals Step.sequence Step.optional step

theorem Built.options (built : step.Built) (number : Nat) :
    ∀ part ∈ step.options number, part.Built := by
  unfold Step.options
  fun_induction optionals Step.sequence Step.optional step number with
  | case1 => exact List.forall_mem_nil _
  | case2 => exact List.forall_mem_singleton.mpr (.optional built)
  | case3 number inductionHypothesis =>
      rw [List.forall_mem_singleton]
      exact .optional (.sequence (List.forall_mem_cons.mpr ⟨built, inductionHypothesis⟩))

/-- The first option is made with the others behind it, or all of them are left out. -/
theorem Built.follow_options_succ (built : step.Built) (number : Nat) (cursor : Cursor) :
    follow (step.options (number + 1)) cursor =
      (follow (step :: step.options number) cursor).orElse fun _ => .matched (cursor, []) := by
  cases number with
  | zero =>
      rw [Step.options, optionals, optionals, follow_singleton, follow_singleton,
        built.optional_eq]
  | succ number =>
      have sequenceBuilt : (Step.sequence (step :: step.options (number + 1))).Built :=
        .sequence (List.forall_mem_cons.mpr ⟨built, built.options _⟩)
      rw [Step.options, optionals, follow_singleton, sequenceBuilt.optional_eq,
        built.sequence_cons]

theorem Built.follow_options_ne_noMatch (built : step.Built) (number : Nat) (cursor : Cursor) :
    follow (step.options number) cursor ≠ .noMatch := by
  cases number with
  | zero => simp [optionals, follow]
  | succ number =>
      rw [built.follow_options_succ]
      cases follow (step :: step.options number) cursor <;> simp [Outcome.orElse]

/-- Options of a part that comes back to where it was made come to what the part comes to, made as
often. -/
theorem Built.follow_options_of_idle (built : step.Built)
    (idles : step cursor = .matched (cursor, captures)) (number : Nat) :
    follow (step.options number) cursor =
      .matched (cursor, (List.replicate number captures).flatten) := by
  induction number with
  | zero => rfl
  | succ number inductionHypothesis =>
      rw [built.follow_options_succ, follow_cons_of_matched idles, inductionHypothesis,
        Outcome.map, Outcome.orElse, List.replicate_succ, List.flatten_cons]

theorem Built.follow_writtenOut_of_idle (built : step.Built) {least most : Nat}
    (inOrder : least ≤ most) (idles : step cursor = .matched (cursor, captures)) :
    follow (writtenOut Step.sequence Step.optional step least most) cursor =
      .matched (cursor, (List.replicate most captures).flatten) := by
  rw [writtenOut, follow_append, follow_replicate idles, Outcome.bind,
    built.follow_options_of_idle idles, Outcome.map, ← List.flatten_append,
    List.replicate_append_replicate, Nat.add_sub_cancel' inOrder]

end Step

namespace Repetition

open Step

/-- Where two matches end is the same in any case, and what they captured where that is known. -/
def AlikeIf (known : Prop) (left right : Cursor × List Capture) : Prop :=
  left.1 = right.1 ∧ (known → left.2 = right.2)

theorem AlikeIf.behind {known : Prop} {left right : Cursor × List Capture}
    (alike : AlikeIf known left right) (captures : List Capture) :
    AlikeIf known (left.1, captures ++ left.2) (right.1, captures ++ right.2) :=
  ⟨alike.1, fun holds => congrArg (captures ++ ·) (alike.2 holds)⟩

/-- Where iterations lead that follow `count` others, if that is enough. -/
def enoughAfter (repetition : Repetition Step) (count : Nat) (entry : Cursor)
    (iterations : List Iteration) : Outcome (Cursor × List Capture) :=
  if count + iterations.length < repetition.least then
    .noMatch
  else
    .matched (trace entry iterations)

theorem enoughAfter_cons (repetition : Repetition Step) (count : Nat) (entry : Cursor)
    (next : Iteration) (later : List Iteration) :
    repetition.enoughAfter count entry (next :: later) =
      (repetition.enoughAfter (count + 1) next.1 later).map fun result =>
        (result.1, next.2 ++ result.2) := by
  have sameCount : count + (later.length + 1) = count + 1 + later.length := by omega
  rw [enoughAfter, enoughAfter, List.length_cons, sameCount, trace_cons]
  split <;> rfl

theorem bind_enoughAfter_cons (repetition : Repetition Step) (count : Nat) (entry : Cursor)
    (next : Iteration) (found : Outcome (List Iteration)) :
    (found.map fun later => next :: later).bind (repetition.enoughAfter count entry) =
      (found.bind (repetition.enoughAfter (count + 1) next.1)).map fun result =>
        (result.1, next.2 ++ result.2) := by
  cases found with
  | matched later => exact repetition.enoughAfter_cons count entry next later
  | noMatch => rfl
  | failed failure => rfl

/-- What is left of the parts written out behind `count` of them. -/
abbrev leftAfter (step : Step) (least most count : Nat) : List Step :=
  writtenOut Step.sequence Step.optional step (least - count) (most - count)

variable {step : Step} {least most count : Nat} {cursor : Cursor}

theorem leftAfter_of_full (inOrder : least ≤ most) (full : most ≤ count) :
    leftAfter step least most count = [] := by
  rw [leftAfter, Nat.sub_eq_zero_of_le full, Nat.sub_eq_zero_of_le (Nat.le_trans inOrder full)]
  rfl

theorem leftAfter_of_enough (enough : least ≤ count) :
    leftAfter step least most count = step.options (most - count) := by
  rw [leftAfter, Nat.sub_eq_zero_of_le enough, writtenOut_zero]

theorem follow_leftAfter (built : step.Built) (notFull : count < most) :
    follow (leftAfter step least most count) cursor =
      if count < least then
        follow (step :: leftAfter step least most (count + 1)) cursor
      else
        (follow (step :: leftAfter step least most (count + 1)) cursor).orElse fun _ =>
          .matched (cursor, []) := by
  have mostEq : most - count = most - (count + 1) + 1 := by omega
  by_cases few : count < least
  · have leastEq : least - count = least - (count + 1) + 1 := by omega
    rw [if_pos few, leftAfter, leastEq, mostEq, writtenOut_succ]
  · have enough := Nat.not_lt.mp few
    rw [if_neg few, leftAfter_of_enough enough, leftAfter_of_enough (Nat.le_succ_of_le enough),
      mostEq, built.follow_options_succ]

theorem stepAfter_between (count : Nat) : (between least most step).stepAfter count = step :=
  ite_self _

theorem isFull_between : (between least most step).isFull count = true ↔ most ≤ count :=
  decide_eq_true_iff

/-- What follows `count` iterations is what is left of the parts written out. -/
theorem iterate_alike (built : step.Built) (inOrder : least ≤ most) (ordered : cursor.Ordered)
    (count : Nat) :
    Same (AlikeIf (least = most ∨ step.Advances))
      (((between least most step).iterate count cursor).bind
        ((between least most step).enoughAfter count cursor))
      (follow (leftAfter step least most count) cursor) := by
  have sameLeast : (between least most step).least = least := rfl
  fun_induction Repetition.iterate (between least most step) count cursor with
  | case1 count cursor full =>
      rw [isFull_between] at full
      have enough : ¬ count + 0 < least := by omega
      rw [leftAfter_of_full inOrder full, Outcome.bind, enoughAfter, List.length_nil, sameLeast,
        if_neg enough]
      exact .matched ⟨rfl, fun _ => rfl⟩
  | case2 count cursor notFull failure failed =>
      rw [isFull_between, Nat.not_le] at notFull
      rw [stepAfter_between] at failed
      rw [follow_leftAfter built notFull, follow_cons_of_failed failed, Outcome.bind,
        Outcome.orElse, ite_self]
      exact .failed failure
  | case3 count cursor notFull stuck =>
      rw [isFull_between, Nat.not_le] at notFull
      rw [stepAfter_between] at stuck
      rw [follow_leftAfter built notFull, follow_cons_of_noMatch stuck, Outcome.bind,
        Outcome.orElse, enoughAfter, List.length_nil, sameLeast, Nat.add_zero]
      by_cases few : count < least
      · rw [if_pos few, if_pos few]
        exact .noMatch
      · rw [if_neg few, if_neg few]
        exact .matched ⟨rfl, fun _ => rfl⟩
  | case4 count cursor notFull next matched advances inductionHypothesis =>
      rw [isFull_between, Nat.not_le] at notFull
      rw [stepAfter_between] at matched
      have ready := built.ready_of_matched ordered matched
      have further := (inductionHypothesis (built.reached_of_matched ready matched).ordered).map
        fun _ _ alike => alike.behind next.2
      rw [← bind_enoughAfter_cons, ← follow_cons_of_matched matched] at further
      rw [follow_leftAfter built notFull]
      by_cases few : count < least
      · rw [if_pos few]
        exact further
      · have enough := Nat.le_succ_of_le (Nat.not_lt.mp few)
        have found : follow (step :: leftAfter step least most (count + 1)) cursor ≠ .noMatch := by
          rw [follow_cons_of_matched matched, leftAfter_of_enough enough, Ne,
            Outcome.map_eq_noMatch_iff]
          exact built.follow_options_ne_noMatch _ _
        rw [if_neg few, Outcome.orElse_of_ne_noMatch found]
        exact further
  | case5 count cursor notFull next matched idles =>
      rw [isFull_between, Nat.not_le] at notFull
      rw [stepAfter_between] at matched
      have ready := built.ready_of_matched ordered matched
      have same := (built.reached_of_matched ready matched).eq_of_remaining ready idles
      obtain ⟨again, captures⟩ := next
      obtain rfl : again = cursor := same
      have enough : ¬ count + ((between least most step).missing (count + 1) + 1) < least := by
        simp only [missing, between]
        omega
      rw [← List.replicate_succ, built.follow_writtenOut_of_idle (by omega) matched, Outcome.bind,
        enoughAfter, List.length_replicate, sameLeast, if_neg enough, trace_replicate]
      refine .matched ⟨rfl, ?_⟩
      intro known
      rcases known with rfl | advances
      · have allMissing : (between least least step).missing (count + 1) + 1 = least - count := by
          simp only [missing, between]
          omega
        rw [allMissing]
      · exact absurd (advances _ _ _ ready matched) (Nat.lt_irrefl _)

/-- A repetition of one step comes to what the step written out comes to. -/
theorem step_between_alike (built : step.Built) (inOrder : least ≤ most)
    (ordered : cursor.Ordered) :
    Same (AlikeIf (least = most ∨ step.Advances)) ((between least most step).step cursor)
      (Step.sequence (writtenOut Step.sequence Step.optional step least most) cursor) := by
  cases matchable : cursor.requireMatchable with
  | error failure =>
      rw [Step.sequence, guarded_of_refused matchable, Repetition.step, Repetition.run,
        guarded_of_refused matchable]
      exact .failed failure
  | ok =>
      have ready := ordered.ready_of_requireMatchable matchable
      have settled : (between least most step).step cursor =
          ((between least most step).iterate 0 cursor).bind
            ((between least most step).enoughAfter 0 cursor) := by
        rw [Repetition.step, Repetition.run, guarded_of_ready _ ready]
        cases (between least most step).iterate 0 cursor with
        | noMatch => rfl
        | failed failure => rfl
        | matched iterations =>
            change ((between least most step).greedyMatch cursor iterations).map _ =
              (between least most step).enoughAfter 0 cursor iterations
            rw [greedyMatch, enoughAfter, Nat.zero_add]
            split <;> rfl
      rw [settled, Step.sequence, guarded_of_ready _ ready]
      exact iterate_alike built inOrder ordered 0

end Repetition

/-! ## Matchers and patterns -/

theorem Pattern.step_between_alike (inner : Pattern) {least most : Nat} {cursor : Cursor}
    (inOrder : least ≤ most) (ordered : cursor.Ordered) :
    Same (Repetition.AlikeIf (least = most ∨ inner.step.Advances))
      ((Pattern.repetition (.between least most inner)).step cursor)
      ((Pattern.sequence (writtenOut .sequence .optional inner least most)).step cursor) := by
  rw [Pattern.step_sequence, writtenOut_map Pattern.step_sequence fun inner => rfl]
  exact Repetition.step_between_alike inner.built_step inOrder ordered

theorem Matcher.run_between (inner : Matcher) {least most : Nat} {cursor : Cursor}
    (inOrder : least ≤ most) (ordered : cursor.Ordered) :
    (Matcher.repetition (.between least most inner)).run cursor =
      (Matcher.sequence (writtenOut .sequence .optional inner least most)).run cursor := by
  have sameParts : (Matcher.sequence (writtenOut .sequence .optional inner least most)).strip =
      (Pattern.sequence (writtenOut .sequence .optional (.unnamed inner) least most)).strip := by
    have ofMatchers : ∀ inner : Matcher, (Matcher.optional inner).strip = .optional inner.strip :=
      fun inner => by rw [Matcher.strip]
    have ofPatterns : ∀ inner : Pattern, (Pattern.optional inner).strip = .optional inner.strip :=
      fun inner => by rw [Pattern.strip]
    rw [Matcher.strip_sequence, Pattern.strip_sequence,
      writtenOut_map Matcher.strip_sequence ofMatchers,
      writtenOut_map Pattern.strip_sequence ofPatterns, Pattern.strip]
  rw [Matcher.run_eq_of_strip (strip_unnamed_repetition _) ordered,
    Matcher.run_eq_of_strip sameParts ordered]
  have alike := (Pattern.unnamed inner).step_between_alike inOrder ordered
  exact Outcome.map_eq_map (alike.imp fun _ _ ends => ends.1)

/-! ## Repetitions and their parts written out -/

/-- A repetition without a first and a last part of its own matches what its parts match that are
written out, captures included where the count is fixed.  An upper bound that leaves room for every
unit to read comes to the same as none, whatever the first and the last part. -/
theorem repetitions_are_written_out :
    (∀ (inner : Matcher) (count : Nat) (cursor : Cursor), cursor.Ordered →
        (Matcher.repetition (.exactly count inner)).run cursor =
          (Matcher.sequence (List.replicate count inner)).run cursor) ∧
      (∀ (inner : Matcher) (least most : Nat) (cursor : Cursor),
        least < most → cursor.Ordered →
        (Matcher.repetition (.between least most inner)).run cursor =
          (Matcher.sequence (writtenOut .sequence .optional inner least most)).run cursor) ∧
      (∀ (inner : Pattern) (count : Nat) (cursor : Cursor), cursor.Ordered →
        (Pattern.repetition (.exactly count inner)).step cursor =
          (Pattern.sequence (List.replicate count inner)).step cursor) ∧
      (∀ (inner : Pattern) (least most : Nat) (cursor : Cursor),
        least < most → cursor.Ordered →
        let parts := Pattern.sequence (writtenOut .sequence .optional inner least most)
        (Pattern.repetition (.between least most inner)).run cursor = parts.run cursor ∧
          (inner.step.Advances →
            (Pattern.repetition (.between least most inner)).step cursor = parts.step cursor)) ∧
      (∀ (repetition : Repetition Matcher) (most : Nat) (cursor : Cursor),
        max repetition.least (cursor.remaining + 1) < most →
        Matcher.count (repetition.withMost (some most)) cursor =
          Matcher.count (repetition.withMost none) cursor) ∧
      ∀ (repetition : Repetition Pattern) (most : Nat) (cursor : Cursor),
        max repetition.least (cursor.remaining + 1) < most →
        (Pattern.repetitionOfSteps (repetition.withMost (some most))).run cursor =
          (Pattern.repetitionOfSteps (repetition.withMost none)).run cursor := by
  refine ⟨?_, ?_, ?_, ?_, ?_, ?_⟩
  · intro inner count cursor ordered
    have same := inner.run_between (Nat.le_refl count) ordered
    rw [writtenOut_self] at same
    exact same
  · exact fun inner least most cursor less ordered => inner.run_between (Nat.le_of_lt less) ordered
  · intro inner count cursor ordered
    have alike := inner.step_between_alike (Nat.le_refl count) ordered
    rw [writtenOut_self] at alike
    exact Outcome.eq_of_same (alike.imp fun _ _ ends => Prod.ext ends.1 (ends.2 (.inl rfl)))
  · intro inner least most cursor less ordered
    have alike := inner.step_between_alike (Nat.le_of_lt less) ordered
    refine ⟨Outcome.map_eq_map (alike.imp fun _ _ ends => ends.1), ?_⟩
    intro advances
    exact Outcome.eq_of_same (alike.imp fun _ _ ends => Prod.ext ends.1 (ends.2 (.inr advances)))
  · intro repetition most cursor room
    have same : ((repetition.map Matcher.step).withMost (some most)).run cursor =
        ((repetition.map Matcher.step).withMost none).run cursor := Repetition.run_withMost room
    rw [Matcher.count_eq_map, Matcher.count_eq_map]
    exact congrArg _ same
  · intro repetition most cursor room
    have same : ((repetition.map Pattern.step).withMost (some most)).run cursor =
        ((repetition.map Pattern.step).withMost none).run cursor := Repetition.run_withMost room
    rw [Pattern.repetitionOfSteps_eq_map, Pattern.repetitionOfSteps_eq_map]
    exact same

theorem repetitions_are_written_out_for_letters :
    let letter : Matcher := .codePoint (.literal 'a')
    let spare : Matcher := .optional letter
    let stop : Matcher := .codePoint (.literal 'b')
    let named : Pattern := .group (.around "letter" letter)
    let word : Repetition Matcher := ⟨1, none, letter, .optional spare, .required stop⟩
    let names : Repetition Pattern := ⟨2, none, named, .required named, .absent⟩
    let written : Pattern := .sequence [named, .optional (.sequence [named, .optional named])]
    let cursor := Cursor.ofView (View.ofString "aab")
    let next : Cursor := ⟨View.ofString "aab", 0, 2, 2, true⟩
    cursor.Ordered ∧
      (Matcher.repetition (.exactly 3 spare)).run cursor =
        (Matcher.sequence [spare, spare, spare]).run cursor ∧
      (Matcher.repetition (.exactly 3 spare)).run cursor = .matched next ∧
      1 < 3 ∧
      (Matcher.repetition (.between 1 3 letter)).run cursor =
        (Matcher.sequence [letter, .optional (.sequence [letter, .optional letter])]).run cursor ∧
      (Pattern.repetition (.exactly 2 named)).step cursor =
        (Pattern.sequence [named, named]).step cursor ∧
      (Pattern.repetition (.between 1 3 named)).run cursor = written.run cursor ∧
      named.step.Advances ∧
      (Pattern.repetition (.between 1 3 named)).step cursor = written.step cursor ∧
      max word.least (cursor.remaining + 1) < 5 ∧
      Matcher.count (word.withMost (some 5)) cursor = Matcher.count (word.withMost none) cursor ∧
      max names.least (cursor.remaining + 1) < 5 ∧
      (Pattern.repetitionOfSteps (names.withMost (some 5))).run cursor =
        (Pattern.repetitionOfSteps (names.withMost none)).run cursor := by
  intro letter spare stop named word names written cursor next
  obtain ⟨exactly, between, exactlyNamed, betweenNamed, unbounded, unboundedNamed⟩ :=
    repetitions_are_written_out
  have ordered : cursor.Ordered := (Cursor.ready_fresh (Nat.zero_le _)).ordered
  have advances : named.step.Advances :=
    (Step.advances_codePoint _).recorded letter.built_step "letter"
  have matched : (Matcher.repetition (.exactly 3 spare)).run cursor = .matched next := by
    decide +kernel
  have same := betweenNamed named 1 3 cursor (by decide) ordered
  exact ⟨ordered, exactly spare 3 cursor ordered, matched, by decide,
    between letter 1 3 cursor (by decide) ordered, exactlyNamed named 2 cursor ordered,
    same.1, advances, same.2 advances, by decide, unbounded word 5 cursor (by decide), by decide,
    unboundedNamed names 5 cursor (by decide)⟩

end TextMatch
