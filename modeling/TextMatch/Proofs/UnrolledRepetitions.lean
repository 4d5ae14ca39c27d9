import TextMatch.Proofs.Erasure
import TextMatch.Proofs.GreedyPhase

/-!
# Unrolled repetitions

A bounded repetition with a required last part matches what the first of its unrolled forms matches
that matches at all: as many iterations as may be with the last part behind them, then ever fewer.
The search gives up saved iterations instead of matching them once more.
-/

namespace TextMatch

open Outcome (Same)

/-! ## Unrolling -/

/-- The numbers from `low` to below `high`, the largest first. -/
def descending (low high : Nat) : List Nat :=
  (List.range' low (high - low)).reverse

section

variable {low middle high number : Nat}

theorem descending_of_le (empty : high ≤ low) : descending low high = [] := by
  rw [descending, Nat.sub_eq_zero_of_le empty]
  rfl

theorem descending_succ (ordered : low ≤ high) :
    descending low (high + 1) = high :: descending low high := by
  rw [descending, Nat.succ_sub ordered, List.range'_concat, List.reverse_append, descending,
    Nat.one_mul, Nat.add_sub_cancel' ordered]
  rfl

theorem mem_descending_iff : number ∈ descending low high ↔ low ≤ number ∧ number < high := by
  rw [descending, List.mem_reverse, List.mem_range'_1]
  omega

theorem descending_append (below : low ≤ middle) (above : middle ≤ high) :
    descending low high = descending middle high ++ descending low middle := by
  induction above with
  | refl => rw [descending_of_le (Nat.le_refl middle), List.nil_append]
  | step above inductionHypothesis =>
      rw [descending_succ (Nat.le_trans below above), descending_succ above, inductionHypothesis,
        List.cons_append]

end

namespace Repetition

section

variable {alpha beta : Type}

/-- What the first iteration matches. -/
def head (repetition : Repetition alpha) (firstOf : List alpha → alpha) : alpha :=
  match repetition.first with
  | .absent => repetition.inner
  | .optional part => firstOf [part, repetition.inner]
  | .required part => part

/-- A number of iterations with the last part behind them. -/
def unrolled (repetition : Repetition alpha) (firstOf : List alpha → alpha) (last : alpha) :
    Nat → List alpha
  | 0 => [last]
  | number + 1 =>
      repetition.head firstOf :: (List.replicate number repetition.inner ++ [last])

/-- The last part is an iteration, too, and a required first one is another. -/
def fewestUnrolled (repetition : Repetition alpha) : Nat :=
  match repetition.first with
  | .required _ => max (max repetition.least 1 - 1) 1
  | _ => max repetition.least 1 - 1

/-- The unrolled forms, the longest first.  If no iteration has to be, the last of them is empty. -/
def unrolledForms (repetition : Repetition alpha) (sequence firstOf : List alpha → alpha)
    (most : Nat) (last : alpha) : List alpha :=
  (descending repetition.fewestUnrolled most).map
      (fun number => sequence (repetition.unrolled firstOf last number)) ++
    if repetition.least = 0 then [sequence []] else []

theorem fewestUnrolled_eq (repetition : Repetition alpha) :
    repetition.fewestUnrolled = repetition.fewestBeforeLast := by
  have sameLeast : max repetition.least 1 - 1 = repetition.least - 1 := by omega
  rw [fewestUnrolled, fewestBeforeLast, sameLeast]
  cases repetition.first <;> rfl

variable {sequence firstOf : List alpha → alpha} {sequence' firstOf' : List beta → beta}

/-- What changes sequences and choices part by part changes the unrolled forms into those of the
changed repetition. -/
theorem unrolledForms_map (repetition : Repetition alpha) {change : alpha → beta}
    (ofSequence : ∀ parts, change (sequence parts) = sequence' (parts.map change))
    (ofFirstOf : ∀ choices, change (firstOf choices) = firstOf' (choices.map change))
    (most : Nat) (last : alpha) :
    (repetition.unrolledForms sequence firstOf most last).map change =
      (repetition.map change).unrolledForms sequence' firstOf' most (change last) := by
  have headEq : change (repetition.head firstOf) = (repetition.map change).head firstOf' := by
    rw [head, head, Repetition.map]
    cases repetition.first with
    | absent => rfl
    | optional part => exact ofFirstOf _
    | required part => rfl
  have partsEq : ∀ number, (repetition.unrolled firstOf last number).map change =
      (repetition.map change).unrolled firstOf' (change last) number := by
    intro number
    cases number with
    | zero => rfl
    | succ number =>
        rw [unrolled, unrolled, List.map_cons, List.map_append, List.map_replicate, headEq]
        rfl
  have sameFewest : (repetition.map change).fewestUnrolled = repetition.fewestUnrolled := by
    rw [fewestUnrolled, fewestUnrolled, Repetition.map]
    cases repetition.first <;> rfl
  have sameLeast : (repetition.map change).least = repetition.least := rfl
  rw [unrolledForms, unrolledForms, List.map_append, List.map_map, sameFewest, sameLeast]
  congr 1
  · apply List.map_congr_left
    intro number _
    rw [Function.comp_apply, ofSequence, partsEq]
  · split
    · rw [List.map_singleton, ofSequence, List.map_nil]
    · rfl

end

end Repetition

/-! ## Attempts in turn -/

namespace Step

variable {step : Step} {steps rest : List Step} {cursor : Cursor}

/-- Attempts that do not match or come to what the next one comes to may be left out. -/
theorem choose_append_of_alike {alike : Cursor × List Capture → Cursor × List Capture → Prop}
    (refl : ∀ result, alike result result) {front : List Step}
    (spare : ∀ other ∈ front,
      other cursor = .noMatch ∨ Same alike (step cursor) (other cursor)) :
    Same alike (choose (step :: rest) cursor) (choose (front ++ step :: rest) cursor) := by
  induction front with
  | nil => exact .refl _ fun result _ => refl result
  | cons other front inductionHypothesis =>
      have further := inductionHypothesis fun later member =>
        spare later (List.mem_cons_of_mem other member)
      rw [List.cons_append, choose.eq_2 cursor other]
      rcases spare other List.mem_cons_self with stuck | same
      · rw [stuck]
        exact further
      · generalize other cursor = otherOutcome at same
        cases outcome : step cursor with
        | noMatch =>
            rw [outcome] at same
            cases same
            exact further
        | matched result =>
            rw [outcome] at same
            rw [choose, outcome]
            cases same with
            | matched are => exact .matched are
        | failed failure =>
            rw [outcome] at same
            rw [choose, outcome]
            cases same with
            | failed => exact .failed failure
            | excused _ excused => exact excused.elim

end Step

/-! ## The search as attempts in turn -/

namespace Repetition

open Step

variable {repetition : Repetition Step} {last : Step} {cursor : Cursor}
variable {iterations : List Iteration} {low most number : Nat}

theorem head_eq (ready : cursor.Ready) :
    repetition.head Step.firstOf cursor = repetition.stepAfter 0 cursor := by
  rw [head, stepAfter]
  cases repetition.first with
  | absent => rfl
  | required part => rfl
  | optional part =>
      dsimp only
      rw [if_pos rfl, Step.firstOf, guarded_of_ready _ ready, choose, choose_singleton]

theorem sequence_unrolled (ready : cursor.Ready) (number : Nat) :
    Step.sequence (repetition.unrolled Step.firstOf last number) cursor =
      follow (repetition.stepsAfter 0 number ++ [last]) cursor := by
  rw [Step.sequence, guarded_of_ready _ ready]
  cases number with
  | zero => rfl
  | succ number =>
      rw [unrolled, stepsAfter_succ, stepsAfter_succ_eq_replicate, List.cons_append, follow, follow,
        head_eq ready]

/-- Where a repetition ends is compared in any case, and what it captured only if no iteration of
the repeated part can be made without end. -/
def SameEnd (repetition : Repetition Step) (left right : Cursor × List Capture) : Prop :=
  left.1 = right.1 ∧ (repetition.inner.Advances → left.2 = right.2)

theorem sameEnd_refl (result : Cursor × List Capture) : repetition.SameEnd result result :=
  ⟨rfl, fun _ => rfl⟩

def joined (result : Cursor × List (List Capture)) : Cursor × List Capture :=
  (result.1, result.2.flatten)

/-- The unrolled forms of fewer than `high` iterations, but at least `low`. -/
def forms (repetition : Repetition Step) (last : Step) (low high : Nat) : List Step :=
  (descending low high).map fun number =>
    Step.sequence (repetition.unrolled Step.firstOf last number)

section

variable (last) (retraceable : repetition.Retraceable)
variable (built : ∀ step ∈ repetition.parts, step.Built) (ready : cursor.Ready)
variable (greedy : Greedy repetition 0 cursor iterations)

include retraceable built ready greedy

/-- The last step behind saved iterations comes to what the unrolled form comes to. -/
theorem close_eq (fewer : number ≤ iterations.length) :
    (closeAfter last (fun _ => true) cursor (iterations.take number)).map joined =
      Step.sequence (repetition.unrolled Step.firstOf last number) cursor := by
  rw [sequence_unrolled ready, follow_append, retraceable.follow_take built greedy ready fewer,
    Outcome.bind, follow_singleton, closeAfter, trace]
  cases last (cursorBehind cursor (iterations.take number)) with
  | noMatch => rfl
  | failed failure => rfl
  | matched next =>
      simp only [bind, Outcome.bind, if_true, Outcome.map, joined, List.flatten_append,
        List.flatten_singleton]

/-- Giving up saved iterations comes to what ever shorter unrolled forms come to. -/
theorem retreat_eq (enough : low ≤ number) (fewer : number ≤ iterations.length) :
    (retreat last (fun _ => true) cursor (number - low) (iterations.take number).reverse).map
        joined =
      choose (repetition.forms last low (number + 1)) cursor := by
  unfold forms
  induction enough with
  | refl =>
      rw [Nat.sub_self, retreat_zero, List.reverse_reverse,
        close_eq last retraceable built ready greedy fewer, descending_succ (Nat.le_refl low),
        descending_of_le (Nat.le_refl low), List.map_singleton, choose_singleton]
  | @step number enough inductionHypothesis =>
      have here := close_eq last retraceable built ready greedy fewer
      have further := inductionHypothesis (Nat.le_of_succ_le fewer)
      have inside : number < iterations.length := fewer
      have trail : (iterations.take (number + 1)).reverse =
          iterations[number] :: (iterations.take number).reverse := by
        rw [List.take_succ_eq_append_getElem inside, List.reverse_append]
        rfl
      have oneMore : number + 1 - low = number - low + 1 := Nat.succ_sub enough
      rw [descending_succ (Nat.le_succ_of_le enough), List.map_cons, choose, ← here, ← further,
        trail, oneMore, retreat_succ, Outcome.map_orElse, ← trail, List.reverse_reverse]

theorem closeBehind_eq (fewer : number ≤ iterations.length) :
    (repetition.closeBehind last (fun _ => true) cursor (iterations.take number)).map joined =
      choose (repetition.forms last repetition.fewestBeforeLast (number + 1)) cursor := by
  rw [closeBehind, List.length_take, Nat.min_eq_left fewer]
  by_cases tooFew : number < repetition.fewestBeforeLast
  · rw [if_pos tooFew, forms, descending_of_le tooFew]
    rfl
  · rw [if_neg tooFew]
    exact retreat_eq last retraceable built ready greedy (Nat.not_lt.mp tooFew) fewer

/-- More iterations than were found come to nothing, or to what those found come to: then there are
enough of them. -/
theorem sequence_beyond (bounded : repetition.most = some most) (more : iterations.length < number)
    (within : number ≤ most) :
    Step.sequence (repetition.unrolled Step.firstOf last number) cursor = .noMatch ∨
      Same repetition.SameEnd
          (Step.sequence (repetition.unrolled Step.firstOf last iterations.length) cursor)
          (Step.sequence (repetition.unrolled Step.firstOf last number) cursor) ∧
        repetition.fewestBeforeLast ≤ iterations.length := by
  have found := retraceable.follow_take built greedy ready (Nat.le_refl iterations.length)
  rw [List.take_length] at found
  have beyond := retraceable.follow_beyond built greedy ready bounded more
    (by rwa [Nat.zero_add])
  rw [sequence_unrolled ready, sequence_unrolled ready, follow_append, follow_append, found]
  rcases beyond with stuck | ⟨⟨captures, same⟩, idles, nonempty, enough⟩
  · left
    rw [stuck, Outcome.bind]
  · right
    have positive := List.length_pos_iff.mpr nonempty
    rw [same, Outcome.bind, Outcome.bind, trace]
    refine ⟨?_, ?_⟩
    · have lastSame := Outcome.same_self (follow [last] (cursorBehind cursor iterations))
      apply lastSame.map
      rintro next _ rfl
      exact ⟨rfl, fun advances => absurd advances idles⟩
    · rw [fewestBeforeLast]
      split <;> omega

/-- The unrolled forms of more iterations than were found may be left out. -/
theorem forms_beyond (bounded : repetition.most = some most) (more : iterations.length < most) :
    Same repetition.SameEnd
      (choose (repetition.forms last repetition.fewestBeforeLast (iterations.length + 1)) cursor)
      (choose (repetition.forms last repetition.fewestBeforeLast most) cursor) := by
  have beyond : ∀ number, iterations.length < number → number < most → _ :=
    fun number above below =>
      sequence_beyond last retraceable built ready greedy bounded above (Nat.le_of_lt below)
  by_cases tooFew : iterations.length < repetition.fewestBeforeLast
  · have stuck : choose (repetition.forms last repetition.fewestBeforeLast most) cursor =
        .noMatch := by
      apply choose_of_noMatch
      rw [forms, List.forall_mem_map]
      intro number member
      obtain ⟨enough, below⟩ := mem_descending_iff.mp member
      rcases beyond number (Nat.lt_of_lt_of_le tooFew enough) below with stuck | ⟨-, found⟩
      · exact stuck
      · exact absurd tooFew (Nat.not_lt.mpr found)
    rw [stuck, forms, descending_of_le tooFew]
    exact .noMatch
  · have enough := Nat.not_lt.mp tooFew
    rw [forms, forms, descending_append (Nat.le_succ_of_le enough) more, descending_succ enough,
      List.map_append, List.map_cons]
    apply choose_append_of_alike sameEnd_refl
    rw [List.forall_mem_map]
    intro number member
    obtain ⟨above, below⟩ := mem_descending_iff.mp member
    exact (beyond number above below).imp_right And.left

theorem finish_same (bounded : repetition.most = some most) :
    Same repetition.SameEnd
      ((repetition.finish last (fun _ => true) cursor iterations).map joined)
      (choose (repetition.forms last repetition.fewestBeforeLast most) cursor) := by
  rw [finish, bounded]
  cases most with
  | zero =>
      rw [forms, descending_of_le (Nat.zero_le _)]
      exact .noMatch
  | succ most =>
      dsimp only
      by_cases full : most ≤ iterations.length
      · rw [closeBehind_eq last retraceable built ready greedy full]
        exact .refl _ fun result _ => sameEnd_refl result
      · have all : iterations.take most = iterations.take iterations.length := by
          rw [List.take_length, List.take_of_length_le (Nat.le_of_not_le full)]
        rw [all, closeBehind_eq last retraceable built ready greedy (Nat.le_refl _)]
        exact forms_beyond last retraceable built ready greedy bounded
          (Nat.lt_succ_of_lt (Nat.not_le.mp full))

end

/-- A required last step is tried behind the iterations found, even if there are none. -/
theorem settle_of_required (required : repetition.last = .required last) (cursor : Cursor)
    (iterations : List Iteration) :
    repetition.settle cursor iterations =
      (repetition.finish last (fun _ => true) cursor iterations).orElse fun _ =>
        repetition.emptyMatch cursor := by
  rw [settle, required]
  by_cases noFirst : (repetition.first.isRequired && iterations.isEmpty) = true
  · obtain ⟨firstRequired, none⟩ := Bool.and_eq_true_iff.mp noFirst
    have positive : 0 < repetition.fewestBeforeLast := by
      rw [fewestBeforeLast, if_pos firstRequired]
      omega
    have stuck : repetition.finish last (fun _ => true) cursor iterations = .noMatch := by
      rw [List.isEmpty_iff.mp none, finish]
      cases repetition.most with
      | none => rw [closeBehind, List.length_nil, if_pos positive]
      | some most =>
          cases most with
          | zero => rfl
          | succ most =>
              dsimp only
              rw [List.take_nil, closeBehind, List.length_nil, if_pos positive]
    rw [if_pos noFirst, stuck]
    rfl
  · rw [if_neg noFirst]

/-- A repetition comes to what its unrolled forms come to in turn. -/
theorem step_same (retraceable : repetition.Retraceable)
    (built : ∀ step ∈ repetition.parts, step.Built) (ready : cursor.Ready)
    (bounded : repetition.most = some most) (required : repetition.last = .required last) :
    Same repetition.SameEnd (repetition.step cursor)
      (Step.firstOf (repetition.unrolledForms Step.sequence Step.firstOf most last) cursor) := by
  obtain ⟨iterations, found⟩ := retraceable.exists_iterate ready 0
  have finishSame :=
    finish_same last retraceable built ready (greedy_of_iterate found) bounded
  have emptySame : Same repetition.SameEnd ((repetition.emptyMatch cursor).map joined)
      (choose (if repetition.least = 0 then [Step.sequence []] else []) cursor) := by
    rw [emptyMatch]
    split
    · rw [choose_singleton, Step.sequence, guarded_of_ready _ ready]
      exact .matched (sameEnd_refl _)
    · exact .noMatch
  have settled : repetition.step cursor =
      (repetition.settle cursor iterations).map joined := by
    rw [step, run, guarded_of_ready _ ready, found]
    rfl
  rw [settled, settle_of_required required, Outcome.map_orElse, Step.firstOf,
    guarded_of_ready _ ready, unrolledForms, choose_append, fewestUnrolled_eq]
  exact finishSame.orElse emptySame

end Repetition

/-! ## Matchers and patterns -/

variable {cursor : Cursor}

theorem strip_unnamed_repetition (repetition : Repetition Matcher) :
    (Matcher.repetition repetition).strip =
      (Pattern.repetition (repetition.map .unnamed)).strip := by
  rw [Matcher.strip, Pattern.strip, Matcher.stripRepetition_eq_map,
    Pattern.stripRepetition_eq_map, Repetition.map_map]
  rfl

theorem strip_unnamed_forms (repetition : Repetition Matcher) (most : Nat) (last : Matcher) :
    (Matcher.firstOf (repetition.unrolledForms .sequence .firstOf most last)).strip =
      (Pattern.firstOf ((repetition.map .unnamed).unrolledForms .sequence .firstOf most
        (.unnamed last))).strip := by
  rw [Matcher.strip_firstOf, Pattern.strip_firstOf,
    repetition.unrolledForms_map Matcher.strip_sequence Matcher.strip_firstOf,
    Repetition.unrolledForms_map _ Pattern.strip_sequence Pattern.strip_firstOf,
    Repetition.map_map]
  rfl

/-! ## Repetitions and their unrolled forms -/

theorem Pattern.step_unrolled {repetition : Repetition Pattern} {most : Nat} {last : Pattern}
    (bounded : repetition.most = some most) (required : repetition.last = .required last)
    (retraceable : (repetition.map Pattern.step).Retraceable) (ready : cursor.Ready) :
    Same (repetition.map Pattern.step).SameEnd ((Pattern.repetition repetition).step cursor)
      ((Pattern.firstOf (repetition.unrolledForms .sequence .firstOf most last)).step cursor) := by
  have built := Pattern.built_repetition repetition
  rw [Pattern.repetitionOfSteps_eq_map] at built
  rw [Pattern.step_firstOf,
    repetition.unrolledForms_map Pattern.step_sequence Pattern.step_firstOf, Pattern.step,
    Pattern.repetitionOfSteps_eq_map]
  have lastRequired : (repetition.map Pattern.step).last = .required last.step := by
    rw [Repetition.map, required]
    rfl
  exact Repetition.step_same retraceable built ready bounded lastRequired

/-- Where no part fails and only the last one may leave a ghost, a bounded repetition with a
required last part goes where the first of its unrolled forms goes that matches, and captures what
that form captures, unless the repeated part may match without advancing. -/
theorem repetition_tries_counts :
    (∀ (repetition : Repetition Matcher) (most : Nat) (last : Matcher) (cursor : Cursor),
        repetition.most = some most → repetition.last = .required last →
        (repetition.map Matcher.step).Retraceable → cursor.Ready →
        (Matcher.repetition repetition).run cursor =
          (Matcher.firstOf (repetition.unrolledForms .sequence .firstOf most last)).run cursor) ∧
      ∀ (repetition : Repetition Pattern) (most : Nat) (last : Pattern) (cursor : Cursor),
        repetition.most = some most → repetition.last = .required last →
        (repetition.map Pattern.step).Retraceable → cursor.Ready →
        let unrolled := Pattern.firstOf (repetition.unrolledForms .sequence .firstOf most last)
        (Pattern.repetition repetition).run cursor = unrolled.run cursor ∧
          (repetition.inner.step.Advances →
            (Pattern.repetition repetition).step cursor = unrolled.step cursor) := by
  refine ⟨?_, ?_⟩
  · intro repetition most last cursor bounded required retraceable ready
    have silent := retraceable.silent
    rw [Repetition.map_map] at silent
    have unnamed : ((repetition.map Pattern.unnamed).map Pattern.step).Retraceable := by
      rw [Repetition.map_map]
      exact silent
    have lastRequired : (repetition.map Pattern.unnamed).last = .required (.unnamed last) := by
      rw [Repetition.map, required]
      rfl
    have same := Pattern.step_unrolled bounded lastRequired unnamed ready
    rw [Matcher.run_eq_of_strip (strip_unnamed_repetition repetition) ready.ordered,
      Matcher.run_eq_of_strip (strip_unnamed_forms repetition most last) ready.ordered]
    exact Outcome.map_eq_map (same.imp fun _ _ ends => ends.1)
  · intro repetition most last cursor bounded required retraceable ready
    have same := Pattern.step_unrolled bounded required retraceable ready
    refine ⟨Outcome.map_eq_map (same.imp fun _ _ ends => ends.1), ?_⟩
    intro advances
    exact Outcome.eq_of_same (same.imp fun _ _ ends => Prod.ext ends.1 (ends.2 advances))

theorem repetition_tries_counts_of_digits :
    let sign : Matcher := .codePoint (.literal '-')
    let digit : Matcher := .codePoint (.range '0' '9')
    let number : Repetition Matcher := ⟨2, some 4, digit, .optional sign, .required digit⟩
    let named (name : String) : Pattern := .group (.around name digit)
    let digits : Repetition Pattern :=
      ⟨2, some 4, named "digit", .optional (.unnamed sign), .required (named "last")⟩
    let head : Pattern := .firstOf [.unnamed sign, named "digit"]
    let unrolled : Pattern := .firstOf [
      .sequence [head, named "digit", named "digit", named "last"],
      .sequence [head, named "digit", named "last"],
      .sequence [head, named "last"]]
    let cursor := Cursor.ofView (View.ofString "-12")
    let next : Cursor := ⟨View.ofString "-12", 0, 3, 3, true⟩
    (number.map Matcher.step).Retraceable ∧ (digits.map Pattern.step).Retraceable ∧
      cursor.Ready ∧
      (Matcher.firstOf (number.unrolledForms .sequence .firstOf 4 digit)).run cursor =
        .matched next ∧
      (Matcher.repetition number).run cursor = .matched next ∧
      (Pattern.repetition digits).run cursor = unrolled.run cursor ∧
      (named "digit").step.Advances ∧
      (Pattern.repetition digits).step cursor = unrolled.step cursor := by
  intro sign digit number named digits head unrolled cursor next
  have ready : cursor.Ready := Cursor.ready_fresh (Nat.zero_le _)
  have signSealed : sign.Sealed := .codePoint _
  have digitSealed : digit.Sealed := .codePoint _
  have signLast : sign.GhostsLast := .codePoint _
  have digitLast : digit.GhostsLast := .codePoint _
  have namedSealed : ∀ name, (named name).Sealed := fun name => .around name digitSealed
  have namedLast : ∀ name, (named name).GhostsLast := fun name => .around name digitLast
  have signAdvances : sign.step.Advances := Step.advances_codePoint _
  have digitAdvances : (named "digit").step.Advances :=
    (Step.advances_codePoint _).recorded digit.built_step "digit"
  have ofMatchers : (number.map Matcher.step).Retraceable := {
    neverFails := by
      rw [Repetition.parts_map, List.forall_mem_map]
      simp only [number, Repetition.parts, Edge.parts, List.singleton_append, List.forall_mem_cons]
      exact ⟨digitLast.neverFails, signLast.neverFails, digitLast.neverFails,
        List.forall_mem_nil _⟩
    inner := digitSealed.keepsReady
    first := List.forall_mem_singleton.mpr signSealed.keepsReady
    advances := List.forall_mem_singleton.mpr signAdvances }
  have ofPatterns : (digits.map Pattern.step).Retraceable := {
    neverFails := by
      rw [Repetition.parts_map, List.forall_mem_map]
      simp only [digits, Repetition.parts, Edge.parts, List.singleton_append, List.forall_mem_cons]
      exact ⟨(namedLast _).neverFails, Step.Leads.silent signLast.neverFails,
        (namedLast _).neverFails, List.forall_mem_nil _⟩
    inner := (namedSealed _).keepsReady
    first := List.forall_mem_singleton.mpr (Step.Leads.silent signSealed.keepsReady)
    advances := List.forall_mem_singleton.mpr signAdvances.silent }
  have matchers := repetition_tries_counts.1 number 4 digit cursor rfl rfl ofMatchers ready
  have patterns := repetition_tries_counts.2 digits 4 (named "last") cursor rfl rfl ofPatterns ready
  have matched : (Matcher.firstOf (number.unrolledForms .sequence .firstOf 4 digit)).run cursor =
      .matched next := by
    decide +kernel
  exact ⟨ofMatchers, ofPatterns, ready, matched, matchers.trans matched, patterns.1,
    digitAdvances, patterns.2 digitAdvances⟩

end TextMatch
