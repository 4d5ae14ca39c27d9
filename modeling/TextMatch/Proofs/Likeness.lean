import TextMatch.Proofs.StepRules

/-!
# Attempts that run alike

Two attempts are compared by running them side by side.  A likeness says what holds between the
cursors that they have reached and between the captures that they have recorded; the rules lead from
steps that keep it to a step that is built from them.
-/

namespace TextMatch

/-! ## Outcomes in pairs -/

namespace Outcome

variable {alpha alpha' beta beta' : Type}

/-- Two attempts end alike: both match with results that are alike, both miss, or both fail for the
same reason.  A failure of the first one that is excused leaves the second one free. -/
inductive Pairs (alike : alpha → beta → Prop) (excuses : Failure → Prop) :
    Outcome alpha → Outcome beta → Prop
  | matched {left : alpha} {right : beta} :
      alike left right → Pairs alike excuses (.matched left) (.matched right)
  | noMatch : Pairs alike excuses .noMatch .noMatch
  | failed (failure : Failure) : Pairs alike excuses (.failed failure) (.failed failure)
  | excused {failure : Failure} (other : Outcome beta) :
      excuses failure → Pairs alike excuses (.failed failure) other

/-- Two attempts end alike, and no failure is excused. -/
abbrev Same (alike : alpha → beta → Prop) : Outcome alpha → Outcome beta → Prop :=
  Pairs alike fun _ => False

variable {alike : alpha → beta → Prop} {alike' : alpha' → beta' → Prop}
variable {excuses : Failure → Prop} {left : Outcome alpha} {right : Outcome beta}

theorem Pairs.imp {weaker : alpha → beta → Prop} (pairs : Pairs alike excuses left right)
    (implies : ∀ value value', alike value value' → weaker value value') :
    Pairs weaker excuses left right := by
  cases pairs with
  | matched are => exact .matched (implies _ _ are)
  | noMatch => exact .noMatch
  | failed failure => exact .failed failure
  | excused _ excused => exact .excused _ excused

theorem Pairs.bind {next : alpha → Outcome alpha'} {next' : beta → Outcome beta'}
    (first : Pairs alike excuses left right)
    (second : ∀ value value', alike value value' →
      Pairs alike' excuses (next value) (next' value')) :
    Pairs alike' excuses (left >>= next) (right >>= next') := by
  cases first with
  | matched are => exact second _ _ are
  | noMatch => exact .noMatch
  | failed failure => exact .failed failure
  | excused _ excused => exact .excused _ excused

theorem Pairs.map_left {change : alpha → alpha'} {alike' : alpha' → beta → Prop}
    (pairs : Pairs alike excuses left right)
    (changed : ∀ value value', alike value value' → alike' (change value) value') :
    Pairs alike' excuses (left.map change) right := by
  cases pairs with
  | matched are => exact .matched (changed _ _ are)
  | noMatch => exact .noMatch
  | failed failure => exact .failed failure
  | excused _ excused => exact .excused _ excused

theorem Pairs.map_right {change' : beta → beta'} {alike' : alpha → beta' → Prop}
    (pairs : Pairs alike excuses left right)
    (changed : ∀ value value', alike value value' → alike' value (change' value')) :
    Pairs alike' excuses left (right.map change') := by
  cases pairs with
  | matched are => exact .matched (changed _ _ are)
  | noMatch => exact .noMatch
  | failed failure => exact .failed failure
  | excused _ excused => exact .excused _ excused

theorem Pairs.map {change : alpha → alpha'} {change' : beta → beta'}
    (pairs : Pairs alike excuses left right)
    (changed : ∀ value value', alike value value' → alike' (change value) (change' value')) :
    Pairs alike' excuses (left.map change) (right.map change') := by
  have leftMapped : Pairs (fun value value' => alike' value (change' value')) excuses
      (left.map change) right := pairs.map_left changed
  exact leftMapped.map_right fun _ _ are => are

theorem Pairs.orElse {alternative : Unit → Outcome alpha} {alternative' : Unit → Outcome beta}
    (first : Pairs alike excuses left right)
    (second : Pairs alike excuses (alternative ()) (alternative' ())) :
    Pairs alike excuses (left.orElse alternative) (right.orElse alternative') := by
  cases first with
  | matched are => exact .matched are
  | noMatch => exact second
  | failed failure => exact .failed failure
  | excused _ excused => exact .excused _ excused

theorem Pairs.refl {alike : alpha → alpha → Prop} (outcome : Outcome alpha)
    (related : ∀ value, outcome = .matched value → alike value value) :
    Pairs alike excuses outcome outcome := by
  cases outcome with
  | matched value => exact .matched (related value rfl)
  | noMatch => exact .noMatch
  | failed failure => exact .failed failure

theorem Pairs.exists_ok {value : alpha} {result : Except Failure beta}
    (same : Same alike (.ofExcept (.ok value)) (.ofExcept result)) :
    ∃ value', result = .ok value' ∧ alike value value' := by
  cases result with
  | error failure => cases same
  | ok value' =>
      cases same with
      | matched are => exact ⟨value', rfl, are⟩

theorem Pairs.eq_error {failure : Failure} {result : Except Failure beta}
    (same : Same alike (.ofExcept (.error failure)) (.ofExcept result)) :
    result = .error failure := by
  cases result with
  | ok value =>
      cases same with
      | excused _ excused => exact excused.elim
  | error other =>
      cases same with
      | failed => rfl
      | excused _ excused => exact excused.elim

/-- As long as the first attempt does not fail, nothing is excused. -/
theorem Pairs.eq_map {change : alpha → beta}
    (pairs : Pairs (fun value value' => value' = change value) (fun _ => True) left right)
    (noFailure : ∀ failure, left ≠ .failed failure) : right = left.map change := by
  cases pairs with
  | matched same => exact congrArg Outcome.matched same
  | noMatch => rfl
  | failed failure => exact absurd rfl (noFailure failure)
  | excused _ _ => exact absurd rfl (noFailure _)

theorem same_self (outcome : Outcome alpha) : Same Eq outcome outcome :=
  Pairs.refl outcome fun _ _ => rfl

theorem eq_of_same {left right : Outcome alpha} (same : Same Eq left right) : left = right := by
  cases same with
  | matched are => exact congrArg Outcome.matched are
  | noMatch => rfl
  | failed failure => rfl
  | excused _ excused => exact excused.elim

theorem map_eq_map {gamma : Type} {change : alpha → gamma} {change' : beta → gamma}
    (same : Same (fun value value' => change value = change' value') left right) :
    left.map change = right.map change' := by
  cases same with
  | matched are => exact congrArg Outcome.matched are
  | noMatch => rfl
  | failed failure => rfl
  | excused _ excused => exact excused.elim

end Outcome

/-! ## Likenesses -/

/-- A way in which two attempts may run alike. -/
structure Likeness where
  cursors : Cursor → Cursor → Prop
  captures : List Capture → List Capture → Prop
  /-- The failures of the first attempt behind which the second one may do as it likes. -/
  excuses : Failure → Prop
  guards : ∀ {left right}, cursors left right →
    Outcome.Pairs (fun _ _ => True) excuses (.ofExcept left.requireMatchable)
      (.ofExcept right.requireMatchable)
  position : ∀ {left right}, cursors left right → left.position = right.position
  remaining : ∀ {left right}, cursors left right → left.remaining = right.remaining
  nil : captures [] []
  append : ∀ {front front' back back'}, captures front front' → captures back back' →
    captures (front ++ back) (front' ++ back')

namespace Likeness

open Outcome (Pairs)

variable {likeness : Likeness} {step step' : Step}

def Results (likeness : Likeness) (left right : Cursor × List Capture) : Prop :=
  likeness.cursors left.1 right.1 ∧ likeness.captures left.2 right.2

/-- From cursors that are alike, two steps come to results that are alike. -/
def Steps (likeness : Likeness) (step step' : Step) : Prop :=
  ∀ left right, likeness.cursors left right →
    Pairs likeness.Results likeness.excuses (step left) (step' right)

/-! ## Steps built from steps -/

theorem guarded {attempt attempt' : Step} (attempts : likeness.Steps attempt attempt') :
    likeness.Steps (TextMatch.guarded attempt) (TextMatch.guarded attempt') := by
  intro left right alike
  exact (likeness.guards alike).bind fun _ _ _ => attempts left right alike

theorem require {test test' : Cursor → Bool}
    (tests : ∀ left right, likeness.cursors left right → test left = test' right) :
    likeness.Steps (Step.require test) (Step.require test') := by
  apply guarded
  intro left right alike
  dsimp only
  rw [tests left right alike]
  cases test' right with
  | true => exact .matched ⟨alike, likeness.nil⟩
  | false => exact .noMatch

theorem Steps.silent (inner : likeness.Steps step step') :
    likeness.Steps step.silent step'.silent :=
  fun left right alike =>
    (inner left right alike).map fun _ _ results => ⟨results.1, likeness.nil⟩

section

variable {alpha : Type} {parts : List alpha} {of of' : alpha → Step}

theorem follow (every : ∀ part ∈ parts, likeness.Steps (of part) (of' part)) :
    likeness.Steps (Step.follow (parts.map of)) (Step.follow (parts.map of')) := by
  induction parts with
  | nil => exact fun left right alike => .matched ⟨alike, likeness.nil⟩
  | cons part rest inductionHypothesis =>
      intro left right alike
      have restAlike := inductionHypothesis fun later member =>
        every later (List.mem_cons_of_mem part member)
      apply (every part List.mem_cons_self left right alike).bind
      rintro ⟨middle, captures⟩ ⟨middle', captures'⟩ ⟨middleAlike, capturesAlike⟩
      apply (restAlike middle middle' middleAlike).bind
      rintro ⟨next, more⟩ ⟨next', more'⟩ ⟨nextAlike, moreAlike⟩
      exact .matched ⟨nextAlike, likeness.append capturesAlike moreAlike⟩

theorem sequence (every : ∀ part ∈ parts, likeness.Steps (of part) (of' part)) :
    likeness.Steps (Step.sequence (parts.map of)) (Step.sequence (parts.map of')) :=
  guarded (follow every)

theorem firstOf (every : ∀ part ∈ parts, likeness.Steps (of part) (of' part)) :
    likeness.Steps (Step.firstOf (parts.map of)) (Step.firstOf (parts.map of')) := by
  apply guarded
  intro left right alike
  induction parts with
  | nil => exact .noMatch
  | cons part rest inductionHypothesis =>
      have restAlike := inductionHypothesis fun later member =>
        every later (List.mem_cons_of_mem part member)
      exact (every part List.mem_cons_self left right alike).orElse restAlike

end

theorem Steps.optional (inner : likeness.Steps step step') :
    likeness.Steps step.optional step'.optional :=
  guarded fun left right alike =>
    (inner left right alike).orElse (.matched ⟨alike, likeness.nil⟩)

theorem Steps.negation (inner : likeness.Steps step step') :
    likeness.Steps step.negation step'.negation := by
  apply guarded
  intro left right alike
  have innerAlike := inner left right alike
  dsimp only
  generalize step left = outcome at innerAlike
  generalize step' right = outcome' at innerAlike
  cases innerAlike with
  | matched => exact .noMatch
  | noMatch => exact .matched ⟨alike, likeness.nil⟩
  | failed failure => exact .failed failure
  | excused _ excused => exact .excused _ excused

end Likeness

end TextMatch
