import TextMatch.Outcome

/-!
# Conditions on outcomes

What is known about an attempt is a condition on the result of a match together with a condition on
failures.  The rules below take such conditions through the ways to put attempts together.
-/

namespace TextMatch.Outcome

variable {alpha beta : Type}

/-- A result of a match meets `onMatch`, and a failure meets `onFailure`. -/
def Meets (onMatch : alpha → Prop) (onFailure : Failure → Prop) : Outcome alpha → Prop
  | .matched value => onMatch value
  | .noMatch => True
  | .failed failure => onFailure failure

section

variable {onMatch onMatch' : alpha → Prop} {onNext : beta → Prop} {onFailure : Failure → Prop}

@[simp]
theorem meets_matched (value : alpha) :
    (Outcome.matched value).Meets onMatch onFailure ↔ onMatch value :=
  Iff.rfl

@[simp]
theorem meets_pure (value : alpha) :
    (pure value : Outcome alpha).Meets onMatch onFailure ↔ onMatch value :=
  Iff.rfl

@[simp]
theorem meets_noMatch :
    (Outcome.noMatch : Outcome alpha).Meets onMatch onFailure :=
  trivial

@[simp]
theorem meets_failed (failure : Failure) :
    (Outcome.failed failure : Outcome alpha).Meets onMatch onFailure ↔ onFailure failure :=
  Iff.rfl

theorem meets_trivial (outcome : Outcome alpha) :
    outcome.Meets (fun _ => True) fun _ => True := by
  cases outcome <;> trivial

theorem map_orElse (change : alpha → beta) (outcome : Outcome alpha)
    (alternative : Unit → Outcome alpha) :
    (outcome.orElse alternative).map change =
      (outcome.map change).orElse fun _ => (alternative ()).map change := by
  cases outcome <;> rfl

/-- What holds of both alternatives holds of the choice between them. -/
theorem holds_orElse {holds : Outcome alpha → Prop} {outcome : Outcome alpha}
    {alternative : Unit → Outcome alpha} (first : holds outcome)
    (second : holds (alternative ())) : holds (outcome.orElse alternative) := by
  cases outcome with
  | matched value => exact first
  | noMatch => exact second
  | failed failure => exact first

theorem orElse_of_ne_noMatch {outcome : Outcome alpha} (found : outcome ≠ .noMatch)
    (alternative : Unit → Outcome alpha) : outcome.orElse alternative = outcome := by
  cases outcome with
  | matched value => rfl
  | noMatch => contradiction
  | failed failure => rfl

theorem map_eq_noMatch_iff {outcome : Outcome alpha} {change : alpha → beta} :
    outcome.map change = .noMatch ↔ outcome = .noMatch := by
  cases outcome <;> simp [Outcome.map]

theorem map_eq_failed_iff {outcome : Outcome alpha} {change : alpha → beta} {failure : Failure} :
    outcome.map change = .failed failure ↔ outcome = .failed failure := by
  cases outcome <;> simp [Outcome.map]

theorem exists_of_map_eq_matched {outcome : Outcome alpha} {change : alpha → beta} {value : beta}
    (mapped : outcome.map change = .matched value) :
    ∃ found, outcome = .matched found ∧ change found = value := by
  cases outcome with
  | matched found => exact ⟨found, rfl, Outcome.matched.inj mapped⟩
  | noMatch => contradiction
  | failed failure => contradiction

/-- What is known of a result of a match is at least how it came about. -/
theorem meets_self (outcome : Outcome alpha) :
    outcome.Meets (fun value => outcome = .matched value) fun _ => True := by
  cases outcome <;> trivial

theorem Meets.of_matched {outcome : Outcome alpha} {value : alpha}
    (meets : outcome.Meets onMatch onFailure) (matched : outcome = .matched value) :
    onMatch value := by
  rw [matched] at meets
  exact meets

theorem Meets.of_failed {outcome : Outcome alpha} {failure : Failure}
    (meets : outcome.Meets onMatch onFailure) (failed : outcome = .failed failure) :
    onFailure failure := by
  rw [failed] at meets
  exact meets

theorem Meets.imp {outcome : Outcome alpha}
    (meets : outcome.Meets onMatch onFailure)
    (weaker : ∀ value, onMatch value → onMatch' value) :
    outcome.Meets onMatch' onFailure := by
  cases outcome with
  | matched value => exact weaker value meets
  | noMatch => trivial
  | failed failure => exact meets

/-- What is known of matches from one source, and of failures from another. -/
theorem Meets.and_of_never {outcome : Outcome alpha}
    (meets : outcome.Meets onMatch onFailure)
    (never : outcome.Meets onMatch' fun _ => False) :
    outcome.Meets (fun value => onMatch value ∧ onMatch' value) fun _ => False := by
  cases outcome with
  | matched value => exact ⟨meets, never⟩
  | noMatch => trivial
  | failed failure => exact never

theorem Meets.bind {outcome : Outcome alpha} {next : alpha → Outcome beta}
    (first : outcome.Meets onMatch onFailure)
    (second : ∀ value, onMatch value → (next value).Meets onNext onFailure) :
    (outcome >>= next).Meets onNext onFailure := by
  cases outcome with
  | matched value => exact second value first
  | noMatch => trivial
  | failed failure => exact first

theorem meets_map_iff {outcome : Outcome alpha} {change : alpha → beta} :
    (outcome.map change).Meets onNext onFailure ↔
      outcome.Meets (fun value => onNext (change value)) onFailure := by
  cases outcome <;> rfl

theorem Meets.map {outcome : Outcome alpha} {change : alpha → beta}
    (meets : outcome.Meets (fun value => onNext (change value)) onFailure) :
    (outcome.map change).Meets onNext onFailure := by
  cases outcome with
  | matched value => exact meets
  | noMatch => trivial
  | failed failure => exact meets

theorem Meets.orElse {outcome : Outcome alpha} {alternative : Unit → Outcome alpha}
    (first : outcome.Meets onMatch onFailure)
    (second : (alternative ()).Meets onMatch onFailure) :
    (outcome.orElse alternative).Meets onMatch onFailure := by
  cases outcome with
  | matched value => exact first
  | noMatch => exact second
  | failed failure => exact first

theorem ofExcept_bind (result : Except Failure alpha) (next : alpha → Except Failure beta) :
    ofExcept (result >>= next) = ofExcept result >>= fun value => ofExcept (next value) := by
  cases result <;> rfl

theorem Meets.of_ok {result : Except Failure alpha} {next : alpha → Outcome beta} {value : alpha}
    (ok : result = .ok value) (meets : (next value).Meets onNext onFailure) :
    (Outcome.ofExcept result >>= next).Meets onNext onFailure := by
  subst result
  exact meets

theorem bind_eq_noMatch_iff {outcome : Outcome alpha} {next : alpha → Outcome beta} :
    (outcome >>= next) = .noMatch ↔
      outcome = .noMatch ∨ ∃ value, outcome = .matched value ∧ next value = .noMatch := by
  cases outcome with
  | matched value =>
      change next value = .noMatch ↔ _
      simp
  | noMatch => simp [Bind.bind, Outcome.bind]
  | failed failure => simp [Bind.bind, Outcome.bind]

theorem ofExcept_bind_eq_noMatch_iff {result : Except Failure alpha}
    {next : alpha → Outcome beta} :
    (Outcome.ofExcept result >>= next) = .noMatch ↔
      ∃ value, result = .ok value ∧ next value = .noMatch := by
  rw [bind_eq_noMatch_iff]
  cases result with
  | ok value => simp [ofExcept]
  | error failure => simp [ofExcept]

theorem Meets.ofExcept_bind {result : Except Failure alpha} {next : alpha → Outcome beta}
    (onOk : ∀ value, result = .ok value → (next value).Meets onNext onFailure)
    (onError : ∀ failure, result = .error failure → onFailure failure) :
    (Outcome.ofExcept result >>= next).Meets onNext onFailure := by
  cases result with
  | ok value => exact onOk value rfl
  | error failure => exact onError failure rfl

end

end TextMatch.Outcome
