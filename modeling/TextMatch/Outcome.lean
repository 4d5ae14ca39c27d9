import TextMatch.Failure

/-!
# Outcomes

An attempt to match ends in one of three ways: with a result, with a mismatch, from which an
alternative may recover, or with a failure, from which nothing recovers.
-/

namespace TextMatch

/-- How an attempt to match ends. -/
inductive Outcome (alpha : Type) where
  | matched (value : alpha)
  | noMatch
  | failed (failure : Failure)
deriving DecidableEq, Repr

namespace Outcome

variable {alpha beta : Type}

/-- Goes on with the result of a match. -/
def bind (outcome : Outcome alpha) (next : alpha → Outcome beta) : Outcome beta :=
  match outcome with
  | .matched value => next value
  | .noMatch => .noMatch
  | .failed failure => .failed failure

/-- Changes the result of a match. -/
def map (change : alpha → beta) (outcome : Outcome alpha) : Outcome beta :=
  match outcome with
  | .matched value => .matched (change value)
  | .noMatch => .noMatch
  | .failed failure => .failed failure

/-- Takes the alternative after a mismatch, but not after a failure. -/
def orElse (outcome : Outcome alpha) (alternative : Unit → Outcome alpha) : Outcome alpha :=
  match outcome with
  | .matched value => .matched value
  | .noMatch => alternative ()
  | .failed failure => .failed failure

/-- The outcome of an action that cannot mismatch. -/
def ofExcept : Except Failure alpha → Outcome alpha
  | .ok value => .matched value
  | .error failure => .failed failure

/-- The result of an attempt, if it matched, unless it failed. -/
def toExcept : Outcome alpha → Except Failure (Option alpha)
  | .matched value => .ok (some value)
  | .noMatch => .ok none
  | .failed failure => .error failure

instance : Monad Outcome where
  pure := .matched
  bind := Outcome.bind
  map := Outcome.map

instance : LawfulMonad Outcome :=
  LawfulMonad.mk' Outcome
    (by
      intro _ outcome
      cases outcome <;> rfl)
    (by
      intros
      rfl)
    (by
      intro _ _ _ outcome _ _
      cases outcome <;> rfl)

end Outcome

end TextMatch
