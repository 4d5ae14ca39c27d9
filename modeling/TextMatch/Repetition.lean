import TextMatch.Step

/-!
# Repetitions

A repetition makes a step between `least` and `most` times, and may have a step of its own for the
first and for the last iteration; both count.  The number of iterations is found greedily.

* Iteration 0 uses the first step if there is one.  If that one does not match, the repetition is
  empty where the first step is required, and the inner step is used where it is not.
* The inner step is repeated until it does not match, does not advance, or `most` is reached.  An
  iteration that does not advance stands for as many of its kind as `least` still asks for.
* The last step is tried behind the iterations found, then behind ever fewer of them.  The first
  attempt that matches wins.  A last step that is not required must not end before the greedy
  match, where there is one.

No iteration is ever asked for another match of its own.
-/

namespace TextMatch

/-- What the first or the last iteration uses. -/
inductive Edge (alpha : Type) where
  /-- The iteration is like any other. -/
  | absent
  /-- The iteration uses `part` if it can. -/
  | optional (part : alpha)
  /-- The iteration must use `part`. -/
  | required (part : alpha)
deriving DecidableEq, Repr

/-- Whether an edge must be used. -/
def Edge.isRequired {alpha : Type} : Edge alpha → Bool
  | .required _ => true
  | _ => false

/-- A part that is repeated, and how often. -/
structure Repetition (alpha : Type) where
  least : Nat
  most : Option Nat
  inner : alpha
  first : Edge alpha
  last : Edge alpha
deriving DecidableEq, Repr

/-- The cursor behind an iteration, with the captures of the iteration. -/
abbrev Iteration := Cursor × List Capture

namespace Repetition

/-! ## Bounds -/

section Bounds

variable {alpha : Type}

/-- Between `least` and `most` iterations, all alike. -/
def between (least most : Nat) (inner : alpha) : Repetition alpha :=
  ⟨least, some most, inner, .absent, .absent⟩

def atLeast (least : Nat) (inner : alpha) : Repetition alpha :=
  ⟨least, none, inner, .absent, .absent⟩

def exactly (count : Nat) (inner : alpha) : Repetition alpha :=
  between count count inner

def zeroOrMore (inner : alpha) : Repetition alpha :=
  atLeast 0 inner

def oneOrMore (inner : alpha) : Repetition alpha :=
  atLeast 1 inner

/-- Whether `count` iterations are as many as there may be. -/
def isFull (repetition : Repetition alpha) (count : Nat) : Bool :=
  match repetition.most with
  | none => false
  | some most => decide (most ≤ count)

/-- How many iterations are missing from `count`, without regard to those that may not be. -/
def missing (repetition : Repetition alpha) (count : Nat) : Nat :=
  match repetition.most with
  | none => repetition.least - count
  | some most => min repetition.least most - count

/-- The fewest iterations behind which the last step may be tried.  The last iteration counts, and
a required first one is never given up. -/
def fewestBeforeLast (repetition : Repetition alpha) : Nat :=
  if repetition.first.isRequired then
    max (repetition.least - 1) 1
  else
    repetition.least - 1

end Bounds

/-! ## The greedy phase -/

/-- The step that the iteration behind `count` others uses. -/
def stepAfter (repetition : Repetition Step) (count : Nat) : Step :=
  if count = 0 then
    match repetition.first with
    | .absent => repetition.inner
    | .optional first => fun cursor => (first cursor).orElse fun _ => repetition.inner cursor
    | .required first => first
  else
    repetition.inner

/-- The iterations that follow `count` others at a cursor. -/
def iterate (repetition : Repetition Step) (count : Nat) (cursor : Cursor) :
    Outcome (List Iteration) :=
  if repetition.isFull count then
    .matched []
  else
    match repetition.stepAfter count cursor with
    | .failed failure => .failed failure
    | .noMatch => .matched []
    | .matched next =>
        if next.1.remaining < cursor.remaining then
          (repetition.iterate (count + 1) next.1).map fun later => next :: later
        else
          .matched (next :: List.replicate (repetition.missing (count + 1)) next)
termination_by cursor.remaining

/-- The cursor behind the iterations that begin at `entry`. -/
def cursorBehind (entry : Cursor) (iterations : List Iteration) : Cursor :=
  match iterations.getLast? with
  | none => entry
  | some iteration => iteration.1

/-! ## The last iteration -/

/-- Tries the last step behind a trail of iterations, the latest of which comes first. -/
def close (last : Step) (accepts : Cursor → Bool) (cursor : Cursor) (trail : List Iteration) :
    Outcome (Cursor × List (List Capture)) :=
  match last cursor with
  | .failed failure => .failed failure
  | .noMatch => .noMatch
  | .matched (next, captures) =>
      if accepts next then
        .matched (next, (captures :: trail.map Prod.snd).reverse)
      else
        .noMatch

/-- Tries the last step behind a trail of iterations, then behind ever fewer of them: at most
`spare` iterations are given up. -/
def retreat (last : Step) (accepts : Cursor → Bool) (entry : Cursor) :
    (spare : Nat) → (trail : List Iteration) → Outcome (Cursor × List (List Capture))
  | _, [] => close last accepts entry []
  | 0, latest :: earlier => close last accepts latest.1 (latest :: earlier)
  | spare + 1, latest :: earlier =>
      (close last accepts latest.1 (latest :: earlier)).orElse fun _ =>
        retreat last accepts entry spare earlier

/-- Tries the last step behind a list of iterations, of which as many may be given up as
`fewestBeforeLast` allows. -/
def closeBehind (repetition : Repetition Step) (last : Step) (accepts : Cursor → Bool)
    (entry : Cursor) (iterations : List Iteration) : Outcome (Cursor × List (List Capture)) :=
  if iterations.length < repetition.fewestBeforeLast then
    .noMatch
  else
    retreat last accepts entry (iterations.length - repetition.fewestBeforeLast)
      iterations.reverse

/-- Tries the last step behind the iterations found, one of which gives way to it if there are as
many as there may be. -/
def finish (repetition : Repetition Step) (last : Step) (accepts : Cursor → Bool)
    (entry : Cursor) (iterations : List Iteration) : Outcome (Cursor × List (List Capture)) :=
  match repetition.most with
  | none => repetition.closeBehind last accepts entry iterations
  | some 0 => .noMatch
  | some (most + 1) => repetition.closeBehind last accepts entry (iterations.take most)

/-! ## The repetition -/

/-- No iteration at all, if that is enough. -/
def emptyMatch (repetition : Repetition Step) (entry : Cursor) :
    Outcome (Cursor × List (List Capture)) :=
  if repetition.least = 0 then .matched (entry, []) else .noMatch

/-- The iterations found, if they are enough. -/
def greedyMatch (repetition : Repetition Step) (entry : Cursor) (iterations : List Iteration) :
    Outcome (Cursor × List (List Capture)) :=
  if iterations.length < repetition.least then
    .noMatch
  else
    .matched (cursorBehind entry iterations, iterations.map Prod.snd)

/-- Whether an optional last step may end at `next`: it must not lose what the iterations found
have matched. -/
def keepsGreedy (repetition : Repetition Step) (entry : Cursor) (iterations : List Iteration)
    (next : Cursor) : Bool :=
  decide (iterations.length < repetition.least) ||
    decide ((cursorBehind entry iterations).position ≤ next.position)

/-- Chooses the last iteration behind the iterations found. -/
def settle (repetition : Repetition Step) (entry : Cursor) (iterations : List Iteration) :
    Outcome (Cursor × List (List Capture)) :=
  if repetition.first.isRequired && iterations.isEmpty then
    repetition.emptyMatch entry
  else
    match repetition.last with
    | .absent => repetition.greedyMatch entry iterations
    | .optional last =>
        (repetition.finish last (repetition.keepsGreedy entry iterations) entry iterations).orElse
          fun _ => repetition.greedyMatch entry iterations
    | .required last =>
        (repetition.finish last (fun _ => true) entry iterations).orElse
          fun _ => repetition.emptyMatch entry

/-- The cursor behind the repetition, with the captures of every iteration. -/
def run (repetition : Repetition Step) : Cursor → Outcome (Cursor × List (List Capture)) :=
  guarded fun cursor => do
    let iterations ← repetition.iterate 0 cursor
    repetition.settle cursor iterations

def step (repetition : Repetition Step) : Step := fun cursor =>
  (repetition.run cursor).map fun result => (result.1, result.2.flatten)

end Repetition

end TextMatch
