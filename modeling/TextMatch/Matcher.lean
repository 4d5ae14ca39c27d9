import TextMatch.Repetition

/-!
# Matchers and patterns

Matchers and patterns are descriptions of text.  A matcher says what may stand at a place; a
pattern also says which parts of it are captured.  Each may be built from the other: a pattern that
is used as a matcher forgets its captures, except where a group is put around it.

This module has the two languages and their meaning as steps.
-/

namespace TextMatch

mutual

/-- A description of text. -/
inductive Matcher where
  | codePoint (members : CodePointClass)
  | anchor (anchor : Anchor)
  /-- The longest word of a set. -/
  | literals (set : LiteralSet)
  | sequence (parts : List Matcher)
  | firstOf (choices : List Matcher)
  | optional (inner : Matcher)
  /-- Nothing, where the inner matcher does not match. -/
  | negation (inner : Matcher)
  | repetition (repetition : Repetition Matcher)
  /-- Nothing, where the inner matcher matches. -/
  | ahead (inner : Matcher)
  /-- Nothing, behind a code point of a class. -/
  | behind (members : CodePointClass)
  /-- Nothing, behind one of the words. -/
  | behindWord (words : List (List Char))
  /-- The text of the inner matcher as a ghost. -/
  | ghost (inner : Matcher)
  /-- The inner matcher, with whatever it captures. -/
  | delegate (inner : Matcher)
  | pattern (pattern : Pattern)

/-- A description of text and of the captures in it. -/
inductive Pattern where
  | group (group : Group)
  /-- A matcher, without captures. -/
  | unnamed (matcher : Matcher)
  | sequence (parts : List Pattern)
  | firstOf (choices : List Pattern)
  | optional (inner : Pattern)
  | repetition (repetition : Repetition Pattern)

/-- A description of text that is captured under a name. -/
inductive Group where
  /-- A group around a matcher.  If the matcher is a pattern, the group has its captures inside. -/
  | around (name : String) (matcher : Matcher)
  /-- A group around a pattern, which has the captures of the pattern inside. -/
  | nested (name : String) (pattern : Pattern)

end

/-! ## Meaning -/

mutual

/-- The step of a matcher.  Its captures are those that a group around the matcher has inside:
none, unless the matcher is a pattern. -/
def Matcher.step : Matcher → Step
  | .codePoint members => Step.codePoint members
  | .anchor anchor => Step.require anchor.holds
  | .literals set => Step.literals set
  | .sequence parts => (Step.sequence (Matcher.steps parts)).silent
  | .firstOf choices => (Step.firstOf (Matcher.steps choices)).silent
  | .optional inner => (Step.optional inner.step).silent
  | .negation inner => Step.negation inner.step
  | .repetition repetition => (Matcher.repetitionOfSteps repetition).step.silent
  | .ahead inner => Step.ahead inner.step
  | .behind members => Step.behind members
  | .behindWord words => Step.behindWord words
  | .ghost inner => Step.ghost inner.step
  | .delegate inner => inner.step
  | .pattern pattern => pattern.step

def Matcher.steps : List Matcher → List Step
  | [] => []
  | first :: rest => first.step :: Matcher.steps rest

def Matcher.repetitionOfSteps : Repetition Matcher → Repetition Step
  | ⟨least, most, inner, first, last⟩ =>
      ⟨least, most, inner.step, Matcher.edgeOfSteps first, Matcher.edgeOfSteps last⟩

def Matcher.edgeOfSteps : Edge Matcher → Edge Step
  | .absent => .absent
  | .optional part => .optional part.step
  | .required part => .required part.step

/-- The step of a pattern, with its captures. -/
def Pattern.step : Pattern → Step
  | .group group => fun cursor =>
      (group.capture cursor).map fun result => (result.1, [result.2])
  | .unnamed matcher => matcher.step.silent
  | .sequence parts => Step.sequence (Pattern.steps parts)
  | .firstOf choices => Step.firstOf (Pattern.steps choices)
  | .optional inner => Step.optional inner.step
  | .repetition repetition => (Pattern.repetitionOfSteps repetition).step

def Pattern.steps : List Pattern → List Step
  | [] => []
  | first :: rest => first.step :: Pattern.steps rest

def Pattern.repetitionOfSteps : Repetition Pattern → Repetition Step
  | ⟨least, most, inner, first, last⟩ =>
      ⟨least, most, inner.step, Pattern.edgeOfSteps first, Pattern.edgeOfSteps last⟩

def Pattern.edgeOfSteps : Edge Pattern → Edge Step
  | .absent => .absent
  | .optional part => .optional part.step
  | .required part => .required part.step

/-- Matches a group at a cursor and records its capture. -/
def Group.capture : Group → Cursor → Outcome (Cursor × Capture)
  | .around name matcher => Step.group name matcher.step
  | .nested name pattern => Step.group name pattern.step

end

/-! ## Matching -/

def Matcher.run (matcher : Matcher) (cursor : Cursor) : Outcome Cursor :=
  (matcher.step cursor).map Prod.fst

/-- Matches a repetition at a cursor and counts the iterations. -/
def Matcher.count (repetition : Repetition Matcher) (cursor : Cursor) : Outcome (Cursor × Nat) :=
  ((Matcher.repetitionOfSteps repetition).run cursor).map fun result =>
    (result.1, result.2.length)

/-- Whether a text begins with a match, of whatever length. -/
def Matcher.matchesStart (matcher : Matcher) (text : String) : Except Failure Bool := do
  let found ← (matcher.run (Cursor.ofView (View.ofString text))).toExcept
  return found.isSome

/-- Whether the match at the beginning of a text reaches its end. -/
def Matcher.matchesAll (matcher : Matcher) (text : String) : Except Failure Bool := do
  let found ← (matcher.run (Cursor.ofView (View.ofString text))).toExcept
  return found.any Cursor.isAtEnd

/-- The capture of a group at the beginning of a text. -/
def Group.captureStart (group : Group) (view : View) : Outcome Capture :=
  (group.capture (Cursor.ofView view)).map Prod.snd

/-- The boundary between a code point of a class and anything else, or the end of the text. -/
def Matcher.boundary (members : CodePointClass) : Matcher :=
  .firstOf [
    .sequence [.behind members, .negation (.codePoint members)],
    .sequence [.negation (.behind members), .ahead (.codePoint members)]]

end TextMatch
