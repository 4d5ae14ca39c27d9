import TextMatch.Text.View

/-!
# Captures

A capture is the named text of one part of a match, with the captures of the parts inside it.  It
spans its content and, behind it, the ghost that ended the part.
-/

namespace TextMatch

/-- A node of the tree of captures. -/
structure Capture where
  name : String
  /-- The text of the part and of the ghost behind it. -/
  whole : View
  content : View
  /-- The captures inside the part, in the order in which they matched. -/
  children : List Capture

namespace Capture

def text (capture : Capture) : String :=
  capture.content.text

/-! ## Children -/

def child? (capture : Capture) (name : String) : Option Capture :=
  capture.children.find? fun child => child.name == name

/-- All children with a name, in the order in which they matched. -/
def childrenNamed (capture : Capture) (name : String) : List Capture :=
  capture.children.filter fun child => child.name == name

/-- The names of a path, which are separated by dots. -/
def namesOfPath : List Char → List (List Char)
  | [] => [[]]
  | '.' :: rest => [] :: namesOfPath rest
  | char :: rest =>
      match namesOfPath rest with
      | [] => [[char]]
      | name :: names => (char :: name) :: names

/-- The capture that a sequence of names leads to, from child to child. -/
def follow? (capture : Capture) : List String → Option Capture
  | [] => some capture
  | name :: names =>
      match capture.child? name with
      | none => none
      | some child => child.follow? names

/-- The capture that a path leads to. -/
def get? (capture : Capture) (path : String) : Option Capture :=
  capture.follow? ((namesOfPath path.toList).map String.ofList)

/-! ## Descendants -/

mutual

def size : Capture → Nat
  | ⟨_, _, _, children⟩ => sizes children + 1

def sizes : List Capture → Nat
  | [] => 0
  | capture :: rest => capture.size + sizes rest

end

theorem sizes_append (left right : List Capture) :
    sizes (left ++ right) = sizes left + sizes right := by
  induction left with
  | nil => simp [sizes]
  | cons head tail inductionHypothesis =>
      simp [sizes, inductionHypothesis, Nat.add_assoc]

/-- Visits the captures of a stack of trees: the top of the stack is visited and gives way to its
children. -/
def visit : (stack : List Capture) → List Capture
  | [] => []
  | capture :: stack => capture :: visit (capture.children ++ stack)
termination_by stack => sizes stack
decreasing_by
  cases capture
  simp [sizes, size, sizes_append]

theorem sizes_reverse (trees : List Capture) : sizes trees.reverse = sizes trees := by
  induction trees with
  | nil => rfl
  | cons head tail inductionHypothesis =>
      simp [sizes, sizes_append, inductionHypothesis, Nat.add_comm]

/-- The captures that are still to be visited: a stack of trees, the top of which is its last
item. -/
structure Descendants where
  stack : Array Capture

namespace Descendants

/-- The captures below one of them.  The first child is on top of the stack. -/
def below (capture : Capture) : Descendants :=
  ⟨capture.children.reverse.toArray⟩

/-- The next capture, if there is one.  It is taken from the top of the stack and gives way to its
children. -/
def next (descendants : Descendants) : Option Capture × Descendants :=
  match descendants.stack.back? with
  | none => (none, descendants)
  | some capture => (some capture, ⟨descendants.stack.pop ++ capture.children.reverse⟩)

/-- Behind a capture that was taken, there are fewer captures to visit. -/
theorem sizes_of_next {descendants later : Descendants} {capture : Capture}
    (taken : descendants.next = (some capture, later)) :
    sizes later.stack.toList < sizes descendants.stack.toList := by
  rw [next] at taken
  split at taken
  · simp at taken
  · rename_i top isTop
    obtain ⟨stack, pushed⟩ := Array.back?_eq_some_iff.mp isTop
    simp only [Prod.mk.injEq, Option.some.injEq] at taken
    rw [← taken.2, pushed]
    cases top
    simp [sizes, size, sizes_append, sizes_reverse]

/-- All captures that are still to be visited, in the order in which they come. -/
def drain (descendants : Descendants) : List Capture :=
  match _taken : descendants.next with
  | (none, _) => []
  | (some capture, later) => capture :: later.drain
termination_by sizes descendants.stack.toList
decreasing_by exact sizes_of_next _taken

end Descendants

/-- Every capture below this one, each before those inside it, in the order in which they
matched. -/
def descendants (capture : Capture) : List Capture :=
  (Descendants.below capture).drain

/-! ## Comparison -/

mutual

/-- Whether two captures have the same name, texts and children, wherever they lie. -/
def sameContent : Capture → Capture → Bool
  | ⟨leftName, leftWhole, leftContent, leftChildren⟩, right =>
      leftName == right.name && leftWhole.sameContent right.whole &&
        leftContent.sameContent right.content && sameContents leftChildren right.children

def sameContents : List Capture → List Capture → Bool
  | [], [] => true
  | left :: lefts, right :: rights => left.sameContent right && sameContents lefts rights
  | _, _ => false

end

end Capture

end TextMatch
