import TextMatch.Capture

/-!
# Descendants

The captures below a capture are visited with a stack of trees, the top of which is visited first.
What is still to come is the preorder of the trees on the stack, from the top down.  It has a capture
for each address in the trees, in the order of the addresses.  A path of names leads from child to
child, and thus to one of the captures that are visited.
-/

namespace TextMatch

namespace Capture

variable {capture found child : Capture} {front back : List Capture}

/-! ## Preorder -/

mutual

/-- A capture, and behind it the preorder of each of its children in turn. -/
def preorder : Capture → List Capture
  | ⟨name, whole, content, children⟩ => ⟨name, whole, content, children⟩ :: preorders children

def preorders : List Capture → List Capture
  | [] => []
  | tree :: trees => tree.preorder ++ preorders trees

end

theorem preorder_eq (capture : Capture) :
    capture.preorder = capture :: preorders capture.children := by
  cases capture
  rw [preorder]

theorem preorders_eq_flatMap (trees : List Capture) :
    preorders trees = trees.flatMap preorder := by
  induction trees with
  | nil => rfl
  | cons tree trees inductionHypothesis =>
      rw [preorders, inductionHypothesis, List.flatMap_cons]

theorem preorders_append (front back : List Capture) :
    preorders (front ++ back) = preorders front ++ preorders back := by
  simp only [preorders_eq_flatMap, List.flatMap_append]

/-- To visit a tree is to visit its root and then the trees below it. -/
theorem preorders_cons (tree : Capture) (trees : List Capture) :
    preorders (tree :: trees) = tree :: preorders (tree.children ++ trees) := by
  rw [preorders, preorder_eq, preorders_append, List.cons_append]

theorem length_visit (stack : List Capture) : (visit stack).length = sizes stack := by
  fun_induction visit stack with
  | case1 => rfl
  | case2 top stack inductionHypothesis =>
      cases top
      simp only [List.length_cons, inductionHypothesis, sizes_append, sizes, size]
      omega

theorem visit_eq_preorders (stack : List Capture) : visit stack = preorders stack := by
  fun_induction visit stack with
  | case1 => rfl
  | case2 top stack inductionHypothesis => rw [inductionHypothesis, preorders_cons]

/-! ## The stack -/

namespace Descendants

/-- The trees that are still to be visited are on the stack, the first one on top. -/
def ofPending (trees : List Capture) : Descendants :=
  ⟨trees.reverse.toArray⟩

theorem next_ofPending_nil : (ofPending []).next = (none, ofPending []) :=
  rfl

/-- The first tree is taken from the stack, and its children are pending before the other trees. -/
theorem next_ofPending_cons (tree : Capture) (trees : List Capture) :
    (ofPending (tree :: trees)).next = (some tree, ofPending (tree.children ++ trees)) := by
  simp [ofPending, next]

theorem drain_of_none {descendants later : Descendants}
    (taken : descendants.next = (none, later)) : descendants.drain = [] := by
  rw [drain]
  split
  · rfl
  · rename_i takenToo
    rw [taken] at takenToo
    simp at takenToo

theorem drain_of_some {descendants later : Descendants}
    (taken : descendants.next = (some capture, later)) :
    descendants.drain = capture :: later.drain := by
  rw [drain]
  split
  · rename_i takenToo
    rw [taken] at takenToo
    simp at takenToo
  · rename_i takenToo
    rw [taken, Prod.mk.injEq, Option.some.injEq] at takenToo
    rw [takenToo.1, takenToo.2]

theorem drain_ofPending (trees : List Capture) : (ofPending trees).drain = visit trees := by
  fun_induction visit trees with
  | case1 => exact drain_of_none next_ofPending_nil
  | case2 top stack inductionHypothesis =>
      rw [drain_of_some (next_ofPending_cons top stack), inductionHypothesis]

/-- What is still to come after so many calls of `next`. -/
def afterCalls : (count : Nat) → Descendants → Descendants
  | 0, descendants => descendants
  | count + 1, descendants => afterCalls count descendants.next.2

/-- One call after the other gives out the preorder of the pending trees, and nothing behind it. -/
theorem next_afterCalls_ofPending (trees : List Capture) (count : Nat) :
    ((ofPending trees).afterCalls count).next.1 = (preorders trees)[count]? := by
  induction count generalizing trees with
  | zero =>
      cases trees with
      | nil => rfl
      | cons tree trees =>
          rw [afterCalls, next_ofPending_cons, preorders_cons, List.getElem?_cons_zero]
  | succ count inductionHypothesis =>
      cases trees with
      | nil =>
          rw [afterCalls, next_ofPending_nil, inductionHypothesis, preorders]
          rfl
      | cons tree trees =>
          rw [afterCalls, next_ofPending_cons, inductionHypothesis, preorders_cons,
            List.getElem?_cons_succ]

end Descendants

theorem descendants_eq_preorders (capture : Capture) :
    capture.descendants = preorders capture.children := by
  rw [descendants, Descendants.below, ← Descendants.ofPending, Descendants.drain_ofPending,
    visit_eq_preorders]

theorem length_descendants (capture : Capture) :
    capture.descendants.length + 1 = capture.size := by
  rw [descendants_eq_preorders, ← visit_eq_preorders, length_visit]
  cases capture
  rw [size]

theorem mem_descendants_of_mem_preorder (isChild : child ∈ capture.children)
    (member : found ∈ child.preorder) : found ∈ capture.descendants := by
  rw [descendants_eq_preorders, preorders_eq_flatMap]
  exact List.mem_flatMap.mpr ⟨child, isChild, member⟩

/-! ## Addresses -/

/-- The capture at an address, which says for each level which child to take. -/
def nodeAt? (capture : Capture) : (address : List Nat) → Option Capture
  | [] => some capture
  | index :: address =>
      match capture.children[index]? with
      | none => none
      | some child => child.nodeAt? address

mutual

/-- The addresses of a capture and of those below it. -/
def addresses : Capture → List (List Nat)
  | ⟨_, _, _, children⟩ => [] :: addressesFrom 0 children

/-- The addresses in the trees from the child at `first` on. -/
def addressesFrom (first : Nat) : List Capture → List (List Nat)
  | [] => []
  | tree :: trees => tree.addresses.map (first :: ·) ++ addressesFrom (first + 1) trees

end

theorem addresses_eq (capture : Capture) :
    capture.addresses = [] :: addressesFrom 0 capture.children := by
  cases capture
  rw [addresses]

theorem mem_addressesFrom_iff {address : List Nat} {first : Nat} {trees : List Capture} :
    address ∈ addressesFrom first trees ↔ ∃ index rest tree,
      address = (first + index) :: rest ∧ trees[index]? = some tree ∧ rest ∈ tree.addresses := by
  induction trees generalizing first with
  | nil => simp [addressesFrom]
  | cons tree trees inductionHypothesis =>
      rw [addressesFrom, List.mem_append, inductionHypothesis, List.mem_map]
      constructor
      · intro member
        rcases member with ⟨rest, isAddress, same⟩ | ⟨index, rest, other, same, isTree, isAddress⟩
        · exact ⟨0, rest, tree, same.symm, rfl, isAddress⟩
        · exact ⟨index + 1, rest, other, by rw [same]; congr 1; omega, isTree, isAddress⟩
      · intro member
        rcases member with ⟨index, rest, other, same, isTree, isAddress⟩
        cases index with
        | zero =>
            rw [List.getElem?_cons_zero, Option.some.injEq] at isTree
            rw [← isTree] at isAddress
            exact Or.inl ⟨rest, isAddress, same.symm⟩
        | succ index =>
            rw [List.getElem?_cons_succ] at isTree
            exact Or.inr ⟨index, rest, other, by rw [same]; congr 1; omega, isTree, isAddress⟩

/-- The addresses of the captures are all addresses where there is one. -/
theorem mem_addresses_iff {address : List Nat} :
    address ∈ capture.addresses ↔ (capture.nodeAt? address).isSome = true := by
  induction address generalizing capture with
  | nil => simp [addresses_eq, nodeAt?]
  | cons index rest inductionHypothesis =>
      rw [addresses_eq, List.mem_cons, mem_addressesFrom_iff, nodeAt?]
      cases isChild : capture.children[index]? with
      | none => simp [isChild]
      | some child =>
          dsimp only
          rw [← inductionHypothesis]
          constructor
          · intro member
            rcases member with same | ⟨place, address, tree, same, isTree, isAddress⟩
            · contradiction
            · rw [Nat.zero_add, List.cons.injEq] at same
              rw [same.1, isTree, Option.some.injEq] at isChild
              rw [← isChild, same.2]
              exact isAddress
          · intro isAddress
            exact Or.inr ⟨index, rest, child, by rw [Nat.zero_add], isChild, isAddress⟩

/-- The addresses of the captures below a capture are all but its own. -/
theorem mem_addresses_below_iff {address : List Nat} :
    address ∈ addressesFrom 0 capture.children ↔
      address ≠ [] ∧ (capture.nodeAt? address).isSome = true := by
  rw [← mem_addresses_iff, addresses_eq, List.mem_cons]
  constructor
  · intro member
    refine ⟨?_, Or.inr member⟩
    intro isRoot
    rcases mem_addressesFrom_iff.mp member with ⟨index, rest, tree, same, -, -⟩
    rw [isRoot] at same
    contradiction
  · intro member
    exact member.2.resolve_left member.1

mutual

theorem pairwise_addresses : ∀ capture : Capture, capture.addresses.Pairwise (List.Lex (· < ·))
  | ⟨_, _, _, children⟩ => by
      rw [addresses, List.pairwise_cons]
      refine ⟨?_, pairwise_addressesFrom 0 children⟩
      intro address member
      rcases mem_addressesFrom_iff.mp member with ⟨index, rest, tree, same, -, -⟩
      rw [same]
      exact .nil

theorem pairwise_addressesFrom :
    ∀ (first : Nat) (trees : List Capture),
      (addressesFrom first trees).Pairwise (List.Lex (· < ·))
  | _, [] => by
      rw [addressesFrom]
      exact .nil
  | first, tree :: trees => by
      rw [addressesFrom, List.pairwise_append, List.pairwise_map]
      refine ⟨(pairwise_addresses tree).imp .cons, pairwise_addressesFrom (first + 1) trees, ?_⟩
      intro inTree isInTree behind isBehind
      rcases List.mem_map.mp isInTree with ⟨rest, -, same⟩
      rcases mem_addressesFrom_iff.mp isBehind with ⟨index, behindRest, other, behindEq, -, -⟩
      rw [← same, behindEq]
      exact .rel (by omega)

end

mutual

theorem map_nodeAt?_addresses :
    ∀ capture : Capture, capture.addresses.map capture.nodeAt? = capture.preorder.map some
  | ⟨name, whole, content, children⟩ => by
      rw [addresses, preorder, List.map_cons, List.map_cons,
        map_nodeAt?_addressesFrom 0 children ⟨name, whole, content, children⟩ rfl]
      rfl

theorem map_nodeAt?_addressesFrom :
    ∀ (first : Nat) (trees : List Capture) (capture : Capture),
      trees = capture.children.drop first →
      (addressesFrom first trees).map capture.nodeAt? = (preorders trees).map some
  | _, [], _, _ => by
      rw [addressesFrom, preorders, List.map_nil, List.map_nil]
  | first, tree :: trees, capture, isRest => by
      have isChild : capture.children[first]? = some tree := by
        rw [← List.head?_drop, ← isRest, List.head?_cons]
      have inTree : capture.nodeAt? ∘ (first :: ·) = tree.nodeAt? := by
        funext address
        rw [Function.comp_apply, nodeAt?, isChild]
      have behind : trees = capture.children.drop (first + 1) := by
        rw [← List.tail_drop, ← isRest, List.tail_cons]
      rw [addressesFrom, preorders, List.map_append, List.map_append, List.map_map, inTree,
        map_nodeAt?_addresses tree, map_nodeAt?_addressesFrom (first + 1) trees capture behind]

end

/-! ## Paths -/

theorem namesOfPath_ne_nil (path : List Char) : namesOfPath path ≠ [] := by
  fun_induction namesOfPath path <;> simp

theorem namesOfPath_of_not_mem {path : List Char} (single : '.' ∉ path) :
    namesOfPath path = [path] := by
  fun_induction namesOfPath path with
  | case1 => rfl
  | case2 rest inductionHypothesis => simp at single
  | case3 char rest notDot empty inductionHypothesis => exact absurd empty (namesOfPath_ne_nil rest)
  | case4 char rest notDot name names split inductionHypothesis =>
      rw [split] at inductionHypothesis
      have same := inductionHypothesis (fun member => single (List.mem_cons_of_mem char member))
      simp_all

theorem namesOfPath_append (front back : List Char) :
    namesOfPath (front ++ '.' :: back) = namesOfPath front ++ namesOfPath back := by
  fun_induction namesOfPath front with
  | case1 => simp [namesOfPath]
  | case2 rest inductionHypothesis => simp [namesOfPath, inductionHypothesis]
  | case3 char rest notDot empty inductionHypothesis => exact absurd empty (namesOfPath_ne_nil rest)
  | case4 char rest notDot name names split inductionHypothesis =>
      simp_all [namesOfPath]

theorem follow?_append (capture : Capture) (front back : List String) :
    capture.follow? (front ++ back) =
      (capture.follow? front).bind fun found => found.follow? back := by
  induction front generalizing capture with
  | nil => rfl
  | cons name names inductionHypothesis =>
      rw [List.cons_append, follow?, follow?]
      cases capture.child? name with
      | none => rfl
      | some child => exact inductionHypothesis child

theorem exists_child_of_follow? {name : String} {names : List String}
    (leads : capture.follow? (name :: names) = some found) :
    ∃ child ∈ capture.children, child.follow? names = some found := by
  rw [follow?] at leads
  cases isFirst : capture.child? name with
  | none =>
      rw [isFirst] at leads
      contradiction
  | some child =>
      rw [isFirst] at leads
      exact ⟨child, List.mem_of_find?_eq_some isFirst, leads⟩

theorem mem_preorder_of_follow? {names : List String}
    (leads : capture.follow? names = some found) : found ∈ capture.preorder := by
  rw [preorder_eq, ← descendants_eq_preorders]
  induction names generalizing capture with
  | nil =>
      rw [follow?, Option.some.injEq] at leads
      rw [leads]
      exact List.mem_cons_self
  | cons name names inductionHypothesis =>
      rcases exists_child_of_follow? leads with ⟨child, isChild, leads⟩
      have inChild := inductionHypothesis leads
      rw [descendants_eq_preorders, ← preorder_eq] at inChild
      exact List.mem_cons_of_mem capture (mem_descendants_of_mem_preorder isChild inChild)

/-- The names of a path lead on from where the names before them lead. -/
theorem get?_append (capture : Capture) (front back : String) :
    capture.get? (front ++ "." ++ back) =
      (capture.get? front).bind fun found => found.get? back := by
  have names : (front ++ "." ++ back).toList = front.toList ++ '.' :: back.toList := by
    simp
  rw [get?, names, namesOfPath_append, List.map_append, follow?_append]
  rfl

theorem get?_of_not_mem {name : String} (single : '.' ∉ name.toList) :
    capture.get? name = capture.child? name := by
  rw [get?, namesOfPath_of_not_mem single, List.map_singleton, String.ofList_toList, follow?]
  cases capture.child? name with
  | none => rfl
  | some child => rfl

/-- The first child with a name is the one that has no child of that name before it. -/
theorem child?_eq_some_iff {name : String} :
    capture.child? name = some found ↔ ∃ before behind,
      capture.children = before ++ found :: behind ∧ found.name = name ∧
        ∀ child ∈ before, child.name ≠ name := by
  rw [child?, List.find?_eq_some_iff_append]
  simp only [beq_iff_eq, Bool.not_eq_eq_eq_not, Bool.not_true, beq_eq_false_iff_ne]
  constructor
  · intro isFirst
    rcases isFirst with ⟨named, before, behind, childrenEq, others⟩
    exact ⟨before, behind, childrenEq, named, others⟩
  · intro isFirst
    rcases isFirst with ⟨before, behind, childrenEq, named, others⟩
    exact ⟨named, before, behind, childrenEq, others⟩

theorem mem_descendants_of_get? {path : String} (leads : capture.get? path = some found) :
    found ∈ capture.descendants := by
  rw [get?] at leads
  cases names : namesOfPath path.toList with
  | nil => exact absurd names (namesOfPath_ne_nil path.toList)
  | cons name later =>
      rw [names, List.map_cons] at leads
      rcases exists_child_of_follow? leads with ⟨child, isChild, leads⟩
      exact mem_descendants_of_mem_preorder isChild (mem_preorder_of_follow? leads)

end Capture

open Capture (preorder Descendants)

/-- The captures below a capture come in preorder, one with each call of `next`, and there are as
many as the tree has nodes besides its root: they stand at all the addresses in the tree, and their
addresses ascend.  A path leads on from where its first names lead, a single name to the first child
of that name, and both to one of these captures. -/
theorem descendants_come_in_preorder (capture : Capture) :
    capture.descendants = capture.children.flatMap preorder ∧
      (∀ count, ((Descendants.below capture).afterCalls count).next.1 =
        capture.descendants[count]?) ∧
      capture.descendants.length + 1 = capture.size ∧
      (∃ addresses : List (List Nat), addresses.Pairwise (List.Lex (· < ·)) ∧
        (∀ address, address ∈ addresses ↔
          address ≠ [] ∧ (capture.nodeAt? address).isSome = true) ∧
        capture.descendants.map some = addresses.map capture.nodeAt?) ∧
      (∀ front back : String, capture.get? (front ++ "." ++ back) =
        (capture.get? front).bind fun found => found.get? back) ∧
      (∀ name : String, '.' ∉ name.toList → ∀ found, capture.get? name = some found ↔
        ∃ before behind, capture.children = before ++ found :: behind ∧ found.name = name ∧
          ∀ child ∈ before, child.name ≠ name) ∧
      ∀ path found, capture.get? path = some found → found ∈ capture.descendants := by
  have inPreorder := capture.descendants_eq_preorders
  refine ⟨?_, ?_, capture.length_descendants, ?_, capture.get?_append, ?_, ?_⟩
  · rw [inPreorder, Capture.preorders_eq_flatMap]
  · intro count
    rw [inPreorder]
    exact Descendants.next_afterCalls_ofPending capture.children count
  · refine ⟨Capture.addressesFrom 0 capture.children, Capture.pairwise_addressesFrom _ _,
      fun address => Capture.mem_addresses_below_iff, ?_⟩
    rw [inPreorder, Capture.map_nodeAt?_addressesFrom 0 capture.children capture rfl]
  · intro name single found
    rw [Capture.get?_of_not_mem single]
    exact Capture.child?_eq_some_iff
  · exact fun path found leads => Capture.mem_descendants_of_get? leads

theorem descendants_come_in_preorder_of_entries :
    let leaf := fun name text => Capture.mk name (View.ofString text) (View.ofString text) []
    let entry := fun key value text => Capture.mk "entry" (View.ofString text)
      (View.ofString text) [leaf "key" key, leaf "value" value]
    let document := Capture.mk "document" (View.ofString "a=b;c=d") (View.ofString "a=b;c=d")
      [entry "a" "b" "a=b", entry "c" "d" "c=d"]
    document.descendants =
        [entry "a" "b" "a=b", leaf "key" "a", leaf "value" "b",
          entry "c" "d" "c=d", leaf "key" "c", leaf "value" "d"] ∧
      '.' ∉ "entry".toList ∧ document.get? "entry" = some (entry "a" "b" "a=b") ∧
      document.get? "entry.value" = some (leaf "value" "b") ∧
      leaf "value" "b" ∈ document.descendants := by
  intro leaf entry document
  rcases descendants_come_in_preorder document with ⟨inPreorder, -, -, -, -, single, below⟩
  have noDot : '.' ∉ "entry".toList := by decide
  have leadsToEntry := (single "entry" noDot (entry "a" "b" "a=b")).mpr
    ⟨[], [entry "c" "d" "c=d"], rfl, rfl, by simp⟩
  have leadsToValue : document.get? "entry.value" = some (leaf "value" "b") := rfl
  exact ⟨inPreorder, noDot, leadsToEntry, leadsToValue, below _ _ leadsToValue⟩

end TextMatch
