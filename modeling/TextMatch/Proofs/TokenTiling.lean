import TextMatch.Proofs.TokenLoop

/-!
# How tokens tile a text

The tokens that a finder cuts a text into lie one behind the other and cover the text, or the part of
it before the search that failed.  No token ends inside a surrogate pair, so that the texts of the
tokens join to the text itself.
-/

namespace TextMatch.Finder

open Cursor

/-! ## Tilings -/

/-- What is known of a token that spans the units `first..last` of a view. -/
structure Cuts (finder : Finder) (view : View) (first last : Nat) (token : Token) : Prop where
  nonempty : first < last
  boundary : view.IsBoundary last
  sliced : view.slice first last = .ok token.text
  category : token.category = finder.category
  matched : token.kind = .found →
    ∃ next, finder.matcher.run (fresh view first) = .matched next ∧ next.captureEnd = last
  missed : token.kind = .fragment →
    ∀ place, first ≤ place → place < last → view.IsBoundary place →
      finder.matcher.run (fresh view place) = .noMatch
  missedEnd : token.kind = .fragment → last = view.length →
    finder.matcher.run (fresh view last) = .noMatch

/-- The tokens span the units `first..last` of a view, one behind the other, and no fragment follows
another one. -/
inductive Tiling (finder : Finder) (view : View) : Nat → List Token → Nat → Prop
  | nil (offset : Nat) : Tiling finder view offset [] offset
  | cons {first middle last : Nat} {token : Token} {tokens : List Token} :
      Cuts finder view first middle token →
      (∀ later, tokens.head? = some later → token.kind = .fragment → later.kind = .found) →
      Tiling finder view middle tokens last → Tiling finder view first (token :: tokens) last

/-- Why the searches from an offset on fail: the matcher fails at the first place where it does not
miss, or matches there without capturing anything. -/
inductive Breaks (finder : Finder) (view : View) (offset : Nat) : Failure → Prop
  | matcher {place : Nat} {failure : Failure} :
      Visits view offset place → Misses finder.matcher view offset place →
      finder.matcher.run (fresh view place) = .failed failure → GhostFailure view failure →
      Breaks finder view offset failure
  | zeroWidth {place : Nat} {next : Cursor} :
      Visits view offset place → Misses finder.matcher view offset place →
      finder.matcher.run (fresh view place) = .matched next → next.captureEnd = place →
      Breaks finder view offset (.zeroWidthMatch place)

/-- What is given out from an offset on. -/
inductive Reads (finder : Finder) (view : View) (offset : Nat) : List TokenStream.Item → Prop
  | whole {tokens : List Token} :
      Tiling finder view offset tokens view.length →
      Reads finder view offset (tokens.map .ok)
  | broken {tokens : List Token} {last : Nat} {failure : Failure} :
      Tiling finder view offset tokens last → last < view.length →
      Breaks finder view last failure →
      Reads finder view offset (tokens.map .ok ++ [.error failure])

variable {finder : Finder} {view : View}

/-! ## The text of a tiling -/

/-- The tokens of a tiling join to the slice that they cover. -/
theorem Tiling.join {first last : Nat} {tokens : List Token}
    (tiling : Tiling finder view first tokens last) (inside : first ≤ view.length) :
    ∃ whole, view.slice first last = .ok whole ∧
      tokens.flatMap (fun token => token.text.units) = whole.units ∧
      String.join (tokens.map fun token => token.text.text) = whole.text := by
  induction tiling with
  | nil offset =>
      obtain ⟨whole, sliced⟩ := View.exists_slice (Nat.le_refl offset) inside
      have noUnits : whole.units = [] := by
        rw [View.units_of_slice sliced, Nat.sub_self, List.take_zero]
      refine ⟨whole, sliced, ?_, ?_⟩
      · rw [noUnits]
        rfl
      · rw [View.text, noUnits]
        rfl
  | cons cuts _ rest inductionHypothesis =>
      have middleInside := (View.bounds_of_slice cuts.sliced).2
      obtain ⟨back, backSliced, unitsEq, textEq⟩ := inductionHypothesis middleInside
      have bounds := View.bounds_of_slice backSliced
      obtain ⟨whole, sliced⟩ := View.exists_slice
        (Nat.le_trans (Nat.le_of_lt cuts.nonempty) bounds.1) bounds.2
      refine ⟨whole, sliced, ?_, ?_⟩
      · rw [List.flatMap_cons, unitsEq, View.units_of_slices cuts.sliced backSliced sliced]
      · rw [List.map_cons, String.join_cons, textEq,
          View.text_of_slices cuts.sliced backSliced sliced cuts.boundary]

/-! ## The tokens of one search -/

variable {offset place : Nat} {fragment captured : View} {next : Cursor}

theorem isBoundary_of_visits (boundary : view.IsBoundary offset)
    (visits : Visits view offset place) : view.IsBoundary place := by
  rcases visits.boundary with here | behind
  · rw [here]
    exact boundary
  · exact behind

/-- A fragment is tried at every boundary in it. -/
theorem cuts_fragment (visits : Visits view offset place)
    (boundary : view.IsBoundary place) (nonempty : offset < place)
    (misses : Misses finder.matcher view offset place)
    (missedEnd : place = view.length → finder.matcher.run (fresh view place) = .noMatch)
    (sliced : view.slice offset place = .ok fragment) :
    Cuts finder view offset place ⟨finder.category, .fragment, fragment⟩ where
  nonempty := nonempty
  boundary := boundary
  sliced := sliced
  category := rfl
  matched := fun isFound => TokenKind.noConfusion isFound
  missed := by
    intro _ earlier notBefore before isBoundary
    apply misses earlier _ before
    exact {
      origin_le := notBefore
      le_length := Nat.le_trans (Nat.le_of_lt before) visits.le_length
      boundary := Or.inr isBoundary }
  missedEnd := fun _ atEnd => missedEnd atEnd

theorem cuts_found (boundary : view.IsBoundary place) (inside : place ≤ view.length)
    (matched : finder.matcher.run (fresh view place) = .matched next)
    (notEmpty : next.isEmptyMatch = false) (capturedEq : next.captured = .ok captured) :
    Cuts finder view place next.captureEnd ⟨finder.category, .found, captured⟩ where
  nonempty := lt_captureEnd_of_not_isEmptyMatch (reached_of_run inside matched) notEmpty
  boundary := ((reached_of_run inside matched).boundaries boundary).1
  sliced := by
    rw [← captured_of_reached (reached_of_run inside matched)]
    exact capturedEq
  category := rfl
  matched := fun _ => ⟨next, matched, rfl⟩
  missed := fun isFragment => TokenKind.noConfusion isFragment
  missedEnd := fun isFragment => TokenKind.noConfusion isFragment

theorem Tiling.cons_match {last : Nat} {tokens : List Token} (boundary : view.IsBoundary offset)
    (visits : Visits view offset place) (misses : Misses finder.matcher view offset place)
    (matched : finder.matcher.run (fresh view place) = .matched next)
    (sliced : view.slice offset place = .ok fragment)
    (notEmpty : next.isEmptyMatch = false) (capturedEq : next.captured = .ok captured)
    (rest : Tiling finder view next.captureEnd tokens last) :
    Tiling finder view offset (finder.matchTokens fragment captured ++ tokens) last := by
  have placeBoundary := isBoundary_of_visits boundary visits
  have found := cuts_found placeBoundary visits.le_length matched notEmpty capturedEq
  have withFound : Tiling finder view place
      (⟨finder.category, .found, captured⟩ :: tokens) last :=
    .cons found (fun _ _ isFragment => TokenKind.noConfusion isFragment) rest
  rw [matchTokens, fragmentTokens]
  by_cases isEmpty : fragment.isEmpty = true
  · have same := (View.isEmpty_iff_of_slice sliced).mp isEmpty
    subst place
    simp only [isEmpty, if_true]
    exact withFound
  · have ordered := visits.origin_le
    have differ : offset ≠ place := by
      rw [ne_eq, ← View.isEmpty_iff_of_slice sliced]
      exact isEmpty
    have captureInside := (View.bounds_of_slice found.sliced).2
    have notAtEnd : place ≠ view.length := by
      have nonempty := found.nonempty
      omega
    simp only [isEmpty]
    apply Tiling.cons (cuts_fragment visits placeBoundary (by omega) misses _ sliced) _ withFound
    · intro atEnd
      contradiction
    · intro later isHead _
      simp only [List.head?_cons, Option.some.injEq] at isHead
      rw [← isHead]

theorem tiling_rest (inside : offset < view.length)
    (misses : Misses finder.matcher view offset (view.length + 1))
    (sliced : view.slice offset view.length = .ok fragment) :
    Tiling finder view offset (finder.fragmentTokens fragment) view.length := by
  have visitsEnd : Visits view offset view.length :=
    ⟨Nat.le_of_lt inside, Nat.le_refl _, Or.inr View.isBoundary_length⟩
  have missesBefore : Misses finder.matcher view offset view.length :=
    fun earlier visits before => misses earlier visits (Nat.lt_succ_of_lt before)
  have missedEnd := misses view.length visitsEnd (Nat.lt_succ_self _)
  have cuts := cuts_fragment visitsEnd View.isBoundary_length inside missesBefore
    (fun _ => missedEnd) sliced
  have notEmpty : ¬fragment.isEmpty = true := by
    rw [View.isEmpty_iff_of_slice sliced]
    omega
  simp only [fragmentTokens, notEmpty]
  apply Tiling.cons cuts _ (.nil _)
  intro later isHead
  contradiction

/-! ## All tokens -/

theorem Reads.prepend {first middle : Nat} {front : List Token} {items : List TokenStream.Item}
    (reads : Reads finder view middle items)
    (extend : ∀ {tokens last}, Tiling finder view middle tokens last →
      Tiling finder view first (front ++ tokens) last) :
    Reads finder view first (front.map .ok ++ items) := by
  cases reads with
  | whole tiling =>
      rw [← List.map_append]
      exact .whole (extend tiling)
  | broken tiling inside breaks =>
      rw [← List.append_assoc, ← List.map_append]
      exact .broken (extend tiling) inside breaks

theorem reads_of_loop {items : List TokenStream.Item} (loop : Loop finder view offset items)
    (boundary : view.IsBoundary offset) (notBehind : offset ≤ view.length) :
    Reads finder view offset items := by
  -- A search that starts at a boundary finds a match whose capture ends at one.
  induction loop with
  | finished outside =>
      obtain rfl := Nat.le_antisymm notBehind outside
      exact .whole (.nil _)
  | @failed offset failure inside failed =>
      have result := find_result finder (Nat.le_of_lt inside)
      rw [failed] at result
      cases result with
      | failed visits misses failed =>
          have ghost := ghostFailure_of_run visits.le_length failed
          exact .broken (.nil _) inside (.matcher visits misses failed ghost)
  | @rest offset fragment inside absent =>
      have result := find_result finder (Nat.le_of_lt inside)
      rw [absent] at result
      cases result with
      | absent misses sliced => exact .whole (tiling_rest inside misses sliced)
  | @zeroWidth offset fragment cursor inside found isEmpty =>
      have result := find_result finder (Nat.le_of_lt inside)
      rw [found] at result
      cases result with
      | matched visits misses matched sliced =>
          have reached := reached_of_run visits.le_length matched
          have start := reached.sameStart
          rw [start]
          exact .broken (.nil _) inside
            (.zeroWidth visits misses matched ((isEmptyMatch_iff reached).mp isEmpty))
  | @found offset fragment captured cursor items inside found notEmpty capturedEq _
      inductionHypothesis =>
      have result := find_result finder (Nat.le_of_lt inside)
      rw [found] at result
      cases result with
      | matched visits misses matched sliced =>
          have reached := reached_of_run visits.le_length matched
          have placeBoundary := isBoundary_of_visits boundary visits
          apply (inductionHypothesis (reached.boundaries placeBoundary).1
            (captureEnd_le_of_reached reached)).prepend
          exact fun rest =>
            rest.cons_match boundary visits misses matched sliced notEmpty capturedEq

/-- The stream of the tokens of a view gives out what one search after the other finds, and nothing
behind that.  Its tokens tile the view and join to it, or they do so up to the search that fails. -/
theorem tokens_tile_text (finder : Finder) (view : View) :
    (∀ items, Loop finder view 0 items ↔ items = finder.items view) ∧
      (∀ count, ((TokenStream.start finder view).afterCalls count).next.1 =
        (finder.items view)[count]?) ∧
      (finder.items view).length ≤ view.length ∧
      ((∃ tokens, finder.items view = tokens.map .ok ∧
          Tiling finder view 0 tokens view.length ∧
          tokens.flatMap (fun token => token.text.units) = view.units ∧
          String.join (tokens.map fun token => token.text.text) = view.text) ∨
        ∃ tokens last failure covered, finder.items view = tokens.map .ok ++ [.error failure] ∧
          Tiling finder view 0 tokens last ∧ last < view.length ∧
          view.slice 0 last = .ok covered ∧
          tokens.flatMap (fun token => token.text.units) = covered.units ∧
          String.join (tokens.map fun token => token.text.text) = covered.text ∧
          Breaks finder view last failure) := by
  have loop := loop_items finder view
  refine ⟨?_, (remains_start loop).next_afterCalls, length_le_of_loop loop, ?_⟩
  · intro items
    constructor
    · exact fun other => (items_eq_of_loop other).symm
    · rintro rfl
      exact loop
  · have reads := reads_of_loop loop View.isBoundary_zero (Nat.zero_le _)
    generalize finder.items view = items at reads
    cases reads with
    | whole tiling =>
        obtain ⟨covered, sliced, unitsEq, textEq⟩ := tiling.join (Nat.zero_le _)
        rw [View.slice_whole, Except.ok.injEq] at sliced
        subst covered
        exact Or.inl ⟨_, rfl, tiling, unitsEq, textEq⟩
    | broken tiling inside breaks =>
        obtain ⟨covered, sliced, unitsEq, textEq⟩ := tiling.join (Nat.zero_le _)
        exact Or.inr ⟨_, _, _, _, rfl, tiling, inside, sliced, unitsEq, textEq, breaks⟩

end TextMatch.Finder
