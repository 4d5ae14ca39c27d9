import TextMatch.Proofs.LiteralSets
import TextMatch.Proofs.StepEquations
import TextMatch.Proofs.SyntaxInduction

/-!
# Literals code point by code point

A set that heeds case finds the first of its strings that occurs at a place if they are tried in
turn, those with more units first.  To try a string is to match its code points one behind the other:
unless it has the replacement character, a string is decoded from a place just where it is encoded
there, whatever surrogates without their partner the text has.
-/

namespace TextMatch

/-! ## Strings at a place -/

def CodeUnit.ofString (text : String) : List CodeUnit :=
  ofChars text.toList

/-- Whether a string occurs at `index`. -/
def View.readsAt (view : View) (index : Nat) (text : String) : Bool :=
  view.startsWithAt index (CodeUnit.ofString text)

/-- The list has the given strings, those with more units first. -/
structure LongestFirst (ranking strings : List String) : Prop where
  mem_iff : ∀ text, text ∈ ranking ↔ text ∈ strings
  descends : ranking.Pairwise fun left right =>
    (CodeUnit.ofString right).length ≤ (CodeUnit.ofString left).length

namespace LiteralSet

variable {strings ranking : List String} {view : View} {index : Nat} {text : String}

theorem exists_longestFirst (strings : List String) :
    ∃ ranking : List String, ranking.Nodup ∧ LongestFirst ranking strings := by
  refine ⟨strings.dedup.mergeSort fun left right =>
    decide ((CodeUnit.ofString right).length ≤ (CodeUnit.ofString left).length), ?_, ?_, ?_⟩
  · exact (List.mergeSort_perm _ _).nodup_iff.mpr (List.nodup_dedup strings)
  · intro text
    rw [List.mem_mergeSort, List.mem_dedup]
  · exact List.pairwise_mergeSort'
      (Order.Preimage (fun text => (CodeUnit.ofString text).length) (· ≥ ·)) _

theorem longestFirst_singleton (text : String) : LongestFirst [text] [text] where
  mem_iff := fun _ => Iff.rfl
  descends := List.pairwise_singleton _ text

theorem mem_lengthsAt_heeding_iff {length : Nat} (inside : index ≤ view.length) :
    length ∈ (ofStrings strings false).lengthsAt view index ↔
      ∃ text ∈ strings, view.readsAt index text = true ∧
        length = (CodeUnit.ofString text).length := by
  have isMember : ∀ text, text ∈ distinct strings false ↔ text ∈ strings := by
    intro text
    simp [distinct, keep]
  rw [lengthsAt_ofStrings]
  simp only [Set.mem_ofPred_eq, isMember, View.spells_heeding_iff_startsWithAt inside]
  rfl

/-- The first string of a ranking that occurs is the longest one. -/
theorem isGreatest_of_find? (ranks : LongestFirst ranking strings) (inside : index ≤ view.length)
    (found : ranking.find? (view.readsAt index) = some text) :
    IsGreatest ((ofStrings strings false).lengthsAt view index)
      (CodeUnit.ofString text).length := by
  rcases List.find?_eq_some_iff_append.mp found with ⟨occurs, before, behind, split, missing⟩
  constructor
  · have isString := (ranks.mem_iff text).mp (List.mem_of_find?_eq_some found)
    exact (mem_lengthsAt_heeding_iff inside).mpr ⟨text, isString, occurs, rfl⟩
  · intro length isLength
    rcases (mem_lengthsAt_heeding_iff inside).mp isLength with
      ⟨other, isString, otherOccurs, lengthEq⟩
    have member := (ranks.mem_iff other).mpr isString
    have descends := ranks.descends
    rw [split] at member descends
    rw [lengthEq]
    rcases List.mem_append.mp member with isBefore | notBefore
    · have misses := missing other isBefore
      rw [otherOccurs] at misses
      contradiction
    · rcases List.mem_cons.mp notBefore with same | isBehind
      · rw [same]
      · exact List.rel_of_pairwise_cons (List.pairwise_append.mp descends).2.1 isBehind

/-- A set finds the first string of a ranking that occurs. -/
theorem longestAt?_eq_find? (ranks : LongestFirst ranking strings) (inside : index ≤ view.length) :
    (ofStrings strings false).longestAt? view index =
      (ranking.find? (view.readsAt index)).map fun text => (CodeUnit.ofString text).length := by
  have folded := folded_ofStrings strings false
  cases found : ranking.find? (view.readsAt index) with
  | some text =>
      exact (longestAt?_eq_some_iff folded inside).mpr (isGreatest_of_find? ranks inside found)
  | none =>
      apply (longestAt?_eq_none_iff folded inside).mpr
      apply Set.eq_empty_of_forall_notMem
      intro length isLength
      rcases (mem_lengthsAt_heeding_iff inside).mp isLength with ⟨text, isString, occurs, -⟩
      exact List.find?_eq_none.mp found text ((ranks.mem_iff text).mpr isString) occurs

end LiteralSet

/-! ## Spelling strings -/

/-- The code points of a string, one behind the other. -/
def Matcher.spelled (text : String) : Matcher :=
  .sequence (text.toList.map fun char => .codePoint (.literal char))

namespace Step

variable {cursor : Cursor} {text : String}

theorem follow_literals_of_ready {word : List Char} (known : CodeUnit.replacement ∉ word)
    (ready : cursor.Ready) :
    follow (word.map fun char => codePoint (.literal char)) cursor =
      if cursor.view.startsWithAt cursor.position (CodeUnit.ofChars word) then
        .matched (cursor.moved (CodeUnit.ofChars word).length, [])
      else
        .noMatch := by
  induction word generalizing cursor with
  | nil =>
      rw [List.map_nil, follow, CodeUnit.ofChars_nil, View.startsWithAt,
        if_pos (decide_eq_true ready.position_le), List.length_nil, ready.moved_zero]
  | cons char rest inductionHypothesis =>
      rw [List.mem_cons, not_or] at known
      rw [List.map_cons, CodeUnit.ofChars_cons]
      by_cases occurs : cursor.view.startsWithAt cursor.position (CodeUnit.ofChar char) = true
      · have decoded := View.decodeAt_of_startsWithAt occurs
        have room := View.add_le_length_of_decodeAt decoded
        have movedReady := ready.moved room
        have behind : cursor.view.startsWithAt cursor.position
            (CodeUnit.ofChar char ++ CodeUnit.ofChars rest) =
            (cursor.moved (CodeUnit.ofChar char).length).view.startsWithAt
              (cursor.moved (CodeUnit.ofChar char).length).position (CodeUnit.ofChars rest) := by
          rw [Bool.eq_iff_iff, View.startsWithAt_append, and_iff_right occurs,
            Cursor.position_moved room]
          exact Iff.rfl
        have isMember : (CodePointClass.literal char).contains char = true := beq_self_eq_true char
        rw [follow_cons_of_matched (codePoint_of_member ready decoded isMember),
          inductionHypothesis known.2 movedReady, behind, List.length_append, ← Cursor.moved_moved]
        split
        · rfl
        · rfl
      · have misses : cursor.view.startsWithAt cursor.position
            (CodeUnit.ofChar char ++ CodeUnit.ofChars rest) ≠ true := by
          rw [ne_eq, View.startsWithAt_append, not_and]
          exact fun occurs' => absurd occurs' occurs
        rw [if_neg misses]
        apply follow_cons_of_noMatch
        apply codePoint_of_noMember ready
        intro found count decoded
        apply beq_eq_false_iff_ne.mpr
        intro same
        rw [← same] at decoded
        exact occurs (View.startsWithAt_of_decodeAt decoded (Ne.symm known.1)).1

theorem spelled_of_ready (known : CodeUnit.replacement ∉ text.toList) (ready : cursor.Ready) :
    (Matcher.spelled text).step cursor =
      if cursor.view.readsAt cursor.position text then
        .matched (cursor.moved (CodeUnit.ofString text).length, [])
      else
        .noMatch := by
  have parts : Matcher.steps (text.toList.map fun char => .codePoint (.literal char)) =
      text.toList.map fun char => codePoint (.literal char) := by
    rw [Matcher.steps_eq_map, List.map_map]
    rfl
  rw [Matcher.spelled, Matcher.step, silent, sequence, guarded_of_ready _ ready, parts,
    follow_literals_of_ready known ready]
  unfold View.readsAt CodeUnit.ofString
  split
  · rfl
  · rfl

/-- To spell strings in turn is to take the first that occurs. -/
theorem choose_spelled_of_ready {ranking : List String}
    (known : ∀ text ∈ ranking, CodeUnit.replacement ∉ text.toList) (ready : cursor.Ready) :
    choose (ranking.map fun text => (Matcher.spelled text).step) cursor =
      match ranking.find? (cursor.view.readsAt cursor.position) with
      | none => .noMatch
      | some text => .matched (cursor.moved (CodeUnit.ofString text).length, []) := by
  induction ranking with
  | nil => rfl
  | cons text rest inductionHypothesis =>
      rw [List.map_cons, choose, spelled_of_ready (known text List.mem_cons_self) ready]
      cases occurs : cursor.view.readsAt cursor.position text with
      | true =>
          rw [List.find?_cons_of_pos occurs]
          rfl
      | false =>
          rw [List.find?_cons_of_neg (Bool.eq_false_iff.mp occurs)]
          exact inductionHypothesis fun other member => known other (List.mem_cons_of_mem text member)

end Step

/-- A set that heeds case matches as its distinct strings do that are spelled in turn, those with
more units first, in whatever order strings with as many units stand. -/
theorem literals_match_as_spelled (strings : List String)
    (known : ∀ text ∈ strings, CodeUnit.replacement ∉ text.toList) :
    (∃ ranking : List String, ranking.Nodup ∧ LongestFirst ranking strings) ∧
      ∀ ranking : List String, LongestFirst ranking strings →
        ∀ cursor : Cursor, cursor.Ready →
          (Matcher.literals (LiteralSet.ofStrings strings false)).run cursor =
            (Matcher.firstOf (ranking.map Matcher.spelled)).run cursor := by
  refine ⟨LiteralSet.exists_longestFirst strings, ?_⟩
  intro ranking ranks cursor ready
  have rankedKnown : ∀ text ∈ ranking, CodeUnit.replacement ∉ text.toList :=
    fun text member => known text ((ranks.mem_iff text).mp member)
  have choices : Matcher.steps (ranking.map Matcher.spelled) =
      ranking.map fun text => (Matcher.spelled text).step := by
    rw [Matcher.steps_eq_map, List.map_map]
    rfl
  rw [Matcher.run, Matcher.run, Matcher.step, Matcher.step, Step.silent, Step.firstOf,
    Step.guarded_of_ready _ ready, choices, Step.choose_spelled_of_ready rankedKnown ready,
    Step.literals_of_ready _ ready, LiteralSet.longestAt?_eq_find? ranks ready.position_le]
  cases ranking.find? (cursor.view.readsAt cursor.position) <;> rfl

theorem literals_match_as_spelled_of_pair :
    let strings := ["a", "", "a😀", "a"]
    let ranking := ["a😀", "a", ""]
    let view := View.ofUnits #[0xD83D, 0x61, 0xD83D, 0xDE00]
    let literals := Matcher.literals (LiteralSet.ofStrings strings false)
    (∀ text ∈ strings, CodeUnit.replacement ∉ text.toList) ∧ LongestFirst ranking strings ∧
      (Cursor.fresh view 1).Ready ∧
      literals.run (Cursor.fresh view 1) = .matched ((Cursor.fresh view 1).moved 3) ∧
      (Cursor.fresh view 3).Ready ∧
      literals.run (Cursor.fresh view 3) = .matched (Cursor.fresh view 3) := by
  intro strings ranking view literals
  have known : ∀ text ∈ strings, CodeUnit.replacement ∉ text.toList := by decide +kernel
  have ranks : LongestFirst ranking strings := by
    refine ⟨?_, by decide +kernel⟩
    intro text
    simp only [ranking, strings, List.mem_cons, List.not_mem_nil, or_false]
    tauto
  have ready : (Cursor.fresh view 1).Ready := Cursor.ready_fresh (by decide)
  have readyInside : (Cursor.fresh view 3).Ready := Cursor.ready_fresh (by decide)
  have same := (literals_match_as_spelled strings known).2 ranking ranks
  refine ⟨known, ranks, ready, ?_, readyInside, ?_⟩
  · rw [same _ ready]
    decide +kernel
  · rw [same _ readyInside]
    decide +kernel

/-- The replacement character is decoded where it is not encoded. -/
example :
    let cursor := Cursor.fresh (View.ofUnits #[0xD83D]) 0
    (Matcher.literals (LiteralSet.ofStrings ["\uFFFD"] false)).run cursor = .noMatch ∧
      (Matcher.sequence [.codePoint (.literal '\uFFFD')]).run cursor =
        .matched (cursor.moved 1) := by
  decide +kernel

end TextMatch
