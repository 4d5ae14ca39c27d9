import TextMatch.Proofs.CaseVariants
import TextMatch.Proofs.ContextIndependence

/-!
# Texts that fold alike

A set that ignores case sees of a text only what its code points fold to and how many units they
take, and of its own literals only what they fold to.  It finds something wherever the set of the
same literals that heeds case does, and no less of the text.
-/

namespace TextMatch

open CaseFold (fold foldText)

open Outcome (Same)

namespace View

variable {left right : View} {index : Nat}

/-! ## Code points side by side -/

/-- The code points of the views are pairwise equal after folding, and pairwise of equal length. -/
def FoldsLike (left right : View) : Prop :=
  List.Forall₂
    (fun item item' => fold item.2 = fold item'.2 ∧
      left.codePointLengthAt item.1 = right.codePointLengthAt item'.1)
    left.indexedCodePoints right.indexedCodePoints

/-- At one offset, both views have code points that fold alike and take as many units, or neither of
them has any. -/
inductive AlikeAt (left right : View) (index : Nat) : Prop
  | ended : left.decodeAt index = none → right.decodeAt index = none → AlikeAt left right index
  | decoded {char char' : Char} {count : Nat} :
      left.decodeAt index = some (char, count) → right.decodeAt index = some (char', count) →
      fold char = fold char' → AlikeAt left right index

theorem decodeAt_of_indexedCodePointsFrom_eq_nil
    (nothing : left.indexedCodePointsFrom index = []) : left.decodeAt index = none := by
  cases decoded : left.decodeAt index with
  | none => rfl
  | some found =>
      rw [indexedCodePointsFrom_of_decodeAt decoded] at nothing
      contradiction

theorem not_isBoundary_of_decodeAt {start count : Nat} {char : Char}
    (decoded : left.decodeAt start = some (char, count)) (behind : start < index)
    (before : index < start + count) : ¬ left.IsBoundary index :=
  fun boundary => Nat.not_le.mpr before (add_le_of_isBoundary decoded behind boundary)

/-- Code points that are alike pair by pair stand at the same offsets. -/
theorem alikeAt_of_forall₂ (start : Nat)
    (pairs : List.Forall₂
      (fun item item' => fold item.2 = fold item'.2 ∧
        left.codePointLengthAt item.1 = right.codePointLengthAt item'.1)
      (left.indexedCodePointsFrom start) (right.indexedCodePointsFrom start)) :
    ∀ index, start ≤ index → left.AlikeAt right index := by
  fun_induction indexedCodePointsFrom left start with
  | case1 start ends =>
      have ends' :=
        decodeAt_of_indexedCodePointsFrom_eq_nil (List.forall₂_nil_left_iff.mp pairs)
      intro index behind
      exact .ended
        (decodeAt_of_outside (Nat.le_trans (length_le_of_decodeAt_eq_none ends) behind))
        (decodeAt_of_outside (Nat.le_trans (length_le_of_decodeAt_eq_none ends') behind))
  | case2 start char count decoded inductionHypothesis =>
      cases decoded' : right.decodeAt start with
      | none =>
          have nothing := indexedCodePointsFrom_of_outside (length_le_of_decodeAt_eq_none decoded')
          rw [nothing] at pairs
          cases pairs
      | some first =>
          obtain ⟨char', count'⟩ := first
          rw [indexedCodePointsFrom_of_decodeAt decoded'] at pairs
          obtain ⟨⟨folds, lengths⟩, further⟩ := List.forall₂_cons.mp pairs
          obtain rfl : count = count' := by
            rwa [codePointLengthAt_of_decodeAt decoded,
              codePointLengthAt_of_decodeAt decoded'] at lengths
          intro index behind
          rcases Nat.eq_or_lt_of_le behind with rfl | inside
          · exact .decoded decoded decoded' folds
          · by_cases before : index < start + count
            · -- Inside of a pair, the second unit is decoded alone in both views.
              exact .decoded
                (decodeAt_of_not_isBoundary (not_isBoundary_of_decodeAt decoded inside before))
                (decodeAt_of_not_isBoundary (not_isBoundary_of_decodeAt decoded' inside before)) rfl
            · exact inductionHypothesis further index (Nat.not_lt.mp before)

theorem FoldsLike.alikeAt (alike : left.FoldsLike right) (index : Nat) :
    left.AlikeAt right index :=
  alikeAt_of_forall₂ 0 alike index (Nat.zero_le index)

theorem AlikeAt.eq_none_iff (alike : left.AlikeAt right index) :
    left.decodeAt index = none ↔ right.decodeAt index = none := by
  cases alike with
  | ended ends ends' => exact iff_of_true ends ends'
  | decoded decoded decoded' _ => simp [decoded, decoded']

theorem FoldsLike.length (alike : left.FoldsLike right) : left.length = right.length := by
  apply Nat.le_antisymm
  · have ends := (alike.alikeAt right.length).eq_none_iff.mpr (decodeAt_of_outside (Nat.le_refl _))
    exact length_le_of_decodeAt_eq_none ends
  · have ends := (alike.alikeAt left.length).eq_none_iff.mp (decodeAt_of_outside (Nat.le_refl _))
    exact length_le_of_decodeAt_eq_none ends

/-! ## Words -/

theorem FoldsLike.foldedEnd? (alike : left.FoldsLike right) (word : List Char) :
    ∀ index, LiteralSet.foldedEnd? left index word = LiteralSet.foldedEnd? right index word := by
  induction word with
  | nil => exact fun _ => rfl
  | cons char rest inductionHypothesis =>
      intro index
      rw [LiteralSet.foldedEnd?, LiteralSet.foldedEnd?]
      cases alike.alikeAt index with
      | ended ends ends' => rw [ends, ends']
      | decoded decoded decoded' folds =>
          rw [decoded, decoded']
          dsimp only
          rw [CaseFold.same_eq, CaseFold.same_eq, folds, inductionHypothesis]

theorem FoldsLike.bucketAt (alike : left.FoldsLike right) {set : LiteralSet}
    (ignores : set.ignoresCase = true) (index : Nat) :
    set.bucketAt left index = set.bucketAt right index := by
  rw [LiteralSet.bucketAt, LiteralSet.bucketAt, codePointAt, codePointAt]
  cases alike.alikeAt index with
  | ended ends ends' => rw [ends, ends']
  | decoded decoded decoded' folds =>
      rw [decoded, decoded', Option.map_some, Option.map_some]
      dsimp only
      rw [if_pos ignores, if_pos ignores, folds]

theorem FoldsLike.longestAt? (alike : left.FoldsLike right) {set : LiteralSet}
    (ignores : set.ignoresCase = true) (index : Nat) :
    set.longestAt? left index = set.longestAt? right index := by
  have sameLengths : set.lengthOfWordAt? left index = set.lengthOfWordAt? right index := by
    funext word
    rw [LiteralSet.lengthOfWordAt?, LiteralSet.lengthOfWordAt?, if_pos ignores, if_pos ignores,
      alike.foldedEnd?]
  rw [LiteralSet.longestAt?, LiteralSet.longestAt?, alike.bucketAt ignores, sameLengths]

theorem FoldsLike.plainScan (alike : left.FoldsLike right) {set : LiteralSet}
    (ignores : set.ignoresCase = true) (index : Nat) :
    set.plainScan left index = set.plainScan right index := by
  fun_induction LiteralSet.plainScan set left index with
  | case1 index length occurs =>
      rw [alike.longestAt? ignores] at occurs
      rw [LiteralSet.plainScan, occurs]
  | case2 index absent ends =>
      rw [alike.longestAt? ignores] at absent
      rw [LiteralSet.plainScan_of_end absent ((alike.alikeAt index).eq_none_iff.mp ends)]
  | case3 index absent char count decoded inductionHypothesis =>
      rw [alike.longestAt? ignores] at absent
      cases alike.alikeAt index with
      | ended ends =>
          rw [decoded] at ends
          contradiction
      | decoded here decoded' _ =>
          rw [decoded] at here
          obtain ⟨-, rfl⟩ := Prod.mk.inj (Option.some.inj here)
          rw [LiteralSet.plainScan_of_absent absent decoded']
          exact inductionHypothesis

end View

/-! ## Finders -/

theorem Finder.findsAlike_of_foldsLike {left right : View} (alike : left.FoldsLike right)
    {set : LiteralSet} (ignores : set.ignoresCase = true) (category : String)
    (search : LiteralSet.ByteSearch set.byteWords) :
    (Finder.mk category (.literals set search)).FindsAlike left right := by
  refine ⟨alike.length, ?_⟩
  intro offset
  by_cases inside : offset ≤ left.length
  · have inside' := inside
    rw [alike.length] at inside'
    rw [find_literals search inside, find_literals search inside', ← alike.plainScan ignores]
    cases scanned : set.plainScan left offset with
    | none => exact notFound_shifted alike.length offset
    | some occurrence =>
        obtain ⟨place, length⟩ := occurrence
        obtain ⟨forward, placeInside, -, occurs⟩ :=
          LiteralSet.bounds_of_plainScan inside scanned
        have room := (LiteralSet.bounds_of_longestAt? occurs placeInside).1
        have room' := room
        rw [alike.length] at room'
        obtain ⟨fragment, sliced, foundEq⟩ := exists_foundAt forward room
        obtain ⟨fragment', sliced', foundEq'⟩ := exists_foundAt forward room'
        rw [foundEq, foundEq']
        exact .matched ⟨⟨offset, place, sliced, sliced'⟩, .some ⟨rfl, rfl⟩⟩
  · have outside' := Nat.not_le.mp inside
    rw [alike.length] at outside'
    rw [find_eq_error _ (Nat.not_le.mp inside), find_eq_error _ outside', alike.length]
    exact .failed _

namespace LiteralSet

variable {strings strings' : List String} {view : View} {index length : Nat}

/-! ## Literals -/

/-- A literal may be replaced by one that folds to the same. -/
theorem ofStrings_eq_of_forall₂
    (folds : List.Forall₂ (fun text text' => foldText text = foldText text') strings strings') :
    ofStrings strings' true = ofStrings strings true := by
  have sameWords : (strings'.map String.toList).map (normalize true) =
      (strings.map String.toList).map (normalize true) := by
    rw [List.map_map, List.map_map]
    induction folds with
    | nil => rfl
    | @cons text text' _ _ foldsHere _ inductionHypothesis =>
        have kept : normalize true text'.toList = normalize true text.toList := by
          rw [← toList_keep, ← toList_keep]
          exact congrArg String.toList foldsHere.symm
        rw [List.map_cons, List.map_cons, inductionHypothesis, Function.comp_apply,
          Function.comp_apply, kept]
  have sameSetWords : (ofStrings strings' true).words = (ofStrings strings true).words :=
    congrArg ascending sameWords
  exact eq_of_words rfl sameSetWords

/-! ## Heeding case -/

/-- What is spelled in the units of a word is spelled in code points that fold to it. -/
theorem spells_ignoring_of_spells_heeding {word : List Char} (inside : index ≤ view.length)
    (spelled : view.Spells false index word length) :
    view.Spells true index (word.map fold) length := by
  rw [View.spells_heeding_iff_startsWithAt inside] at spelled
  obtain ⟨occurs, rfl⟩ := spelled
  rw [View.Spells, if_pos rfl]
  exact ⟨word, View.decodes_of_startsWithAt occurs, rfl⟩

theorem mem_lengthsAt_ignoring_of_heeding (inside : index ≤ view.length)
    (member : length ∈ (ofStrings strings false).lengthsAt view index) :
    length ∈ (ofStrings strings true).lengthsAt view index := by
  rw [lengthsAt_ofStrings] at member ⊢
  obtain ⟨kept, isMember, spelled⟩ := member
  rw [distinct, List.mem_toFinset, List.mem_map] at isMember
  obtain ⟨text, isString, rfl⟩ := isMember
  refine ⟨keep true text, List.mem_toFinset.mpr (List.mem_map_of_mem isString), ?_⟩
  rw [toList_keep]
  exact spells_ignoring_of_spells_heeding inside spelled

theorem exists_longestAt?_ignoring
    (found : (ofStrings strings false).longestAt? view index = some length) :
    ∃ longer, (ofStrings strings true).longestAt? view index = some longer ∧
      length ≤ longer := by
  by_cases inside : index ≤ view.length
  · have folded := folded_ofStrings strings true
    have member := mem_lengthsAt_ignoring_of_heeding inside
      ((longestAt?_eq_some_iff (folded_ofStrings strings false) inside).mp found).1
    cases foundIgnoring : (ofStrings strings true).longestAt? view index with
    | none =>
        rw [(longestAt?_eq_none_iff folded inside).mp foundIgnoring] at member
        exact member.elim
    | some longer =>
        have greatest := (longestAt?_eq_some_iff folded inside).mp foundIgnoring
        exact ⟨longer, rfl, greatest.2 member⟩
  · have outside := Nat.not_le.mp inside
    rw [longestAt?_of_outside outside] at found ⊢
    rw [hasEmpty_ignoring_eq]
    exact ⟨length, found, Nat.le_refl length⟩

end LiteralSet

open LiteralSet (ByteSearch ofStrings)

/-- Ignoring case, literals are found alike in texts that fold alike, each literal may be replaced
by one that folds to the same, and nothing is lost that is found heeding case. -/
theorem ignoring_case_sees_folds (strings : List String) :
    let ignoring := ofStrings strings true
    (∀ left right : View, left.FoldsLike right →
        (∀ index, ignoring.longestAt? left index = ignoring.longestAt? right index) ∧
          ∀ (category : String) (search : ByteSearch ignoring.byteWords),
            let finder : Finder := ⟨category, .literals ignoring search⟩
            List.Forall₂ (Finder.ItemShifted left right) (finder.items left)
                (finder.items right) ∧
              Same (List.Forall₂ (Token.Shifted left right)) (.ofExcept (finder.tokens left))
                (.ofExcept (finder.tokens right))) ∧
      (∀ strings',
        List.Forall₂ (fun text text' => foldText text = foldText text') strings strings' →
          ofStrings strings' true = ignoring) ∧
      ∀ (view : View) (index length : Nat),
        (ofStrings strings false).longestAt? view index = some length →
          ∃ longer, ignoring.longestAt? view index = some longer ∧ length ≤ longer := by
  intro ignoring
  refine ⟨?_, fun _ folds => LiteralSet.ofStrings_eq_of_forall₂ folds, ?_⟩
  · intro left right alike
    refine ⟨alike.longestAt? rfl, ?_⟩
    intro category search finder
    have itemsAlike := (Finder.findsAlike_of_foldsLike alike rfl category search).items
    exact ⟨itemsAlike, Finder.mapM_shifted itemsAlike⟩
  · exact fun _ _ _ found => LiteralSet.exists_longestAt?_ignoring found

theorem ignoring_case_sees_folds_of_keys :
    let strings := ["key"]
    let strings' := ["\u212AEY"]
    let ignoring := ofStrings strings true
    let left := View.ofString "\u212AeY;"
    let right := View.ofString "key;"
    let finder : Finder := ⟨"word", .literals ignoring⟩
    left.FoldsLike right ∧ ignoring.longestAt? left 0 = some 3 ∧
      ignoring.longestAt? right 0 = some 3 ∧
      List.Forall₂ (Finder.ItemShifted left right) (finder.items left) (finder.items right) ∧
      ofStrings strings' true = ignoring ∧
      (ofStrings strings false).longestAt? right 0 = some 3 ∧
      ∃ longer, ignoring.longestAt? right 0 = some longer ∧ 3 ≤ longer := by
  intro strings strings' ignoring left right finder
  obtain ⟨alikeFound, replaced, atLeast⟩ := ignoring_case_sees_folds strings
  have leftItems : left.indexedCodePoints = [(0, '\u212A'), (1, 'e'), (2, 'Y'), (3, ';')] := by
    decide +kernel
  have rightItems : right.indexedCodePoints = [(0, 'k'), (1, 'e'), (2, 'y'), (3, ';')] := by
    decide +kernel
  have alike : left.FoldsLike right := by
    rw [View.FoldsLike, leftItems, rightItems]
    exact .cons (by decide +kernel) (.cons (by decide +kernel)
      (.cons (by decide +kernel) (.cons (by decide +kernel) .nil)))
  obtain ⟨sameLongest, sameTokens⟩ := alikeFound left right alike
  have foundLeft : ignoring.longestAt? left 0 = some 3 := by decide +kernel
  have heeding : (ofStrings strings false).longestAt? right 0 = some 3 := by decide +kernel
  have folds : List.Forall₂ (fun text text' => foldText text = foldText text') strings strings' :=
    .cons (by decide +kernel) .nil
  exact ⟨alike, foundLeft, (sameLongest 0).symm.trans foundLeft,
    (sameTokens "word" (.linear _)).1, replaced strings' folds, heeding,
    atLeast right 0 3 heeding⟩

end TextMatch
