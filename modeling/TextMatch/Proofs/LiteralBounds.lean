import TextMatch.LiteralSet
import TextMatch.Proofs.Boundaries

/-!
# Where words of a set occur

A word occurs inside the text, and one that occurs at a boundary ends at a boundary.
-/

namespace TextMatch.LiteralSet

variable {set : LiteralSet} {view : View} {index length : Nat} {word : List Char}

theorem mem_ranked_iff : word ∈ set.ranked ↔ word ∈ set.words ∧ word ≠ [] := by
  rw [set.ranked_eq_rankWords, rankWords, List.mem_mergeSort, List.mem_filter]
  simp

theorem mem_ranked_of_mem_bucketAt (member : word ∈ set.bucketAt view index) :
    word ∈ set.ranked := by
  rw [bucketAt] at member
  split at member
  · simp at member
  · exact (List.mem_filter.mp member).1

/-- An occurrence is that of a word of the set other than the empty one, or else the empty one. -/
theorem exists_word_of_longestAt? (found : set.longestAt? view index = some length) :
    (∃ word ∈ set.words, word ≠ [] ∧ set.lengthOfWordAt? view index word = some length) ∨
      set.hasEmpty = true ∧ length = 0 := by
  rw [longestAt?] at found
  split at found
  · rename_i longest longestFound
    obtain rfl := Option.some.inj found
    obtain ⟨word, member, occurs⟩ := List.exists_of_findSome?_eq_some longestFound
    obtain ⟨isWord, nonempty⟩ := mem_ranked_iff.mp (mem_ranked_of_mem_bucketAt member)
    exact Or.inl ⟨word, isWord, nonempty, occurs⟩
  · by_cases empty : set.hasEmpty = true
    · simp only [empty, if_true, Option.some.injEq] at found
      exact Or.inr ⟨empty, found.symm⟩
    · simp [empty] at found

theorem bounds_of_foldedEnd? :
    ∀ {index stop : Nat}, foldedEnd? view index word = some stop → index ≤ view.length →
      index ≤ stop ∧ stop ≤ view.length ∧ (view.IsBoundary index → view.IsBoundary stop) := by
  induction word with
  | nil =>
      intro index stop found inside
      obtain rfl : index = stop := by simpa [foldedEnd?] using found
      exact ⟨Nat.le_refl _, inside, id⟩
  | cons char rest inductionHypothesis =>
      intro index stop found inside
      simp only [foldedEnd?] at found
      split at found
      · contradiction
      · rename_i decodedChar count decoded
        split at found
        · have behind := View.isBoundary_add_of_decodeAt decoded
          obtain ⟨notBefore, inside, boundary⟩ :=
            inductionHypothesis found (View.add_le_length_of_decodeAt decoded)
          exact ⟨by omega, inside, fun _ => boundary behind⟩
        · contradiction

theorem bounds_of_lengthOfWordAt? (found : set.lengthOfWordAt? view index word = some length)
    (inside : index ≤ view.length) :
    index + length ≤ view.length ∧
      (view.IsBoundary index → view.IsBoundary (index + length)) := by
  rw [lengthOfWordAt?] at found
  by_cases ignoresCase : set.ignoresCase = true
  · simp only [ignoresCase, if_true, Option.map_eq_some_iff] at found
    obtain ⟨stop, folded, rfl⟩ := found
    obtain ⟨notBefore, stopInside, boundary⟩ := bounds_of_foldedEnd? folded inside
    rw [Nat.add_sub_of_le notBefore]
    exact ⟨stopInside, boundary⟩
  · simp only [ignoresCase, Bool.false_eq_true, if_false, Option.ite_none_right_eq_some,
      Option.some.injEq] at found
    obtain ⟨occurs, rfl⟩ := found
    exact ⟨View.add_length_le_of_startsWithAt occurs, fun boundary =>
      View.isBoundary_add_of_startsWithAt boundary occurs⟩

theorem bounds_of_longestAt? (found : set.longestAt? view index = some length)
    (inside : index ≤ view.length) :
    index + length ≤ view.length ∧
      (view.IsBoundary index → view.IsBoundary (index + length)) := by
  rcases exists_word_of_longestAt? found with ⟨word, -, -, occurs⟩ | ⟨-, rfl⟩
  · exact bounds_of_lengthOfWordAt? occurs inside
  · exact ⟨inside, id⟩

end TextMatch.LiteralSet
