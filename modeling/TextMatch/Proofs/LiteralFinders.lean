import TextMatch.Proofs.TokenLoop

/-!
# Finders of words

A finder of words finds what a finder of their matcher finds, wherever the search begins, whether it
goes over the code points of the text or from hit to hit over its bytes.
-/

namespace TextMatch.Finder

open Cursor

variable {set : LiteralSet} {view : View} {origin : Nat}

/-- A search for words does not fail. -/
theorem exists_found_of_literals (search : LiteralSet.ByteSearch set.byteWords)
    (category : String) (inside : origin ≤ view.length) :
    ∃ found, (Finder.mk category (.literals set search)).find view origin = .ok found := by
  have result := find_result ⟨category, .literals set search⟩ inside
  generalize searched : (Finder.mk category (.literals set search)).find view origin = found
    at result
  cases result with
  | @failed place failure visits _ failed =>
      cases longest : set.longestAt? view place with
      | none =>
          rw [matcher, run_literals_of_none visits.le_length longest] at failed
          contradiction
      | some length =>
          rw [matcher, run_literals_of_some visits.le_length longest] at failed
          contradiction
  | matched => exact ⟨_, rfl⟩
  | absent => exact ⟨_, rfl⟩

theorem find_literals_eq_find_matcher (search : LiteralSet.ByteSearch set.byteWords)
    (category : String) (view : View) (origin : Nat) :
    (Finder.mk category (.literals set search)).find view origin =
      (Finder.mk category (.matcher (.literals set))).find view origin := by
  by_cases inside : origin ≤ view.length
  · rw [find_eq_scan _ inside, find_eq_scan _ inside]
    rfl
  · rw [find_eq_error _ (Nat.not_le.mp inside), find_eq_error _ (Nat.not_le.mp inside)]

theorem items_congr {finder other : Finder} (sameCategory : finder.category = other.category)
    (sameFound : ∀ offset, finder.find view offset = other.find view offset) :
    finder.items view = other.items view := by
  have loop := (loop_items finder view).congr (fun _ => True) sameCategory
    (fun offset _ _ => sameFound offset) fun _ _ _ => trivial
  exact (items_eq_of_loop loop).symm

/-- The two ways to look for words agree with each other and with the search for the matcher of the
words, for any words, any text and any place to begin. -/
theorem literals_find_as_matcher (category : String) (strings : List String) (ignoresCase : Bool)
    (search : LiteralSet.ByteSearch (LiteralSet.ofStrings strings ignoresCase).byteWords)
    (view : View) :
    let set := LiteralSet.ofStrings strings ignoresCase
    let byWords : Finder := ⟨category, .literals set search⟩
    let byMatcher : Finder := ⟨category, .matcher (.literals set)⟩
    (∀ offset, byWords.find view offset = byMatcher.find view offset) ∧
      (∀ offset, offset ≤ view.length → ∃ found, byWords.find view offset = .ok found) ∧
      (∀ offset, (set.find? search view offset .empty).1 = set.plainScan view offset) ∧
      byWords.items view = byMatcher.items view ∧
      byWords.tokens view = byMatcher.tokens view := by
  intro set byWords byMatcher
  have sameFound := find_literals_eq_find_matcher search category view
  have sameItems : byWords.items view = byMatcher.items view := items_congr rfl sameFound
  refine ⟨sameFound, ?_, ?_, sameItems, ?_⟩
  · exact fun offset inside => exists_found_of_literals search category inside
  · exact LiteralSet.find?_eq_plainScan search (LiteralSet.ScanCache.fits_empty view)
  · unfold tokens
    rw [sameItems]

/-- The first hit on the bytes of the word lies across two units of the text. -/
theorem literals_find_across_units :
    let set := LiteralSet.ofStrings ["\u6100"] false
    let search := LiteralSet.ByteSearch.linear set.byteWords
    let view := View.ofString "a\x00\u6100"
    search.firstHit? view.bytes 0 = some 1 ∧
      (set.find? search view 0 .empty).1 = some (2, 1) ∧
      (Finder.mk "word" (.literals set search)).find view 0 =
        (Finder.mk "word" (.matcher (.literals set))).find view 0 := by
  intro set search view
  obtain ⟨sameFound, -⟩ := literals_find_as_matcher "word" ["\u6100"] false search view
  exact ⟨by decide +kernel, by decide +kernel, sameFound 0⟩

end TextMatch.Finder
