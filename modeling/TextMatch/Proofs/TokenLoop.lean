import TextMatch.Finder.TokenStream
import TextMatch.Proofs.Searches

/-!
# The searches behind a stream of tokens

A stream of tokens gives out one token at a time and keeps a match back while it gives out the
fragment before it.  Altogether it gives out what one search after the other finds, each begun
behind the capture of the one before.
-/

namespace TextMatch

/-! ## One search after the other -/

namespace Finder

/-- A fragment as a token, unless it is empty. -/
def fragmentTokens (finder : Finder) (fragment : View) : List Token :=
  if fragment.isEmpty then [] else [⟨finder.category, .fragment, fragment⟩]

/-- The tokens of a match: the fragment before it, and what it captured. -/
def matchTokens (finder : Finder) (fragment captured : View) : List Token :=
  finder.fragmentTokens fragment ++ [⟨finder.category, .found, captured⟩]

/-- What one search after the other finds, from an offset on. -/
inductive Loop (finder : Finder) (view : View) : Nat → List TokenStream.Item → Prop
  | finished {offset : Nat} : view.length ≤ offset → Loop finder view offset []
  | failed {offset : Nat} {failure : Failure} :
      offset < view.length → finder.find view offset = .error failure →
      Loop finder view offset [.error failure]
  | rest {offset : Nat} {fragment : View} :
      offset < view.length → finder.find view offset = .ok ⟨fragment, none⟩ →
      Loop finder view offset ((finder.fragmentTokens fragment).map .ok)
  | zeroWidth {offset : Nat} {fragment : View} {cursor : Cursor} :
      offset < view.length → finder.find view offset = .ok ⟨fragment, some cursor⟩ →
      cursor.isEmptyMatch = true →
      Loop finder view offset [.error (.zeroWidthMatch cursor.start)]
  | found {offset : Nat} {fragment captured : View} {cursor : Cursor}
      {items : List TokenStream.Item} :
      offset < view.length → finder.find view offset = .ok ⟨fragment, some cursor⟩ →
      cursor.isEmptyMatch = false → cursor.captured = .ok captured →
      Loop finder view cursor.captureEnd items →
      Loop finder view offset ((finder.matchTokens fragment captured).map .ok ++ items)

/-- What a search from `offset` captures, if it captures anything, is good. -/
def Captures (finder : Finder) (view : View) (good : View → Prop) (offset : Nat) : Prop :=
  ∀ found cursor captured, finder.find view offset = .ok found → found.matched = some cursor →
    cursor.isEmptyMatch = false → cursor.captured = .ok captured → good captured

/-- If all that a finder collects is good, any finder that finds the same wherever what is captured
is good collects the same. -/
theorem Loop.congr {finder other : Finder} {view : View} {offset : Nat}
    {items : List TokenStream.Item} (good : View → Prop) (loop : Loop finder view offset items)
    (sameCategory : finder.category = other.category)
    (sameFound : ∀ offset, offset < view.length → finder.Captures view good offset →
      finder.find view offset = other.find view offset)
    (allGood : ∀ token, .ok token ∈ items → token.kind = .found → good token.text) :
    Loop other view offset items := by
  induction loop with
  | finished outside => exact .finished outside
  | failed inside failed =>
      have same := sameFound _ inside <| by
        intro _ _ _ found
        rw [failed] at found
        contradiction
      rw [same] at failed
      exact .failed inside failed
  | rest inside absent =>
      have same := sameFound _ inside <| by
        intro _ _ _ found matched
        rw [absent] at found
        obtain rfl := Except.ok.inj found
        contradiction
      rw [same] at absent
      simp only [fragmentTokens, sameCategory]
      exact .rest inside absent
  | zeroWidth inside found isEmpty =>
      have same := sameFound _ inside <| by
        intro _ _ _ found' matched notEmpty
        rw [found] at found'
        obtain rfl := Except.ok.inj found'
        obtain rfl := Option.some.inj matched
        rw [isEmpty] at notEmpty
        contradiction
      rw [same] at found
      exact .zeroWidth inside found isEmpty
  | found inside found notEmpty capturedEq _ inductionHypothesis =>
      rename_i captured _ _ _
      have goodCaptured : good captured := by
        apply allGood ⟨finder.category, .found, captured⟩
        · simp [matchTokens]
        · rfl
      have same := sameFound _ inside <| by
        intro _ _ _ found' matched _ capturedEq'
        rw [found] at found'
        obtain rfl := Except.ok.inj found'
        obtain rfl := Option.some.inj matched
        rw [capturedEq] at capturedEq'
        rwa [← Except.ok.inj capturedEq']
      rw [same] at found
      simp only [matchTokens, fragmentTokens, sameCategory]
      refine .found inside found notEmpty capturedEq (inductionHypothesis ?_)
      exact fun token member => allGood token (List.mem_append_right _ member)

theorem Loop.eq_nil {finder : Finder} {view : View} {offset : Nat}
    {items : List TokenStream.Item} (loop : Loop finder view offset items)
    (outside : view.length ≤ offset) : items = [] := by
  cases loop with
  | finished => rfl
  | failed inside | rest inside | zeroWidth inside | found inside => omega

end Finder

/-! ## The stream -/

namespace TokenStream

open Finder (Loop)

/-- What a stream is still to give out. -/
inductive Remains : TokenStream → List Item → Prop
  | done {stream : TokenStream} :
      stream.pending = none → stream.isDone = true → Remains stream []
  | searching {stream : TokenStream} {items : List Item} :
      stream.pending = none → stream.isDone = false → stream.cache.Fits stream.view →
      Loop stream.finder stream.view stream.offset items → Remains stream items
  | pending {stream : TokenStream} {token : Token} {items : List Item} :
      stream.pending = some token → Remains { stream with pending := none } items →
      Remains stream (.ok token :: items)

variable {stream : TokenStream} {items : List Item}

/-- A stream gives out what a search begun afresh would come to. -/
theorem exists_next_eq (noPending : stream.pending = none) (notDone : stream.isDone = false)
    (fits : stream.cache.Fits stream.view) (inside : stream.offset < stream.view.length) :
    ∃ cache : LiteralSet.ScanCache, cache.Fits stream.view ∧
      stream.next = { stream with cache := cache }.afterSearch
        (stream.finder.find stream.view stream.offset) := by
  have notBehind := Nat.le_of_lt inside
  have laterFits := Finder.fits_of_findWith stream.finder stream.offset fits
  refine ⟨_, laterFits, ?_⟩
  rw [← Finder.findWith_eq_find stream.finder notBehind fits, next]
  simp only [noPending, notDone, Nat.not_le.mpr inside, decide_false, Bool.or_false,
    Bool.false_eq_true, if_false, Cursor.atOffset_of_le notBehind]

/-- A search gives out its first token, and leaves the others. -/
theorem afterSearch_of_loop (noPending : stream.pending = none) (notDone : stream.isDone = false)
    (fits : stream.cache.Fits stream.view) (inside : stream.offset < stream.view.length)
    (loop : Loop stream.finder stream.view stream.offset items) :
    (stream.afterSearch (stream.finder.find stream.view stream.offset)).1 = items.head? ∧
      Remains (stream.afterSearch (stream.finder.find stream.view stream.offset)).2
        items.tail := by
  -- The offset is an index of `Loop`, which the cases have to keep apart from the stream.
  generalize offsetEq : stream.offset = offset at loop
  cases loop with
  | finished outside => omega
  | failed _ failed =>
      rw [failed]
      exact ⟨rfl, .done noPending rfl⟩
  | @rest _ fragment _ absent =>
      rw [absent]
      cases isEmpty : fragment.isEmpty with
      | true =>
          simp only [afterSearch, afterFound, Finder.fragmentTokens, isEmpty, if_true]
          exact ⟨rfl, .done noPending rfl⟩
      | false =>
          simp only [afterSearch, afterFound, Finder.fragmentTokens, isEmpty]
          exact ⟨rfl, .done noPending rfl⟩
  | zeroWidth _ found isEmpty =>
      rw [found]
      simp only [afterSearch, afterFound, isEmpty, if_true]
      exact ⟨rfl, .done noPending rfl⟩
  | @found _ fragment captured cursor items _ found notEmpty capturedEq rest =>
      rw [found]
      cases isEmpty : fragment.isEmpty with
      | true =>
          simp only [afterSearch, afterFound, notEmpty, capturedEq, Finder.matchTokens,
            Finder.fragmentTokens, isEmpty, if_true]
          exact ⟨rfl, .searching noPending notDone fits rest⟩
      | false =>
          simp only [afterSearch, afterFound, notEmpty, capturedEq, Finder.matchTokens,
            Finder.fragmentTokens, isEmpty]
          refine ⟨rfl, .pending rfl ?_⟩
          exact .searching rfl notDone fits rest

theorem next_of_loop (noPending : stream.pending = none) (notDone : stream.isDone = false)
    (fits : stream.cache.Fits stream.view)
    (loop : Loop stream.finder stream.view stream.offset items) :
    stream.next.1 = items.head? ∧ Remains stream.next.2 items.tail := by
  by_cases outside : stream.view.length ≤ stream.offset
  · rw [loop.eq_nil outside]
    simp only [next, noPending, notDone, outside, decide_true, Bool.or_true, if_true]
    exact ⟨rfl, .done rfl rfl⟩
  · have inside := Nat.not_le.mp outside
    obtain ⟨cache, laterFits, nextEq⟩ := exists_next_eq noPending notDone fits inside
    rw [nextEq]
    exact @afterSearch_of_loop { stream with cache := cache } items noPending notDone laterFits
      inside loop

theorem Remains.next (remains : Remains stream items) :
    stream.next.1 = items.head? ∧ Remains stream.next.2 items.tail := by
  cases remains with
  | done noPending isDone =>
      simp only [TokenStream.next, noPending, isDone, Bool.true_or, if_true]
      exact ⟨rfl, .done rfl rfl⟩
  | searching noPending notDone fits loop => exact next_of_loop noPending notDone fits loop
  | pending isPending rest =>
      simp only [TokenStream.next, isPending]
      exact ⟨rfl, rest⟩

/-- The stream behind so many calls of `next`, whatever they give out. -/
def afterCalls : (count : Nat) → TokenStream → TokenStream
  | 0, stream => stream
  | count + 1, stream => afterCalls count stream.next.2

theorem Remains.next_afterCalls {stream : TokenStream} {items : List Item}
    (remains : Remains stream items) (count : Nat) :
    (stream.afterCalls count).next.1 = items[count]? := by
  induction count generalizing stream items with
  | zero => rw [afterCalls, remains.next.1, List.head?_eq_getElem?]
  | succ count inductionHypothesis =>
      rw [afterCalls, inductionHypothesis remains.next.2, List.getElem?_tail]

theorem Remains.take {stream : TokenStream} {items : List Item}
    (remains : Remains stream items) (count : Nat) :
    (stream.take count).1 = items.take count := by
  induction count generalizing stream items with
  | zero => rfl
  | succ count inductionHypothesis =>
      obtain ⟨isHead, rest⟩ := remains.next
      rw [TokenStream.take]
      cases items with
      | nil =>
          split
          · rfl
          · rename_i nextEq
            rw [nextEq] at isHead
            contradiction
      | cons item later =>
          split
          · rename_i nextEq
            rw [nextEq] at isHead
            contradiction
          · rename_i found behind nextEq
            rw [nextEq] at isHead rest
            obtain rfl : found = item := by simpa using isHead
            simp only [List.take_succ_cons]
            rw [inductionHypothesis rest]
            rfl

end TokenStream

/-! ## All that a stream gives out -/

namespace Finder

variable {finder : Finder} {view : View} {offset : Nat}

theorem length_fragmentTokens_le (finder : Finder) {place : Nat} {fragment : View}
    (sliced : view.slice offset place = .ok fragment) :
    (finder.fragmentTokens fragment).length ≤ place - offset := by
  have ordered := (View.bounds_of_slice sliced).1
  rw [fragmentTokens]
  split
  · simp
  · rename_i notEmpty
    rw [View.isEmpty_iff_of_slice sliced] at notEmpty
    simp only [List.length_singleton]
    omega

/-- There are no more tokens and failures than code units. -/
theorem exists_loop (finder : Finder) (view : View) (offset : Nat) :
    ∃ items, Loop finder view offset items ∧ items.length ≤ view.length - offset := by
  by_cases outside : view.length ≤ offset
  · exact ⟨[], .finished outside, Nat.zero_le _⟩
  · have inside : offset < view.length := Nat.not_le.mp outside
    have result := find_result finder (Nat.le_of_lt inside)
    generalize searched : finder.find view offset = found at result
    cases result with
    | failed visits misses failed =>
        refine ⟨_, .failed inside searched, ?_⟩
        simp only [List.length_singleton]
        omega
    | absent misses sliced =>
        refine ⟨_, .rest inside searched, ?_⟩
        rw [List.length_map]
        exact length_fragmentTokens_le finder sliced
    | matched visits misses matched sliced =>
        rename_i place next fragment
        have reached := reached_of_run visits.le_length matched
        cases isEmpty : next.isEmptyMatch with
        | true =>
            refine ⟨_, .zeroWidth inside searched isEmpty, ?_⟩
            simp only [List.length_singleton]
            omega
        | false =>
            obtain ⟨captured, capturedEq⟩ := exists_captured reached
            have forward := lt_captureEnd_of_not_isEmptyMatch reached isEmpty
            have visited := visits.origin_le
            obtain ⟨items, rest, bound⟩ := exists_loop finder view next.captureEnd
            refine ⟨_, .found inside searched isEmpty capturedEq rest, ?_⟩
            have fragmentBound := length_fragmentTokens_le finder sliced
            have captureInside := Nat.le_trans reached.captureEnd_le_position reached.position_le
            simp only [List.length_append, List.length_map, matchTokens, List.length_singleton]
            change next.captureEnd ≤ view.length at captureInside
            omega
termination_by view.length - offset

theorem remains_start {items : List TokenStream.Item} (loop : Loop finder view 0 items) :
    (TokenStream.start finder view).Remains items :=
  .searching rfl rfl (LiteralSet.ScanCache.fits_empty view) loop

theorem length_le_of_loop {items : List TokenStream.Item} (loop : Loop finder view 0 items) :
    items.length ≤ view.length := by
  obtain ⟨others, otherLoop, bound⟩ := exists_loop finder view 0
  have same : items = others := by
    apply List.ext_getElem?
    intro index
    rw [← (remains_start loop).next_afterCalls, ← (remains_start otherLoop).next_afterCalls]
  rw [same]
  exact bound

theorem items_eq_of_loop {items : List TokenStream.Item} (loop : Loop finder view 0 items) :
    finder.items view = items := by
  have bound := length_le_of_loop loop
  rw [Finder.items, TokenStream.drain, (remains_start loop).take]
  apply List.take_of_length_le
  exact Nat.le_add_right_of_le bound

theorem loop_items (finder : Finder) (view : View) : Loop finder view 0 (finder.items view) := by
  obtain ⟨items, loop, -⟩ := exists_loop finder view 0
  rw [items_eq_of_loop loop]
  exact loop

end Finder

end TextMatch
