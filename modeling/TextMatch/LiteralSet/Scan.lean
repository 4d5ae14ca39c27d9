import TextMatch.LiteralSet

/-!
# Scanning for literals

The leftmost occurrence of a word of a set is found in one of two ways.  The plain scan looks at
every code point.  The byte scan looks for the words as byte sequences in the bytes of the text,
and asks the set about the places where it hits one; it serves sets that heed case and do not have
the empty word.
-/

namespace TextMatch.LiteralSet

/-! ## The plain scan -/

/-- The first place at `index` or behind it, code point by code point, where a word occurs, with
the length of the longest word there.  The end of the text is looked at as well. -/
def plainScan (set : LiteralSet) (view : View) (index : Nat) : Option (Nat × Nat) :=
  match set.longestAt? view index with
  | some length => some (index, length)
  | none =>
      match _decoded : view.decodeAt index with
      | none => none
      | some (_, count) => set.plainScan view (index + count)
termination_by view.length - index
decreasing_by
  have bounds := View.bounds_of_decodeAt _decoded
  omega

/-! ## Searching bytes -/

/-- Whether one of the byte sequences occurs at `offset`, wholly inside the bytes of a text. -/
def hitsAt (bytes : List UInt8) (sequences : List (List UInt8)) (offset : Nat) : Bool :=
  decide (offset ≤ bytes.length) &&
    sequences.any fun expected => expected.isPrefixOf (bytes.drop offset)

/-- A search for byte sequences in the bytes of a text.  Any automaton may do the search, as long as
it goes from an offset to the first hit there or behind it. -/
structure ByteSearch (sequences : List (List UInt8)) where
  firstHit? : List UInt8 → Nat → Option Nat
  first_of_firstHit? : ∀ {bytes offset hit}, firstHit? bytes offset = some hit →
    offset ≤ hit ∧ hitsAt bytes sequences hit ∧
      ∀ earlier, offset ≤ earlier → earlier < hit → hitsAt bytes sequences earlier = false
  none_of_firstHit? : ∀ {bytes offset}, firstHit? bytes offset = none →
    ∀ later, offset ≤ later → hitsAt bytes sequences later = false

/-- Looks for the first hit in the bytes that are left, which start at `offset`. -/
def searchBytes (sequences : List (List UInt8)) : (rest : List UInt8) → (offset : Nat) → Option Nat
  | [], offset => if sequences.any (·.isPrefixOf []) then some offset else none
  | byte :: rest, offset =>
      if sequences.any (·.isPrefixOf (byte :: rest)) then
        some offset
      else
        searchBytes sequences rest (offset + 1)

variable {sequences : List (List UInt8)} {bytes rest : List UInt8} {offset hit : Nat}

/-- The offset behind one that has bytes left. -/
theorem drop_succ_of_cons {byte : UInt8} (left : bytes.drop offset = byte :: rest) :
    bytes.drop (offset + 1) = rest ∧ offset + 1 ≤ bytes.length := by
  have lengths := congrArg List.length left
  simp only [List.length_drop, List.length_cons] at lengths
  refine ⟨?_, by omega⟩
  rw [← List.drop_drop, left, List.drop_one, List.tail_cons]

theorem first_of_searchBytes (left : bytes.drop offset = rest) (inside : offset ≤ bytes.length)
    (found : searchBytes sequences rest offset = some hit) :
    offset ≤ hit ∧ hitsAt bytes sequences hit ∧
      ∀ earlier, offset ≤ earlier → earlier < hit → hitsAt bytes sequences earlier = false := by
  induction rest generalizing offset with
  | nil =>
      simp only [searchBytes, Option.ite_none_right_eq_some, Option.some.injEq] at found
      obtain ⟨occurs, rfl⟩ := found
      refine ⟨Nat.le_refl _, by simp only [hitsAt, left, occurs, inside]; decide, ?_⟩
      intro earlier notBefore before
      omega
  | cons byte rest inductionHypothesis =>
      obtain ⟨leftBehind, insideStill⟩ := drop_succ_of_cons left
      by_cases occurs : sequences.any (·.isPrefixOf (byte :: rest)) = true
      · simp only [searchBytes, occurs, if_true, Option.some.injEq] at found
        subst hit
        refine ⟨Nat.le_refl _, by simp only [hitsAt, left, occurs, inside]; decide, ?_⟩
        intro earlier notBefore before
        omega
      · simp only [searchBytes, occurs] at found
        obtain ⟨notBefore, isHit, isFirst⟩ := inductionHypothesis leftBehind insideStill found
        refine ⟨by omega, isHit, ?_⟩
        intro earlier offsetLe before
        by_cases atOffset : earlier = offset
        · subst earlier
          simp only [hitsAt, left, occurs, Bool.and_false]
        · exact isFirst earlier (by omega) before

theorem none_of_searchBytes (left : bytes.drop offset = rest)
    (absent : searchBytes sequences rest offset = none) :
    ∀ later, offset ≤ later → hitsAt bytes sequences later = false := by
  induction rest generalizing offset with
  | nil =>
      intro later offsetLe
      have leftLater : bytes.drop later = [] := by
        rw [List.drop_eq_nil_iff] at left ⊢
        omega
      by_cases occurs : sequences.any (·.isPrefixOf []) = true
      · simp only [searchBytes, occurs, if_true] at absent
        contradiction
      · simp only [hitsAt, leftLater, occurs, Bool.and_false]
  | cons byte rest inductionHypothesis =>
      have leftBehind := (drop_succ_of_cons left).1
      by_cases occurs : sequences.any (·.isPrefixOf (byte :: rest)) = true
      · simp only [searchBytes, occurs, if_true] at absent
        contradiction
      · simp only [searchBytes, occurs] at absent
        intro later offsetLe
        by_cases atOffset : later = offset
        · subst later
          simp only [hitsAt, left, occurs, Bool.and_false]
        · exact inductionHypothesis leftBehind absent later (by omega)

/-- The search that looks at one offset after the other. -/
def ByteSearch.linear (sequences : List (List UInt8)) : ByteSearch sequences where
  firstHit? := fun bytes offset =>
    if offset ≤ bytes.length then searchBytes sequences (bytes.drop offset) offset else none
  first_of_firstHit? := by
    intro bytes offset hit found
    obtain ⟨inside, found⟩ := Option.ite_none_right_eq_some.mp found
    exact first_of_searchBytes rfl inside found
  none_of_firstHit? := by
    intro bytes offset absent
    split at absent
    · exact none_of_searchBytes rfl absent
    · intro later offsetLe
      simp only [hitsAt, Bool.and_eq_false_iff, decide_eq_false_iff_not]
      omega

/-! ## The byte scan -/

def byteWords (set : LiteralSet) : List (List UInt8) :=
  set.words.map fun word => (CodeUnit.ofChars word).flatMap CodeUnit.bytes

/-- Goes over the bytes of a text from hit to hit.  A hit at an odd offset lies across two code units
and is passed over; at an even offset the set is asked which word occurs there. -/
def scanHits (set : LiteralSet) {sequences : List (List UInt8)} (search : ByteSearch sequences)
    (view : View) (bytes : List UInt8) (offset : Nat) : Option (Nat × Nat) :=
  if offset ≤ bytes.length then
    match _found : search.firstHit? bytes offset with
    | none => none
    | some hit =>
        if hit % 2 = 1 then
          set.scanHits search view bytes (hit + 1)
        else
          match set.longestAt? view (hit / 2) with
          | some length => some (hit / 2, length)
          | none => set.scanHits search view bytes (hit + 2)
  else
    none
termination_by bytes.length + 1 - offset
decreasing_by
  all_goals
    have notBefore := (search.first_of_firstHit? _found).1
    omega

/-- The first place at `index` or behind it where a word occurs, with the length of the longest
word there. -/
def byteScan (set : LiteralSet) (search : ByteSearch set.byteWords) (view : View)
    (bytes : List UInt8) (index : Nat) : Option (Nat × Nat) :=
  set.scanHits search view bytes (2 * index)

/-! ## The choice -/

/-- Whether a set can be scanned for in the bytes of a text. -/
def canScanBytes (set : LiteralSet) : Bool :=
  !set.ignoresCase && !set.hasEmpty

/-- What the searches of one text pass on to each other. -/
structure ScanCache where
  /-- The bytes of the text, once a search has needed them. -/
  bytes : Option (List UInt8)

def ScanCache.empty : ScanCache where
  bytes := none

/-- The leftmost occurrence of a word at `index` or behind it, with the length of the longest word
there, and the cache for the next search. -/
def find? (set : LiteralSet) (search : ByteSearch set.byteWords) (view : View) (index : Nat)
    (cache : ScanCache) : Option (Nat × Nat) × ScanCache :=
  if set.canScanBytes then
    let bytes := cache.bytes.getD view.bytes
    (set.byteScan search view bytes index, ⟨some bytes⟩)
  else
    (set.plainScan view index, cache)

end TextMatch.LiteralSet
