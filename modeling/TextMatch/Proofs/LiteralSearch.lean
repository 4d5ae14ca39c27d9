import TextMatch.Finder.TokenStream
import TextMatch.Proofs.CursorOrder

/-!
# Searching for literals

A finder of words comes to the same as a finder of the matcher of these words.  The byte scan looks
at more places than the code points of the text, and at fewer of them; but a word never starts
inside a code point, and the bytes of a word stand wherever the word does.
-/

namespace TextMatch

/-! ## Words as bytes -/

theorem CodeUnit.length_flatMap_bytes (units : List CodeUnit) :
    (units.flatMap bytes).length = 2 * units.length := by
  induction units with
  | nil => rfl
  | cons unit rest inductionHypothesis =>
      rw [List.flatMap_cons, List.length_append, inductionHypothesis, List.length_cons]
      simp only [bytes, List.length_cons, List.length_nil]
      omega

namespace View

variable {view : View}

theorem length_bytes (view : View) : view.bytes.length = 2 * view.length := by
  rw [bytes, CodeUnit.length_flatMap_bytes, length_units]

theorem drop_bytes (units : List CodeUnit) (index : Nat) :
    (units.flatMap CodeUnit.bytes).drop (2 * index) =
      (units.drop index).flatMap CodeUnit.bytes := by
  induction index generalizing units with
  | zero => rfl
  | succ index inductionHypothesis =>
      cases units with
      | nil => rfl
      | cons unit rest => exact inductionHypothesis rest

/-- Where units occur, their bytes occur. -/
theorem bytes_prefix_of_startsWithAt {expected : List CodeUnit} {index : Nat}
    (occurs : view.startsWithAt index expected = true) :
    expected.flatMap CodeUnit.bytes <+: view.bytes.drop (2 * index) := by
  obtain ⟨behind, unitsEq⟩ := prefix_of_startsWithAt occurs
  rw [bytes, drop_bytes, ← unitsEq, List.flatMap_append]
  exact List.prefix_append _ _

end View

namespace LiteralSet

variable {set : LiteralSet} {view : View} {index length : Nat}

theorem canScanBytes_iff :
    set.canScanBytes = true ↔ set.ignoresCase = false ∧ set.hasEmpty = false := by
  simp [canScanBytes]

/-- Where a set that may be scanned for in bytes has an occurrence, a word stands that is not
empty. -/
theorem exists_startsWithAt_of_longestAt? (scans : set.canScanBytes = true)
    (found : set.longestAt? view index = some length) :
    ∃ word ∈ set.words, word ≠ [] ∧
      view.startsWithAt index (CodeUnit.ofChars word) = true := by
  obtain ⟨heedsCase, noEmpty⟩ := canScanBytes_iff.mp scans
  rcases exists_word_of_longestAt? found with ⟨word, isWord, nonempty, occurs⟩ | ⟨empty, -⟩
  · simp only [lengthOfWordAt?, heedsCase, Bool.false_eq_true, if_false,
      Option.ite_none_right_eq_some] at occurs
    exact ⟨word, isWord, nonempty, occurs.1⟩
  · rw [noEmpty] at empty
    contradiction

theorem isBoundary_of_longestAt? (scans : set.canScanBytes = true)
    (found : set.longestAt? view index = some length) :
    view.IsBoundary index := by
  obtain ⟨word, -, nonempty, occurs⟩ := exists_startsWithAt_of_longestAt? scans found
  exact View.isBoundary_of_startsWithAt nonempty occurs

theorem hitsAt_of_longestAt? (scans : set.canScanBytes = true)
    (found : set.longestAt? view index = some length) :
    hitsAt view.bytes set.byteWords (2 * index) = true := by
  obtain ⟨word, isWord, -, occurs⟩ := exists_startsWithAt_of_longestAt? scans found
  have bound := View.add_length_le_of_startsWithAt occurs
  have inside : 2 * index ≤ view.bytes.length := by
    rw [View.length_bytes]
    omega
  simp only [hitsAt, inside, decide_true, Bool.true_and, List.any_eq_true,
    List.isPrefixOf_iff_prefix]
  exact ⟨_, List.mem_map_of_mem isWord, View.bytes_prefix_of_startsWithAt occurs⟩

/-! ## From hit to hit -/

namespace ByteSearch

variable {sequences : List (List UInt8)} {bytes : List UInt8} {offset : Nat}
variable (search : ByteSearch sequences)

theorem firstHit?_of_hit (hit : hitsAt bytes sequences offset = true) :
    search.firstHit? bytes offset = some offset := by
  cases found : search.firstHit? bytes offset with
  | none =>
      have miss := search.none_of_firstHit? found offset (Nat.le_refl _)
      rw [miss] at hit
      contradiction
  | some first =>
      obtain ⟨notBefore, -, isFirst⟩ := search.first_of_firstHit? found
      rcases Nat.lt_or_eq_of_le notBefore with before | same
      · rw [isFirst offset (Nat.le_refl _) before] at hit
        contradiction
      · rw [same]

/-- No hit is lost by going on from an offset that is none. -/
theorem firstHit?_of_miss (miss : hitsAt bytes sequences offset = false) :
    search.firstHit? bytes offset = search.firstHit? bytes (offset + 1) := by
  have behind : ∀ {hit}, offset ≤ hit → hitsAt bytes sequences hit = true → offset + 1 ≤ hit := by
    intro hit notBefore isHit
    have notHere : offset ≠ hit := by
      rintro rfl
      rw [miss] at isHit
      contradiction
    omega
  cases here : search.firstHit? bytes offset with
  | none =>
      cases next : search.firstHit? bytes (offset + 1) with
      | none => rfl
      | some hit =>
          obtain ⟨notBefore, isHit, -⟩ := search.first_of_firstHit? next
          rw [search.none_of_firstHit? here hit (by omega)] at isHit
          contradiction
  | some first =>
      obtain ⟨notBefore, isHit, isFirst⟩ := search.first_of_firstHit? here
      have firstBehind := behind notBefore isHit
      cases next : search.firstHit? bytes (offset + 1) with
      | none =>
          rw [search.none_of_firstHit? next first firstBehind] at isHit
          contradiction
      | some hit =>
          obtain ⟨notBefore', isHit', isFirst'⟩ := search.first_of_firstHit? next
          rcases Nat.lt_trichotomy first hit with before | same | after
          · rw [isFirst' first firstBehind before] at isHit
            contradiction
          · rw [same]
          · rw [isFirst hit (by omega) after] at isHit'
            contradiction

end ByteSearch

section

variable {sequences : List (List UInt8)} {bytes : List UInt8} {offset : Nat}
variable (search : ByteSearch sequences)

theorem scanHits_of_outside (outside : bytes.length < offset) :
    set.scanHits search view bytes offset = none := by
  rw [scanHits]
  simp [Nat.not_le.mpr outside]

theorem scanHits_of_miss (miss : hitsAt bytes sequences offset = false) :
    set.scanHits search view bytes offset = set.scanHits search view bytes (offset + 1) := by
  by_cases inside : offset + 1 ≤ bytes.length
  · rw [scanHits, scanHits, search.firstHit?_of_miss miss]
    simp only [inside, Nat.le_of_succ_le inside, if_true]
  · rw [scanHits_of_outside search (Nat.not_le.mp inside), scanHits]
    cases found : search.firstHit? bytes offset with
    | none => simp
    | some hit =>
        obtain ⟨notBefore, isHit, -⟩ := search.first_of_firstHit? found
        have hitInside : hit ≤ bytes.length := by
          simp only [hitsAt, Bool.and_eq_true, decide_eq_true_eq] at isHit
          exact isHit.1
        have here : hit = offset := by omega
        rw [here, miss] at isHit
        contradiction

theorem scanHits_of_hit (hit : hitsAt bytes sequences offset = true) :
    set.scanHits search view bytes offset =
      if offset % 2 = 1 then
        set.scanHits search view bytes (offset + 1)
      else
        match set.longestAt? view (offset / 2) with
        | some length => some (offset / 2, length)
        | none => set.scanHits search view bytes (offset + 2) := by
  have inside : offset ≤ bytes.length := by
    simp only [hitsAt, Bool.and_eq_true, decide_eq_true_eq] at hit
    exact hit.1
  rw [scanHits]
  simp only [inside, if_true]
  split
  · rename_i absent
    rw [search.firstHit?_of_hit hit] at absent
    contradiction
  · rename_i first found
    rw [search.firstHit?_of_hit hit, Option.some.injEq] at found
    subst first
    rfl

/-- A hit that lies across two units is passed over. -/
theorem scanHits_odd (index : Nat) :
    set.scanHits search view bytes (2 * index + 1) = set.scanHits search view bytes (2 * (index + 1)) := by
  cases hit : hitsAt bytes sequences (2 * index + 1) with
  | false => exact scanHits_of_miss search hit
  | true =>
      have odd : (2 * index + 1) % 2 = 1 := by omega
      rw [scanHits_of_hit search hit, if_pos odd]
      rfl

theorem scanHits_of_longestAt?_eq_none (absent : set.longestAt? view index = none) :
    set.scanHits search view bytes (2 * index) = set.scanHits search view bytes (2 * (index + 1)) := by
  cases hit : hitsAt bytes sequences (2 * index) with
  | false => rw [scanHits_of_miss search hit, scanHits_odd]
  | true =>
      have even : ¬2 * index % 2 = 1 := by omega
      have half : 2 * index / 2 = index := by omega
      rw [scanHits_of_hit search hit, if_neg even, half, absent]
      rfl

end

variable (search : ByteSearch set.byteWords)

theorem scanHits_of_longestAt? (scans : set.canScanBytes = true)
    (found : set.longestAt? view index = some length) :
    set.scanHits search view view.bytes (2 * index) = some (index, length) := by
  have even : ¬2 * index % 2 = 1 := by omega
  have half : 2 * index / 2 = index := by omega
  rw [scanHits_of_hit search (hitsAt_of_longestAt? scans found), if_neg even, half, found]

/-! ## Both scans agree -/

theorem byteScan_eq_plainScan (scans : set.canScanBytes = true) (view : View) (index : Nat) :
    set.byteScan search view view.bytes index = set.plainScan view index := by
  rw [byteScan]
  fun_induction plainScan set view index with
  | case1 index length found => exact scanHits_of_longestAt? search scans found
  | case2 index absent noCodePoint =>
      rw [scanHits_of_longestAt?_eq_none search absent]
      apply scanHits_of_outside
      have outside := View.length_le_of_decodeAt_eq_none noCodePoint
      rw [View.length_bytes]
      omega
  | case3 index absent char count decoded inductionHypothesis =>
      rw [scanHits_of_longestAt?_eq_none search absent, ← inductionHypothesis]
      have countEq := View.length_of_decodeAt decoded
      by_cases isPair : view.hasPairAt index = true
      · -- The place inside the pair is one that only the byte scan looks at.
        simp only [isPair, if_true] at countEq
        subst count
        apply scanHits_of_longestAt?_eq_none
        cases found : set.longestAt? view (index + 1) with
        | none => rfl
        | some length =>
            have boundary := isBoundary_of_longestAt? scans found
            rw [View.isBoundary_succ_iff, isPair] at boundary
            contradiction
      · simp only [isPair, Bool.false_eq_true, if_false] at countEq
        rw [countEq]

/-- A cache that was filled, if at all, in searches of the same text. -/
def ScanCache.Fits (cache : ScanCache) (view : View) : Prop :=
  ∀ bytes, cache.bytes = some bytes → bytes = view.bytes

theorem ScanCache.fits_empty (view : View) : ScanCache.empty.Fits view := by
  intro bytes cached
  contradiction

variable {cache : ScanCache}

theorem ScanCache.Fits.getD_bytes (fits : cache.Fits view) :
    cache.bytes.getD view.bytes = view.bytes := by
  cases cached : cache.bytes with
  | none => rfl
  | some bytes => exact fits bytes cached

theorem find?_eq_plainScan (fits : cache.Fits view) (index : Nat) :
    (set.find? search view index cache).1 = set.plainScan view index := by
  rw [find?]
  split
  · rename_i scans
    simp only [fits.getD_bytes]
    exact byteScan_eq_plainScan search scans view index
  · rfl

theorem fits_of_find? (fits : cache.Fits view) (index : Nat) :
    (set.find? search view index cache).2.Fits view := by
  rw [find?]
  split
  · intro bytes cached
    simp only [fits.getD_bytes, Option.some.injEq] at cached
    exact cached.symm
  · exact fits

end LiteralSet

end TextMatch
