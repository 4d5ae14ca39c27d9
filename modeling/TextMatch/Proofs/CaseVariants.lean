import TextMatch.Proofs.LiteralFinders
import TextMatch.Proofs.LiteralSets
import TextMatch.Proofs.TokenTiling

/-!
# Case variants

A set that ignores case finds the case variants of its words.  Where there are none, because folding
changes neither the words nor the text, it finds what the set that heeds case finds, except for
surrogates without their partner: they are decoded as the replacement character, and only the set
that ignores case compares what is decoded.
-/

namespace TextMatch

/-- The units encode a word: every surrogate has its partner. -/
def CodeUnit.WellFormed (units : List CodeUnit) : Prop :=
  ∃ word, ofChars word = units

namespace View

variable {view : View} {index stop length : Nat} {word : List Char}

/-! ## Well-formed texts -/

/-- The units that a word is decoded from are well-formed just where they encode the word. -/
theorem wellFormed_iff (decodes : view.Decodes index word stop) (inside : index ≤ view.length) :
    CodeUnit.WellFormed ((view.units.drop index).take (stop - index)) ↔
      view.startsWithAt index (CodeUnit.ofChars word) = true := by
  have ordered := decodes.le
  have stopInside := decodes.le_length inside
  constructor
  · rintro ⟨other, encoded⟩
    have occurs : view.startsWithAt index (CodeUnit.ofChars other) = true := by
      rw [startsWithAt_iff inside, encoded]
      exact List.take_prefix _ _
    have otherDecodes := decodes_of_startsWithAt occurs
    have endEq : index + (CodeUnit.ofChars other).length = stop := by
      rw [encoded, List.length_take, List.length_drop, length_units]
      omega
    rw [endEq] at otherDecodes
    rwa [decodes.unique otherDecodes]
  · intro occurs
    have endEq := decodes.stop_unique (decodes_of_startsWithAt occurs)
    rw [startsWithAt_iff inside, List.prefix_iff_eq_take] at occurs
    refine ⟨word, ?_⟩
    rwa [endEq, Nat.add_sub_cancel_left]

/-- A well-formed text has every word encoded that is decoded from a boundary. -/
theorem startsWithAt_of_wellFormed (wellFormed : CodeUnit.WellFormed view.units)
    (boundary : view.IsBoundary index) (inside : index ≤ view.length)
    (decodes : view.Decodes index word stop) :
    view.startsWithAt index (CodeUnit.ofChars word) = true := by
  obtain ⟨whole, encoded⟩ := wellFormed
  have wholeOccurs : view.startsWithAt 0 (CodeUnit.ofChars whole) = true := by
    rw [startsWithAt_iff (Nat.zero_le _), encoded]
    exact List.prefix_refl _
  have wholeDecodes := decodes_of_startsWithAt wholeOccurs
  rw [encoded, length_units, Nat.zero_add] at wholeDecodes
  obtain ⟨front, frontDecodes⟩ := exists_decodes_of_isBoundary index boundary inside
  have upTo := frontDecodes.append decodes
  have occurs : view.startsWithAt 0 (CodeUnit.ofChars (front ++ word)) = true := by
    rcases upTo.comparable wholeDecodes with ⟨more, rfl, -⟩ | ⟨more, same, rest⟩
    · rw [CodeUnit.ofChars_append, startsWithAt_append] at wholeOccurs
      exact wholeOccurs.1
    · -- Nothing is decoded behind the end of the text.
      obtain rfl := Nat.le_antisymm (decodes.le_length inside) rest.le
      rw [same, rest.eq_nil, List.append_nil]
      exact wholeOccurs
  rw [CodeUnit.ofChars_append, startsWithAt_append, Nat.zero_add] at occurs
  have endEq := frontDecodes.stop_unique (decodes_of_startsWithAt occurs.1)
  rw [Nat.zero_add] at endEq
  rw [endEq]
  exact occurs.2

/-! ## Texts that folding does not change -/

theorem fold_of_decodeAt {char : Char} {count : Nat}
    (fixed : ∀ char ∈ view.codePoints, CaseFold.fold char = char)
    (decoded : view.decodeAt index = some (char, count)) : CaseFold.fold char = char := by
  by_cases boundary : view.IsBoundary index
  · obtain ⟨front, decodes⟩ := exists_decodes_of_isBoundary index boundary
      (Nat.le_of_lt (bounds_of_decodeAt decoded).1)
    apply fixed
    rw [codePoints, indexedCodePoints, decodes.codePointsFrom,
      indexedCodePointsFrom_of_decodeAt decoded, List.map_cons]
    exact List.mem_append_right front List.mem_cons_self
  · rw [decodeAt_of_not_isBoundary boundary] at decoded
    obtain ⟨rfl, -⟩ := Prod.mk.inj (Option.some.inj decoded)
    exact CaseFold.fold_replacement

theorem Decodes.map_fold (decodes : view.Decodes index word stop)
    (fixed : ∀ char ∈ view.codePoints, CaseFold.fold char = char) :
    word.map CaseFold.fold = word := by
  induction decodes with
  | nil => rfl
  | cons decoded _ inductionHypothesis =>
      rw [List.map_cons, fold_of_decodeAt fixed decoded, inductionHypothesis]

theorem spells_ignoring_iff (fixed : ∀ char ∈ view.codePoints, CaseFold.fold char = char) :
    view.Spells true index word length ↔ view.Decodes index word (index + length) := by
  simp only [Spells, if_true]
  constructor
  · rintro ⟨chars, decodes, rfl⟩
    rwa [decodes.map_fold fixed]
  · exact fun decodes => ⟨word, decodes, decodes.map_fold fixed⟩

/-- Heeding case, a word is spelled where it is spelled ignoring case by well-formed units. -/
theorem spells_heeding_iff (fixed : ∀ char ∈ view.codePoints, CaseFold.fold char = char)
    (inside : index ≤ view.length) :
    view.Spells false index word length ↔
      view.Spells true index word length ∧
        CodeUnit.WellFormed ((view.units.drop index).take length) := by
  rw [spells_ignoring_iff fixed, spells_heeding_iff_startsWithAt inside]
  constructor
  · rintro ⟨occurs, rfl⟩
    have decodes := decodes_of_startsWithAt occurs
    have wellFormed := (wellFormed_iff decodes inside).mpr occurs
    rw [Nat.add_sub_cancel_left] at wellFormed
    exact ⟨decodes, wellFormed⟩
  · rintro ⟨decodes, wellFormed⟩
    have occurs := wellFormed_iff decodes inside
    rw [Nat.add_sub_cancel_left] at occurs
    have encoded := occurs.mp wellFormed
    have endEq := decodes.stop_unique (decodes_of_startsWithAt encoded)
    exact ⟨encoded, Nat.add_left_cancel endEq⟩

end View

namespace LiteralSet

variable {strings : List String} {set : LiteralSet} {view : View}
  {index length origin place : Nat}

/-! ## The longest occurrence -/

/-- Folding changes neither the strings nor what is decoded from the view. -/
structure FixedByFolding (strings : List String) (view : View) : Prop where
  strings : ∀ text ∈ strings, ∀ char ∈ text.toList, CaseFold.fold char = char
  view : ∀ char ∈ view.codePoints, CaseFold.fold char = char

/-- The longest occurrence at `index`, if there is one, is well-formed. -/
def FindsWellFormed (set : LiteralSet) (view : View) (index : Nat) : Prop :=
  ∀ length, set.longestAt? view index = some length →
    CodeUnit.WellFormed ((view.units.drop index).take length)

theorem distinct_of_fixed
    (fixed : ∀ text ∈ strings, ∀ char ∈ text.toList, CaseFold.fold char = char) :
    distinct strings false = distinct strings true := by
  have sameKept : strings.map (keep false) = strings.map (keep true) := by
    apply List.map_congr_left
    intro text member
    have folded : text.toList.map CaseFold.fold = text.toList := by
      rw [List.map_congr_left (fixed text member), List.map_id']
    change text = String.ofList (text.toList.map CaseFold.fold)
    rw [folded, String.ofList_toList]
  rw [distinct, distinct, sameKept]

theorem lengthsAt_heeding (fixed : FixedByFolding strings view) (inside : index ≤ view.length) :
    (ofStrings strings false).lengthsAt view index =
      { length ∈ (ofStrings strings true).lengthsAt view index |
        CodeUnit.WellFormed ((view.units.drop index).take length) } := by
  ext length
  rw [lengthsAt_ofStrings, lengthsAt_ofStrings, distinct_of_fixed fixed.strings]
  constructor
  · rintro ⟨member, isMember, spelled⟩
    have parts := (View.spells_heeding_iff fixed.view inside).mp spelled
    exact ⟨⟨member, isMember, parts.1⟩, parts.2⟩
  · rintro ⟨⟨member, isMember, spelled⟩, wellFormed⟩
    exact ⟨member, isMember, (View.spells_heeding_iff fixed.view inside).mpr ⟨spelled, wellFormed⟩⟩

/-- Past the end of a text only the empty word occurs. -/
theorem longestAt?_of_outside (outside : view.length < index) :
    set.longestAt? view index = if set.hasEmpty then some 0 else none := by
  have nothing : view.codePointAt index = none := by
    rw [View.codePointAt, View.decodeAt_of_outside (Nat.le_of_lt outside), Option.map_none]
  rw [longestAt?, bucketAt, nothing]
  rfl

theorem findsWellFormed_of_outside (outside : view.length < index) :
    set.FindsWellFormed view index := by
  intro length _
  have nothing : view.units.drop index = [] := by
    rw [List.drop_eq_nil_iff, View.length_units]
    exact Nat.le_of_lt outside
  rw [nothing, List.take_nil]
  exact ⟨[], rfl⟩

theorem longestAt?_eq_iff (fixed : FixedByFolding strings view) (index : Nat) :
    (ofStrings strings false).longestAt? view index =
        (ofStrings strings true).longestAt? view index ↔
      (ofStrings strings true).FindsWellFormed view index := by
  by_cases inside : index ≤ view.length
  · constructor
    · intro same length found
      rw [← same, longestAt?_eq_some_iff (folded_ofStrings strings false) inside,
        lengthsAt_heeding fixed inside] at found
      exact found.1.2
    · intro wellFormed
      cases found : (ofStrings strings true).longestAt? view index with
      | none =>
          rw [longestAt?_eq_none_iff (folded_ofStrings strings true) inside] at found
          rw [longestAt?_eq_none_iff (folded_ofStrings strings false) inside,
            lengthsAt_heeding fixed inside, found]
          exact Set.sep_empty _
      | some length =>
          have isGreatest :=
            (longestAt?_eq_some_iff (folded_ofStrings strings true) inside).mp found
          rw [longestAt?_eq_some_iff (folded_ofStrings strings false) inside,
            lengthsAt_heeding fixed inside]
          exact ⟨⟨isGreatest.1, wellFormed length found⟩,
            fun other member => isGreatest.2 member.1⟩
  · have outside := Nat.not_le.mp inside
    rw [longestAt?_of_outside outside, longestAt?_of_outside outside, hasEmpty_ignoring_eq]
    exact iff_of_true rfl (findsWellFormed_of_outside outside)

/-- The longest occurrence ignoring case is decoded from the text as one of the strings. -/
theorem exists_decodes_of_longestAt? (fixed : FixedByFolding strings view)
    (inside : index ≤ view.length)
    (found : (ofStrings strings true).longestAt? view index = some length) :
    ∃ text ∈ strings, view.Decodes index text.toList (index + length) := by
  have isGreatest := (longestAt?_eq_some_iff (folded_ofStrings strings true) inside).mp found
  rw [lengthsAt_ofStrings, ← distinct_of_fixed fixed.strings] at isGreatest
  obtain ⟨text, isMember, spelled⟩ := isGreatest.1
  refine ⟨text, ?_, (View.spells_ignoring_iff fixed.view).mp spelled⟩
  rw [distinct, List.mem_toFinset, List.mem_map] at isMember
  obtain ⟨kept, member, rfl⟩ := isMember
  exact member

theorem findsWellFormed_of_strings (fixed : FixedByFolding strings view)
    (known : ∀ text ∈ strings, CodeUnit.replacement ∉ text.toList) (index : Nat) :
    (ofStrings strings true).FindsWellFormed view index := by
  by_cases inside : index ≤ view.length
  · intro length found
    obtain ⟨text, member, decodes⟩ := exists_decodes_of_longestAt? fixed inside found
    have occurs := View.startsWithAt_of_decodes decodes inside (known text member)
    have wellFormed := (View.wellFormed_iff decodes inside).mpr occurs
    rwa [Nat.add_sub_cancel_left] at wellFormed
  · exact findsWellFormed_of_outside (Nat.not_le.mp inside)

theorem findsWellFormed_of_view (fixed : FixedByFolding strings view)
    (wellFormed : CodeUnit.WellFormed view.units) (inside : index ≤ view.length)
    (boundary : view.IsBoundary index) : (ofStrings strings true).FindsWellFormed view index := by
  intro length found
  obtain ⟨text, -, decodes⟩ := exists_decodes_of_longestAt? fixed inside found
  have occurs := View.startsWithAt_of_wellFormed wellFormed boundary inside decodes
  have found := (View.wellFormed_iff decodes inside).mpr occurs
  rwa [Nat.add_sub_cancel_left] at found

/-! ## Scans -/

theorem plainScan_of_end (absent : set.longestAt? view index = none)
    (ends : view.decodeAt index = none) : set.plainScan view index = none := by
  rw [plainScan, absent]
  simp only
  split
  · rfl
  · rename_i decoded
    rw [ends] at decoded
    contradiction

theorem plainScan_of_absent {char : Char} {count : Nat}
    (absent : set.longestAt? view index = none)
    (decoded : view.decodeAt index = some (char, count)) :
    set.plainScan view index = set.plainScan view (index + count) := by
  rw [plainScan, absent]
  simp only
  split
  · rename_i ends
    rw [ends] at decoded
    contradiction
  · rename_i decoded'
    rw [decoded] at decoded'
    obtain ⟨-, rfl⟩ := Prod.mk.inj (Option.some.inj decoded')
    rfl

theorem bounds_of_plainScan (inside : origin ≤ view.length)
    (found : set.plainScan view origin = some (place, length)) :
    origin ≤ place ∧ place ≤ view.length ∧ (view.IsBoundary origin → view.IsBoundary place) ∧
      set.longestAt? view place = some length := by
  fun_induction plainScan set view origin with
  | case1 origin longest occurs =>
      obtain ⟨rfl, rfl⟩ := Prod.mk.inj (Option.some.inj found)
      exact ⟨Nat.le_refl _, inside, id, occurs⟩
  | case2 => contradiction
  | case3 origin absent char count decoded inductionHypothesis =>
      obtain ⟨forward, placeInside, boundary, occurs⟩ :=
        inductionHypothesis (View.add_le_length_of_decodeAt decoded) found
      refine ⟨Nat.le_of_add_right_le forward, placeInside, ?_, occurs⟩
      exact fun _ => boundary (View.isBoundary_add_of_decodeAt decoded)

/-- The sets agree just where what the other one finds is well-formed. -/
def AgreesWhereWellFormed (set other : LiteralSet) (view : View) : Prop :=
  ∀ index, set.longestAt? view index = other.longestAt? view index ↔
    other.FindsWellFormed view index

variable {other : LiteralSet}

theorem AgreesWhereWellFormed.plainScan_eq (agrees : set.AgreesWhereWellFormed other view)
    (wellFormed : ∀ place length, other.plainScan view origin = some (place, length) →
      CodeUnit.WellFormed ((view.units.drop place).take length)) :
    set.plainScan view origin = other.plainScan view origin := by
  fun_induction plainScan other view origin with
  | case1 origin longest occurs =>
      have same := (agrees origin).mpr <| by
        intro length found
        rw [occurs] at found
        obtain rfl := Option.some.inj found
        exact wellFormed origin longest rfl
      rw [plainScan, same, occurs]
  | case2 origin absent noCodePoint =>
      have same := (agrees origin).mpr (by simp [FindsWellFormed, absent])
      exact plainScan_of_end (same.trans absent) noCodePoint
  | case3 origin absent char count decoded inductionHypothesis =>
      have same := (agrees origin).mpr (by simp [FindsWellFormed, absent])
      rw [plainScan_of_absent (same.trans absent) decoded]
      exact inductionHypothesis wellFormed

end LiteralSet

/-! ## Finders -/

namespace Finder

open Cursor

variable {set other : LiteralSet} {view : View} {origin place length : Nat} {category : String}

theorem exists_foundAt (ordered : origin ≤ place) (room : place + length ≤ view.length) :
    ∃ fragment, view.slice origin place = .ok fragment ∧
      foundAt view origin (some (place, length)) =
        .ok ⟨fragment, some ⟨view, place, place + length, place + length, true⟩⟩ := by
  have inside := Nat.le_of_add_right_le room
  obtain ⟨fragment, sliced⟩ := View.exists_slice ordered inside
  refine ⟨fragment, sliced, ?_⟩
  simp only [foundAt, atOffset_of_le inside, (ready_fresh inside).advance room, sliced, bind,
    Except.bind, moved_fresh room]
  rfl

theorem find_literals (search : LiteralSet.ByteSearch set.byteWords)
    (inside : origin ≤ view.length) :
    (Finder.mk category (.literals set search)).find view origin =
      foundAt view origin (set.plainScan view origin) := by
  rw [find_eq_scan _ inside]
  exact scan_literals inside

/-- A finder of words captures the longest word where it finds one. -/
theorem exists_occurrence (search : LiteralSet.ByteSearch set.byteWords)
    (inside : origin ≤ view.length) {found : Found} {cursor : Cursor}
    (isFound : (Finder.mk category (.literals set search)).find view origin = .ok found)
    (matched : found.matched = some cursor) :
    ∃ place length, set.plainScan view origin = some (place, length) ∧
      place + length ≤ view.length ∧
      cursor = ⟨view, place, place + length, place + length, true⟩ := by
  rw [find_literals search inside] at isFound
  cases scanned : set.plainScan view origin with
  | none =>
      obtain ⟨fragment, -, absent⟩ := exists_notFound inside
      rw [scanned, foundAt, absent] at isFound
      obtain rfl := Except.ok.inj isFound
      contradiction
  | some occurrence =>
      obtain ⟨place, length⟩ := occurrence
      obtain ⟨forward, placeInside, -, occurs⟩ := LiteralSet.bounds_of_plainScan inside scanned
      have room := (LiteralSet.bounds_of_longestAt? occurs placeInside).1
      obtain ⟨fragment, -, foundEq⟩ := exists_foundAt forward room
      rw [scanned, foundEq] at isFound
      obtain rfl := Except.ok.inj isFound
      exact ⟨place, length, rfl, room, (Option.some.inj matched).symm⟩

theorem captures_of_find_eq (agrees : set.AgreesWhereWellFormed other view)
    (search : LiteralSet.ByteSearch set.byteWords)
    (search' : LiteralSet.ByteSearch other.byteWords) (inside : origin ≤ view.length)
    (same : (Finder.mk category (.literals set search)).find view origin =
      (Finder.mk category (.literals other search')).find view origin) :
    (Finder.mk category (.literals other search')).Captures view
      (fun piece => CodeUnit.WellFormed piece.units) origin := by
  intro found cursor captured isFound matched _ capturedEq
  obtain ⟨place, length, scanned, room, rfl⟩ := exists_occurrence search' inside isFound matched
  rw [← same] at isFound
  obtain ⟨place', length', scanned', -, cursorEq⟩ :=
    exists_occurrence search inside isFound matched
  obtain rfl : place = place' := congrArg Cursor.start cursorEq
  obtain rfl : length = length' :=
    Nat.add_left_cancel (congrArg Cursor.captureEnd cursorEq)
  have occurs := (LiteralSet.bounds_of_plainScan inside scanned).2.2.2
  have occurs' := (LiteralSet.bounds_of_plainScan inside scanned').2.2.2
  have sliced : view.slice place (place + length) = .ok captured := capturedEq
  rw [View.units_of_slice sliced, Nat.add_sub_cancel_left]
  exact (agrees place).mp (occurs'.trans occurs.symm) length occurs

theorem find_eq_of_captures (agrees : set.AgreesWhereWellFormed other view)
    (search : LiteralSet.ByteSearch set.byteWords)
    (search' : LiteralSet.ByteSearch other.byteWords) (inside : origin ≤ view.length)
    (wellFormed : (Finder.mk category (.literals other search')).Captures view
      (fun piece => CodeUnit.WellFormed piece.units) origin) :
    (Finder.mk category (.literals set search)).find view origin =
      (Finder.mk category (.literals other search')).find view origin := by
  rw [find_literals search inside, find_literals search' inside]
  congr 1
  apply agrees.plainScan_eq
  intro place length scanned
  obtain ⟨forward, placeInside, -, occurs⟩ := LiteralSet.bounds_of_plainScan inside scanned
  have room := (LiteralSet.bounds_of_longestAt? occurs placeInside).1
  obtain ⟨fragment, -, foundEq⟩ := @exists_foundAt view origin place length forward room
  obtain ⟨captured, sliced⟩ := View.exists_slice (Nat.le_add_right place length) room
  cases length with
  | zero => exact ⟨[], rfl⟩
  | succ before =>
      have notEmpty : place + (before + 1) ≠ place :=
        Nat.ne_of_gt (Nat.lt_add_of_pos_right (Nat.succ_pos before))
      rw [← scanned, ← find_literals search' inside] at foundEq
      have capturedWellFormed : CodeUnit.WellFormed captured.units :=
        wellFormed _ _ captured foundEq rfl (beq_eq_false_iff_ne.mpr notEmpty) sliced
      rwa [View.units_of_slice sliced, Nat.add_sub_cancel_left] at capturedWellFormed

/-- Finders of the two sets find the same just where what the other one captures is well-formed. -/
theorem find_eq_iff (agrees : set.AgreesWhereWellFormed other view)
    (search : LiteralSet.ByteSearch set.byteWords)
    (search' : LiteralSet.ByteSearch other.byteWords) (origin : Nat) :
    (Finder.mk category (.literals set search)).find view origin =
        (Finder.mk category (.literals other search')).find view origin ↔
      (Finder.mk category (.literals other search')).Captures view
        (fun piece => CodeUnit.WellFormed piece.units) origin := by
  by_cases inside : origin ≤ view.length
  · exact ⟨captures_of_find_eq agrees search search' inside,
      find_eq_of_captures agrees search search' inside⟩
  · have outside := Nat.not_le.mp inside
    have failed := find_eq_error (Finder.mk category (.literals other search')) outside
    refine iff_of_true ((find_eq_error _ outside).trans failed.symm) ?_
    intro found cursor captured isFound
    rw [failed] at isFound
    contradiction

/-- What a finder of words gives out as found is the longest word at a boundary. -/
theorem exists_occurrence_of_token (search : LiteralSet.ByteSearch set.byteWords)
    {items : List TokenStream.Item}
    (loop : Loop ⟨category, .literals set search⟩ view origin items)
    (boundary : view.IsBoundary origin) {token : Token} (member : .ok token ∈ items)
    (isFound : token.kind = .found) :
    ∃ place length, place ≤ view.length ∧ view.IsBoundary place ∧
      set.longestAt? view place = some length ∧
      view.slice place (place + length) = .ok token.text := by
  induction loop with
  | finished => simp at member
  | failed => simp at member
  | zeroWidth => simp at member
  | @rest _ fragment =>
      simp only [List.mem_map, Except.ok.injEq, exists_eq_right, fragmentTokens] at member
      split at member
      · simp at member
      · rw [List.mem_singleton.mp member] at isFound
        contradiction
  | found inside found notEmpty capturedEq _ inductionHypothesis =>
      obtain ⟨place, length, scanned, room, rfl⟩ :=
        exists_occurrence search (Nat.le_of_lt inside) found rfl
      obtain ⟨-, placeInside, isBoundary, occurs⟩ :=
        LiteralSet.bounds_of_plainScan (Nat.le_of_lt inside) scanned
      have placeBoundary := isBoundary boundary
      rcases List.mem_append.mp member with here | later
      · simp only [List.mem_map, Except.ok.injEq, exists_eq_right, matchTokens, fragmentTokens,
          List.mem_append, List.mem_singleton] at here
        rcases here with inFragment | isMatch
        · split at inFragment
          · simp at inFragment
          · rw [List.mem_singleton.mp inFragment] at isFound
            contradiction
        · rw [isMatch]
          exact ⟨place, length, placeInside, placeBoundary, occurs, capturedEq⟩
      · apply inductionHypothesis _ later
        exact (LiteralSet.bounds_of_longestAt? occurs placeInside).2 placeBoundary

/-- Finders of the two sets collect the same just where all that the other one finds is
well-formed. -/
theorem items_eq_iff (agrees : set.AgreesWhereWellFormed other view)
    (search : LiteralSet.ByteSearch set.byteWords)
    (search' : LiteralSet.ByteSearch other.byteWords) :
    (Finder.mk category (.literals set search)).items view =
        (Finder.mk category (.literals other search')).items view ↔
      ∀ token, .ok token ∈ (Finder.mk category (.literals other search')).items view →
        token.kind = .found → CodeUnit.WellFormed token.text.units := by
  constructor
  · intro same token member isFound
    obtain ⟨place, length, -, -, occurs, sliced⟩ :=
      exists_occurrence_of_token search' (loop_items _ view) View.isBoundary_zero member isFound
    rw [← same] at member
    obtain ⟨place', length', -, -, occurs', sliced'⟩ :=
      exists_occurrence_of_token search (loop_items _ view) View.isBoundary_zero member isFound
    obtain ⟨-, startEq, stopEq⟩ := View.window_of_slice sliced
    obtain ⟨-, startEq', stopEq'⟩ := View.window_of_slice sliced'
    obtain rfl : place = place' := by omega
    obtain rfl : length = length' := by omega
    rw [View.units_of_slice sliced, Nat.add_sub_cancel_left]
    exact (agrees place).mp (occurs'.trans occurs.symm) length occurs
  · intro wellFormed
    have loop : Loop (Finder.mk category (.literals set search)) view 0 _ :=
      (loop_items (Finder.mk category (.literals other search')) view).congr
        (fun piece => CodeUnit.WellFormed piece.units) rfl
        (fun offset _ captures => ((find_eq_iff agrees search search' offset).mpr captures).symm)
        wellFormed
    exact items_eq_of_loop loop

/-- The tokens are well-formed if the set finds nothing else at boundaries. -/
theorem wellFormed_of_token (search : LiteralSet.ByteSearch set.byteWords)
    (wellFormed : ∀ index, index ≤ view.length → view.IsBoundary index →
      set.FindsWellFormed view index) {token : Token}
    (member : .ok token ∈ (Finder.mk category (.literals set search)).items view)
    (isFound : token.kind = .found) : CodeUnit.WellFormed token.text.units := by
  obtain ⟨place, length, inside, boundary, occurs, sliced⟩ :=
    exists_occurrence_of_token search (loop_items _ view) View.isBoundary_zero member isFound
  rw [View.units_of_slice sliced, Nat.add_sub_cancel_left]
  exact wellFormed place inside boundary length occurs

end Finder

/-! ## Both modes -/

open CodeUnit (WellFormed replacement)

open LiteralSet (ByteSearch FixedByFolding ofStrings)

/-- Where folding changes neither the strings nor the text, both modes of comparing find the same
just where what is found ignoring case is well-formed.  That is so everywhere if no string has the
replacement character, and at all boundaries if every surrogate of the text has its partner. -/
theorem case_modes_agree_where_well_formed (strings : List String) (view : View)
    (fixed : FixedByFolding strings view) :
    let heeding := ofStrings strings false
    let ignoring := ofStrings strings true
    (∀ index, heeding.longestAt? view index = ignoring.longestAt? view index ↔
        ignoring.FindsWellFormed view index) ∧
      (∀ cursor : Cursor, cursor.view = view → ignoring.FindsWellFormed view cursor.position →
        (Matcher.literals heeding).run cursor = (Matcher.literals ignoring).run cursor) ∧
      ((∀ text ∈ strings, replacement ∉ text.toList) →
        ∀ index, ignoring.FindsWellFormed view index) ∧
      (WellFormed view.units → ∀ index, index ≤ view.length → view.IsBoundary index →
        ignoring.FindsWellFormed view index) ∧
      ∀ (category : String) (search : ByteSearch heeding.byteWords)
        (search' : ByteSearch ignoring.byteWords),
        let finder : Finder := ⟨category, .literals heeding search⟩
        let finder' : Finder := ⟨category, .literals ignoring search'⟩
        (∀ offset, finder.find view offset = finder'.find view offset ↔
            finder'.Captures view (fun piece => WellFormed piece.units) offset) ∧
          (finder.items view = finder'.items view ↔
            ∀ token, .ok token ∈ finder'.items view → token.kind = .found →
              WellFormed token.text.units) ∧
          ((∀ text ∈ strings, replacement ∉ text.toList) ∨ WellFormed view.units →
            finder.items view = finder'.items view ∧
              finder.tokens view = finder'.tokens view) := by
  intro heeding ignoring
  have agrees : heeding.AgreesWhereWellFormed ignoring view :=
    LiteralSet.longestAt?_eq_iff fixed
  refine ⟨agrees, ?_, LiteralSet.findsWellFormed_of_strings fixed, ?_, ?_⟩
  · rintro cursor rfl wellFormed
    simp only [Matcher.run, Matcher.step, Step.literals, guarded,
      (agrees cursor.position).mpr wellFormed]
  · exact fun wellFormed index inside boundary =>
      LiteralSet.findsWellFormed_of_view fixed wellFormed inside boundary
  · intro category search search' finder finder'
    have itemsEq : finder.items view = finder'.items view ↔ _ :=
      Finder.items_eq_iff agrees search search'
    refine ⟨Finder.find_eq_iff agrees search search', itemsEq, ?_⟩
    intro certain
    have atBoundaries : ∀ index, index ≤ view.length → view.IsBoundary index →
        ignoring.FindsWellFormed view index := by
      intro index inside boundary
      rcases certain with known | wellFormed
      · exact LiteralSet.findsWellFormed_of_strings fixed known index
      · exact LiteralSet.findsWellFormed_of_view fixed wellFormed inside boundary
    have sameItems : finder.items view = finder'.items view :=
      itemsEq.mpr fun _ member isFound =>
        Finder.wellFormed_of_token search' atBoundaries member isFound
    refine ⟨sameItems, ?_⟩
    rw [Finder.tokens, Finder.tokens, sameItems]

theorem case_modes_agree_where_well_formed_behind_letter :
    let strings := ["\uFFFD"]
    let view := View.ofString "a\uFFFD"
    let heeding := ofStrings strings false
    let ignoring := ofStrings strings true
    let finder : Finder := ⟨"word", .literals heeding⟩
    let finder' : Finder := ⟨"word", .literals ignoring⟩
    FixedByFolding strings view ∧ ignoring.longestAt? view 1 = some 1 ∧
      heeding.longestAt? view 1 = ignoring.longestAt? view 1 ∧
      finder.items view = finder'.items view := by
  intro strings view heeding ignoring finder finder'
  have codePoints : view.codePoints = ['a', '\uFFFD'] := by decide +kernel
  have fixed : FixedByFolding strings view := by
    constructor
    · simp [strings, CaseFold.fold_replacement]
    · simp [codePoints, CaseFold.fold_replacement]
      decide
  have wellFormed : WellFormed view.units := ⟨_, (View.units_ofString _).symm⟩
  obtain ⟨agree, -, -, atBoundaries, finders⟩ :=
    case_modes_agree_where_well_formed strings view fixed
  have found : ignoring.FindsWellFormed view 1 :=
    atBoundaries wellFormed 1 (by decide) (by decide)
  obtain ⟨-, -, same⟩ := finders "word" (.linear _) (.linear _)
  exact ⟨fixed, by decide +kernel, (agree 1).mpr found, (same (Or.inr wellFormed)).1⟩

/-- A surrogate without its partner is the replacement character only where case is ignored. -/
theorem lone_surrogates_are_found_ignoring_case :
    let strings := ["\uFFFD"]
    let view := View.ofUnits #[0xD83D]
    FixedByFolding strings view ∧ (ofStrings strings false).longestAt? view 0 = none ∧
      (ofStrings strings true).longestAt? view 0 = some 1 := by
  intro strings view
  have codePoints : view.codePoints = ['\uFFFD'] := by decide +kernel
  have fixed : FixedByFolding strings view := by
    constructor
    · simp [strings, CaseFold.fold_replacement]
    · simp [codePoints, CaseFold.fold_replacement]
  exact ⟨fixed, by decide +kernel, by decide +kernel⟩

end TextMatch
