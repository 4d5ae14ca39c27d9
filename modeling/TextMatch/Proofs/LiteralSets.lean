import Mathlib.Data.Finset.Card
import Mathlib.Data.List.Sort
import Mathlib.Order.Bounds.Basic
import Mathlib.Order.RelIso.Basic
import TextMatch.Proofs.AscendingLists
import TextMatch.Proofs.EncodedWords
import TextMatch.Proofs.Searches

/-!
# Literal sets as sets

A set of literals is determined by the distinct strings that it was built from, and the occurrence
that it finds at a place of a text is the longest one that there is: the first of the ranked words
that occurs takes the most of the text, although words are ranked by their own lengths.
-/

namespace TextMatch.LiteralSet

variable {set : LiteralSet} {view : View} {index length : Nat} {word : List Char}

/-! ## Strings and words -/

/-- The form in which a string is kept. -/
def keep (ignoresCase : Bool) (text : String) : String :=
  if ignoresCase then CaseFold.foldText text else text

/-- The distinct strings among those that a set is built from, folded if case is ignored. -/
def distinct (strings : List String) (ignoresCase : Bool) : Finset String :=
  (strings.map (keep ignoresCase)).toFinset

variable {strings : List String} {ignoresCase : Bool}

theorem toList_keep (ignoresCase : Bool) (text : String) :
    (keep ignoresCase text).toList = normalize ignoresCase text.toList := by
  cases ignoresCase with
  | false => rfl
  | true => exact String.toList_ofList

theorem mem_words_iff :
    word ∈ (ofStrings strings ignoresCase).words ↔
      String.ofList word ∈ distinct strings ignoresCase := by
  have membersEq : (ofStrings strings ignoresCase).words =
      ascending ((strings.map String.toList).map (normalize ignoresCase)) :=
    rfl
  rw [membersEq, mem_ascending_iff, distinct, List.mem_toFinset, List.map_map, List.mem_map,
    List.mem_map]
  apply exists_congr
  intro text
  apply and_congr_right
  intro _
  rw [Function.comp_apply, ← toList_keep]
  constructor
  · rintro rfl
    exact String.ofList_toList.symm
  · intro same
    rw [same, String.toList_ofList]

theorem mem_distinct_iff_mem_words {text : String} :
    text ∈ distinct strings ignoresCase ↔
      text.toList ∈ (ofStrings strings ignoresCase).words := by
  rw [mem_words_iff, String.ofList_toList]

theorem nodup_words (strings : List String) (ignoresCase : Bool) :
    (ofStrings strings ignoresCase).words.Nodup :=
  nodup_ascending _

theorem nodup_strings (strings : List String) (ignoresCase : Bool) :
    (ofStrings strings ignoresCase).strings.Nodup :=
  (nodup_words strings ignoresCase).map fun _ _ => String.ofList_injective

theorem toFinset_strings (strings : List String) (ignoresCase : Bool) :
    (ofStrings strings ignoresCase).strings.toFinset = distinct strings ignoresCase := by
  ext text
  rw [List.mem_toFinset, LiteralSet.strings, List.mem_map, mem_distinct_iff_mem_words]
  constructor
  · rintro ⟨word, member, rfl⟩
    rwa [String.toList_ofList]
  · exact fun member => ⟨text.toList, member, String.ofList_toList⟩

theorem size_eq_card (strings : List String) (ignoresCase : Bool) :
    (ofStrings strings ignoresCase).size = (distinct strings ignoresCase).card := by
  rw [← toFinset_strings, List.toFinset_card_of_nodup (nodup_strings strings ignoresCase),
    LiteralSet.strings, List.length_map, size]

theorem hasEmpty_iff : set.hasEmpty = true ↔ [] ∈ set.words := by
  rw [hasEmpty, List.contains_iff_mem]

/-- The rest of a set follows from its words. -/
theorem eq_of_words {left right : LiteralSet} (sameMode : left.ignoresCase = right.ignoresCase)
    (sameWords : left.words = right.words) : left = right := by
  obtain ⟨leftMode, leftWords, leftRanked, leftEq⟩ := left
  obtain ⟨rightMode, rightWords, rightRanked, rightEq⟩ := right
  dsimp only at sameMode sameWords leftEq rightEq
  subst sameMode sameWords leftEq rightEq
  rfl

/-- Sets that are built from the same strings, in whatever order and however often, are the same. -/
theorem ofStrings_congr {strings strings' : List String}
    (same : ∀ text, text ∈ strings ↔ text ∈ strings') (ignoresCase : Bool) :
    ofStrings strings ignoresCase = ofStrings strings' ignoresCase := by
  have sameWords : (ofStrings strings ignoresCase).words =
      (ofStrings strings' ignoresCase).words := by
    apply ascending_eq_of_same_members
    intro word
    simp only [List.mem_map, same]
  exact eq_of_words rfl sameWords

/-! ## Occurrences -/

/-- Ignoring case, a set keeps its words folded. -/
def Folded (set : LiteralSet) : Prop :=
  set.ignoresCase = true → ∀ word ∈ set.words, word.map CaseFold.fold = word

theorem folded_ofStrings (strings : List String) (ignoresCase : Bool) :
    (ofStrings strings ignoresCase).Folded := by
  intro ignores word member
  have ignores' : ignoresCase = true := ignores
  subst ignores'
  rw [mem_words_iff, distinct, List.mem_toFinset, List.mem_map] at member
  obtain ⟨text, -, kept⟩ := member
  have wordEq : word = text.toList.map CaseFold.fold := by
    rw [← String.toList_ofList (l := word), ← kept, toList_keep]
    rfl
  rw [wordEq, List.map_map]
  apply List.map_congr_left
  intro char _
  exact CaseFold.fold_fold char

theorem same_iff {found char : Char} (folded : CaseFold.fold char = char) :
    CaseFold.same found char = true ↔ CaseFold.fold found = char := by
  rw [CaseFold.same_eq, beq_iff_eq, folded]

theorem foldedEnd?_eq_some_iff {stop : Nat} (folded : word.map CaseFold.fold = word) :
    foldedEnd? view index word = some stop ↔
      ∃ chars, view.Decodes index chars stop ∧ chars.map CaseFold.fold = word := by
  induction word generalizing index with
  | nil =>
      simp only [foldedEnd?, Option.some.injEq, List.map_eq_nil_iff, exists_eq_right,
        View.decodes_nil_iff]
      exact eq_comm
  | cons char rest inductionHypothesis =>
      rw [List.map_cons] at folded
      obtain ⟨charFolded, restFolded⟩ := List.cons.inj folded
      rw [foldedEnd?]
      constructor
      · intro found
        cases decoded : view.decodeAt index with
        | none =>
            rw [decoded] at found
            contradiction
        | some first =>
            obtain ⟨firstChar, count⟩ := first
            rw [decoded] at found
            dsimp only at found
            obtain ⟨same, restFound⟩ := Option.ite_none_right_eq_some.mp found
            obtain ⟨chars, decodes, rfl⟩ := (inductionHypothesis restFolded).mp restFound
            refine ⟨firstChar :: chars, .cons decoded decodes, ?_⟩
            rw [List.map_cons, (same_iff charFolded).mp same]
      · rintro ⟨chars, decodes, spelled⟩
        cases decodes with
        | nil => contradiction
        | @cons _ count _ firstChar chars decoded decodes =>
            rw [List.map_cons] at spelled
            obtain ⟨firstEq, restEq⟩ := List.cons.inj spelled
            rw [decoded]
            dsimp only
            rw [if_pos ((same_iff charFolded).mpr firstEq)]
            exact (inductionHypothesis restFolded).mpr ⟨chars, decodes, restEq⟩

/-- A word occurs where it is spelled. -/
theorem lengthOfWordAt?_eq_some_iff (folded : set.Folded) (member : word ∈ set.words)
    (inside : index ≤ view.length) :
    set.lengthOfWordAt? view index word = some length ↔
      view.Spells set.ignoresCase index word length := by
  rw [lengthOfWordAt?, View.Spells]
  by_cases ignores : set.ignoresCase = true
  · rw [if_pos ignores, if_pos ignores, ← foldedEnd?_eq_some_iff (folded ignores word member),
      Option.map_eq_some_iff]
    constructor
    · rintro ⟨stop, found, rfl⟩
      rwa [Nat.add_sub_of_le (bounds_of_foldedEnd? found inside).1]
    · exact fun found => ⟨_, found, Nat.add_sub_cancel_left _ _⟩
  · rw [if_neg ignores, if_neg ignores]
    dsimp only
    rw [Option.ite_none_right_eq_some, View.startsWithAt_iff inside, Option.some.injEq,
      eq_comm (a := length)]

/-- A word that is spelled at a place is in the bucket for it. -/
theorem mem_bucketAt_of_spells (member : word ∈ set.words) (nonempty : word ≠ [])
    (inside : index ≤ view.length) (spelled : view.Spells set.ignoresCase index word length) :
    word ∈ set.bucketAt view index := by
  obtain ⟨char, rest, rfl⟩ := List.exists_cons_of_ne_nil nonempty
  have isFirst : ∃ found, view.codePointAt index = some found ∧
      (if set.ignoresCase then CaseFold.fold found else found) = char := by
    rw [View.Spells] at spelled
    by_cases ignores : set.ignoresCase = true
    · rw [if_pos ignores] at spelled
      obtain ⟨chars, decodes, folded⟩ := spelled
      generalize index + length = stop at decodes
      cases decodes with
      | nil => contradiction
      | @cons _ _ _ found _ decoded _ =>
          rw [List.map_cons] at folded
          refine ⟨found, ?_, ?_⟩
          · rw [View.codePointAt, decoded, Option.map_some]
          · rw [if_pos ignores]
            exact (List.cons.inj folded).1
    · rw [if_neg ignores] at spelled
      have occurs := (View.startsWithAt_iff inside).mpr spelled.1
      rw [CodeUnit.ofChars_cons, View.startsWithAt_append] at occurs
      refine ⟨char, ?_, if_neg ignores⟩
      rw [View.codePointAt, View.decodeAt_of_startsWithAt occurs.1, Option.map_some]
  obtain ⟨found, foundAt, keyEq⟩ := isFirst
  rw [bucketAt, foundAt]
  dsimp only
  rw [keyEq, List.mem_filter]
  exact ⟨mem_ranked_iff.mpr ⟨member, nonempty⟩, by simp⟩

/-! ## The longest occurrence -/

theorem pairwise_bucketAt (set : LiteralSet) (view : View) (index : Nat) :
    (set.bucketAt view index).Pairwise fun left right =>
      (CodeUnit.ofChars right).length ≤ (CodeUnit.ofChars left).length := by
  have ranked : set.ranked.Pairwise fun left right =>
      (CodeUnit.ofChars right).length ≤ (CodeUnit.ofChars left).length := by
    rw [set.ranked_eq_rankWords, rankWords]
    exact List.pairwise_mergeSort'
      (Order.Preimage (fun word => (CodeUnit.ofChars word).length) (· ≥ ·)) _
  rw [bucketAt]
  split
  · exact .nil
  · exact ranked.filter _

/-- The lengths that the words of a set take at a place. -/
def lengthsAt (set : LiteralSet) (view : View) (index : Nat) : Set Nat :=
  { length | ∃ word ∈ set.words, view.Spells set.ignoresCase index word length }

/-- The first word of a bucket that occurs takes the most of the text. -/
theorem isGreatest_of_findSome? (folded : set.Folded) (inside : index ≤ view.length)
    (found : (set.bucketAt view index).findSome? (set.lengthOfWordAt? view index) = some length) :
    IsGreatest (set.lengthsAt view index) length := by
  obtain ⟨before, word, behind, bucketEq, occurs, missing⟩ := List.findSome?_eq_some_iff.mp found
  have inBucket : ∀ {other}, other ∈ set.bucketAt view index → other ∈ set.words := fun member =>
    (mem_ranked_iff.mp (mem_ranked_of_mem_bucketAt member)).1
  have member : word ∈ set.words := inBucket (bucketEq ▸ List.mem_append_cons_self)
  have spelled := (lengthOfWordAt?_eq_some_iff folded member inside).mp occurs
  refine ⟨⟨word, member, spelled⟩, ?_⟩
  rintro shorter ⟨other, otherMember, otherSpelled⟩
  by_cases empty : other = []
  · subst empty
    rw [View.spells_nil_iff.mp otherSpelled]
    exact Nat.zero_le _
  · have otherOccurs := (lengthOfWordAt?_eq_some_iff folded otherMember inside).mpr otherSpelled
    have otherInBucket := mem_bucketAt_of_spells otherMember empty inside otherSpelled
    have ordered := pairwise_bucketAt set view index
    rw [bucketEq] at otherInBucket ordered
    rcases List.mem_append.mp otherInBucket with isBefore | notBefore
    · rw [missing other isBefore] at otherOccurs
      contradiction
    · apply otherSpelled.le spelled
      rcases List.mem_cons.mp notBefore with rfl | isBehind
      · exact Nat.le_refl _
      · exact List.rel_of_pairwise_cons (List.pairwise_append.mp ordered).2.1 isBehind

theorem longestAt?_spec (folded : set.Folded) (inside : index ≤ view.length) :
    (∀ length, set.longestAt? view index = some length →
        IsGreatest (set.lengthsAt view index) length) ∧
      (set.longestAt? view index = none → set.lengthsAt view index = ∅) := by
  rw [longestAt?]
  cases found : (set.bucketAt view index).findSome? (set.lengthOfWordAt? view index) with
  | some longest =>
      dsimp only
      refine ⟨?_, fun absent => absurd absent (Option.some_ne_none _)⟩
      intro length same
      obtain rfl := Option.some.inj same
      exact isGreatest_of_findSome? folded inside found
  | none =>
      have onlyEmpty : ∀ word ∈ set.words, ∀ length,
          view.Spells set.ignoresCase index word length → word = [] := by
        intro word member length spelled
        by_contra nonempty
        have occurs := (lengthOfWordAt?_eq_some_iff folded member inside).mpr spelled
        have inBucket := mem_bucketAt_of_spells member nonempty inside spelled
        rw [List.findSome?_eq_none_iff.mp found word inBucket] at occurs
        contradiction
      dsimp only
      by_cases empty : set.hasEmpty = true
      · rw [if_pos empty]
        refine ⟨?_, fun absent => absurd absent (Option.some_ne_none _)⟩
        intro length same
        obtain rfl := Option.some.inj same
        refine ⟨⟨[], hasEmpty_iff.mp empty, View.spells_nil_iff.mpr rfl⟩, ?_⟩
        rintro other ⟨word, member, spelled⟩
        obtain rfl := onlyEmpty word member other spelled
        exact Nat.le_of_eq (View.spells_nil_iff.mp spelled)
      · rw [if_neg empty]
        refine ⟨fun _ present => absurd present (Option.some_ne_none _).symm, fun _ => ?_⟩
        rw [Set.eq_empty_iff_forall_notMem]
        rintro other ⟨word, member, spelled⟩
        obtain rfl := onlyEmpty word member other spelled
        exact empty (hasEmpty_iff.mpr member)

theorem longestAt?_eq_some_iff (folded : set.Folded) (inside : index ≤ view.length) :
    set.longestAt? view index = some length ↔ IsGreatest (set.lengthsAt view index) length := by
  obtain ⟨ofSome, ofNone⟩ := longestAt?_spec folded inside
  refine ⟨ofSome length, ?_⟩
  intro greatest
  cases found : set.longestAt? view index with
  | none =>
      have isMember := greatest.1
      rw [ofNone found] at isMember
      exact isMember.elim
  | some longest => rw [(ofSome longest found).unique greatest]

theorem longestAt?_eq_none_iff (folded : set.Folded) (inside : index ≤ view.length) :
    set.longestAt? view index = none ↔ set.lengthsAt view index = ∅ := by
  refine ⟨(longestAt?_spec folded inside).2, ?_⟩
  intro empty
  cases found : set.longestAt? view index with
  | none => rfl
  | some longest =>
      have isMember := ((longestAt?_spec folded inside).1 longest found).1
      rw [empty] at isMember
      exact isMember.elim

/-! ## Whole strings -/

theorem normalize_eq_nil_iff : normalize ignoresCase word = [] ↔ word = [] := by
  cases ignoresCase with
  | false => rfl
  | true => exact List.map_eq_nil_iff

theorem hasEmpty_ofStrings_iff :
    (ofStrings strings ignoresCase).hasEmpty = true ↔ "" ∈ strings := by
  have keepEmpty : ∀ text, keep ignoresCase text = "" ↔ text = "" := by
    intro text
    rw [← String.toList_inj, toList_keep, String.toList_empty, normalize_eq_nil_iff,
      ← String.toList_empty, String.toList_inj]
  rw [hasEmpty_iff, mem_words_iff, distinct, List.mem_toFinset, List.mem_map]
  constructor
  · rintro ⟨text, member, kept⟩
    rwa [← (keepEmpty text).mp kept]
  · exact fun member => ⟨"", member, (keepEmpty "").mpr rfl⟩

/-- Both modes of comparing have the empty word or neither. -/
theorem hasEmpty_ignoring_eq (strings : List String) :
    (ofStrings strings true).hasEmpty = (ofStrings strings false).hasEmpty := by
  rw [Bool.eq_iff_iff, hasEmpty_ofStrings_iff, hasEmpty_ofStrings_iff]

theorem isEmpty_ofString_iff (text : String) :
    (View.ofString text).isEmpty = true ↔ text.toList = [] := by
  rw [View.isEmpty, beq_iff_eq, View.length_ofString]
  constructor
  · exact CodeUnit.eq_nil_of_length_ofChars
  · intro empty
    rw [empty]
    rfl

/-- A string is one of the words if the form in which it would be kept is. -/
theorem contains_iff (folded : set.Folded) (text : String) :
    set.contains text = true ↔ normalize set.ignoresCase text.toList ∈ set.words := by
  rw [contains]
  by_cases empty : (View.ofString text).isEmpty = true
  · rw [if_pos empty, hasEmpty_iff,
      normalize_eq_nil_iff.mpr ((isEmpty_ofString_iff text).mp empty)]
  · rw [if_neg empty, List.any_eq_true]
    constructor
    · rintro ⟨word, inBucket, occurs⟩
      have member := (mem_ranked_iff.mp (mem_ranked_of_mem_bucketAt inBucket)).1
      have spelled := (lengthOfWordAt?_eq_some_iff folded member (Nat.zero_le _)).mp
        (beq_iff_eq.mp occurs)
      have wordEq := (View.spells_ofString_iff text).mp spelled
      rw [wordEq] at member
      exact member
    · intro member
      have spelled : (View.ofString text).Spells set.ignoresCase 0
          (normalize set.ignoresCase text.toList) (View.ofString text).length :=
        (View.spells_ofString_iff text).mpr rfl
      have nonempty : normalize set.ignoresCase text.toList ≠ [] := fun isNil =>
        empty ((isEmpty_ofString_iff text).mpr (normalize_eq_nil_iff.mp isNil))
      refine ⟨_, mem_bucketAt_of_spells member nonempty (Nat.zero_le _) spelled, ?_⟩
      rw [beq_iff_eq]
      exact (lengthOfWordAt?_eq_some_iff folded member (Nat.zero_le _)).mpr spelled

/-- The longest word at the start of a string is all of it if it is one of the words. -/
theorem longestAt?_ofString_iff (folded : set.Folded) (text : String) :
    set.longestAt? (View.ofString text) 0 = some (View.ofString text).length ↔
      normalize set.ignoresCase text.toList ∈ set.words := by
  rw [longestAt?_eq_some_iff folded (Nat.zero_le _)]
  constructor
  · rintro ⟨⟨word, member, spelled⟩, -⟩
    have wordEq := (View.spells_ofString_iff text).mp spelled
    rw [wordEq] at member
    exact member
  · intro member
    refine ⟨⟨_, member, (View.spells_ofString_iff text).mpr rfl⟩, ?_⟩
    rintro other ⟨word, wordMember, spelled⟩
    have occurs := (lengthOfWordAt?_eq_some_iff folded wordMember (Nat.zero_le _)).mpr spelled
    have bound := (bounds_of_lengthOfWordAt? occurs (Nat.zero_le _)).1
    rwa [Nat.zero_add] at bound

theorem matchesAll_literals (folded : set.Folded) (text : String) :
    (Matcher.literals set).matchesAll text =
      .ok (decide (normalize set.ignoresCase text.toList ∈ set.words)) := by
  have isMember := longestAt?_ofString_iff folded text
  rw [Matcher.matchesAll, Cursor.ofView]
  cases found : set.longestAt? (View.ofString text) 0 with
  | none =>
      rw [found] at isMember
      have absent : normalize set.ignoresCase text.toList ∉ set.words := fun member =>
        absurd (isMember.mpr member) (Option.some_ne_none _).symm
      rw [Finder.run_literals_of_none (Nat.zero_le _) found, decide_eq_false absent]
      rfl
  | some longest =>
      rw [found, Option.some.injEq] at isMember
      rw [Finder.run_literals_of_some (Nat.zero_le _) found]
      have atEnd : ((Cursor.fresh (View.ofString text) 0).moved longest).isAtEnd =
          decide (normalize set.ignoresCase text.toList ∈ set.words) := by
        rw [Bool.eq_iff_iff, decide_eq_true_eq, ← isMember, Cursor.isAtEnd, beq_iff_eq]
        rw [Cursor.moved_fresh (bounds_of_longestAt? found (Nat.zero_le _)).1, Nat.zero_add]
      rw [← atEnd]
      rfl

/-! ## Sets of strings -/

theorem keep_mem_distinct_iff {text : String} :
    keep ignoresCase text ∈ distinct strings ignoresCase ↔
      normalize ignoresCase text.toList ∈ (ofStrings strings ignoresCase).words := by
  rw [mem_distinct_iff_mem_words, toList_keep]

theorem lengthsAt_ofStrings (strings : List String) (ignoresCase : Bool) (view : View)
    (index : Nat) :
    (ofStrings strings ignoresCase).lengthsAt view index =
      { length | ∃ member ∈ distinct strings ignoresCase,
        view.Spells ignoresCase index member.toList length } := by
  ext length
  constructor
  · rintro ⟨word, member, spelled⟩
    refine ⟨String.ofList word, mem_words_iff.mp member, ?_⟩
    rw [String.toList_ofList]
    exact spelled
  · rintro ⟨member, isMember, spelled⟩
    exact ⟨member.toList, mem_distinct_iff_mem_words.mp isMember, spelled⟩

/-- A set of literals is the set of the distinct strings that it was built from, and finds the
longest of them that occurs at a place of a text. -/
theorem literal_sets_munch_maximally (strings : List String) (ignoresCase : Bool) :
    let set := ofStrings strings ignoresCase
    let members := distinct strings ignoresCase
    set.size = members.card ∧ set.strings.Nodup ∧ set.strings.toFinset = members ∧
      (set.hasEmpty = true ↔ "" ∈ members) ∧
      (∀ text, set.contains text = true ↔ keep ignoresCase text ∈ members) ∧
      (∀ text, (Matcher.literals set).matchesAll text =
        .ok (decide (keep ignoresCase text ∈ members))) ∧
      (∀ (view : View) (index : Nat), index ≤ view.length →
        let lengths := { length | ∃ member ∈ members,
          view.Spells ignoresCase index member.toList length }
        (∀ length, set.longestAt? view index = some length ↔ IsGreatest lengths length) ∧
          (set.longestAt? view index = none ↔ lengths = ∅)) ∧
      ∀ strings', (∀ text, text ∈ strings' ↔ text ∈ strings) →
        ofStrings strings' ignoresCase = set := by
  intro set members
  have folded : set.Folded := folded_ofStrings strings ignoresCase
  refine ⟨size_eq_card strings ignoresCase, nodup_strings strings ignoresCase,
    toFinset_strings strings ignoresCase, ?_, ?_, ?_, ?_, ?_⟩
  · rw [hasEmpty_iff, mem_distinct_iff_mem_words, String.toList_empty]
  · intro text
    rw [contains_iff folded, keep_mem_distinct_iff]
    rfl
  · intro text
    rw [matchesAll_literals folded]
    simp only [members, keep_mem_distinct_iff]
    rfl
  · intro view index inside lengths
    have sameLengths : set.lengthsAt view index = lengths :=
      lengthsAt_ofStrings strings ignoresCase view index
    rw [← sameLengths]
    exact ⟨fun _ => longestAt?_eq_some_iff folded inside, longestAt?_eq_none_iff folded inside⟩
  · intro strings' same
    exact ofStrings_congr same ignoresCase

theorem literal_sets_munch_maximally_of_keys :
    let strings := ["key", "KEY", ""]
    let shuffled := ["", "KEY", "key", "", "key"]
    let set := ofStrings strings true
    let view := View.ofString "x\u212Aeys"
    let lengths (index : Nat) := { length | ∃ member ∈ distinct strings true,
      view.Spells true index member.toList length }
    (1 ≤ view.length ∧ set.longestAt? view 1 = some 3 ∧ IsGreatest (lengths 1) 3) ∧
      (2 ≤ view.length ∧ set.longestAt? view 2 = some 0 ∧ IsGreatest (lengths 2) 0) ∧
      (∀ text, text ∈ shuffled ↔ text ∈ strings) ∧ ofStrings shuffled true = set := by
  intro strings shuffled set view lengths
  obtain ⟨-, -, -, -, -, -, longest, unchanged⟩ := literal_sets_munch_maximally strings true
  have inside : 1 ≤ view.length ∧ 2 ≤ view.length := by decide
  have found : set.longestAt? view 1 = some 3 := by decide +kernel
  have foundEmpty : set.longestAt? view 2 = some 0 := by decide +kernel
  have same : ∀ text, text ∈ shuffled ↔ text ∈ strings := by
    intro text
    simp only [shuffled, strings, List.mem_cons, List.not_mem_nil, or_false]
    tauto
  exact ⟨⟨inside.1, found, ((longest view 1 inside.1).1 3).mp found⟩,
    ⟨inside.2, foundEmpty, ((longest view 2 inside.2).1 0).mp foundEmpty⟩, same,
    unchanged shuffled same⟩

end TextMatch.LiteralSet
