import TextMatch.Proofs.CodePointClasses
import TextMatch.Proofs.CodePointTiling
import TextMatch.Proofs.GreedyPhase
import TextMatch.Proofs.SegmentTiling

/-!
# Joined texts

A splitter whose segments are runs of code points other than the delimiter undoes joining: it finds
the strings that a text was joined from.  It finds nothing where there is no such string, before a
delimiter that comes first or directly behind another one.
-/

namespace TextMatch

open Cursor (fresh)

/-! ## Runs of code points -/

namespace Repetition

variable {members : CodePointClass} {cursor : Cursor} {view : View} {index stop : Nat}
  {word : List Char}

theorem stepAfter_oneOrMore (inner : Step) (count : Nat) :
    (oneOrMore inner).stepAfter count = inner :=
  ite_self inner

/-- The word is decoded up to `stop`, belongs to the class, and is followed by nothing that does. -/
structure Runs (members : CodePointClass) (view : View) (index : Nat) (word : List Char)
    (stop : Nat) : Prop where
  decodes : view.Decodes index word stop
  belongs : ∀ char ∈ word, members.contains char = true
  ends : ∀ char count, view.decodeAt stop = some (char, count) → members.contains char = false

/-- The iterations go over a run, code point by code point. -/
theorem exists_iterate_of_runs (runs : Runs members view index word stop) :
    ∀ (cursor : Cursor) (count : Nat), cursor.Ready → cursor.view = view →
      cursor.position = index →
      ∃ iterations, (oneOrMore (Step.codePoint members)).iterate count cursor =
          .matched iterations ∧
        iterations.length = word.length ∧
        cursorBehind cursor iterations = cursor.moved (stop - index) ∧
        (iterations.map Prod.snd).flatten = [] := by
  obtain ⟨decodes, belongs, ends⟩ := runs
  induction decodes with
  | @nil index =>
      rintro cursor count ready rfl rfl
      refine ⟨[], ?_, rfl, ?_, rfl⟩
      · rw [iterate, stepAfter_oneOrMore, Step.codePoint_of_noMember ready ends]
        rfl
      · rw [Nat.sub_self, ready.moved_zero]
        rfl
  | @cons index length stop char rest decoded further inductionHypothesis =>
      rintro cursor count ready rfl rfl
      have matched := Step.codePoint_of_member ready decoded (belongs char List.mem_cons_self)
      have room := View.add_le_length_of_decodeAt decoded
      have positive := (View.bounds_of_decodeAt decoded).2
      obtain ⟨iterations, found, lengthEq, behindEq, capturesEq⟩ :=
        inductionHypothesis (fun other member => belongs other (List.mem_cons_of_mem char member))
          ends (cursor.moved length) (count + 1) (ready.moved room) rfl
          (Cursor.position_moved room)
      refine ⟨(cursor.moved length, []) :: iterations, ?_, ?_, ?_, ?_⟩
      · have advances : (cursor.moved length).remaining < cursor.remaining := by
          rw [Cursor.remaining, Cursor.position_moved room]
          change cursor.view.length - (cursor.position + length) <
            cursor.view.length - cursor.position
          omega
        rw [iterate, stepAfter_oneOrMore, matched]
        simp only [advances, if_true, found]
        rfl
      · rw [List.length_cons, List.length_cons, lengthEq]
      · have forward := further.le
        have lengths : length + (stop - (cursor.position + length)) = stop - cursor.position := by
          omega
        rw [cursorBehind_cons, behindEq, Cursor.moved_moved, lengths]
      · rw [List.map_cons, List.flatten_cons, capturesEq, List.append_nil]

theorem step_oneOrMore_of_runs (ready : cursor.Ready)
    (runs : Runs members cursor.view cursor.position word stop) :
    (oneOrMore (Step.codePoint members)).step cursor =
      if word = [] then .noMatch else .matched (cursor.moved (stop - cursor.position), []) := by
  obtain ⟨iterations, found, lengthEq, behindEq, capturesEq⟩ :=
    exists_iterate_of_runs runs cursor 0 ready rfl rfl
  have ran : (oneOrMore (Step.codePoint members)).run cursor =
      (oneOrMore (Step.codePoint members)).greedyMatch cursor iterations := by
    rw [run, Step.guarded_of_ready _ ready, found]
    rfl
  rw [step, ran, greedyMatch, lengthEq]
  cases word with
  | nil => rfl
  | cons char rest =>
      have enough : ¬ (char :: rest).length < (oneOrMore (Step.codePoint members)).least :=
        Nat.not_lt.mpr (Nat.succ_pos rest.length)
      rw [if_neg enough, if_neg (List.cons_ne_nil char rest), Outcome.map, behindEq, capturesEq]

end Repetition

namespace Splitter

/-! ## Segments without delimiters in them -/

/-- Cuts a text at every occurrence of a code point. -/
def byDelimiter (name : String) (delimiter : Char) : Splitter where
  content := .around name (.repetition (.oneOrMore (.codePoint (.noneOf [delimiter]))))
  delimiter := .codePoint (.literal delimiter)
  endMark := none

variable {name : String} {delimiter : Char} {view whole piece : View} {first stop count : Nat}
  {word : List Char}

/-- A word without delimiters lies between `first` and `stop`, where the text ends or a delimiter
stands. -/
structure Holds (delimiter : Char) (view : View) (first : Nat) (word : List Char) (stop : Nat) :
    Prop where
  decodes : view.Decodes first word stop
  free : delimiter ∉ word
  ends : ∀ char count, view.decodeAt stop = some (char, count) → char = delimiter

theorem holds_of_delimiter (decodes : view.Decodes first word stop) (free : delimiter ∉ word)
    (delimiterAt : view.decodeAt stop = some (delimiter, count)) :
    Holds delimiter view first word stop := by
  refine ⟨decodes, free, ?_⟩
  intro char count decoded
  rw [delimiterAt] at decoded
  exact (Prod.mk.inj (Option.some.inj decoded)).1.symm

theorem holds_of_end (decodes : view.Decodes first word stop) (free : delimiter ∉ word)
    (ends : view.decodeAt stop = none) : Holds delimiter view first word stop := by
  refine ⟨decodes, free, ?_⟩
  intro char count decoded
  rw [ends] at decoded
  contradiction

theorem Holds.runs (holds : Holds delimiter view first word stop) :
    Repetition.Runs (.noneOf [delimiter]) view first word stop where
  decodes := holds.decodes
  belongs := by
    intro char member
    rw [CodePointClass.contains_noneOf_iff, List.mem_singleton]
    rintro rfl
    exact holds.free member
  ends := by
    intro char count decoded
    rw [← Bool.not_eq_true, CodePointClass.contains_noneOf_iff, List.mem_singleton, not_not]
    exact holds.ends char count decoded

/-- The cursor that has captured the units `first..stop`. -/
def captured (view : View) (first stop : Nat) : Cursor :=
  ⟨view, first, stop, stop, true⟩

theorem ready_captured (sliced : view.slice first stop = .ok piece) :
    (captured view first stop).Ready :=
  ⟨rfl, (View.bounds_of_slice sliced).1, rfl, (View.bounds_of_slice sliced).2⟩

/-- The content of a segment is a word that is not empty. -/
theorem Holds.capture (holds : Holds delimiter view first word stop)
    (sliced : view.slice first stop = .ok piece) :
    (byDelimiter name delimiter).content.capture (fresh view first) =
      if word = [] then .noMatch
      else .matched (captured view first stop, ⟨name, piece, piece, []⟩) := by
  have bounds := View.bounds_of_slice sliced
  have ready : (fresh view first).Ready :=
    Cursor.ready_fresh (Nat.le_trans bounds.1 bounds.2)
  have stepped := Repetition.step_oneOrMore_of_runs ready holds.runs
  have behind : first + (stop - first) = stop := Nat.add_sub_cancel' bounds.1
  have target : (fresh view first).moved (stop - first) = captured view first stop := by
    rw [Cursor.moved_fresh (behind.trans_le bounds.2), behind]
    rfl
  have sameStep : (Matcher.repetition (.oneOrMore (.codePoint (.noneOf [delimiter])))).step =
      (Repetition.oneOrMore (Step.codePoint (.noneOf [delimiter]))).step.silent :=
    rfl
  rw [byDelimiter, Group.capture, Step.group, Step.guarded_of_ready _ ready, sameStep,
    Step.silent, stepped]
  by_cases empty : word = []
  · rw [if_pos empty, if_pos empty]
    rfl
  · rw [if_neg empty, if_neg empty]
    simp only [Cursor.fresh] at target ⊢
    simp only [target, Outcome.map, bind, Outcome.bind, captured, sliced, Outcome.ofExcept, pure]

theorem ghost_delimiter_of_decodeAt {cursor : Cursor} (ready : cursor.Ready)
    (decoded : cursor.view.decodeAt cursor.position = some (delimiter, count)) :
    Step.ghost (byDelimiter name delimiter).delimiter.step cursor =
      .matched ({ cursor with position := cursor.position + count }, []) := by
  have built := (byDelimiter name delimiter).delimiter.built_step
  have matched : (byDelimiter name delimiter).delimiter.step cursor =
      .matched (cursor.moved count, []) := by
    rw [byDelimiter, Matcher.step]
    exact Step.codePoint_of_member ready decoded (beq_self_eq_true delimiter)
  rw [built.ghost_of_ready ready, matched, Outcome.map,
    Cursor.position_moved (View.add_le_length_of_decodeAt decoded)]

theorem ghost_delimiter_of_end {cursor : Cursor} (ready : cursor.Ready)
    (ends : cursor.view.decodeAt cursor.position = none) :
    Step.ghost (byDelimiter name delimiter).delimiter.step cursor = .noMatch := by
  have built := (byDelimiter name delimiter).delimiter.built_step
  have missed : (byDelimiter name delimiter).delimiter.step cursor = .noMatch := by
    rw [byDelimiter, Matcher.step, Step.codePoint_of_ready _ ready, ends]
  rw [built.ghost_of_ready ready, missed]
  rfl

/-! ## From segment to segment -/

theorem segmentsFrom_of_outside (outside : view.length ≤ first) (splitter : Splitter) :
    splitter.segmentsFrom view first = .matched [] := by
  rw [segmentsFrom, dif_neg (Nat.not_lt.mpr outside)]

/-- There is no segment where a delimiter comes first. -/
theorem segmentsFrom_of_leading (leading : view.decodeAt first = some (delimiter, count)) :
    (byDelimiter name delimiter).segmentsFrom view first = .noMatch := by
  have inside := (View.bounds_of_decodeAt leading).1
  have holds := holds_of_delimiter .nil List.not_mem_nil leading
  obtain ⟨piece, sliced⟩ := View.exists_slice (Nat.le_refl first) (Nat.le_of_lt inside)
  rw [segmentsFrom, dif_pos inside, Cursor.atOffset_of_le (Nat.le_of_lt inside)]
  simp only [bind, Outcome.bind, Outcome.ofExcept, holds.capture sliced, if_true]

/-- The last segment does without a delimiter. -/
theorem segmentsFrom_of_last (decodes : view.Decodes first word view.length)
    (free : delimiter ∉ word) (nonempty : word ≠ [])
    (sliced : view.slice first view.length = .ok piece) :
    (byDelimiter name delimiter).segmentsFrom view first =
      .matched [⟨name, piece, piece, []⟩] := by
  have inside := decodes.lt nonempty
  have ends : view.decodeAt view.length = none := View.decodeAt_of_outside (Nat.le_refl _)
  have holds := holds_of_end decodes free ends
  have noDelimiter : Step.ghost (byDelimiter name delimiter).delimiter.step
      (captured view first view.length) = .noMatch :=
    ghost_delimiter_of_end (ready_captured sliced) ends
  have atEnd : (captured view first view.length).isAtEnd = true := beq_self_eq_true _
  rw [segmentsFrom, dif_pos inside, Cursor.atOffset_of_le (Nat.le_of_lt inside)]
  simp only [bind, Outcome.bind, Outcome.ofExcept, holds.capture sliced, if_neg nonempty,
    noDelimiter, if_pos atEnd, pure]

/-- A word and the delimiter behind it are a segment. -/
theorem segmentsFrom_of_delimiter (decodes : view.Decodes first word stop)
    (free : delimiter ∉ word) (nonempty : word ≠ [])
    (delimiterAt : view.decodeAt stop = some (delimiter, count))
    (sliced : view.slice first stop = .ok piece)
    (wholeSliced : view.slice first (stop + count) = .ok whole) :
    (byDelimiter name delimiter).segmentsFrom view first =
      ((byDelimiter name delimiter).segmentsFrom view (stop + count)).map
        fun later => ⟨name, whole, piece, []⟩ :: later := by
  have forward := decodes.lt nonempty
  have inside : first < view.length :=
    Nat.lt_trans forward (View.bounds_of_decodeAt delimiterAt).1
  have holds := holds_of_delimiter decodes free delimiterAt
  have delimited : Step.ghost (byDelimiter name delimiter).delimiter.step
      (captured view first stop) = .matched (⟨view, first, stop, stop + count, true⟩, []) :=
    ghost_delimiter_of_decodeAt (ready_captured sliced) delimiterAt
  have nextEq : nextOffset view first (stop + count) = stop + count := by
    rw [nextOffset, if_pos (Nat.lt_add_right count forward)]
  have unmarked : (byDelimiter name delimiter).endsAt view (stop + count) = .ok false :=
    endsAt_of_unmarked rfl
  rw [segmentsFrom, dif_pos inside, Cursor.atOffset_of_le (Nat.le_of_lt inside)]
  simp only [bind, Outcome.bind, Outcome.ofExcept, holds.capture sliced, if_neg nonempty,
    delimited, wholeSliced, nextEq, unmarked, if_neg Bool.false_ne_true]
  exact bind_pure_comp (List.cons ⟨name, whole, piece, []⟩)
    ((byDelimiter name delimiter).segmentsFrom view (stop + count))

/-! ## Words in a row -/

/-- The segment has the one string as its content, and the other one with the delimiter. -/
structure Shows (name : String) (segment : Capture) (pieces : String × String) : Prop where
  name : segment.name = name
  content : segment.content.SameText (.ofString pieces.1)
  whole : segment.whole.SameText (.ofString pieces.2)
  children : segment.children = []

/-- Strings without the delimiter, none of which is empty. -/
def Separable (delimiter : Char) (items : List String) : Prop :=
  ∀ item ∈ items, item ≠ "" ∧ delimiter ∉ item.toList

/-- The strings with a delimiter behind each of them. -/
def delimited (delimiter : Char) (items : List String) : List Char :=
  items.flatMap fun item => (item.push delimiter).toList

theorem delimited_cons (delimiter : Char) (item : String) (rest : List String) :
    delimited delimiter (item :: rest) =
      (item.push delimiter).toList ++ delimited delimiter rest :=
  List.flatMap_cons

/-- Joined strings are delimited but for the last one. -/
theorem toList_intercalate_concat (delimiter : Char) (front : List String) (last : String) :
    ((String.singleton delimiter).intercalate (front ++ [last])).toList =
      delimited delimiter front ++ last.toList := by
  rw [String.toList_intercalate, String.toList_singleton]
  induction front with
  | nil => exact List.intercalate_singleton
  | cons item rest inductionHypothesis =>
      have joined : [delimiter].intercalate (((item :: rest) ++ [last]).map String.toList) =
          item.toList ++ [delimiter] ++
            [delimiter].intercalate ((rest ++ [last]).map String.toList) := by
        cases rest with
        | nil => exact List.intercalate_cons_cons
        | cons next others => exact List.intercalate_cons_cons
      rw [joined, inductionHypothesis, delimited_cons, String.toList_push, List.append_assoc,
        List.append_assoc, List.append_assoc]

theorem toList_intercalate_push (delimiter : Char) {items : List String} (nonempty : items ≠ []) :
    (((String.singleton delimiter).intercalate items).push delimiter).toList =
      delimited delimiter items := by
  rcases List.eq_nil_or_concat items with rfl | ⟨front, last, rfl⟩
  · contradiction
  · rw [List.concat_eq_append, String.toList_push, toList_intercalate_concat, delimited, delimited,
      List.flatMap_append, List.flatMap_singleton, String.toList_push, List.append_assoc]

/-- The strings with the delimiters that stand behind them in the joined text: one behind each but
the last. -/
def joinedPieces (delimiter : Char) (items : List String) : List (String × String) :=
  (items.dropLast.map fun item => (item, item.push delimiter)) ++
    items.getLast?.toList.map fun last => (last, last)

theorem map_fst_joinedPieces (delimiter : Char) (items : List String) :
    (joinedPieces delimiter items).map Prod.fst = items := by
  rcases List.eq_nil_or_concat items with rfl | ⟨front, last, rfl⟩
  · rfl
  · rw [List.concat_eq_append, joinedPieces, List.dropLast_concat, List.getLast?_concat,
      List.map_append, List.map_map]
    exact congrArg (· ++ [last]) (List.map_id front)

theorem sameText_of_startsWithAt {text : String}
    (occurs : view.startsWithAt first (CodeUnit.ofChars text.toList) = true)
    (sliced : view.slice first (first + (CodeUnit.ofChars text.toList).length) = .ok piece) :
    piece.SameText (.ofString text) := by
  rw [View.SameText, View.units_ofString, View.units_of_slice sliced, Nat.add_sub_cancel_left]
  exact (List.prefix_iff_eq_take.mp (View.prefix_of_startsWithAt occurs)).symm

theorem toList_ne_nil {item : String} (nonempty : item ≠ "") : item.toList ≠ [] :=
  fun empty => nonempty (String.toList_eq_nil_iff.mp empty)

/-- The last string is a segment up to the end of the text. -/
theorem exists_segment_of_last (name : String) {item : String} (nonempty : item ≠ "")
    (free : delimiter ∉ item.toList)
    (occurs : view.startsWithAt first (CodeUnit.ofChars item.toList) = true)
    (ends : first + (CodeUnit.ofChars item.toList).length = view.length) :
    ∃ segment, Shows name segment (item, item) ∧
      (byDelimiter name delimiter).segmentsFrom view first = .matched [segment] := by
  have decodes := View.decodes_of_startsWithAt occurs
  obtain ⟨piece, sliced⟩ := View.exists_slice decodes.le (Nat.le_of_eq ends)
  have shown := sameText_of_startsWithAt occurs sliced
  rw [ends] at decodes sliced
  exact ⟨⟨name, piece, piece, []⟩, ⟨rfl, shown, shown, rfl⟩,
    segmentsFrom_of_last decodes free (toList_ne_nil nonempty) sliced⟩

/-- A string with a delimiter behind it is a segment. -/
theorem exists_segment_of_delimited (name : String) {item : String} (nonempty : item ≠ "")
    (free : delimiter ∉ item.toList)
    (occurs : view.startsWithAt first (CodeUnit.ofChars (item.push delimiter).toList) = true) :
    ∃ segment, Shows name segment (item, item.push delimiter) ∧
      (byDelimiter name delimiter).segmentsFrom view first =
        ((byDelimiter name delimiter).segmentsFrom view
          (first + (CodeUnit.ofChars (item.push delimiter).toList).length)).map
            fun later => segment :: later := by
  have inside := View.add_length_le_of_startsWithAt occurs
  obtain ⟨whole, wholeSliced⟩ := View.exists_slice (Nat.le_add_right first _) inside
  have wholeShown := sameText_of_startsWithAt occurs wholeSliced
  rw [String.toList_push, CodeUnit.ofChars_append, View.startsWithAt_append] at occurs
  obtain ⟨itemOccurs, delimiterOccurs⟩ := occurs
  have decodes := View.decodes_of_startsWithAt itemOccurs
  rw [CodeUnit.ofChars_cons, CodeUnit.ofChars_nil, List.append_nil] at delimiterOccurs
  have delimiterAt := View.decodeAt_of_startsWithAt delimiterOccurs
  obtain ⟨piece, sliced⟩ := View.exists_slice decodes.le
    (View.add_length_le_of_startsWithAt itemOccurs)
  have target : first + (CodeUnit.ofChars (item.push delimiter).toList).length =
      first + (CodeUnit.ofChars item.toList).length + (CodeUnit.ofChar delimiter).length := by
    rw [String.toList_push, CodeUnit.ofChars_append, CodeUnit.ofChars_cons, CodeUnit.ofChars_nil,
      List.append_nil, List.length_append, Nat.add_assoc]
  rw [target] at wholeSliced ⊢
  exact ⟨⟨name, whole, piece, []⟩,
    ⟨rfl, sameText_of_startsWithAt itemOccurs sliced, wholeShown, rfl⟩,
    segmentsFrom_of_delimiter decodes free (toList_ne_nil nonempty) delimiterAt sliced
      wholeSliced⟩

/-- Strings that are delimited come first among the segments. -/
theorem exists_segments_of_delimited (name : String) {items : List String}
    (separable : Separable delimiter items) :
    ∀ {first : Nat},
      view.startsWithAt first (CodeUnit.ofChars (delimited delimiter items)) = true →
      ∃ segments,
        List.Forall₂ (Shows name) segments (items.map fun item => (item, item.push delimiter)) ∧
        (byDelimiter name delimiter).segmentsFrom view first =
          ((byDelimiter name delimiter).segmentsFrom view
            (first + (CodeUnit.ofChars (delimited delimiter items)).length)).map
              fun later => segments ++ later := by
  induction items with
  | nil =>
      intro first _
      refine ⟨[], .nil, ?_⟩
      exact (id_map ((byDelimiter name delimiter).segmentsFrom view first)).symm
  | cons item rest inductionHypothesis =>
      intro first occurs
      have ⟨nonempty, free⟩ := separable item List.mem_cons_self
      rw [delimited_cons, CodeUnit.ofChars_append, View.startsWithAt_append] at occurs
      obtain ⟨segment, shows, here⟩ := exists_segment_of_delimited name nonempty free occurs.1
      obtain ⟨segments, later, further⟩ := inductionHypothesis
        (fun other member => separable other (List.mem_cons_of_mem item member)) occurs.2
      refine ⟨segment :: segments, .cons shows later, ?_⟩
      rw [here, further, delimited_cons, CodeUnit.ofChars_append, List.length_append,
        Nat.add_assoc]
      exact (comp_map (segments ++ ·) (segment :: ·)
        ((byDelimiter name delimiter).segmentsFrom view _)).symm

/-! ## Joined strings -/

variable {items : List String}

/-- Behind the strings that are delimited, the last one is a segment up to the end. -/
theorem exists_segments_of_joined (name : String) (separable : Separable delimiter items) :
    ∃ segments,
      (byDelimiter name delimiter).split
          (.ofString ((String.singleton delimiter).intercalate items)) = .matched segments ∧
        List.Forall₂ (Shows name) segments (joinedPieces delimiter items) := by
  rcases List.eq_nil_or_concat items with rfl | ⟨front, last, rfl⟩
  · exact ⟨[], segmentsFrom_of_outside (Nat.le_refl _) _, .nil⟩
  · rw [List.concat_eq_append] at separable ⊢
    have text := toList_intercalate_concat delimiter front last
    generalize (String.singleton delimiter).intercalate (front ++ [last]) = joined at text ⊢
    have occurs := View.startsWithAt_ofString joined
    have lengthEq := View.length_ofString joined
    rw [text, CodeUnit.ofChars_append] at occurs lengthEq
    rw [View.startsWithAt_append] at occurs
    rw [List.length_append] at lengthEq
    have ⟨nonempty, free⟩ := separable last List.mem_append_cons_self
    obtain ⟨segments, shows, here⟩ := exists_segments_of_delimited name
      (fun item member => separable item (List.mem_append_left [last] member)) occurs.1
    obtain ⟨segment, shown, lastHere⟩ := exists_segment_of_last name nonempty free occurs.2
      (by rw [Nat.zero_add, lengthEq])
    refine ⟨segments ++ [segment], ?_, ?_⟩
    · rw [split, here, lastHere]
      rfl
    · rw [joinedPieces, List.dropLast_concat, List.getLast?_concat]
      exact List.rel_append shows (.cons shown .nil)

/-- With one more delimiter at the end, the last string is delimited as well. -/
theorem exists_segments_of_joined_push (name : String) (separable : Separable delimiter items)
    (nonempty : items ≠ []) :
    ∃ segments,
      (byDelimiter name delimiter).split
          (.ofString (((String.singleton delimiter).intercalate items).push delimiter)) =
            .matched segments ∧
        List.Forall₂ (Shows name) segments
          (items.map fun item => (item, item.push delimiter)) := by
  have text := toList_intercalate_push delimiter nonempty
  generalize ((String.singleton delimiter).intercalate items).push delimiter = joined at text ⊢
  have occurs := View.startsWithAt_ofString joined
  have lengthEq := View.length_ofString joined
  rw [text] at occurs lengthEq
  obtain ⟨segments, shows, here⟩ := exists_segments_of_delimited name separable occurs
  refine ⟨segments, ?_, shows⟩
  rw [split, here, Nat.zero_add, ← lengthEq, segmentsFrom_of_outside (Nat.le_refl _), Outcome.map,
    List.append_nil]

theorem texts_of_shows {segments : List Capture} {pieces : List (String × String)}
    (shows : List.Forall₂ (Shows name) segments pieces) :
    segments.map Capture.text = pieces.map Prod.fst := by
  induction shows with
  | nil => rfl
  | @cons segment piece _ _ shown _ inductionHypothesis =>
      have sameText : segment.text = piece.1 := by
        rw [Capture.text, ← View.text_ofString piece.1, View.text, View.text, shown.content]
      rw [List.map_cons, List.map_cons, sameText, inductionHypothesis]

theorem isEmpty_of_shows {segments : List Capture} {pieces : List (String × String)}
    (shows : List.Forall₂ (Shows name) segments pieces)
    (nonempty : ∀ piece ∈ pieces, piece.2 ≠ "") :
    ∀ segment ∈ segments, segment.whole.isEmpty = false := by
  induction shows with
  | nil => exact fun _ member => absurd member List.not_mem_nil
  | @cons segment piece rest pieces shown _ inductionHypothesis =>
      rw [List.forall_mem_cons] at nonempty ⊢
      refine ⟨?_, inductionHypothesis nonempty.2⟩
      rw [← Bool.not_eq_true, View.isEmpty, beq_iff_eq, shown.whole.length, View.length_ofString]
      exact fun empty => toList_ne_nil nonempty.1 (CodeUnit.eq_nil_of_length_ofChars empty)

theorem snd_ne_empty_of_joined (separable : Separable delimiter items) :
    ∀ piece ∈ joinedPieces delimiter items, piece.2 ≠ "" := by
  intro piece member
  rw [joinedPieces, List.mem_append, List.mem_map, List.mem_map] at member
  rcases member with ⟨item, -, rfl⟩ | ⟨last, isLast, rfl⟩
  · exact String.push_ne_empty
  · rw [Option.mem_toList] at isLast
    exact (separable last (List.mem_of_getLast? isLast)).1

/-- The segments of joined strings join to the text again. -/
theorem wholes_of_split {text : String} {segments : List Capture}
    {pieces : List (String × String)}
    (splitEq : (byDelimiter name delimiter).split (.ofString text) = .matched segments)
    (shows : List.Forall₂ (Shows name) segments pieces)
    (nonempty : ∀ piece ∈ pieces, piece.2 ≠ "") :
    segments.flatMap (fun segment => segment.whole.units) = CodeUnit.ofChars text.toList ∧
      String.join (segments.map fun segment => segment.whole.text) = text := by
  have joins := (splits_of_split splitEq).join rfl View.isBoundary_zero
    (isEmpty_of_shows shows nonempty) (View.slice_whole _)
  rwa [View.units_ofString, View.text_ofString] at joins

/-! ## Missing strings -/

/-- Where nothing is found behind a delimiter, nothing is found before it. -/
theorem segmentsFrom_of_later (decodes : view.Decodes first word stop) (free : delimiter ∉ word)
    (delimiterAt : view.decodeAt stop = some (delimiter, count))
    (later : (byDelimiter name delimiter).segmentsFrom view (stop + count) = .noMatch) :
    (byDelimiter name delimiter).segmentsFrom view first = .noMatch := by
  by_cases empty : word = []
  · subst empty
    obtain rfl := View.decodes_nil_iff.mp decodes
    exact segmentsFrom_of_leading delimiterAt
  · have inside := View.add_le_length_of_decodeAt delimiterAt
    have forward := decodes.le
    obtain ⟨piece, sliced⟩ := View.exists_slice forward (Nat.le_of_add_right_le inside)
    obtain ⟨whole, wholeSliced⟩ := View.exists_slice (Nat.le_add_right_of_le forward) inside
    rw [segmentsFrom_of_delimiter decodes free empty delimiterAt sliced wholeSliced, later,
      Outcome.map]

/-- Between two delimiters that stand side by side there is no segment. -/
theorem segmentsFrom_of_adjacent {front back : List Char} :
    ∀ {first : Nat} (word : List Char), delimiter ∉ word →
      view.Decodes first (word ++ (front ++ delimiter :: delimiter :: back)) stop →
      (byDelimiter name delimiter).segmentsFrom view first = .noMatch := by
  induction front with
  | nil =>
      intro first word free decodes
      obtain ⟨middle, wordDecodes, rest⟩ := decodes.exists_middle
      cases rest with
      | cons delimiterAt further =>
          cases further with
          | cons again _ =>
              exact segmentsFrom_of_later wordDecodes free delimiterAt
                (segmentsFrom_of_leading again)
  | cons char front inductionHypothesis =>
      intro first word free decodes
      by_cases isDelimiter : char = delimiter
      · subst isDelimiter
        obtain ⟨middle, wordDecodes, rest⟩ := decodes.exists_middle
        cases rest with
        | cons delimiterAt further =>
            exact segmentsFrom_of_later wordDecodes free delimiterAt
              (inductionHypothesis [] List.not_mem_nil further)
      · apply inductionHypothesis (word ++ [char])
        · rw [List.mem_append, List.mem_singleton, not_or]
          exact ⟨free, Ne.symm isDelimiter⟩
        · rwa [List.append_assoc, List.singleton_append]

theorem split_of_leading {rest : List Char} (leading : view.codePoints = delimiter :: rest) :
    (byDelimiter name delimiter).split view = .noMatch := by
  have decodes := view.decodes_codePoints
  rw [leading] at decodes
  generalize view.length = stop at decodes
  cases decodes with
  | cons delimiterAt _ => exact segmentsFrom_of_leading delimiterAt

theorem split_of_adjacent {front back : List Char}
    (adjacent : view.codePoints = front ++ delimiter :: delimiter :: back) :
    (byDelimiter name delimiter).split view = .noMatch := by
  have decodes := view.decodes_codePoints
  rw [adjacent] at decodes
  exact segmentsFrom_of_adjacent [] List.not_mem_nil decodes

end Splitter

open Splitter (Separable Shows byDelimiter joinedPieces)

/-- A splitter at a delimiter finds the strings that a text was joined from, each with the delimiter
behind it if one stands there.  A text with a delimiter in front, or with two side by side, is not
split at all. -/
theorem splitting_undoes_joining (name : String) (delimiter : Char) :
    (∀ items : List String, Separable delimiter items →
        let splitter := byDelimiter name delimiter
        let joined := (String.singleton delimiter).intercalate items
        (∃ segments, splitter.split (.ofString joined) = .matched segments ∧
            segments.map Capture.text = items ∧
            List.Forall₂ (Shows name) segments (joinedPieces delimiter items) ∧
            segments.flatMap (fun segment => segment.whole.units) = (View.ofString joined).units ∧
            String.join (segments.map fun segment => segment.whole.text) = joined) ∧
          (items ≠ [] →
            ∃ segments, splitter.split (.ofString (joined.push delimiter)) = .matched segments ∧
              segments.map Capture.text = items ∧
              List.Forall₂ (Shows name) segments
                (items.map fun item => (item, item.push delimiter)))) ∧
      ∀ view : View,
        (∀ rest, view.codePoints = delimiter :: rest →
            (byDelimiter name delimiter).split view = .noMatch) ∧
          ∀ front back, view.codePoints = front ++ delimiter :: delimiter :: back →
            (byDelimiter name delimiter).split view = .noMatch := by
  refine ⟨?_, fun view => ⟨fun _ => Splitter.split_of_leading, fun _ _ =>
    Splitter.split_of_adjacent⟩⟩
  intro items separable splitter joined
  constructor
  · obtain ⟨segments, splitEq, shows⟩ := Splitter.exists_segments_of_joined name separable
    have texts := Splitter.texts_of_shows shows
    rw [Splitter.map_fst_joinedPieces] at texts
    have wholes := Splitter.wholes_of_split splitEq shows
      (Splitter.snd_ne_empty_of_joined separable)
    rw [← View.units_ofString] at wholes
    exact ⟨segments, splitEq, texts, shows, wholes⟩
  · intro nonempty
    obtain ⟨segments, splitEq, shows⟩ :=
      Splitter.exists_segments_of_joined_push name separable nonempty
    have texts := Splitter.texts_of_shows shows
    rw [List.map_map] at texts
    exact ⟨segments, splitEq, texts.trans (List.map_id items), shows⟩

theorem splitting_undoes_joining_of_words :
    let items := ["a", "b𝄞"]
    let splitter := byDelimiter "item" '😀'
    let view := View.ofString "a😀😀b"
    Separable '😀' items ∧ items ≠ [] ∧
      (∃ segments, splitter.split (.ofString "a😀b𝄞") = .matched segments ∧
        segments.map Capture.text = items) ∧
      (∃ segments, splitter.split (.ofString "a😀b𝄞😀") = .matched segments ∧
        segments.map Capture.text = items) ∧
      view.codePoints = ['a'] ++ '😀' :: '😀' :: ['b'] ∧ splitter.split view = .noMatch ∧
      splitter.split (.ofString "😀") = .noMatch := by
  intro items splitter view
  obtain ⟨joins, misses⟩ := splitting_undoes_joining "item" '😀'
  have separable : Separable '😀' items := by
    simp [Separable, items]
  have joined : (String.singleton '😀').intercalate items = "a😀b𝄞" := by decide +kernel
  have adjacent : view.codePoints = ['a'] ++ '😀' :: '😀' :: ['b'] := by decide +kernel
  have leading : (View.ofString "😀").codePoints = ['😀'] := by decide +kernel
  obtain ⟨⟨segments, found, texts, -⟩, trailing⟩ := joins items separable
  obtain ⟨segments', found', texts', -⟩ := trailing (List.cons_ne_nil _ _)
  rw [joined] at found found'
  exact ⟨separable, List.cons_ne_nil _ _, ⟨segments, found, texts⟩, ⟨segments', found', texts'⟩,
    adjacent, (misses view).2 _ _ adjacent, (misses (.ofString "😀")).1 _ leading⟩

end TextMatch
