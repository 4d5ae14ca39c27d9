import TextMatch.Text.CaseFold

/-!
# Folding twice

No lowercase form has a lowercase form of its own: folding a text twice comes to the same as folding
it once.  The table has this from the way in which its runs lie to each other.
-/

namespace TextMatch.CaseFold

/-! ## Runs -/

/-- The lowercase forms of the members of a run lie outside of another run or between its
members. -/
def Run.avoids (run other : Run) : Bool :=
  Nat.blt (run.image run.last) other.first || Nat.blt other.last (run.image run.first) ||
    ((run.first == run.last || run.stride % other.stride == 0) &&
      run.image run.first % other.stride != other.first % other.stride)

/-- The lowercase forms of the members of a run are code points behind the last ASCII capital and
belong to no run. -/
def Run.settles (run : Run) : Bool :=
  Nat.blt 0x5A (run.image run.first) &&
    (Nat.blt (run.image run.last) 0xD800 ||
      Nat.blt 0xDFFF (run.image run.first) && Nat.blt (run.image run.last) 0x110000) &&
    runs.all run.avoids

theorem settles_of_mem_runs : ∀ run ∈ runs, run.settles = true := by
  decide +kernel

variable {run other : Run} {code : Nat}

theorem Run.covers_iff :
    run.covers code = true ↔
      run.first ≤ code ∧ code ≤ run.last ∧ (code - run.first) % run.stride = 0 := by
  rw [covers, Bool.and_eq_true, Bool.and_eq_true, decide_eq_true_eq, decide_eq_true_eq, beq_iff_eq,
    and_assoc]

/-- Lowercase forms lie as far from each other as the members of the run. -/
theorem Run.image_eq (positive : 0 < run.image run.first) (behind : run.first ≤ code) :
    run.image code = run.image run.first + (code - run.first) := by
  simp only [image, Int.ofNat_eq_natCast] at positive ⊢
  omega

theorem Run.covers_image_eq_false (positive : 0 < run.image run.first)
    (avoids : run.avoids other = true) (covered : run.covers code = true) :
    other.covers (run.image code) = false := by
  obtain ⟨behind, before, isMember⟩ := covers_iff.mp covered
  have firstToCode := image_eq positive behind
  have firstToLast := image_eq positive (Nat.le_trans behind before)
  rw [Bool.eq_false_iff]
  intro imageCovered
  obtain ⟨imageBehind, imageBefore, isImageMember⟩ := covers_iff.mp imageCovered
  rw [Run.avoids, Bool.or_eq_true, Bool.or_eq_true, Bool.and_eq_true, Bool.or_eq_true,
    Nat.blt_eq, Nat.blt_eq, beq_iff_eq, beq_iff_eq, bne_iff_ne] at avoids
  rcases avoids with (below | above) | ⟨aligned, apart⟩
  · omega
  · omega
  · -- The strides fit, so that the form of every member has the remainder of the first form.
    have sameRemainder : other.stride ∣ code - run.first := by
      rcases aligned with single | multiple
      · have same : code - run.first = 0 := by omega
        rw [same]
        exact Nat.dvd_zero _
      · exact Nat.dvd_trans (Nat.dvd_of_mod_eq_zero multiple) (Nat.dvd_of_mod_eq_zero isMember)
    obtain ⟨count, countEq⟩ := sameRemainder
    obtain ⟨imageCount, imageCountEq⟩ := Nat.dvd_of_mod_eq_zero isImageMember
    have reached : run.image run.first + other.stride * count =
        other.first + other.stride * imageCount := by
      omega
    apply apart
    calc
      run.image run.first % other.stride =
          (run.image run.first + other.stride * count) % other.stride :=
        (Nat.add_mul_mod_self_left _ _ _).symm
      _ = (other.first + other.stride * imageCount) % other.stride := by rw [reached]
      _ = other.first % other.stride := Nat.add_mul_mod_self_left _ _ _

/-! ## Code points -/

theorem toNat_ofNat (valid : code.isValidChar) : (Char.ofNat code).toNat = code := by
  rw [Char.ofNat, dif_pos valid]
  rfl

theorem fold_fold_ascii :
    ∀ code : Fin 0x80, fold (fold (Char.ofNat code)) = fold (Char.ofNat code) := by
  decide +kernel

theorem fold_ascii_of_lt :
    ∀ code : Fin 0x80, 0x5A < code.val → fold (Char.ofNat code) = Char.ofNat code := by
  decide +kernel

theorem fold_eq_self {char : Char} (behindCapitals : 0x5A < char.toNat)
    (free : ∀ run ∈ runs, run.covers char.toNat = false) : fold char = char := by
  by_cases ascii : char.toNat < 0x80
  · have folded := fold_ascii_of_lt ⟨char.toNat, ascii⟩ behindCapitals
    rwa [Char.ofNat_toNat] at folded
  · have uncovered : (runs.find? fun run => run.covers char.toNat) = none := by
      rw [List.find?_eq_none]
      intro run member
      rw [free run member]
      exact Bool.false_ne_true
    rw [fold, if_neg ascii, uncovered]

/-- The replacement character has no lowercase form of its own. -/
theorem fold_replacement : fold '\uFFFD' = '\uFFFD' := by
  apply fold_eq_self
  · decide
  · decide +kernel

theorem fold_fold (char : Char) : fold (fold char) = fold char := by
  by_cases ascii : char.toNat < 0x80
  · have folded := fold_fold_ascii ⟨char.toNat, ascii⟩
    rwa [Char.ofNat_toNat] at folded
  · cases found : runs.find? fun run => run.covers char.toNat with
    | none =>
        have same : fold char = char := by
          rw [fold, if_neg ascii, found]
        rw [same, same]
    | some run =>
        have folded : fold char = Char.ofNat (run.image char.toNat) := by
          rw [fold, if_neg ascii, found]
        have covered : run.covers char.toNat = true := by
          simpa only using List.find?_some found
        have settles := settles_of_mem_runs run (List.mem_of_find?_eq_some found)
        rw [Run.settles, Bool.and_eq_true, Bool.and_eq_true, Bool.or_eq_true, Bool.and_eq_true,
          Nat.blt_eq, Nat.blt_eq, Nat.blt_eq, Nat.blt_eq, List.all_eq_true] at settles
        obtain ⟨⟨behindCapitals, inRange⟩, avoids⟩ := settles
        have positive : 0 < run.image run.first := by omega
        obtain ⟨behind, before, -⟩ := Run.covers_iff.mp covered
        have firstToCode := Run.image_eq positive behind
        have firstToLast := Run.image_eq positive (Nat.le_trans behind before)
        have valid : (run.image char.toNat).isValidChar := by
          rw [Nat.isValidChar]
          omega
        have imageEq := toNat_ofNat valid
        rw [folded]
        apply fold_eq_self
        · omega
        · intro other member
          rw [imageEq]
          exact Run.covers_image_eq_false positive (avoids other member) covered

theorem same_eq (found char : Char) : same found char = (fold found == fold char) := by
  rw [same]
  by_cases equal : found = char
  · subst equal
    rw [beq_self_eq_true, beq_self_eq_true, Bool.true_or]
  · rw [beq_eq_false_iff_ne.mpr equal, Bool.false_or]

end TextMatch.CaseFold
