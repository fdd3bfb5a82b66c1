/-!
# Blank text

The class `isBlank` of white-space characters, the text `trim s` left of `s` without
the blanks at its two ends, and the class `isBlankText` of texts that hold nothing but
blanks.  A text is blank exactly when trimming leaves nothing.
-/

namespace ServiceHarness.Text

/-- The code points that Unicode calls white space, as closed ranges. -/
def blankRanges : List (Nat × Nat) :=
  [(0x9, 0xd), (0x20, 0x20), (0x85, 0x85), (0xa0, 0xa0), (0x1680, 0x1680), (0x2000, 0x200a),
    (0x2028, 0x2029), (0x202f, 0x202f), (0x205f, 0x205f), (0x3000, 0x3000)]

/-- Membership of a code point in a list of closed ranges. -/
def inRanges (ranges : List (Nat × Nat)) (n : Nat) : Bool :=
  ranges.any fun r => r.1 ≤ n && n ≤ r.2

/-- The white-space characters. -/
def isBlank (c : Char) : Bool :=
  inRanges blankRanges c.toNat

/-- The characters of a list between its leading and its trailing blanks. -/
def trimList (cs : List Char) : List Char :=
  ((cs.dropWhile isBlank).reverse.dropWhile isBlank).reverse

/-- The text without the blanks at its two ends. -/
def trim (s : String) : String :=
  String.ofList (trimList s.toList)

/-- The texts that hold nothing but blanks. -/
def isBlankText (s : String) : Bool :=
  s.toList.all isBlank

theorem dropWhile_eq_nil_iff_all {α : Type} (p : α → Bool) (l : List α) :
  l.dropWhile p = [] ↔ l.all p = true
  := by
  induction l with
  | nil => simp
  | cons a l ih =>
    by_cases h : p a = true
    · rw [List.dropWhile_cons_of_pos h, ih, List.all_cons, h, Bool.true_and]
    · rw [List.dropWhile_cons_of_neg h]
      simp [h]

theorem head_dropWhile_false {α : Type} (p : α → Bool) (l : List α) {a : α} {r : List α}
    (h : l.dropWhile p = a :: r) :
  p a = false
  := by
  induction l with
  | nil => simp at h
  | cons b l ih =>
    by_cases hb : p b = true
    · rw [List.dropWhile_cons_of_pos hb] at h
      exact ih h
    · rw [List.dropWhile_cons_of_neg hb] at h
      obtain ⟨rfl, -⟩ := h
      simpa using hb

/-- Trimming leaves nothing exactly of blank text. -/
theorem trim_eq_empty_iff (s : String) :
  trim s = "" ↔ isBlankText s = true
  := by
  have hlist : trimList s.toList = [] ↔ s.toList.all isBlank = true
    := by
    unfold trimList
    rw [List.reverse_eq_nil_iff, dropWhile_eq_nil_iff_all, List.all_reverse]
    constructor
    · intro h
      rw [← dropWhile_eq_nil_iff_all]
      cases hd : s.toList.dropWhile isBlank with
      | nil => rfl
      | cons a r =>
        have ha := head_dropWhile_false isBlank _ hd
        rw [hd] at h
        simp [ha] at h
    · intro h
      rw [(dropWhile_eq_nil_iff_all isBlank s.toList).mpr h, List.all_nil]
  unfold trim isBlankText
  rw [← hlist]
  constructor
  · intro h
    simpa using congrArg String.toList h
  · intro h
    rw [h]

end ServiceHarness.Text
