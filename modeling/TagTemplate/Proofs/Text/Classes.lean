import TagTemplate.Text.Alphabetic
import TagTemplate.Text.Blank

/-!
# White space against letters and digits

The tables of white space and of letters and digits have no character in common, and a letter or an
ASCII digit is alphanumeric. Below 128 this is checked character by character, above it range by
range.
-/

namespace TagTemplate.Text

/-- A fact about all ASCII characters, checked one by one. -/
theorem forall_ascii {p : Char → Prop} (h : ∀ n : Fin 128, p (Char.ofNat n)) {c : Char}
    (hc : c.toNat < 128) : p c := by
  have h' := h ⟨c.toNat, hc⟩
  rwa [Char.ofNat_toNat] at h'

/-- Two tables without a common code point. -/
def Apart (first second : List (Nat × Nat)) : Prop :=
  ∀ r ∈ first, ∀ q ∈ second, r.2 < q.1 ∨ q.2 < r.1

instance (first second : List (Nat × Nat)) : Decidable (Apart first second) :=
  inferInstanceAs (Decidable (∀ r ∈ first, ∀ q ∈ second, r.2 < q.1 ∨ q.2 < r.1))

theorem not_inRanges_of_apart {first second : List (Nat × Nat)} (h : Apart first second) {c : Char}
    (hc : inRanges first c = true) : inRanges second c = false := by
  obtain ⟨r, hr, hlow, hhigh⟩ := inRanges_iff.1 hc
  refine Bool.eq_false_iff.2 fun hcq => ?_
  obtain ⟨q, hq, hlow', hhigh'⟩ := inRanges_iff.1 hcq
  have := h r hr q hq
  omega

theorem apart_alphabetic : Apart blankRanges alphabeticRanges := by decide +kernel

theorem apart_numeric : Apart blankRanges numericRanges := by decide +kernel

/-- White space is neither a letter nor numeric. -/
theorem isAlphanumeric_of_isBlank {c : Char} (h : isBlank c = true) : isAlphanumeric c = false := by
  by_cases hc : c.toNat < 128
  · have hascii : ∀ c : Char, c.toNat < 128 → isBlank c = true → c.isAlphanum = false :=
      fun c hc =>
        forall_ascii (p := fun c => isBlank c = true → c.isAlphanum = false) (by decide) hc
    rw [isAlphanumeric, if_pos hc, hascii c hc h]
  · rw [isAlphanumeric, if_neg hc, not_inRanges_of_apart apart_alphabetic h,
      not_inRanges_of_apart apart_numeric h]
    rfl

theorem isAlphanumeric_of_isAlphabetic {c : Char} (h : isAlphabetic c = true) :
    isAlphanumeric c = true := by
  rw [isAlphabetic] at h
  rw [isAlphanumeric]
  split <;> rename_i hc
  · rw [if_pos hc] at h
    simp [Char.isAlphanum, h]
  · rw [if_neg hc] at h
    simp [h]

theorem toNat_of_isDigit {c : Char} (h : c.isDigit = true) : c.toNat < 128 := by
  simp only [Char.isDigit, Bool.and_eq_true, decide_eq_true_eq] at h
  have := UInt32.le_iff_toNat_le.1 h.2
  show c.val.toNat < 128
  exact Nat.lt_of_le_of_lt this (by decide)

theorem isAlphanumeric_of_isDigit {c : Char} (h : c.isDigit = true) : isAlphanumeric c = true := by
  rw [isAlphanumeric, if_pos (toNat_of_isDigit h)]
  simp [Char.isAlphanum, h]

/-- A digit is no letter. -/
theorem isAlphabetic_of_isDigit {c : Char} (h : c.isDigit = true) : isAlphabetic c = false := by
  have hascii : c.isDigit = true → c.isAlpha = false :=
    forall_ascii (p := fun c => c.isDigit = true → c.isAlpha = false) (by decide)
      (toNat_of_isDigit h)
  rw [isAlphabetic, if_pos (toNat_of_isDigit h), hascii h]

end TagTemplate.Text
