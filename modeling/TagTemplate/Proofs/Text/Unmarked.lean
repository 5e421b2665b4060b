import TagTemplate.Function.Text
import TagTemplate.Proofs.Number.Numeral
import TagTemplate.Proofs.OrderedMap
import TagTemplate.Slots
import TagTemplate.Value.Output

/-!
# Text without marks

Text is unmarked if it does not hold the character that anchors are made with. What the engine does
to text puts no mark into it: it joins, cuts and escapes text, changes its case and prints numbers.

- `Unmarked`: the text holds no mark;
- `notMem_upper`, `notMem_lower`: no other character becomes the mark in another case;
- `unmarked_numberText`, `notMem_formatted`: numbers are printed without marks.
-/

namespace TagTemplate.Text

open Slots

/-- No anchor begins or ends in the text. -/
def Unmarked (s : String) : Prop := anchorMark ∉ s.toList

instance (s : String) : Decidable (Unmarked s) := inferInstanceAs (Decidable (_ ∉ _))

variable {s t : String} {cs ds : List Char}

/-! ## Putting together and cutting -/

theorem unmarked_ofList (h : anchorMark ∉ cs) : Unmarked (String.ofList cs) := by
  rwa [Unmarked, String.toList_ofList]

theorem unmarked_append (hs : Unmarked s) (ht : Unmarked t) : Unmarked (s ++ t) := by
  rw [Unmarked, String.toList_append, List.mem_append, not_or]
  exact ⟨hs, ht⟩

theorem unmarked_join {l : List String} (h : ∀ s ∈ l, Unmarked s) : Unmarked (String.join l) := by
  rw [Unmarked, String.toList_join]
  intro hmem
  obtain ⟨s, hs, hmark⟩ := List.mem_flatMap.1 hmem
  exact h s hs hmark

theorem notMem_intercalate {l : List (List Char)} (hcs : anchorMark ∉ cs)
    (h : ∀ ds ∈ l, anchorMark ∉ ds) : anchorMark ∉ cs.intercalate l := by
  induction l with
  | nil => exact List.not_mem_nil
  | cons ds l ih =>
    have hds := h ds List.mem_cons_self
    have hl := ih fun es hes => h es (List.mem_cons_of_mem _ hes)
    cases l with
    | nil => rwa [List.intercalate_singleton]
    | cons es l =>
      rw [List.intercalate_cons_cons, List.mem_append, List.mem_append, not_or, not_or]
      exact ⟨⟨hds, hcs⟩, hl⟩

theorem unmarked_intercalate {l : List String} (hs : Unmarked s) (h : ∀ t ∈ l, Unmarked t) :
    Unmarked (s.intercalate l) := by
  rw [Unmarked, String.toList_intercalate]
  refine notMem_intercalate hs fun cs hcs => ?_
  obtain ⟨t, ht, rfl⟩ := List.mem_map.1 hcs
  exact h t ht

theorem notMem_trim (h : anchorMark ∉ cs) : anchorMark ∉ trim cs := by
  intro hmem
  have hstart := List.mem_reverse.1 ((List.dropWhile_sublist _).subset (List.mem_reverse.1 hmem))
  exact h ((List.dropWhile_sublist _).subset hstart)

/-- The words of a text have their characters from it. -/
theorem mem_of_mem_wordsFrom {word : List Char} {c : Char} {w : List Char}
    (hw : w ∈ wordsFrom word cs) (hc : c ∈ w) : c ∈ word ∨ c ∈ cs := by
  -- the word that is being read is kept in reverse
  induction cs generalizing word with
  | nil =>
    rw [wordsFrom] at hw
    split at hw
    · cases hw
    · rw [List.mem_singleton] at hw
      subst hw
      exact .inl (List.mem_reverse.1 hc)
  | cons d ds ih =>
    rw [wordsFrom] at hw
    split at hw
    · split at hw
      · rcases ih hw with h | h
        · cases h
        · exact .inr (List.mem_cons_of_mem _ h)
      · rcases List.mem_cons.1 hw with rfl | hw
        · exact .inl (List.mem_reverse.1 hc)
        · rcases ih hw with h | h
          · cases h
          · exact .inr (List.mem_cons_of_mem _ h)
    · rcases ih hw with h | h
      · rcases List.mem_cons.1 h with rfl | h
        · exact .inr List.mem_cons_self
        · exact .inl h
      · exact .inr (List.mem_cons_of_mem _ h)

theorem notMem_words (h : anchorMark ∉ cs) : anchorMark ∉ [' '].intercalate (words cs) := by
  refine notMem_intercalate (by decide) fun word hword hmark => ?_
  rcases mem_of_mem_wordsFrom hword hmark with hnil | hcs
  · cases hnil
  · exact h hcs

/-! ## Characters for characters -/

theorem notMem_flatMap {f : Char → List Char} (hf : ∀ c, c ≠ anchorMark → anchorMark ∉ f c)
    (h : anchorMark ∉ cs) : anchorMark ∉ cs.flatMap f := by
  intro hmem
  obtain ⟨c, hc, hmark⟩ := List.mem_flatMap.1 hmem
  exact hf c (fun heq => h (heq ▸ hc)) hmark

theorem notMem_escape_of_notMem (h : anchorMark ∉ cs) : anchorMark ∉ Markup.escape cs := by
  refine notMem_flatMap (fun c hc => ?_) h
  unfold Markup.escapeChar
  split_ifs
  · decide
  · decide
  · decide
  · decide
  · decide
  · rw [List.mem_singleton]
    exact Ne.symm hc

theorem unmarked_escaped (h : Unmarked s) : Unmarked (Markup.escaped s) :=
  unmarked_ofList (notMem_escape_of_notMem h)

/-! ## Upper and lower case -/

theorem toNat_anchorMark : anchorMark.toNat = 31 := rfl

/-- A code that is not that of the mark makes another character. -/
theorem ofNat_ne_anchorMark {code : Nat} (h : code ≠ 31) : Char.ofNat code ≠ anchorMark := by
  intro heq
  have hcode := congrArg Char.toNat heq
  rw [toNat_anchorMark, Char.ofNat] at hcode
  by_cases hvalid : code.isValidChar
  · rw [dif_pos hvalid] at hcode
    exact h hcode
  · rw [dif_neg hvalid] at hcode
    cases hcode

/-- A table that maps nothing to the mark. -/
structure Avoids (runs : List CaseRun) (expansions : List (Nat × List Nat)) : Prop where
  runs : runs.all (fun r => 31 < (r.first : Int) + r.distance) = true
  expansions : expansions.all (fun e => e.2.all (· ≠ 31)) = true

theorem notMem_caseImage {runs : List CaseRun} {expansions : List (Nat × List Nat)}
    (h : Avoids runs expansions) {c : Char} (hc : c ≠ anchorMark) :
    anchorMark ∉ caseImage runs expansions c := by
  unfold caseImage
  split
  · rename_i codes hcodes
    intro hmem
    obtain ⟨code, hcode, heq⟩ := List.mem_map.1 hmem
    have hall := List.all_eq_true.1 h.expansions _ (OrderedMap.mem_of_lookup hcodes)
    exact ofNat_ne_anchorMark (of_decide_eq_true (List.all_eq_true.1 hall code hcode)) heq
  · split
    · rename_i code hcode
      rw [List.mem_singleton]
      obtain ⟨r, hr, rfl⟩ := Option.map_eq_some_iff.1 hcode
      have hpositive :=
        of_decide_eq_true (List.all_eq_true.1 h.runs r (List.mem_of_find?_eq_some hr))
      have hin := List.find?_some hr
      rw [Bool.and_eq_true, Bool.and_eq_true, decide_eq_true_eq] at hin
      exact Ne.symm (ofNat_ne_anchorMark (by omega))
    · rw [List.mem_singleton]
      exact Ne.symm hc

theorem avoids_upper : Avoids upperRuns upperExpansions := ⟨by decide +kernel, by decide +kernel⟩

theorem avoids_lower : Avoids lowerRuns lowerExpansions := ⟨by decide +kernel, by decide +kernel⟩

/-- No ASCII character becomes the mark in another case. -/
theorem ascii_ne_anchorMark : ∀ n < 128, Char.ofNat n ≠ anchorMark →
    (Char.ofNat n).toUpper ≠ anchorMark ∧ (Char.ofNat n).toLower ≠ anchorMark := by
  decide +kernel

theorem notMem_charUpper {c : Char} (hc : c ≠ anchorMark) : anchorMark ∉ charUpper c := by
  unfold charUpper
  split
  · rename_i hascii
    have h := ascii_ne_anchorMark c.toNat hascii
    rw [Char.ofNat_toNat] at h
    rw [List.mem_singleton]
    exact Ne.symm (h hc).1
  · exact notMem_caseImage avoids_upper hc

theorem notMem_charLower {c : Char} (hc : c ≠ anchorMark) : anchorMark ∉ charLower c := by
  unfold charLower
  split
  · rename_i hascii
    have h := ascii_ne_anchorMark c.toNat hascii
    rw [Char.ofNat_toNat] at h
    rw [List.mem_singleton]
    exact Ne.symm (h hc).2
  · exact notMem_caseImage avoids_lower hc

theorem notMem_upper (h : anchorMark ∉ cs) : anchorMark ∉ upper cs :=
  notMem_flatMap (fun _ => notMem_charUpper) h

theorem notMem_lower (h : anchorMark ∉ cs) : anchorMark ∉ lower cs := by
  have hafter : ∀ before, anchorMark ∉ lowerAfter before cs := by
    induction cs with
    | nil => exact fun _ => List.not_mem_nil
    | cons c cs ih =>
      intro before
      rw [List.mem_cons, not_or] at h
      rw [lowerAfter, List.mem_append, not_or]
      refine ⟨?_, ih h.2 _⟩
      split
      · split <;> decide
      · exact notMem_charLower (Ne.symm h.1)
  exact hafter []

/-! ## Numbers -/

section Numbers

open Number

theorem notMem_digits (n : Nat) : anchorMark ∉ digits n :=
  fun hmem => absurd (isDigit_of_mem_digits hmem) (by decide)

theorem notMem_paddedDigits (width n : Nat) : anchorMark ∉ paddedDigits width n := by
  rw [paddedDigits, List.mem_append, not_or]
  exact ⟨fun hmem => absurd (List.eq_of_mem_replicate hmem) (by decide), notMem_digits n⟩

theorem notMem_positional (value : Nat) (exponent : Int) :
    anchorMark ∉ positional value exponent := by
  unfold positional pointed
  split
  · exact notMem_digits _
  · split
    · exact notMem_digits _
    · rw [List.mem_append, List.mem_cons, not_or, not_or]
      exact ⟨notMem_digits _, by decide, notMem_paddedDigits _ _⟩

theorem unmarked_display (x : Float) : Unmarked (display x) := by
  have hsign : ∀ (negative : Bool) (text : List Char), anchorMark ∉ text →
      Unmarked (String.ofList (if negative then '-' :: text else text)) := by
    intro negative text htext
    refine unmarked_ofList ?_
    split
    · rw [List.mem_cons, not_or]
      exact ⟨by decide, htext⟩
    · exact htext
  unfold display
  split
  · decide
  · exact hsign _ _ (by decide)
  · exact hsign _ _ (by decide)
  · exact hsign _ _ (notMem_positional _ _)

theorem unmarked_numberText (x : Float) : Unmarked (Value.numberText x) := by
  unfold Value.numberText
  split
  · decide
  · exact unmarked_display x

theorem notMem_groupedAfter (hcs : anchorMark ∉ cs) (inside : Bool) (hds : anchorMark ∉ ds) :
    anchorMark ∉ groupedAfter cs inside ds := by
  induction ds generalizing inside with
  | nil => exact List.not_mem_nil
  | cons d ds ih =>
    rw [List.mem_cons, not_or] at hds
    rw [groupedAfter, List.mem_append, List.mem_cons, not_or, not_or]
    refine ⟨?_, hds.1, ih true hds.2⟩
    split
    · exact hcs
    · exact List.not_mem_nil

theorem notMem_formatted (places : Nat) (hcs : anchorMark ∉ cs) (hds : anchorMark ∉ ds)
    (x : Float) : anchorMark ∉ formatted places cs ds x := by
  unfold formatted
  split
  · decide
  · decide
  · dsimp only
    rw [List.mem_append, List.mem_append, not_or, not_or]
    refine ⟨⟨?_, notMem_groupedAfter hds false (notMem_digits _)⟩, ?_⟩
    · split <;> decide
    · split
      · exact List.not_mem_nil
      · rw [List.mem_append, not_or]
        refine ⟨hcs, ?_⟩
        unfold fractionDigits
        split
        · exact List.not_mem_nil
        · exact notMem_paddedDigits _ _

end Numbers

end TagTemplate.Text
