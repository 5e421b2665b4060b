import Mathlib
import TagTemplate.Number.Fixed
import TagTemplate.Proofs.Number.Binary64
import TagTemplate.Proofs.Number.Digits

/-!
# Numbers with a fixed count of decimals

A number is rounded to units of its last decimal place, its units are written in digits, and the
digits in front of the point are parted in threes from the right. Each of these is said here without
the functions that do it.

- `InThrees`, `grouped_eq`: digits in groups of three, whatever the separator is;
- `Nearest`, `nearest_scaled`: the units are the nearest ones, and even ones between two;
- `Shows`, `shows_digits`: the digits before and behind the point of a count of units;
- `Written`, `written_iff`: **how a finite number is written, and that it is written in no other
  way**.
-/

namespace TagTemplate.Number

variable {places : ℕ}

/-! ## Groups of three -/

section Groups

variable {separator ds first : List Char} {others : List (List Char)}

/-- Digits cut from the right into groups of three, with one to three digits in the first group. -/
structure InThrees (ds first : List Char) (others : List (List Char)) : Prop where
  flatten_eq : (first :: others).flatten = ds
  first_pos : 0 < first.length
  first_le : first.length ≤ 3
  others_eq : ∀ g ∈ others, g.length = 3

theorem exists_inThrees (h : ds ≠ []) : ∃ first others, InThrees ds first others := by
  induction ds with
  | nil => exact absurd rfl h
  | cons d ds ih =>
    by_cases hds : ds = []
    · subst hds
      exact ⟨[d], [], rfl, Nat.one_pos, Nat.le_add_left 1 2, nofun⟩
    · obtain ⟨first, others, hflatten, hpos, hle, hothers⟩ := ih hds
      by_cases hfull : first.length = 3
      · -- a full group gets another one in front
        refine ⟨[d], first :: others, ?_, Nat.one_pos, Nat.le_add_left 1 2, ?_⟩
        · rw [List.flatten_cons, hflatten, List.singleton_append]
        · exact List.forall_mem_cons.2 ⟨hfull, hothers⟩
      · refine ⟨d :: first, others, ?_, Nat.succ_pos _, ?_, hothers⟩
        · rw [← hflatten]
          rfl
        · rw [List.length_cons]
          omega

theorem length_flatten_mod (h : ∀ g ∈ others, g.length = 3) : others.flatten.length % 3 = 0 := by
  induction others with
  | nil => rfl
  | cons g others ih =>
    obtain ⟨hg, hothers⟩ := List.forall_mem_cons.1 h
    have hrest := ih hothers
    rw [List.flatten_cons, List.length_append, hg]
    omega

/-- One group in front of whole groups: the separator stands before it if it is whole itself. -/
theorem groupedAfter_append (inside : Bool) (hpos : 0 < first.length) (hle : first.length ≤ 3)
    (hds : ds.length % 3 = 0) :
    groupedAfter separator inside (first ++ ds) =
      (if inside ∧ first.length = 3 then separator else []) ++ first ++
        groupedAfter separator true ds := by
  have hone : ¬ (ds.length + 1) % 3 = 0 := by omega
  have htwo : ¬ (ds.length + 1 + 1) % 3 = 0 := by omega
  match first, hpos, hle with
  | [c], _, _ => simp [groupedAfter, hone]
  | [b, c], _, _ => simp [groupedAfter, hone, htwo]
  | [a, b, c], _, _ =>
    have hthree : (ds.length + 1 + 1 + 1) % 3 = 0 := by omega
    simp [groupedAfter, hone, htwo, hthree]

theorem groupedAfter_flatten (h : ∀ g ∈ others, g.length = 3) :
    groupedAfter separator true others.flatten = others.flatMap (separator ++ ·) := by
  induction others with
  | nil => rfl
  | cons g others ih =>
    obtain ⟨hg, hothers⟩ := List.forall_mem_cons.1 h
    rw [List.flatten_cons, groupedAfter_append true (by omega) (by omega)
      (length_flatten_mod hothers), if_pos ⟨rfl, hg⟩, ih hothers, List.flatMap_cons]

/-- Parts joined by a separator: it stands before every part but the first. -/
theorem intercalate_eq_append_flatMap (separator first : List Char) (others : List (List Char)) :
    separator.intercalate (first :: others) = first ++ others.flatMap (separator ++ ·) := by
  induction others generalizing first with
  | nil => simp
  | cons g others ih =>
    rw [List.intercalate_cons_cons, ih, List.flatMap_cons, List.append_assoc, List.append_assoc]

/-- Digits are joined by the separator where they are cut. -/
theorem grouped_eq (h : InThrees ds first others) :
    grouped separator ds = separator.intercalate (first :: others) := by
  rw [grouped, ← h.flatten_eq, List.flatten_cons, groupedAfter_append false h.first_pos h.first_le
    (length_flatten_mod h.others_eq), groupedAfter_flatten h.others_eq,
    intercalate_eq_append_flatMap]
  simp

end Groups

/-! ## Rounding -/

/-- The natural number that is nearest to `q`, and of two that are as near the even one. -/
structure Nearest (q : ℚ) (n : ℕ) : Prop where
  within : |q - n| ≤ 1 / 2
  even : |q - n| = 1 / 2 → Even n

section Rounding

variable {q part : ℚ} {n m : ℕ}

theorem nearest_below (hpart : 0 ≤ part) (hhalf : part ≤ 1 / 2) (heven : part = 1 / 2 → Even n) :
    Nearest (n + part) n := by
  have hdistance : |(n + part : ℚ) - n| = part := by rw [add_sub_cancel_left, abs_of_nonneg hpart]
  exact ⟨hdistance.trans_le hhalf, fun h => heven (hdistance.symm.trans h)⟩

theorem nearest_above (hpart : part ≤ 1) (hhalf : 1 / 2 ≤ part)
    (heven : part = 1 / 2 → Even (n + 1)) : Nearest (n + part) (n + 1 : ℕ) := by
  have hdistance : |(n + part : ℚ) - (n + 1 : ℕ)| = 1 - part := by
    rw [Nat.cast_add_one, add_sub_add_left_eq_sub, abs_sub_comm, abs_of_nonneg (sub_nonneg.2 hpart)]
  refine ⟨?_, fun h => heven ?_⟩
  · rw [hdistance]
    linarith
  · linarith

theorem Nearest.le (hn : Nearest q n) (hm : Nearest q m) : n ≤ m := by
  obtain ⟨hlow, hhigh⟩ := abs_le.1 hn.within
  obtain ⟨hlow', hhigh'⟩ := abs_le.1 hm.within
  by_contra! hlt
  have hle : (m : ℚ) + 1 ≤ n := by exact_mod_cast hlt
  -- both are half a unit away, so both are even, with nothing between them
  have hnext : n = m + 1 := by
    have : (n : ℚ) = m + 1 := by linarith
    exact_mod_cast this
  have hhalf : |q - n| = 1 / 2 := by
    rw [abs_of_nonpos (by linarith)]
    linarith
  have hhalf' : |q - m| = 1 / 2 := by
    rw [abs_of_nonneg (by linarith)]
    linarith
  have hn2 := Nat.even_iff.1 (hn.even hhalf)
  have hm2 := Nat.even_iff.1 (hm.even hhalf')
  omega

theorem Nearest.unique (hn : Nearest q n) (hm : Nearest q m) : n = m :=
  Nat.le_antisymm (hn.le hm) (hm.le hn)

/-- A quotient of natural numbers as its whole part and what the rest adds to it. -/
theorem cast_div_eq (num : ℕ) {den : ℕ} (hden : 0 < den) :
    (num : ℚ) / den = (num / den : ℕ) + (num % den : ℕ) / (den : ℚ) := by
  have hden' : (den : ℚ) ≠ 0 := Nat.cast_ne_zero.2 hden.ne'
  have hdivision : (num : ℚ) = den * (num / den : ℕ) + (num % den : ℕ) := by
    exact_mod_cast (Nat.div_add_mod num den).symm
  rw [div_eq_iff hden', add_mul, div_mul_cancel₀ _ hden', mul_comm]
  exact hdivision

theorem nearest_roundHalfEven (num : ℕ) {den : ℕ} (hden : 0 < den) :
    Nearest (num / den) (roundHalfEven num den) := by
  have hden' : (0 : ℚ) < den := Nat.cast_pos.2 hden
  have hlt : num % den < den := Nat.mod_lt num hden
  rw [cast_div_eq num hden]
  unfold roundHalfEven
  dsimp only
  generalize num / den = n
  generalize num % den = rest at *
  have hnonneg : (0 : ℚ) ≤ rest / den := by positivity
  have hle : (rest : ℚ) / den ≤ 1 := (div_le_one hden').2 (Nat.cast_le.2 hlt.le)
  -- the remainder is compared with a half by doubling it
  have hhalf : (rest : ℚ) / den = 1 / 2 ↔ 2 * rest = den := by
    rw [div_eq_div_iff hden'.ne' two_ne_zero, one_mul, mul_comm]
    norm_cast
  have hbelow : (rest : ℚ) / den ≤ 1 / 2 ↔ 2 * rest ≤ den := by
    rw [div_le_div_iff₀ hden' two_pos, one_mul, mul_comm]
    norm_cast
  have habove : 1 / 2 ≤ (rest : ℚ) / den ↔ den ≤ 2 * rest := by
    rw [div_le_div_iff₀ two_pos hden', one_mul, mul_comm (rest : ℚ)]
    norm_cast
  split_ifs with hlow hhigh heven
  · exact nearest_below hnonneg (hbelow.2 hlow.le) fun h => absurd (hhalf.1 h) hlow.ne
  · exact nearest_above hle (habove.2 hhigh.le) fun h => absurd (hhalf.1 h) hhigh.ne'
  · exact nearest_below hnonneg (hbelow.2 (Nat.not_lt.1 hhigh)) fun _ => Nat.even_iff.2 heven
  · refine nearest_above hle (habove.2 (Nat.not_lt.1 hlow)) fun _ => ?_
    rw [Nat.even_iff]
    omega

/-- A power of two as a quotient of natural numbers. -/
theorem two_zpow_eq (exponent : ℤ) :
    (2 : ℚ) ^ exponent = (2 ^ exponent.toNat : ℕ) / (2 ^ (-exponent).toNat : ℕ) := by
  conv_lhs => rw [← Int.toNat_sub_toNat_neg exponent, zpow_sub₀ two_ne_zero]
  push_cast
  rfl

/-- A magnitude is rounded to the nearest count of units of its last decimal place. -/
theorem nearest_scaled (places mantissa : ℕ) (exponent : ℤ) :
    Nearest (mantissa * 2 ^ exponent * 10 ^ places) (scaled places mantissa exponent) := by
  have hquotient : (mantissa : ℚ) * 2 ^ exponent * 10 ^ places =
      (mantissa * 2 ^ exponent.toNat * 10 ^ places : ℕ) / (2 ^ (-exponent).toNat : ℕ) := by
    rw [two_zpow_eq]
    push_cast
    ring
  rw [hquotient]
  exact nearest_roundHalfEven _ (Nat.two_pow_pos _)

end Rounding

/-! ## Digits before and behind the point -/

/-- Digits that show a count of units of the last of `places` decimals. The whole part has a digit,
and a zero in front only where it is zero. -/
structure Shows (places units : ℕ) (whole fraction : List Char) : Prop where
  isDigit : ∀ c ∈ whole ++ fraction, c.isDigit = true
  value_eq : digitsValue (whole ++ fraction) = units
  length_eq : fraction.length = places
  whole_ne_nil : whole ≠ []
  front : whole.head? = some '0' → whole = ['0']

section Digits

variable {units : ℕ} {whole fraction : List Char}

theorem fractionDigits_spec (places units : ℕ) :
    (∀ c ∈ fractionDigits places units, c.isDigit = true) ∧
      (fractionDigits places units).length = places ∧
      digitsValue (fractionDigits places units) = units % 10 ^ places := by
  unfold fractionDigits
  by_cases hplaces : places = 0
  · rw [if_pos hplaces, hplaces, Nat.pow_zero, Nat.mod_one]
    exact ⟨nofun, rfl, rfl⟩
  · have hlt : units % 10 ^ places < 10 ^ places := Nat.mod_lt _ (Nat.pow_pos (by decide))
    rw [if_neg hplaces]
    exact ⟨fun _ => isDigit_of_mem_paddedDigits,
      length_paddedDigits (Nat.pos_of_ne_zero hplaces) hlt, digitsValue_paddedDigits _ _⟩

theorem shows_digits (places units : ℕ) :
    Shows places units (wholeDigits places units) (fractionDigits places units) := by
  obtain ⟨hdigits, hlength, hvalue⟩ := fractionDigits_spec places units
  have hwhole : digitsValue (wholeDigits places units) = units / 10 ^ places := digitsValue_digits _
  refine ⟨List.forall_mem_append.2 ⟨fun _ => isDigit_of_mem_digits, hdigits⟩, ?_, hlength,
    digits_ne_nil _, fun hfront => ?_⟩
  · rw [digitsValue_append, hlength, hwhole, hvalue, Nat.div_add_mod]
  · by_cases hzero : units / Nat.pow 10 places = 0
    · rw [wholeDigits, hzero]
      rfl
    · exact absurd hfront (head?_digits hzero)

/-- There are no other digits that show a count of units. -/
theorem Shows.unique (h : Shows places units whole fraction) :
    whole = wholeDigits places units ∧ fraction = fractionDigits places units := by
  obtain ⟨hdigits, hlength, hvalue⟩ := fractionDigits_spec places units
  obtain ⟨hwhole, hfraction⟩ := List.forall_mem_append.1 h.isDigit
  have hlt : digitsValue fraction < 10 ^ places := h.length_eq ▸ digitsValue_lt hfraction
  have hunits : 10 ^ places * digitsValue whole + digitsValue fraction = units := by
    rw [← h.value_eq, digitsValue_append, h.length_eq]
  constructor
  · have hquotient : digitsValue whole = units / 10 ^ places := by
      rw [← hunits, Nat.mul_add_div (Nat.pow_pos (by decide)), Nat.div_eq_of_lt hlt, Nat.add_zero]
    exact (digits_digitsValue h.whole_ne_nil hwhole h.front).symm.trans (congrArg digits hquotient)
  · refine eq_of_digitsValue_eq hfraction hdigits (h.length_eq.trans hlength.symm) ?_
    rw [hvalue, ← hunits, Nat.mul_add_mod, Nat.mod_eq_of_lt hlt]

theorem Shows.exists_ne_zero_iff (h : Shows places units whole fraction) :
    (∃ c ∈ whole ++ fraction, c ≠ '0') ↔ units ≠ 0 := by
  rw [ne_eq, ← h.value_eq, digitsValue_eq_zero_iff h.isDigit]
  push Not
  rfl

end Digits

/-! ## The text of a number -/

/-- How a finite number is written: rounded, in digits, its whole part in groups of three, and with
a sign if it is below zero and shows a digit other than zero. -/
inductive Written (places : ℕ) (point separator : String) (x : Float) : String → Prop
  | intro {units : ℕ} {whole fraction first : List Char} {others : List (List Char)}
    (hunits : Nearest (magnitude x * 10 ^ places) units)
    (hshows : Shows places units whole fraction) (hgroups : InThrees whole first others) :
    Written places point separator x
      ((if x < 0 ∧ (∃ c ∈ whole ++ fraction, c ≠ '0') then "-" else "") ++
        separator.intercalate ((first :: others).map String.ofList) ++
        (if places = 0 then "" else point ++ String.ofList fraction))

theorem scaled_zero (places : ℕ) (exponent : ℤ) : scaled places 0 exponent = 0 := by
  simp [scaled, roundHalfEven]

theorem ofList_intercalate (separator : String) (parts : List (List Char)) :
    String.ofList (separator.toList.intercalate parts) =
      separator.intercalate (parts.map String.ofList) := by
  rw [← String.toList_inj, String.toList_ofList, String.toList_intercalate, List.map_map]
  simp [Function.comp_def]

theorem ofList_formatted {point separator : String} {x : Float} {negative : Bool} {mantissa : ℕ}
    {exponent : ℤ} {first : List Char} {others : List (List Char)}
    (hshape : shape x = .finite negative mantissa exponent)
    (hsign : x < 0 ↔ negative = true ∧ mantissa ≠ 0)
    (hgroups : InThrees (wholeDigits places (scaled places mantissa exponent)) first others) :
    let units := scaled places mantissa exponent
    String.ofList (formatted places point.toList separator.toList x) =
      (if x < 0 ∧ (∃ c ∈ wholeDigits places units ++ fractionDigits places units, c ≠ '0')
        then "-" else "") ++ separator.intercalate ((first :: others).map String.ofList) ++
        (if places = 0 then "" else point ++ String.ofList (fractionDigits places units)) := by
  intro units
  have hshows := shows_digits places units
  -- a digit other than zero is shown exactly if the number does not round to zero
  have hminus : (x < 0 ∧ ∃ c ∈ wholeDigits places units ++ fractionDigits places units, c ≠ '0') ↔
      negative = true ∧ units ≠ 0 := by
    rw [hshows.exists_ne_zero_iff, hsign]
    refine ⟨fun ⟨⟨hnegative, _⟩, hunits⟩ => ⟨hnegative, hunits⟩, fun ⟨hnegative, hunits⟩ => ?_⟩
    refine ⟨⟨hnegative, fun hmantissa => hunits ?_⟩, hunits⟩
    exact hmantissa ▸ scaled_zero places exponent
  have hfraction : fractionDigits places units = [] ↔ places = 0 := by
    rw [← List.length_eq_zero_iff, hshows.length_eq]
  rw [formatted, hshape]
  dsimp only
  rw [grouped_eq hgroups, String.ofList_append, String.ofList_append, ofList_intercalate]
  simp only [hminus, hfraction, units]
  congr 1
  · congr 1
    split <;> rfl
  · split
    · rfl
    · rw [String.ofList_append, String.ofList_toList]

theorem written_iff {point separator : String} {x : Float} (h : x.isFinite = true)
    (text : String) :
    Written places point separator x text ↔
      text = String.ofList (formatted places point.toList separator.toList x) := by
  obtain ⟨negative, mantissa, exponent, hshape, hmagnitude, hsign⟩ := exists_shape h
  have hunits := nearest_scaled places mantissa exponent
  rw [← hmagnitude] at hunits
  constructor
  · rintro ⟨hunits', hshows, hgroups⟩
    obtain rfl := hunits'.unique hunits
    obtain ⟨rfl, rfl⟩ := hshows.unique
    exact (ofList_formatted hshape hsign hgroups).symm
  · rintro rfl
    have hshows := shows_digits places (scaled places mantissa exponent)
    obtain ⟨first, others, hgroups⟩ := exists_inThrees hshows.whole_ne_nil
    rw [ofList_formatted hshape hsign hgroups]
    exact .intro hunits hshows hgroups

/-- A number below zero that shows nothing but zeros has no sign. -/
example : formatted 1 ['.'] [','] (-0.04) = ['0', '.', '0'] := by decide +kernel

end TagTemplate.Number
