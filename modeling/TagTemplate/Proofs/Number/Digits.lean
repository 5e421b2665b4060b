import Mathlib
import TagTemplate.Proofs.Number.Numeral

/-!
# What digits stand for

- `digitsValue_append`, `digitsValue_lt`, `digitsValue_eq_zero_iff`: the value of digits, by their
  places;
- `digits_digitsValue`: **digits without a zero in front are those of their value**;
- `eq_of_digitsValue_eq`: as many digits with the same value are the same;
- `digitsValue_paddedDigits`, `length_paddedDigits`: zeros in front change only how many digits
  there are.
-/

namespace TagTemplate.Number

variable {cs ds : List Char} {c : Char} {n width : ℕ}

theorem digitsValue_append (cs ds : List Char) :
    digitsValue (cs ++ ds) = 10 ^ ds.length * digitsValue cs + digitsValue ds :=
  (Nat.ofDigitChars_append 0).trans Nat.ofDigitChars_eq_ofDigitChars_zero

theorem digitsValue_cons (c : Char) (cs : List Char) :
    digitsValue (c :: cs) = 10 ^ cs.length * digitsValue [c] + digitsValue cs :=
  digitsValue_append [c] cs

/-- A digit is the one that is written for its value. -/
theorem digitsValue_singleton (h : c.isDigit = true) :
    digitsValue [c] < 10 ∧ Nat.digitChar (digitsValue [c]) = c :=
  Text.forall_ascii (p := fun c => c.isDigit = true →
      digitsValue [c] < 10 ∧ Nat.digitChar (digitsValue [c]) = c)
    (by decide) (Text.toNat_of_isDigit h) h

theorem digitsValue_lt (h : ∀ c ∈ cs, c.isDigit = true) : digitsValue cs < 10 ^ cs.length := by
  induction cs with
  | nil => exact Nat.one_pos
  | cons c cs ih =>
    obtain ⟨hc, hcs⟩ := List.forall_mem_cons.1 h
    have hrest := ih hcs
    have hfirst : 10 ^ cs.length * digitsValue [c] ≤ 10 ^ cs.length * 9 :=
      Nat.mul_le_mul_left _ (Nat.le_of_lt_succ (digitsValue_singleton hc).1)
    rw [digitsValue_cons, List.length_cons, Nat.pow_succ]
    omega

/-- Digits stand for zero exactly if they are zeros. -/
theorem digitsValue_eq_zero_iff (h : ∀ c ∈ cs, c.isDigit = true) :
    digitsValue cs = 0 ↔ ∀ c ∈ cs, c = '0' := by
  induction cs with
  | nil => simp [digitsValue]
  | cons c cs ih =>
    obtain ⟨hc, hcs⟩ := List.forall_mem_cons.1 h
    have hfirst : digitsValue [c] = 0 ↔ c = '0' := by
      refine ⟨fun hzero => ?_, fun hzero => ?_⟩
      · rw [← (digitsValue_singleton hc).2, hzero]
        rfl
      · rw [hzero]
        rfl
    rw [digitsValue_cons, List.forall_mem_cons, ← hfirst, ← ih hcs, Nat.add_eq_zero_iff,
      Nat.mul_eq_zero, or_iff_right (Nat.pow_pos (by decide)).ne']

/-- Digits without a zero in front, and a zero alone, are the digits of what they stand for. -/
theorem digits_digitsValue (hne : cs ≠ []) (hall : ∀ c ∈ cs, c.isDigit = true)
    (hfront : cs.head? = some '0' → cs = ['0']) : digits (digitsValue cs) = cs := by
  induction cs using List.reverseRecOn with
  | nil => exact absurd rfl hne
  | append_singleton ds c ih =>
    obtain ⟨hlt, hchar⟩ := digitsValue_singleton (hall c (by simp))
    have hlast : digits (digitsValue [c]) = [c] := by
      rw [digits, Nat.toDigits_of_lt_base hlt, hchar]
    by_cases hds : ds = []
    · rw [hds]
      exact hlast
    -- a zero in front would be in front of the whole numeral
    · have hhead : ds.head? ≠ some '0' := by
        intro hzero
        have happend := hfront (by rw [List.head?_append_of_ne_nil _ hds, hzero])
        obtain ⟨rfl, -⟩ | ⟨-, h⟩ := List.append_eq_singleton_iff.1 happend
        · exact hds rfl
        · cases h
      have hdigits := ih hds (fun c hc => hall c (List.mem_append_left _ hc)) (absurd · hhead)
      have hpos : 0 < digitsValue ds := by
        refine Nat.pos_of_ne_zero fun hzero => hhead ?_
        rw [← hdigits, hzero]
        rfl
      have hsplit : digitsValue (ds ++ [c]) = 10 * digitsValue ds + digitsValue [c] :=
        digitsValue_append ds [c]
      rw [hsplit, digits, ← Nat.toDigits_append_toDigits (by decide) hpos hlt, ← digits, ← digits,
        hdigits, hlast]

/-- As many digits that stand for the same number are the same. -/
theorem eq_of_digitsValue_eq (hcs : ∀ c ∈ cs, c.isDigit = true) (hds : ∀ c ∈ ds, c.isDigit = true)
    (hlength : cs.length = ds.length) (h : digitsValue cs = digitsValue ds) : cs = ds := by
  -- with a one in front both are the digits of one number
  have hone : ∀ {es : List Char}, (∀ c ∈ es, c.isDigit = true) →
      digits (digitsValue ('1' :: es)) = '1' :: es := fun hes =>
    digits_digitsValue (List.cons_ne_nil _ _) (List.forall_mem_cons.2 ⟨rfl, hes⟩) nofun
  have hsame : digitsValue ('1' :: cs) = digitsValue ('1' :: ds) := by
    rw [digitsValue_cons '1' cs, digitsValue_cons '1' ds, hlength, h]
  exact List.tail_eq_of_cons_eq ((hone hcs).symm.trans ((congrArg digits hsame).trans (hone hds)))

/-! ## Zeros in front -/

theorem digitsValue_paddedDigits (width n : ℕ) : digitsValue (paddedDigits width n) = n := by
  have hzeros : ∀ count : ℕ, digitsValue (List.replicate count '0') = 0 := fun _ =>
    Nat.ofDigitChars_replicate_zero
  rw [paddedDigits, digitsValue_append, hzeros, digitsValue_digits, Nat.mul_zero, Nat.zero_add]

theorem length_paddedDigits (hwidth : 0 < width) (h : n < 10 ^ width) :
    (paddedDigits width n).length = width := by
  have hlength : (digits n).length ≤ width := (Nat.length_toDigits_le_iff (by decide) hwidth).2 h
  rw [paddedDigits, List.length_append, List.length_replicate]
  omega

theorem isDigit_of_mem_paddedDigits (h : c ∈ paddedDigits width n) : c.isDigit = true := by
  rcases List.mem_append.1 h with hzero | hdigit
  · rw [List.eq_of_mem_replicate hzero]
    rfl
  · exact isDigit_of_mem_digits hdigit

end TagTemplate.Number
