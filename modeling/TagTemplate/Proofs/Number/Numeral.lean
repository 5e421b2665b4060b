import TagTemplate.Number.Read
import TagTemplate.Proofs.Text.Classes
import TagTemplate.Proofs.Text.Search

/-!
# Numerals read back

`numeralValue` is what the digits of a decimal numeral stand for. A numeral written with digits and
at most one point reads as that value (`read?_whole`, `read?_decimal`), and a zero in front changes
nothing. The digits of a natural number have its value (`digitsValue_digits`) and no zero in front
(`head?_digits`).
-/

namespace TagTemplate.Number

/-- The number that the digits before and after a point stand for. -/
def numeralValue (whole fraction : List Char) : Float :=
  ofDecimal (digitsValue (whole ++ fraction)) (-(fraction.length : Int))

theorem numeralValue_zero_cons (whole fraction : List Char) :
    numeralValue ('0' :: whole) fraction = numeralValue whole fraction := rfl

/-- A digit in front keeps a numeral from being a sign or the name of a special number. -/
theorem isDigit_cases {c : Char} (h : c.isDigit = true) :
    c ≠ '-' ∧ c ≠ '+' ∧ c.toLower ≠ 'i' ∧ c.toLower ≠ 'n' :=
  Text.forall_ascii
    (p := fun c => c.isDigit = true → c ≠ '-' ∧ c ≠ '+' ∧ c.toLower ≠ 'i' ∧ c.toLower ≠ 'n')
    (by decide) (Text.toNat_of_isDigit h) h

variable {whole fraction : List Char}

/-- A numeral that starts with a digit is no special number. -/
theorem asciiLower_ne_special {c : Char} (hc : c.isDigit = true) (cs : List Char) :
    ¬(asciiLower (c :: cs) = ['i', 'n', 'f'] ∨
      asciiLower (c :: cs) = ['i', 'n', 'f', 'i', 'n', 'i', 't', 'y']) ∧
    asciiLower (c :: cs) ≠ ['n', 'a', 'n'] := by
  obtain ⟨-, -, hi, hn⟩ := isDigit_cases hc
  simp [asciiLower, hi, hn]

theorem read?_of_digit {c : Char} {cs : List Char} (hc : c.isDigit = true) :
    read? (c :: cs) = readMagnitude? (c :: cs) := by
  obtain ⟨hminus, hplus, -, -⟩ := isDigit_cases hc
  unfold read?
  split
  · rename_i heq
    exact absurd (List.cons.inj heq).1 hminus
  · rename_i heq
    exact absurd (List.cons.inj heq).1 hplus
  · rfl

/-- Digits alone read as their value. -/
theorem read?_whole (hne : whole ≠ []) (hall : ∀ c ∈ whole, c.isDigit = true) :
    read? whole = some (numeralValue whole []) := by
  have hspan : whole.span Char.isDigit = (whole, []) := by
    have h : (whole ++ []).span Char.isDigit = (whole, []) := Text.span_append hall nofun
    rwa [List.append_nil] at h
  obtain ⟨c, cs, rfl⟩ := List.exists_cons_of_ne_nil hne
  have hc : c.isDigit = true := hall c (by simp)
  obtain ⟨hinf, hnan⟩ := asciiLower_ne_special hc cs
  rw [read?_of_digit hc]
  simp only [readMagnitude?, if_neg hinf, if_neg hnan, hspan]
  rfl

/-- Digits with a point read as their value, also when no digit follows the point. -/
theorem read?_decimal (hne : whole ≠ []) (hall : ∀ c ∈ whole, c.isDigit = true)
    (hfraction : ∀ c ∈ fraction, c.isDigit = true) :
    read? (whole ++ '.' :: fraction) = some (numeralValue whole fraction) := by
  have hspan : (whole ++ '.' :: fraction).span Char.isDigit = (whole, '.' :: fraction) :=
    Text.span_append hall (by simp)
  have hspan' : fraction.span Char.isDigit = (fraction, []) := by
    have h : (fraction ++ []).span Char.isDigit = (fraction, []) := Text.span_append hfraction nofun
    rwa [List.append_nil] at h
  obtain ⟨c, cs, rfl⟩ := List.exists_cons_of_ne_nil hne
  have hc : c.isDigit = true := hall c (by simp)
  rw [List.cons_append] at hspan ⊢
  obtain ⟨hinf, hnan⟩ := asciiLower_ne_special hc (cs ++ '.' :: fraction)
  rw [read?_of_digit hc]
  simp only [readMagnitude?, if_neg hinf, if_neg hnan, hspan, hspan']
  simp [readExponent?, numeralValue]

/-! ## The digits of natural numbers -/

theorem isDigit_of_mem_digits {n : Nat} {c : Char} (h : c ∈ digits n) : c.isDigit = true :=
  Nat.isDigit_of_mem_toDigits (by decide) (by decide) h

theorem digits_ne_nil (n : Nat) : digits n ≠ [] := Nat.toDigits_ne_nil

theorem digitsValue_digits (n : Nat) : digitsValue (digits n) = n := Nat.ofDigitChars_ten_toDigits

/-- Only zero itself is written with a zero in front. -/
theorem head?_digits {n : Nat} (h : n ≠ 0) : (digits n).head? ≠ some '0' := by
  induction n using Nat.strongRecOn with
  | _ n ih =>
    by_cases hsmall : n < 10
    · have hdigit : ∀ m : Fin 10, m.val ≠ 0 → Nat.digitChar m ≠ '0' := by decide
      rw [digits, Nat.toDigits_of_lt_base hsmall, List.head?_cons]
      exact fun heq => hdigit ⟨n, hsmall⟩ h (Option.some.inj heq)
    · have hfront := ih (n / 10) (by omega) (by omega)
      obtain ⟨c, cs, hcs⟩ := List.exists_cons_of_ne_nil (digits_ne_nil (n / 10))
      rw [hcs] at hfront
      rw [digits, Nat.toDigits_of_base_le (by decide) (Nat.not_lt.1 hsmall), ← digits, hcs]
      exact hfront

end TagTemplate.Number
