import TagTemplate.Expr.Scanner
import TagTemplate.Proofs.Except

/-!
# Windows of text

`substr` cuts a window out of a text. Where the window begins and ends is said here for numbers
without bounds: a place outside of the text is moved to its nearer end. The numbers themselves are
64-bit integers, and the sum of a place and a length is one only if it fits.

- `firstPlace`, `lastPlace`: where a window begins and where it ends;
- `ordered_places`: both lie in the text, the first not behind the last;
- `substr_eq_window`: **a window is cut exactly where the sum fits**, and it is the characters from
  the first place up to the last;
- `substr_overflows`: a window inside of the text that is not cut, since the sum does not fit.
-/

namespace TagTemplate.Function

open Number (toInt64)

/-- Where a window begins in text of `total` characters: a negative start counts from the end. -/
def firstPlace (total start : Int) : Int :=
  max 0 (min total (if start < 0 then total + start else start))

/-- Where a window ends that begins at `first`: at the end of the text without a length, and a
negative length counts from the end. -/
def lastPlace (total first : Int) : Option Int → Int
  | none => total
  | some length => if 0 ≤ length then min total (first + length) else max first (total + length)

/-- The place that a length leads to is a signed 64-bit integer. -/
def Fits (first : Int) : Option Int → Prop
  | none => True
  | some length => length < 0 ∨ first + length < Nat.pow 2 63

instance (first : Int) : DecidablePred (Fits first)
  | none => inferInstanceAs (Decidable True)
  | some length => inferInstanceAs (Decidable (length < 0 ∨ first + length < Nat.pow 2 63))

section Places

variable {total : Int}

theorem windowStart_eq (h : 0 ≤ total) (start : Int) :
    windowStart total start = firstPlace total start := by
  unfold windowStart firstPlace
  split <;> omega

theorem windowEnd_eq (first : Int) (length : Option Int) :
    windowEnd total first length =
      if Fits first length then .ok (lastPlace total first length)
      else .error (.fault .windowOverflow) := by
  cases length with
  | none => rfl
  | some length =>
    -- a negative length leads to a smaller place, so that only the other ones have to fit
    by_cases hneg : length < 0
    · have hfits : Fits first (some length) := .inl hneg
      rw [if_pos hfits, windowEnd, if_pos hneg, lastPlace, if_neg (Int.not_le.2 hneg),
        Int.max_comm]
    · rw [windowEnd, if_neg hneg, lastPlace, if_pos (Int.not_lt.1 hneg), Int.min_comm total]
      by_cases hsum : first + length < Nat.pow 2 63
      · have hfits : Fits first (some length) := .inr hsum
        rw [if_pos hfits]
        exact if_pos hsum
      · have hfits : ¬ Fits first (some length) := fun h => h.elim hneg hsum
        rw [if_neg hfits]
        exact if_neg hsum

theorem ordered_places (h : 0 ≤ total) (start : Int) (length : Option Int) :
    0 ≤ firstPlace total start ∧
      firstPlace total start ≤ lastPlace total (firstPlace total start) length ∧
      lastPlace total (firstPlace total start) length ≤ total := by
  have hfirst : 0 ≤ firstPlace total start ∧ firstPlace total start ≤ total := by
    unfold firstPlace
    omega
  refine ⟨hfirst.1, ?_⟩
  cases length with
  | none => exact ⟨hfirst.2, Int.le_refl _⟩
  | some length =>
    unfold lastPlace
    split <;> omega

end Places

theorem integer_eq (call : Call) {v : Value} {x : Float} (h : v.asNumber? = some x) :
    integer call v = .ok (toInt64 x) := by
  simp [integer, Call.number, h, Except.map]

/-- Once its numbers are read, a call cuts the text between the places that they lead to. -/
theorem substr_read (call : Call) (text : Value) {start : Value} {length : Option Value} {x : Float}
    {y : Option Float} (hstart : start.asNumber? = some x)
    (hlength : length.map Value.asNumber? = y.map some) :
    let total : Int := text.output.toList.length
    let first := windowStart total (toInt64 x)
    substr call (text :: start :: length.toList) =
      (windowEnd total first (y.map toInt64)).bind fun last =>
        .ok (.string (String.ofList ((text.output.toList.take last.toNat).drop first.toNat))) := by
  have hfirst := integer_eq call hstart
  cases length with
  | none =>
    obtain rfl : y = none := Option.map_eq_none_iff.1 hlength.symm
    show (integer call start).bind _ = _
    rw [hfirst]
    rfl
  | some v =>
    obtain ⟨z, rfl, hz⟩ := Option.map_eq_some_iff.1 hlength.symm
    show (integer call start).bind (fun _ => ((integer call v).map some).bind _) = _
    rw [hfirst, integer_eq call hz.symm]
    rfl

/-- **The window that is cut.** For every text and all numbers the window begins and ends at places
in the text, and the characters between them are the answer unless the end asked for is beyond the
64-bit range. -/
theorem substr_eq_window (call : Call) (text : Value) {start : Value} {length : Option Value}
    {x : Float} {y : Option Float} (hstart : start.asNumber? = some x)
    (hlength : length.map Value.asNumber? = y.map some) :
    let total : Int := text.output.toList.length
    let first := firstPlace total (toInt64 x)
    let last := lastPlace total first (y.map toInt64)
    (0 ≤ first ∧ first ≤ last ∧ last ≤ total) ∧
      substr call (text :: start :: length.toList) =
        if Fits first (y.map toInt64) then
          .ok (.string (String.ofList (text.output.toList.extract first.toNat last.toNat)))
        else .error (.fault .windowOverflow) := by
  intro total first last
  have htotal : 0 ≤ total := Int.natCast_nonneg _
  refine ⟨ordered_places htotal _ _, ?_⟩
  rw [substr_read call text hstart hlength, windowStart_eq htotal, windowEnd_eq]
  split
  · -- what is cut off at the end first and then at the start is what lies between
    show Except.ok _ = _
    rw [List.drop_take]
  · rfl

/-- The last three characters of a word without the last one. -/
theorem substr_eq_window_template :
    (Value.number (-3.0)).asNumber? = some (-3.0) ∧
      (some (Value.string " -1 ")).map Value.asNumber? = (some (-1.0)).map some ∧
      substr ⟨"substr", .empty, none⟩ [.string "template", .number (-3.0), .string " -1 "] =
        .ok (.string "at") := by
  have hstart : (Value.number (-3.0)).asNumber? = some (-3.0) := rfl
  have hlength : (some (Value.string " -1 ")).map Value.asNumber? = (some (-1.0)).map some := by
    decide +kernel
  have hfits : Fits (firstPlace 8 (toInt64 (-3.0))) ((some (-1.0)).map toInt64) := by
    decide +kernel
  have hplaces : String.ofList ("template".toList.extract (firstPlace 8 (toInt64 (-3.0))).toNat
      (lastPlace 8 (firstPlace 8 (toInt64 (-3.0))) ((some (-1.0)).map toInt64)).toNat) = "at" := by
    decide +kernel
  have hcut := substr_eq_window ⟨"substr", .empty, none⟩ (.string "template") hstart hlength
  refine ⟨hstart, hlength, hcut.2.trans ?_⟩
  exact (if_pos hfits).trans (congrArg (fun s => Except.ok (Value.string s)) hplaces)

/-- A window inside of a text that is not cut: it begins at the second of three characters and would
end with the text, but a length as large as that leads beyond the 64-bit range. -/
theorem substr_overflows :
    Expr.evaluate ⟨.empty, .empty, none⟩ "substr('abc', 1, 9999999999999999999)" =
        .error (.fault .windowOverflow) ∧
      firstPlace 3 1 = 1 ∧ lastPlace 3 1 (some (toInt64 9999999999999999999.0)) = 3 := by
  have hfails : (Expr.evaluate ⟨.empty, .empty, none⟩
      "substr('abc', 1, 9999999999999999999)").map (fun _ => ()) =
        .error (.fault .windowOverflow) := by
    decide +kernel
  exact ⟨map_eq_error hfails, by decide, by decide +kernel⟩

end TagTemplate.Function
