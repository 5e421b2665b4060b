import TagTemplate.Proofs.Function.Window
import TagTemplate.Proofs.Number.Fixed

/-!
# Printed numbers

`format_number` reads a number, how many decimals to show, and what stands for the point and between
groups of digits.
-/

namespace TagTemplate.Function

open Number (Written formatted toInt64)

/-- Once its numbers are read, a call writes the first one as the others say. -/
theorem formatNumber_read (call : Call) {number : Value} {options : List Value} {x : Float}
    {y : Option Float} (hnumber : number.asNumber? = some x) (hoptions : options.length ≤ 3)
    (hdecimals : options[0]?.map Value.asNumber? = y.map some) :
    let places := ((y.map toInt64).getD 0).toNat
    let point := (options[1]?.map Value.output).getD "."
    let separator := (options[2]?.map Value.output).getD ","
    formatNumber call (number :: options) =
      if mostDecimals < places then .error (.fault .tooManyDecimals)
      else .ok (.string (String.ofList (formatted places point.toList separator.toList x))) := by
  have hexpect : call.expect (number :: options) 1 (some 4) = .ok () :=
    if_pos ⟨Nat.le_add_left 1 _, decide_eq_true (Nat.succ_le_succ hoptions)⟩
  have hread : call.number number = .ok x := by rw [Call.number, hnumber]
  intro places point separator
  show (call.expect (number :: options) 1 (some 4)).bind (fun _ => (call.number number).bind _) = _
  rw [hexpect, hread]
  cases options with
  | nil =>
    obtain rfl : y = none := Option.map_eq_none_iff.1 hdecimals.symm
    rfl
  | cons decimals options =>
    obtain ⟨z, rfl, hz⟩ := Option.map_eq_some_iff.1 hdecimals.symm
    show ((integer call decimals).map Int.toNat).bind _ = _
    rw [integer_eq call hz.symm]
    rfl

/-- **How a number is printed.** For a finite number, up to 65535 decimals and any strings for the
point and between groups of digits there is one way to write it, and that is the answer. -/
theorem formatNumber_written (call : Call) {number : Value} {options : List Value} {x : Float}
    {y : Option Float} (hnumber : number.asNumber? = some x) (hfinite : x.isFinite = true)
    (hoptions : options.length ≤ 3) (hdecimals : options[0]?.map Value.asNumber? = y.map some)
    (hmost : (y.map toInt64).getD 0 ≤ 65535) :
    let places := ((y.map toInt64).getD 0).toNat
    let point := (options[1]?.map Value.output).getD "."
    let separator := (options[2]?.map Value.output).getD ","
    ∃ text, formatNumber call (number :: options) = .ok (.string text) ∧
      ∀ s, Written places point separator x s ↔ s = text := by
  intro places point separator
  have hplaces : ¬ mostDecimals < places := by
    show ¬ 65535 < ((y.map toInt64).getD 0).toNat
    omega
  refine ⟨_, ?_, Number.written_iff hfinite⟩
  rw [formatNumber_read call hnumber hoptions hdecimals, if_neg hplaces]

/-- Seven digits in three groups, with the decimals rounded. -/
theorem formatNumber_written_millions :
    (Value.number (-1234567.891)).asNumber? = some (-1234567.891) ∧
      Float.isFinite (-1234567.891) = true ∧
      [Value.number 2.0, .string ",", .string "."].length ≤ 3 ∧
      [Value.number 2.0, .string ",", .string "."][0]?.map Value.asNumber? = (some 2.0).map some ∧
      ((some 2.0).map toInt64).getD 0 ≤ 65535 ∧
      formatNumber ⟨"format_number", .empty, none⟩
        [.number (-1234567.891), .number 2.0, .string ",", .string "."] =
          .ok (.string "-1.234.567,89") ∧
      ∀ s, Written 2 "," "." (-1234567.891) s ↔ s = "-1.234.567,89" := by
  have hnumber : (Value.number (-1234567.891)).asNumber? = some (-1234567.891) := rfl
  have hfinite : Float.isFinite (-1234567.891) = true := by decide +kernel
  have hoptions : [Value.number 2.0, .string ",", .string "."].length ≤ 3 := by decide
  have hdecimals : [Value.number 2.0, .string ",", .string "."][0]?.map Value.asNumber? =
      (some 2.0).map some := rfl
  have hmost : ((some 2.0).map toInt64).getD 0 ≤ 65535 := by decide +kernel
  have hplaces : (((some 2.0).map toInt64).getD 0).toNat = 2 := by decide +kernel
  have hprinted : String.ofList (formatted 2 ",".toList ".".toList (-1234567.891)) =
      "-1.234.567,89" := by
    decide +kernel
  have hanswer := formatNumber_read ⟨"format_number", .empty, none⟩ hnumber hoptions hdecimals
  obtain ⟨text, htext, hwritten⟩ := formatNumber_written ⟨"format_number", .empty, none⟩ hnumber
    hfinite hoptions hdecimals hmost
  rw [hplaces] at hanswer hwritten
  have hmillions := hanswer.trans
    ((if_neg (by decide)).trans (congrArg (fun s => Except.ok (Value.string s)) hprinted))
  obtain rfl : "-1.234.567,89" = text :=
    Value.string.inj (Except.ok.inj (hmillions.symm.trans htext))
  exact ⟨hnumber, hfinite, hoptions, hdecimals, hmost, hmillions, hwritten⟩

end TagTemplate.Function
