import TagTemplate.Function.Native
import TagTemplate.Proofs.Value.Equality
import TagTemplate.Proofs.Value.Unmarked

/-!
# Equality of values and `eq`

Equality of values goes through them part by part, numbers with a tolerance and maps by name. `eq`
does neither: two values that stand for numbers have to be the very same number, and any others have
to be written alike, where digits and the order of names show. So what is equal is `eq` only as far
as nothing is passed over.

- `Value.Exact`: where equality compares numbers they are the same, and maps have one order;
- `Value.WrittenBy`: an object is written in one way wherever it stands;
- `Value.output_eq_of_equal`: what is equal and exact is written alike;
- `eq_of_equal`: **what is equal and exact is `eq` and not `neq`**, but for the number that is none;
- `eq_passes_over`: values that are equal and not `eq`, one for each of the conditions.
-/

namespace TagTemplate

namespace Value

mutual

/-- The numbers of two equal values are the same where equality compares them, and their maps have
the names in the same order. -/
def Exact : Value → Value → Prop
  | number x, number y => (x == y) = true ∨ x.isNaN = true ∧ y.isNaN = true
  | list xs, list ys => ExactItems xs ys
  | map m, map n => ExactMaps m n
  | _, _ => True

/-- `Exact`, item by item. -/
def ExactItems : List Value → List Value → Prop
  | [], [] => True
  | x :: xs, y :: ys => x.Exact y ∧ ExactItems xs ys
  | _, _ => False

/-- `Exact`, entry by entry. -/
def ExactMaps : OrderedMap Value → OrderedMap Value → Prop
  | ⟨es⟩, ⟨fs⟩ => ExactEntries es fs

/-- `Exact` for the values under the same names. -/
def ExactEntries : List (String × Value) → List (String × Value) → Prop
  | [], [] => True
  | (k, v) :: es, (l, w) :: fs => k = l ∧ v.Exact w ∧ ExactEntries es fs
  | _, _ => False

end

/-- Every object of the value is written as `texts` has it for its identity. -/
inductive WrittenBy (texts : Nat → String) : Value → Prop
  | null : WrittenBy texts .null
  | bool (b : Bool) : WrittenBy texts (.bool b)
  | number (x : Float) : WrittenBy texts (.number x)
  | string (s : String) : WrittenBy texts (.string s)
  | list {items : List Value} (h : ∀ v ∈ items, v.WrittenBy texts) : WrittenBy texts (.list items)
  | map {entries : OrderedMap Value} (h : ∀ e ∈ entries.entries, e.2.WrittenBy texts) :
    WrittenBy texts (.map entries)
  | host (identity : Nat) (accessor field dynamic : String → Option Value) :
    WrittenBy texts (.host identity (texts identity) accessor field dynamic)
  | document {identity : Nat} {d : Island.Document} (h : d.inspect = texts identity) :
    WrittenBy texts (.document identity d)

theorem exactItems_iff {xs ys : List Value} : ExactItems xs ys ↔ List.Forall₂ Exact xs ys := by
  induction xs generalizing ys with
  | nil => cases ys <;> simp [ExactItems]
  | cons x xs ih => cases ys <;> simp [ExactItems, ih]

theorem exactEntries_iff {es fs : List (String × Value)} :
    ExactEntries es fs ↔ List.Forall₂ (fun e f => e.1 = f.1 ∧ e.2.Exact f.2) es fs := by
  induction es generalizing fs with
  | nil => cases fs <;> simp [ExactEntries]
  | cons e es ih =>
    obtain ⟨k, v⟩ := e
    rcases fs with _ | ⟨⟨l, w⟩, fs⟩
    · simp [ExactEntries]
    · simp [ExactEntries, ih, and_assoc]

/-! ## Texts -/

variable {texts : Nat → String} {v w : Value}

theorem output_list (xs : List Value) : (list xs).output = ",".intercalate (xs.map output) := by
  rw [output, outputs_eq_map]

theorem output_map (m : OrderedMap Value) :
    (map m).output = ",".intercalate (m.entries.map fun e => e.2.output) := by
  obtain ⟨es⟩ := m
  rw [output, entryOutputs, pairOutputs_eq_map]

theorem map_eq_of_forall₂ {α β γ : Type} {f : α → γ} {g : β → γ} {as : List α} {bs : List β}
    (h : List.Forall₂ (fun a b => f a = g b) as bs) : as.map f = bs.map g := by
  rw [← List.forall₂_eq_eq_eq, List.forall₂_map_left_iff, List.forall₂_map_right_iff]
  exact h

/-- Lists that are equal and exact have such items in order. -/
theorem forall₂_of_equal_list {xs ys : List Value} (h : (list xs).equal (list ys) = true)
    (hexact : (list xs).Exact (list ys)) :
    List.Forall₂ (fun x y => x.equal y = true ∧ x.Exact y) xs ys := by
  obtain ⟨hlength, hequal⟩ := List.forall₂_iff_zip.1 (equal_list_iff.1 h)
  rw [Exact, exactItems_iff, List.forall₂_iff_zip] at hexact
  exact List.forall₂_iff_zip.2 ⟨hlength, fun hxy => ⟨hequal hxy, hexact.2 hxy⟩⟩

/-- Maps that are equal and exact have such values in order. -/
theorem forall₂_of_equal_map {m n : OrderedMap Value} (hn : n.Distinct)
    (h : (map m).equal (map n) = true) (hexact : (map m).Exact (map n)) :
    List.Forall₂ (fun e f => e.2.equal f.2 = true ∧ e.2.Exact f.2) m.entries n.entries := by
  obtain ⟨-, hentries⟩ := equal_map_iff.1 h
  obtain ⟨es⟩ := m
  obtain ⟨fs⟩ := n
  rw [Exact, ExactMaps, exactEntries_iff] at hexact
  refine (forall₂_and_mem hexact).imp fun e f hef => ?_
  obtain ⟨he, hf, hname, hvalue⟩ := hef
  -- equality looks the name up, and without a second entry of that name it finds the one in place
  obtain ⟨w, hw, hequal⟩ := hentries e he
  rw [hname, OrderedMap.get?_of_mem hn (v := f.2) hf] at hw
  exact ⟨Option.some.inj hw ▸ hequal, hvalue⟩

theorem WrittenBy.items {xs : List Value} (h : (Value.list xs).WrittenBy texts) :
    ∀ v ∈ xs, v.WrittenBy texts := by
  cases h with
  | list h => exact h

theorem WrittenBy.values {m : OrderedMap Value} (h : (Value.map m).WrittenBy texts) :
    ∀ e ∈ m.entries, e.2.WrittenBy texts := by
  cases h with
  | map h => exact h

/-- What is equal and exact is written alike. -/
theorem output_eq_of_equal (hv : v.Keyed) (hw : w.Keyed) (htexts : v.WrittenBy texts)
    (htexts' : w.WrittenBy texts) (h : v.equal w = true) (hexact : v.Exact w) :
    v.output = w.output := by
  -- what equals a value is of the same kind, so the second one is taken apart beside the first
  induction hv generalizing w with
  | @list xs _ ih =>
    cases hw with
    | @list ys hys =>
      have hitems : List.Forall₂ (fun x y => x.output = y.output) xs ys := by
        refine (forall₂_and_mem (forall₂_of_equal_list h hexact)).imp fun x y hxy => ?_
        obtain ⟨hx, hy, hequal, hsame⟩ := hxy
        exact ih x hx (hys y hy) (htexts.items x hx) (htexts'.items y hy) hequal hsame
      rw [output_list, output_list, map_eq_of_forall₂ hitems]
    | _ => simp [equal] at h
  | @map m _ _ ih =>
    cases hw with
    | @map n hn hvalues =>
      have houtputs : List.Forall₂ (fun e f => e.2.output = f.2.output) m.entries n.entries := by
        refine (forall₂_and_mem (forall₂_of_equal_map hn h hexact)).imp fun e f hef => ?_
        obtain ⟨he, hf, hequal, hsame⟩ := hef
        exact ih e he (hvalues f hf) (htexts.values e he) (htexts'.values f hf) hequal hsame
      rw [output_map, output_map, map_eq_of_forall₂ houtputs]
    | _ => simp [equal] at h
  | number x =>
    cases hw with
    | number y =>
      rw [Exact] at hexact
      rw [output, output, Number.numberText_congr hexact]
    | _ => simp [equal] at h
  | _ =>
    cases htexts
    all_goals cases htexts' <;> simp_all [equal, output]

/-- Of two values that are equal and exact the second stands for the number that the first does. -/
theorem exists_asNumber?_of_equal {x : Float} (h : v.equal w = true) (hexact : v.Exact w)
    (hx : v.asNumber? = some x) (hnan : x.isNaN = false) :
    ∃ y, w.asNumber? = some y ∧ (x == y) = true := by
  have hself : (x == x) = true := Number.beq_self_of_isNaN hnan
  cases v with
  | null => cases w <;> simp_all [equal]
  | bool b => cases w <;> simp_all [equal]
  | string s => cases w <;> simp_all [equal]
  | number z =>
    obtain rfl : z = x := Option.some.inj hx
    cases w with
    | number y =>
      rw [Exact] at hexact
      -- only the number that is none is exact without comparing equal
      refine ⟨y, rfl, hexact.resolve_right fun hboth => ?_⟩
      rw [hnan] at hboth
      cases hboth.1
    | _ => simp [equal] at h
  | _ => cases hx

end Value

namespace Function

variable {texts : Nat → String} {v w : Value}

theorem compareNumbers_of_beq {x y : Float} (h : (x == y) = true) :
    compareNumbers x y = some .eq := by
  rw [compareNumbers, if_neg (Number.not_lt_of_beq h), if_pos h]

theorem compareValues_of_equal (hv : v.Keyed) (hw : w.Keyed) (htexts : v.WrittenBy texts)
    (htexts' : w.WrittenBy texts) (h : v.equal w = true) (hexact : v.Exact w)
    (hnan : ∀ x, v.asNumber? = some x → x.isNaN = false) : compareValues v w = some .eq := by
  unfold compareValues
  cases hx : v.asNumber? with
  | some x =>
    obtain ⟨y, hy, hxy⟩ := Value.exists_asNumber?_of_equal h hexact hx (hnan x hx)
    rw [hy]
    exact compareNumbers_of_beq hxy
  | none =>
    -- whatever the second value stands for, the texts are compared
    have hsame : v.output = w.output := Value.output_eq_of_equal hv hw htexts htexts' h hexact
    have hcompare : compare v.output w.output = .eq := by
      rw [hsame]
      exact Std.compare_self
    exact congrArg some hcompare

/-- **What is equal and exact is `eq`.** Two equal values, of which each object is written in one
way, with the same numbers at the same places and the same order of names, that do not stand for the
number that is none. -/
theorem eq_of_equal (call : Call) (hv : v.Keyed) (hw : w.Keyed) (htexts : v.WrittenBy texts)
    (htexts' : w.WrittenBy texts) (h : v.equal w = true) (hexact : v.Exact w)
    (hnan : ∀ x, v.asNumber? = some x → x.isNaN = false) :
    eq call [v, w] = .ok (.bool true) ∧ neq call [v, w] = .ok (.bool false) := by
  have hcompare := compareValues_of_equal hv hw htexts htexts' h hexact hnan
  have happly : ∀ holds : Option Ordering → Bool,
      comparison holds call [v, w] = .ok (.bool (holds (some .eq))) := by
    intro holds
    show Except.ok (Value.bool (holds (compareValues v w))) = _
    rw [hcompare]
  exact ⟨happly _, happly _⟩

/-- A map with a number, and below it text that reads as no number and an object. -/
def nestedZero (x : Float) : Value :=
  .map ⟨[("n", .number x),
    ("l", .list [.string "nan", .host 3 "Page" (fun _ => none) (fun _ => none) fun _ => none])]⟩

/-- The two zeros are written alike, so that they make no difference in a map either. -/
theorem eq_of_equal_nestedZero :
    (nestedZero 0.0).Keyed ∧ (nestedZero (-0.0)).Keyed ∧
      (nestedZero 0.0).WrittenBy (fun _ => "Page") ∧
      (nestedZero (-0.0)).WrittenBy (fun _ => "Page") ∧
      (nestedZero 0.0).equal (nestedZero (-0.0)) = true ∧
      (nestedZero 0.0).Exact (nestedZero (-0.0)) ∧
      (∀ x, (nestedZero 0.0).asNumber? = some x → x.isNaN = false) ∧
      eq ⟨"eq", .empty, none⟩ [nestedZero 0.0, nestedZero (-0.0)] = .ok (.bool true) ∧
      neq ⟨"eq", .empty, none⟩ [nestedZero 0.0, nestedZero (-0.0)] = .ok (.bool false) := by
  have hkeyed : ∀ x, (nestedZero x).Keyed := fun x =>
    .map (by decide : ["n", "l"].Nodup) (List.forall_mem_cons.2 ⟨.number x,
      List.forall_mem_singleton.2 (.list (List.forall_mem_cons.2 ⟨.string _,
        List.forall_mem_singleton.2 (.host ..)⟩))⟩)
  have hwritten : ∀ x, (nestedZero x).WrittenBy (fun _ => "Page") := fun x =>
    .map (List.forall_mem_cons.2 ⟨.number x,
      List.forall_mem_singleton.2 (.list (List.forall_mem_cons.2 ⟨.string _,
        List.forall_mem_singleton.2 (.host ..)⟩))⟩)
  have hequal : (nestedZero 0.0).equal (nestedZero (-0.0)) = true := by decide +kernel
  have hzeros : ((0.0 : Float) == -0.0) = true := by decide
  have hexact : (nestedZero 0.0).Exact (nestedZero (-0.0)) := by
    simp [nestedZero, Value.Exact, Value.ExactMaps, Value.ExactEntries, Value.ExactItems, hzeros]
  have hnan : ∀ x, (nestedZero 0.0).asNumber? = some x → x.isNaN = false := nofun
  exact ⟨hkeyed _, hkeyed _, hwritten _, hwritten _, hequal, hexact, hnan,
    eq_of_equal ⟨"eq", .empty, none⟩ (hkeyed _) (hkeyed _) (hwritten _) (hwritten _) hequal hexact
      hnan⟩

/-- The answer of `eq` for two values. -/
def answer (v w : Value) : Except Error Value := eq ⟨"eq", .empty, none⟩ [v, w]

/-- Values that are equal and not `eq`: two numbers next to each other, text that reads as the
number that is none, and two maps with their names in different orders. -/
theorem eq_passes_over :
    (Value.number (0.1 + 0.2)).equal (.number 0.3) = true ∧
      answer (.number (0.1 + 0.2)) (.number 0.3) = .ok (.bool false) ∧
    (Value.string "nan").equal (.string "nan") = true ∧
      answer (.string "nan") (.string "nan") = .ok (.bool false) ∧
    (Value.map ⟨[("x", .string "1"), ("y", .string "2")]⟩).equal
        (.map ⟨[("y", .string "2"), ("x", .string "1")]⟩) = true ∧
      answer (.map ⟨[("x", .string "1"), ("y", .string "2")]⟩)
        (.map ⟨[("y", .string "2"), ("x", .string "1")]⟩) = .ok (.bool false) := by
  have hfalse : ∀ {v w : Value}, (compareValues v w == some .eq) = false →
      answer v w = .ok (.bool false) := by
    intro v w h
    exact congrArg (fun b => Except.ok (Value.bool b)) h
  exact ⟨by decide +kernel, hfalse (by decide +kernel), by decide +kernel,
    hfalse (by decide +kernel), by decide +kernel, hfalse (by decide +kernel)⟩

end Function

end TagTemplate
