import TagTemplate.Function.Native
import TagTemplate.Proofs.Except
import TagTemplate.Proofs.Value.Unmarked

/-!
# Functions that make no marks

Nearly all native functions give unmarked values for unmarked arguments. The exceptions read XML,
where a reference may stand for the mark.

- `Function.KeepsUnmarked`: the function makes no mark from unmarked arguments in an unmarked scope;
- `keepsUnmarked_comparison`, `keepsUnmarked_iterating`, `keepsUnmarked_changing`: the families;
- `keepsUnmarked_native`: no native function but `xml` and `xpath` makes a mark.
-/

namespace TagTemplate

open Text

/-- The function makes no mark from unmarked arguments. -/
def Function.KeepsUnmarked (f : Function) : Prop :=
  ∀ (call : Call) (arguments : List Value) (v : Value), call.scope.Unmarked →
    (∀ it ∈ call.iteration, it.Unmarked) → (∀ a ∈ arguments, a.Unmarked) →
    f call arguments = .ok v → v.Unmarked

namespace Function

variable {call : Call} {arguments : List Value}

theorem getD_unmarked (h : ∀ a ∈ arguments, a.Unmarked) (i : Nat) :
    (arguments.getD i .null).Unmarked := by
  rw [List.getD_eq_getElem?_getD]
  cases hi : arguments[i]? with
  | none => exact .null
  | some a => exact h a (List.mem_of_getElem? hi)

theorem keepsUnmarked_comparison (holds : Option Ordering → Bool) :
    KeepsUnmarked (comparison holds) := by
  intro call arguments v _ _ _ h
  obtain ⟨_, -, rfl⟩ := map_eq_ok h
  exact .bool _

theorem keepsUnmarked_iterating {outside : Value} {inside : Iteration → Value}
    (houtside : outside.Unmarked) (hinside : ∀ it : Iteration, it.Unmarked → (inside it).Unmarked) :
    KeepsUnmarked (iterating outside inside) := by
  intro call arguments v _ hit _ h
  obtain ⟨_, -, rfl⟩ := map_eq_ok h
  cases hiteration : call.iteration with
  | none => exact houtside
  | some it => exact hinside it (hit it hiteration)

theorem keepsUnmarked_changing {change : List Char → List Char}
    (hchange : ∀ cs, Slots.anchorMark ∉ cs → Slots.anchorMark ∉ change cs) :
    KeepsUnmarked (changing change) := by
  intro call arguments v _ _ harguments h
  obtain ⟨s, hs, rfl⟩ := map_eq_ok h
  obtain ⟨a, ha, rfl⟩ := map_eq_ok hs
  obtain ⟨_, -, rfl⟩ := map_eq_ok ha
  refine .string (unmarked_ofList (hchange _ ?_))
  have hfirst : (arguments.headD .null).Unmarked := by
    rw [List.headD_eq_getD]
    exact getD_unmarked harguments 0
  exact hfirst.output

theorem keepsUnmarked_not : KeepsUnmarked Function.not := by
  intro call arguments v _ _ _ h
  obtain ⟨_, -, rfl⟩ := map_eq_ok h
  exact .bool _

theorem keepsUnmarked_and : KeepsUnmarked Function.and := by
  intro call arguments v _ _ _ h
  obtain ⟨_, -, rfl⟩ := map_eq_ok h
  exact .bool _

theorem keepsUnmarked_or : KeepsUnmarked Function.or := by
  intro call arguments v _ _ _ h
  obtain ⟨_, -, rfl⟩ := map_eq_ok h
  exact .bool _

theorem keepsUnmarked_choose : KeepsUnmarked choose := by
  intro call arguments v _ _ harguments h
  obtain ⟨_, -, rfl⟩ := map_eq_ok h
  split
  · exact getD_unmarked harguments 1
  · exact getD_unmarked harguments 2

theorem keepsUnmarked_fallback : KeepsUnmarked fallback := by
  intro call arguments v _ _ harguments h
  obtain ⟨_, htwo, rfl⟩ := map_eq_ok h
  obtain ⟨_, -, rfl⟩ := map_eq_ok htwo
  dsimp only
  split
  · exact getD_unmarked harguments 0
  · exact getD_unmarked harguments 1

theorem keepsUnmarked_count : KeepsUnmarked count := by
  intro call arguments v _ _ _ h
  obtain ⟨_, -, rfl⟩ := map_eq_ok h
  exact .number _

theorem keepsUnmarked_empty : KeepsUnmarked Function.empty := by
  intro call arguments v _ _ _ h
  obtain ⟨_, -, rfl⟩ := map_eq_ok h
  exact .bool _

theorem keepsUnmarked_concat : KeepsUnmarked concat := by
  intro call arguments v _ _ harguments h
  cases h
  refine .string (unmarked_join fun s hs => ?_)
  obtain ⟨a, ha, rfl⟩ := List.mem_map.1 hs
  exact (harguments a ha).output

theorem keepsUnmarked_substr : KeepsUnmarked substr := by
  intro call arguments v _ _ harguments h
  have htext := (getD_unmarked harguments 0).output
  unfold substr at h
  generalize (arguments.getD 0 .null).output = text at htext h
  -- whatever the window is, its characters are some of those of the text
  have hwindow : ∀ (first : Int) (length : Option Int),
      ((windowEnd text.toList.length first length).bind fun last =>
        Except.ok (Value.string (String.ofList ((text.toList.take last.toNat).drop first.toNat)))) =
          .ok v → v.Unmarked := by
    intro first length h
    obtain ⟨last, -, h⟩ := bind_eq_ok h
    cases h
    exact .string
      (unmarked_ofList fun hmem => htext (List.mem_of_mem_take (List.mem_of_mem_drop hmem)))
  obtain ⟨_, -, h⟩ := bind_eq_ok h
  obtain ⟨start, -, h⟩ := bind_eq_ok h
  dsimp only at h
  split at h
  · exact hwindow _ none h
  · obtain ⟨length, -, h⟩ := bind_eq_ok h
    exact hwindow _ length h

theorem keepsUnmarked_round : KeepsUnmarked round := by
  intro call arguments v _ _ _ h
  obtain ⟨_, -, h⟩ := bind_eq_ok h
  obtain ⟨x, -, h⟩ := bind_eq_ok h
  dsimp only at h
  split at h
  · cases h
    exact .number _
  · obtain ⟨decimals, -, h⟩ := bind_eq_ok h
    cases h
    exact .number _

theorem keepsUnmarked_formatNumber : KeepsUnmarked formatNumber := by
  intro call arguments v _ _ harguments h
  -- the strings between the digits are arguments or the usual ones
  have hpart : ∀ (i : Nat) (other : String), Text.Unmarked other →
      Text.Unmarked ((arguments[i]?.map Value.output).getD other) := by
    intro i other hother
    cases hi : arguments[i]? with
    | none => exact hother
    | some a => exact (harguments a (List.mem_of_getElem? hi)).output
  obtain ⟨_, -, h⟩ := bind_eq_ok h
  obtain ⟨x, -, h⟩ := bind_eq_ok h
  have hprinted : ∀ decimals, (if mostDecimals < decimals then
      Except.error (Error.fault .tooManyDecimals)
      else .ok (Value.string (String.ofList (Number.formatted decimals
        ((arguments[2]?.map Value.output).getD ".").toList
        ((arguments[3]?.map Value.output).getD ",").toList x)))) = .ok v → v.Unmarked := by
    intro decimals h
    split at h
    · cases h
    · cases h
      exact .string (unmarked_ofList (notMem_formatted _ (hpart 2 "." (by decide))
        (hpart 3 "," (by decide)) x))
  dsimp only at h
  split at h
  · exact hprinted 0 h
  · obtain ⟨decimals, -, h⟩ := bind_eq_ok h
    exact hprinted decimals h

/-- **No native function makes a mark**, apart from the two that read XML. -/
theorem keepsUnmarked_native {name : String} {f : Function} (h : nativeLibrary name = some f)
    (hxml : name ≠ "xml") (hxpath : name ≠ "xpath") : KeepsUnmarked f := by
  have hnumber : ∀ g : Iteration → Nat, KeepsUnmarked
      (iterating (.number 0.0) fun it => .number (Float.ofNat (g it))) := fun g =>
    keepsUnmarked_iterating (.number _) fun _ _ => .number _
  have hbool : ∀ g : Iteration → Bool,
      KeepsUnmarked (iterating (.bool false) fun it => .bool (g it)) :=
    fun g => keepsUnmarked_iterating (.bool _) fun _ _ => .bool _
  -- function by function, in the order of the table
  have hall : ∀ e ∈ nativeFunctions, e.1 ≠ "xml" → e.1 ≠ "xpath" → KeepsUnmarked e.2 := by
    simp only [nativeFunctions, List.forall_mem_cons]
    refine ⟨fun _ _ => keepsUnmarked_not, fun _ _ => keepsUnmarked_comparison _,
      fun _ _ => keepsUnmarked_comparison _, fun _ _ => keepsUnmarked_comparison _,
      fun _ _ => keepsUnmarked_comparison _, fun _ _ => keepsUnmarked_comparison _,
      fun _ _ => keepsUnmarked_comparison _, fun _ _ => keepsUnmarked_and,
      fun _ _ => keepsUnmarked_or, fun _ _ => keepsUnmarked_choose,
      fun _ _ => keepsUnmarked_fallback, fun _ _ => keepsUnmarked_count,
      fun _ _ => keepsUnmarked_empty, fun _ _ => keepsUnmarked_concat,
      fun _ _ => keepsUnmarked_changing fun _ => notMem_upper,
      fun _ _ => keepsUnmarked_changing fun _ => notMem_lower,
      fun _ _ => keepsUnmarked_changing fun _ => notMem_trim,
      fun _ _ => keepsUnmarked_substr,
      fun _ _ => keepsUnmarked_changing fun _ => notMem_escape_of_notMem,
      fun _ _ => keepsUnmarked_round, fun _ _ => keepsUnmarked_formatNumber,
      fun _ _ => hnumber _, fun _ _ => hbool _, fun _ _ => hbool _, fun _ _ => hbool _,
      fun _ _ => hbool _, fun _ _ => keepsUnmarked_iterating .null fun _ hit => hit,
      fun hne _ => absurd rfl hne, fun _ hne => absurd rfl hne, List.forall_mem_nil _⟩
  exact hall _ (OrderedMap.mem_of_lookup h) hxml hxpath

end Function

end TagTemplate
