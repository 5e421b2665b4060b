import TagTemplate.Function.Native
import TagTemplate.Proofs.Error
import TagTemplate.Proofs.Except
import TagTemplate.Proofs.OrderedMap

/-!
# What stops a function

No native function fails with an error that names an element, so that such errors can only come from
added libraries.

- `Function.FailsPlainly`: a function without such errors;
- `Registry.FailsPlainly`: added libraries without such functions;
- `Registry.failsPlainly_call`: **no call fails with such an error**, then.
-/

namespace TagTemplate

/-- The function fails with no error that names an element. -/
def Function.FailsPlainly (f : Function) : Prop :=
  ∀ call arguments, FailsAs Error.IsPlain (f call arguments)

/-- No added function fails with an error that names an element. -/
def Registry.FailsPlainly (r : Registry) : Prop :=
  ∀ library ∈ r.libraries, ∀ name f, library name = some f → f.FailsPlainly

/-! ## Arguments -/

namespace Call

variable (call : Call) (arguments : List Value)

theorem failsPlainly_fail {α : Type} (message : String) :
    FailsAs Error.IsPlain (call.fail message : Except Error α) :=
  .error trivial

theorem failsPlainly_expect (least : Nat) (most : Option Nat) :
    FailsAs Error.IsPlain (call.expect arguments least most) :=
  .ite (.ok _) (call.failsPlainly_fail _)

theorem failsPlainly_one : FailsAs Error.IsPlain (call.one arguments) :=
  (call.failsPlainly_expect arguments 1 (some 1)).map _

theorem failsPlainly_text : FailsAs Error.IsPlain (call.text arguments) :=
  (call.failsPlainly_one arguments).map _

theorem failsPlainly_two : FailsAs Error.IsPlain (call.two arguments) :=
  (call.failsPlainly_expect arguments 2 (some 2)).map _

theorem failsPlainly_number (argument : Value) : FailsAs Error.IsPlain (call.number argument) := by
  unfold number
  split
  · exact .ok _
  · exact call.failsPlainly_fail _

end Call

/-! ## Native functions -/

namespace Function

theorem failsPlainly_comparison (holds : Option Ordering → Bool) :
    (comparison holds).FailsPlainly :=
  fun call arguments => (call.failsPlainly_two arguments).map _

theorem failsPlainly_one {f : Function} {answer : Value → Value}
    (hf : ∀ call arguments, f call arguments = (call.one arguments).map answer) :
    f.FailsPlainly := by
  intro call arguments
  rw [hf]
  exact (call.failsPlainly_one arguments).map _

theorem failsPlainly_expect {f : Function} {least : Nat} {most : Option Nat}
    {answer : Call → List Value → Value}
    (hf : ∀ call arguments, f call arguments =
      (call.expect arguments least most).map fun _ => answer call arguments) :
    f.FailsPlainly := by
  intro call arguments
  rw [hf]
  exact (call.failsPlainly_expect arguments least most).map _

theorem failsPlainly_changing (change : List Char → List Char) : (changing change).FailsPlainly :=
  fun call arguments => (call.failsPlainly_text arguments).map _

theorem failsPlainly_integer (call : Call) (argument : Value) :
    FailsAs Error.IsPlain (integer call argument) :=
  (call.failsPlainly_number argument).map _

theorem failsPlainly_windowEnd (total start : Int) (length : Option Int) :
    FailsAs Error.IsPlain (windowEnd total start length) := by
  unfold windowEnd
  split
  · exact .ok _
  · exact .ite (.ok _) (.ite (.ok _) (.error trivial))

theorem failsPlainly_substr : substr.FailsPlainly := by
  intro call arguments
  refine (call.failsPlainly_expect arguments 2 (some 3)).bind fun _ => ?_
  refine (failsPlainly_integer call _).bind fun start => ?_
  dsimp only
  split
  · exact (FailsAs.ok none).bind fun length => (failsPlainly_windowEnd _ _ _).bind fun _ => .ok _
  · exact ((failsPlainly_integer call _).map some).bind fun length =>
      (failsPlainly_windowEnd _ _ _).bind fun _ => .ok _

theorem failsPlainly_round : round.FailsPlainly := by
  intro call arguments
  refine (call.failsPlainly_expect arguments 1 (some 2)).bind fun _ => ?_
  refine (call.failsPlainly_number _).bind fun x => ?_
  dsimp only
  split
  · exact .ok _
  · exact (failsPlainly_integer call _).bind fun _ => .ok _

theorem failsPlainly_formatNumber : formatNumber.FailsPlainly := by
  intro call arguments
  refine (call.failsPlainly_expect arguments 1 (some 4)).bind fun _ => ?_
  refine (call.failsPlainly_number _).bind fun x => ?_
  dsimp only
  split
  · exact (FailsAs.ok 0).bind fun decimals => .ite (.error trivial) (.ok _)
  · exact ((failsPlainly_integer call _).map Int.toNat).bind fun decimals =>
      .ite (.error trivial) (.ok _)

/-! ## Islands -/

theorem failsPlainly_addAll (source : List Char) (p : Island.Progress)
    (es : List Markup.Located) : FailsAs Error.IsPlain (p.addAll source es) := by
  induction es generalizing p with
  | nil => exact .ok _
  | cons e es ih =>
    unfold Island.Progress.addAll
    split
    · exact .error trivial
    · exact ih _

theorem failsPlainly_read (source : List Char) : FailsAs Error.IsPlain (Island.read source) := by
  refine (failsPlainly_addAll source _ _).bind fun p => ?_
  dsimp only
  split
  · exact .error trivial
  · unfold Island.Progress.finish
    dsimp only
    split
    · exact .error trivial
    · exact .ok _
    · exact .error trivial

theorem failsPlainly_readIsland (root : Option (List Char)) (source : List Char) :
    FailsAs Error.IsPlain (Island.readIsland root source) := by
  unfold Island.readIsland
  split
  · exact failsPlainly_read _
  · split
    · exact .ok _
    · exact failsPlainly_read _

theorem failsPlainly_xml : xml.FailsPlainly := by
  intro call arguments
  refine (call.failsPlainly_expect arguments 1 (some 2)).bind fun _ => ?_
  exact (failsPlainly_readIsland _ _).bind fun _ => .ok _

theorem failsPlainly_xpath : xpath.FailsPlainly := by
  intro call arguments
  refine (call.failsPlainly_two arguments).bind fun (document, query) => ?_
  have hqueried : FailsAs Error.IsPlain (queried call document) := by
    unfold queried
    split
    · exact .ok _
    · exact failsPlainly_readIsland _ _
    · exact call.failsPlainly_fail _
  refine hqueried.bind fun document => ?_
  split
  · exact call.failsPlainly_fail _
  · exact .ok _

/-! ## All functions -/

/-- **No native function fails with an error that names an element.** -/
theorem failsPlainly_native {name : String} {f : Function} (h : nativeLibrary name = some f) :
    f.FailsPlainly := by
  have hall : ∀ e ∈ nativeFunctions, e.2.FailsPlainly := by
    simp only [nativeFunctions, List.forall_mem_cons]
    exact ⟨failsPlainly_one fun _ _ => rfl, failsPlainly_comparison _, failsPlainly_comparison _,
      failsPlainly_comparison _, failsPlainly_comparison _, failsPlainly_comparison _,
      failsPlainly_comparison _, failsPlainly_expect fun _ _ => rfl,
      failsPlainly_expect fun _ _ => rfl, failsPlainly_expect fun _ _ => rfl,
      fun call arguments => (call.failsPlainly_two arguments).map _,
      failsPlainly_one fun _ _ => rfl, failsPlainly_one fun _ _ => rfl, fun _ _ => .ok _,
      failsPlainly_changing _, failsPlainly_changing _, failsPlainly_changing _,
      failsPlainly_substr, failsPlainly_changing _, failsPlainly_round, failsPlainly_formatNumber,
      failsPlainly_expect fun _ _ => rfl, failsPlainly_expect fun _ _ => rfl,
      failsPlainly_expect fun _ _ => rfl, failsPlainly_expect fun _ _ => rfl,
      failsPlainly_expect fun _ _ => rfl, failsPlainly_expect fun _ _ => rfl, failsPlainly_xml,
      failsPlainly_xpath, List.forall_mem_nil _⟩
  exact hall _ (OrderedMap.mem_of_lookup h)

end Function

/-- **No call fails with an error that names an element**, if no added function does. -/
theorem Registry.failsPlainly_call {r : Registry} (h : r.FailsPlainly) (call : Call)
    (arguments : List Value) : FailsAs Error.IsPlain (r.call call arguments) := by
  unfold Registry.call
  split
  · rename_i f hf
    rcases Option.or_eq_some_iff.1 hf with hadded | ⟨-, hnative⟩
    · obtain ⟨library, hlibrary, hname⟩ := List.exists_of_findSome?_eq_some hadded
      exact h library hlibrary _ f hname call arguments
    · exact Function.failsPlainly_native hnative call arguments
  · exact .error trivial

end TagTemplate
