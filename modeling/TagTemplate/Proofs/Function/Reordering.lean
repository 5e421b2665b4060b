import TagTemplate.Function.Native
import TagTemplate.Proofs.Expr.Reordering

/-!
# Functions and the order of the universe

A function is given the scope of its call. No native function looks at it, so that only functions of
added libraries can show the order of the universe.

- `Function.IgnoresOrder`, `Registry.IgnoresOrder`: functions that do not show it;
- `Registry.call_reordered`: **no call shows it**, then.
-/

namespace TagTemplate

/-- The function gives the same whatever the order of the universe's entries. -/
def Function.IgnoresOrder (f : Function) : Prop :=
  ∀ name iteration arguments (s s' : Scope), s.Reordered s' →
    f ⟨name, s, iteration⟩ arguments = f ⟨name, s', iteration⟩ arguments

/-- No added function shows the order of the universe. -/
def Registry.IgnoresOrder (r : Registry) : Prop :=
  ∀ library ∈ r.libraries, ∀ name f, library name = some f → f.IgnoresOrder

/-- No native function looks at the scope. -/
theorem Function.ignoresOrder_native {name : String} {f : Function}
    (h : nativeLibrary name = some f) : f.IgnoresOrder := by
  have hall : ∀ e ∈ nativeFunctions, Function.IgnoresOrder e.2 := by
    simp only [nativeFunctions, List.forall_mem_cons]
    and_intros
    on_goal 30 => exact List.forall_mem_nil _
    all_goals exact fun _ _ _ _ _ _ => rfl
  exact hall _ (OrderedMap.mem_of_lookup h)

/-- **No call shows the order of the universe**, if no added function does. -/
theorem Registry.call_reordered {r : Registry} (h : r.IgnoresOrder) {s s' : Scope}
    (hs : s.Reordered s') (name : String) (iteration : Option Iteration) (arguments : List Value) :
    r.call ⟨name, s, iteration⟩ arguments = r.call ⟨name, s', iteration⟩ arguments := by
  unfold Registry.call
  dsimp only
  cases hf : r.resolve? name with
  | none => rfl
  | some f =>
    have hignores : f.IgnoresOrder := by
      rcases Option.or_eq_some_iff.1 hf with hadded | ⟨-, hnative⟩
      · obtain ⟨library, hlibrary, hname⟩ := List.exists_of_findSome?_eq_some hadded
        exact h library hlibrary _ f hname
      · exact Function.ignoresOrder_native hnative
    exact hignores name iteration arguments s s' hs

theorem Registry.ignoresOrder_empty : Registry.empty.IgnoresOrder :=
  fun _ hlibrary => absurd hlibrary List.not_mem_nil

end TagTemplate
