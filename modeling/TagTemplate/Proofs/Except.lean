import Mathlib.Data.List.Forall2

/-!
# Results that may be errors

Inversion of binds and maps that succeeded; results whose errors are all of one kind; results whose
values have a property besides; and results that agree: the same error, or two values in a relation.
-/

namespace TagTemplate

universe u v

variable {ε : Type u} {α β : Type v}

theorem bind_eq_ok {x : Except ε α} {f : α → Except ε β} {b : β} (h : x.bind f = .ok b) :
    ∃ a, x = .ok a ∧ f a = .ok b := by
  cases x with
  | error e => cases h
  | ok a => exact ⟨a, rfl, h⟩

theorem map_eq_ok {x : Except ε α} {f : α → β} {b : β} (h : x.map f = .ok b) :
    ∃ a, x = .ok a ∧ f a = b := by
  cases x with
  | error e => cases h
  | ok a => exact ⟨a, rfl, Except.ok.inj h⟩

theorem map_eq_error {x : Except ε α} {f : α → β} {e : ε} (h : x.map f = .error e) :
    x = .error e := by
  cases x with
  | error e' => exact congrArg _ (Except.error.inj h)
  | ok a => cases h

theorem mapError_eq_ok {ε' : Type u} {x : Except ε α} {f : ε → ε'} {a : α}
    (h : x.mapError f = .ok a) : x = .ok a := by
  cases x with
  | error e => cases h
  | ok b => exact congrArg _ (Except.ok.inj h)

theorem eq_ok_of_toOption {x : Except ε α} {a : α} (h : x.toOption = some a) : x = .ok a := by
  cases x with
  | error e => cases h
  | ok b => exact congrArg _ (Option.some.inj h)

/-- If the result is an error, it is of this kind. -/
def FailsAs (kind : ε → Prop) (x : Except ε α) : Prop := ∀ e, x = .error e → kind e

namespace FailsAs

variable {ε' : Type u} {kind : ε → Prop} {x : Except ε α}

theorem ok (a : α) : FailsAs kind (.ok a : Except ε α) := fun _ h => by cases h

theorem error {e : ε} (h : kind e) : FailsAs kind (.error e : Except ε α) :=
  fun _ he => Except.error.inj he ▸ h

theorem bind {f : α → Except ε β} (h : FailsAs kind x) (hf : ∀ a, FailsAs kind (f a)) :
    FailsAs kind (x.bind f) := by
  cases x with
  | error e => exact error (h e rfl)
  | ok a => exact hf a

theorem map (h : FailsAs kind x) (f : α → β) : FailsAs kind (x.map f) := by
  cases x with
  | error e => exact error (h e rfl)
  | ok a => exact ok _

theorem mapError {kind' : ε' → Prop} {f : ε → ε'} (h : FailsAs kind x)
    (hf : ∀ e, kind e → kind' (f e)) : FailsAs kind' (x.mapError f) := by
  cases x with
  | error e => exact error (hf e (h e rfl))
  | ok a => exact ok _

/-- Errors that are all made by one function, whatever it is given. -/
theorem mapError_of_forall {kind' : ε' → Prop} {f : ε → ε'} (hf : ∀ e, kind' (f e)) :
    FailsAs kind' (x.mapError f) := by
  cases x with
  | error e => exact error (hf e)
  | ok a => exact ok _

theorem ite {y : Except ε α} {p : Prop} [Decidable p] (h : FailsAs kind x) (h' : FailsAs kind y) :
    FailsAs kind (if p then x else y) := by
  split
  · exact h
  · exact h'

theorem imp {kind' : ε → Prop} (h : FailsAs kind x) (himp : ∀ e, kind e → kind' e) :
    FailsAs kind' x :=
  fun e he => himp e (h e he)

end FailsAs

/-- A value with the property, or an error of the kind. -/
inductive Ensures {ε : Type u} {α : Type v} (good : α → Prop) (kind : ε → Prop) : Except ε α → Prop
  | ok {a : α} : good a → Ensures good kind (.ok a)
  | error {e : ε} : kind e → Ensures good kind (.error e)

namespace Ensures

variable {ε' : Type u} {good : α → Prop} {kind : ε → Prop} {x : Except ε α}

theorem good_of_ok {a : α} (h : Ensures good kind (.ok a)) : good a := by
  cases h with
  | ok ha => exact ha

theorem kind_of_error {e : ε} (h : Ensures good kind (.error e : Except ε α)) : kind e := by
  cases h with
  | error he => exact he

theorem bind {good' : β → Prop} {f : α → Except ε β} (h : Ensures good kind x)
    (hf : ∀ a, good a → Ensures good' kind (f a)) : Ensures good' kind (x.bind f) := by
  cases h with
  | ok ha => exact hf _ ha
  | error he => exact .error he

theorem map {good' : β → Prop} {f : α → β} (h : Ensures good kind x)
    (hf : ∀ a, good a → good' (f a)) : Ensures good' kind (x.map f) := by
  cases h with
  | ok ha => exact .ok (hf _ ha)
  | error he => exact .error he

theorem imp {good' : α → Prop} {kind' : ε → Prop} (h : Ensures good kind x)
    (hgood : ∀ a, good a → good' a) (hkind : ∀ e, kind e → kind' e) : Ensures good' kind' x := by
  cases h with
  | ok ha => exact .ok (hgood _ ha)
  | error he => exact .error (hkind _ he)

/-- What is known of the values besides. -/
theorem and {good' : α → Prop} (h : Ensures good kind x) (h' : ∀ a, x = .ok a → good' a) :
    Ensures (fun a => good a ∧ good' a) kind x := by
  cases h with
  | ok ha => exact .ok ⟨ha, h' _ rfl⟩
  | error he => exact .error he

theorem ite {y : Except ε α} {p : Prop} [Decidable p] (h : p → Ensures good kind x)
    (h' : ¬ p → Ensures good kind y) : Ensures good kind (if p then x else y) := by
  split
  · exact h ‹_›
  · exact h' ‹_›

end Ensures

/-- The same error, or values in the relation. -/
inductive Agree {ε : Type u} {α β : Type v} (r : α → β → Prop) : Except ε α → Except ε β → Prop
  | error (e : ε) : Agree r (.error e) (.error e)
  | ok {a : α} {b : β} : r a b → Agree r (.ok a) (.ok b)

namespace Agree

variable {ε' : Type u} {γ δ : Type v} {r : α → β → Prop} {s : γ → δ → Prop} {x : Except ε α}
  {y : Except ε β}

/-- The same results in the other order. -/
theorem swap (h : Agree r x y) : Agree (fun b a => r a b) y x := by
  cases h with
  | error e => exact .error e
  | ok hab => exact .ok hab

theorem imp {t : α → β → Prop} (h : Agree r x y)
    (hrt : ∀ a b, x = .ok a → y = .ok b → r a b → t a b) : Agree t x y := by
  cases h with
  | error e => exact .error e
  | ok hab => exact .ok (hrt _ _ rfl rfl hab)

theorem bind {f : α → Except ε γ} {g : β → Except ε δ} (h : Agree r x y)
    (hf : ∀ a b, r a b → Agree s (f a) (g b)) : Agree s (x.bind f) (y.bind g) := by
  cases h with
  | error e => exact .error e
  | ok hab => exact hf _ _ hab

theorem mapError (h : Agree r x y) (f : ε → ε') : Agree r (x.mapError f) (y.mapError f) := by
  cases h with
  | error e => exact .error (f e)
  | ok hab => exact .ok hab

end Agree

/-- Errors that stand for each other, or values in the relation. -/
inductive Corresponds {ε ε' : Type u} {α β : Type v} (error : ε → ε' → Prop) (r : α → β → Prop) :
    Except ε α → Except ε' β → Prop
  | error {e : ε} {e' : ε'} : error e e' → Corresponds error r (.error e) (.error e')
  | ok {a : α} {b : β} : r a b → Corresponds error r (.ok a) (.ok b)

namespace Corresponds

variable {ε ε' : Type u} {α β γ δ : Type v} {error : ε → ε' → Prop} {r : α → β → Prop}
  {s : γ → δ → Prop} {x : Except ε α} {y : Except ε' β}

theorem refl {error : ε → ε → Prop} (herror : ∀ e, error e e) (x : Except ε α) :
    Corresponds error Eq x x := by
  cases x with
  | error e => exact .error (herror e)
  | ok a => exact .ok rfl

/-- Where only equal errors stand for each other, results with equal values are equal. -/
theorem eq {x y : Except ε α} (h : Corresponds Eq Eq x y) : x = y := by
  cases h with
  | error h => rw [h]
  | ok h => rw [h]

theorem ofAgree {error : ε → ε → Prop} {y : Except ε β} (herror : ∀ e, error e e)
    (h : Agree r x y) : Corresponds error r x y := by
  cases h with
  | error e => exact .error (herror e)
  | ok h => exact .ok h

theorem mono {t : α → β → Prop} (h : Corresponds error r x y) (hrt : ∀ a b, r a b → t a b) :
    Corresponds error t x y := by
  cases h with
  | error h => exact .error h
  | ok h => exact .ok (hrt _ _ h)

theorem bind {f : α → Except ε γ} {g : β → Except ε' δ} (h : Corresponds error r x y)
    (hf : ∀ a b, r a b → Corresponds error s (f a) (g b)) :
    Corresponds error s (x.bind f) (y.bind g) := by
  cases h with
  | error h => exact .error h
  | ok h => exact hf _ _ h

theorem map {f : α → γ} {g : β → δ} (h : Corresponds error r x y)
    (hf : ∀ a b, r a b → s (f a) (g b)) : Corresponds error s (x.map f) (y.map g) := by
  cases h with
  | error h => exact .error h
  | ok h => exact .ok (hf _ _ h)

theorem mapError {ε₁ ε₂ : Type u} {other : ε₁ → ε₂ → Prop} {f : ε → ε₁} {g : ε' → ε₂}
    (h : Corresponds error r x y) (hfg : ∀ e e', error e e' → other (f e) (g e')) :
    Corresponds other r (x.mapError f) (y.mapError g) := by
  cases h with
  | error h => exact .error (hfg _ _ h)
  | ok h => exact .ok h

/-- Two lists of related values, each folded up to the first error. -/
theorem foldlM {ι κ : Type v} {related : ι → κ → Prop} {xs : List ι} {ys : List κ}
    {f : α → ι → Except ε α} {g : β → κ → Except ε' β}
    (hf : ∀ a b x y, r a b → related x y → Corresponds error r (f a x) (g b y))
    (h : List.Forall₂ related xs ys) {a : α} {b : β} (hab : r a b) :
    Corresponds error r (xs.foldlM f a) (ys.foldlM g b) := by
  induction h generalizing a b with
  | nil => exact .ok hab
  | cons hfirst _ ih =>
    rw [List.foldlM_cons, List.foldlM_cons]
    exact (hf _ _ _ _ hab hfirst).bind fun _ _ => ih

end Corresponds

end TagTemplate
