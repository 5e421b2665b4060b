import TagTemplate.Proofs.Expr.Failures
import TagTemplate.Proofs.Render.SameElements

/-!
# Every error is annotated once

An error passes through all elements around the one that raised it. Beside the renderer stands one
that annotates it each time; what the renderer gives is what is annotated first.

- `Environment.FailsPlainly`: no added function and no feed fails with an error that is annotated;
- `Rendering.renderTraced`: annotates an error with every element that it passes through;
- `Error.innermost`: only the annotation that came first;
- `matches_renderTraced`: the two renderers give the same, up to all annotations but the first;
- `renderWithin_annotates_once`: **errors of a document are annotated with the element that raised
  them**, and once.
-/

namespace TagTemplate

open Rendering

/-! ## Environments -/

/-- No added function and no feed fails with an error that names an element. -/
structure Environment.FailsPlainly (env : Environment) : Prop where
  functions : env.functions.FailsPlainly
  feeds : ∀ factory ∈ env.feeds, ∀ name run, factory name = some run →
    ∀ params, FailsAs Error.IsPlain (run params)

theorem Environment.FailsPlainly.raises {env : Environment} (h : env.FailsPlainly) :
    env.Raises Error.IsPlain where
  plain _ := id
  evaluated _ _ expression e he := Expr.failsPlainly_evaluate h.functions expression e he
  fed name run params e hrun he := by
    obtain ⟨factory, hfactory, hname⟩ := List.exists_of_findSome?_eq_some hrun
    exact h.feeds factory hfactory name run hname params e he

/-! ## Annotations -/

namespace Error

/-- The error with an element that it passes through; a fault is passed on as it is. -/
def passing (t : Template) (n : Node) : Error → Error
  | .fault f => .fault f
  | e => .rendering n.tag t.sourcePath n.line e

/-- Only the annotation that came first, which names the innermost element. -/
def innermost : Error → Error
  | .rendering _ _ _ (.rendering tag file line cause) => innermost (.rendering tag file line cause)
  | e => e

/-- An error with the elements that it passed through, beside the same with the first one only,
which is one of those elements that there are. -/
inductive Traced (place : Template → Node → Prop) : Error → Error → Prop
  | raised {e : Error} : e.IsPlain → Traced place e e
  | first {t : Template} {n : Node} {e : Error} : place t n → e.IsPlain →
    Traced place (.rendering n.tag t.sourcePath n.line e) (.rendering n.tag t.sourcePath n.line e)
  | later {t : Template} {n : Node} {e e' : Error} : Traced place e e' → ¬ e'.IsPlain →
    Traced place (.rendering n.tag t.sourcePath n.line e) e'

namespace Traced

variable {place : Template → Node → Prop} {e e' : Error}

theorem isPlain_iff (h : Traced place e e') : e.IsPlain ↔ e'.IsPlain := by
  cases h with
  | raised => exact Iff.rfl
  | first => exact Iff.rfl
  | later _ hannotated => exact ⟨False.elim, hannotated⟩

/-- The error beside it is the same with the first annotation only. -/
theorem innermost_eq (h : Traced place e e') : e.innermost = e' := by
  induction h with
  | @raised e hplain =>
    cases e with
    | rendering => exact hplain.elim
    | _ => rfl
  | @first t n e _ hplain =>
    cases e with
    | rendering => exact hplain.elim
    | _ => rfl
  | @later t n e e' htraced hannotated ih =>
    have hrendering : ¬ e.IsPlain := mt htraced.isPlain_iff.1 hannotated
    cases e with
    | rendering => exact ih
    | _ => exact absurd trivial hrendering

/-- The annotation names an element that there is. -/
theorem exists_place (h : Traced place e e') :
    e'.IsPlain ∨ ∃ t n cause, place t n ∧ cause.IsPlain ∧
      e' = .rendering n.tag t.sourcePath n.line cause := by
  induction h with
  | raised hplain => exact .inl hplain
  | first hplace hplain => exact .inr ⟨_, _, _, hplace, hplain, rfl⟩
  | later _ _ ih => exact ih

/-- An element is passed through on both sides; on the second one it is noted if it is the first. -/
theorem passing {t : Template} {n : Node} (hplace : place t n) (h : Traced place e e') :
    Traced place (e.passing t n) (e'.annotated t n) := by
  cases h with
  | raised hplain =>
    cases e with
    | rendering => exact hplain.elim
    | fault f => exact .raised hplain
    | _ => exact .first hplace hplain
  | first hfirst hplain => exact .later (.first hfirst hplain) id
  | @later _ _ _ e' htraced hannotated =>
    cases e' with
    | rendering => exact .later (.later htraced hannotated) hannotated
    | _ => exact absurd trivial hannotated

/-- Another annotation by the same rule leaves both sides as they are, once there is one. -/
theorem annotated {t : Template} {n : Node} (hplace : place t n) (h : Traced place e e') :
    Traced place (e.annotated t n) (e'.annotated t n) := by
  cases h with
  | raised hplain =>
    cases e with
    | rendering => exact hplain.elim
    | fault f => exact .raised hplain
    | _ => exact .first hplace hplain
  | first hfirst hplain => exact .first hfirst hplain
  | @later _ _ _ e' htraced hannotated =>
    cases e' with
    | rendering => exact .later htraced hannotated
    | _ => exact absurd trivial hannotated

end Traced

end Error

namespace Rendering

/-- Renders an element, and annotates an error with every element that it passes through. -/
def renderTraced (env : Environment) : Nat → NodeRenderer
  | 0 => fun _ _ _ => throw tooDeep
  | depth + 1 => fun t id mode => do
    let node ← nodeAt t id
    ExceptT.adapt (Error.passing t node)
      (renderNodeBody env (renderTraced env depth) t id node mode)

/-! ## The two renderers -/

/-- An element of one of the templates in play. -/
def IsPlace (env : Environment) (store : FileStore) (main t : Template) (n : Node) : Prop :=
  env.InPlay store main t ∧ n ∈ t.tree.nodes

/-- The same elements of the templates in play, with all annotations and with the first one. -/
def tracedPairing (env : Environment) (store : FileStore) (main : Template) : Pairing :=
  .ofSame (fun _ d => env.InPlay store main d.template) (fun _ => True) (env.Leads store)
    (Error.Traced (IsPlace env store main)) Error.IsPlain (fun _ => .raised) fun _ => False

variable {env : Environment} {store : FileStore} {main : Template}

/-- **The renderers give the same but for all annotations behind the first.** -/
theorem matches_renderTraced (henv : env.FailsPlainly) (depth : Nat) {t : Template}
    (ht : env.InPlay store main t) (i : Nat) (mode : Mode) :
    (tracedPairing env store main).Matches Eq (renderTraced env depth t i mode)
      (renderNode env depth t i mode) := by
  induction depth generalizing t i mode with
  | zero => exact matches_throw trivial
  | succ depth ih =>
    have hown : OwnKin (tracedPairing env store main) t :=
      ⟨trivial, fun _ => ⟨rfl, rfl⟩, fun _ hm _ _ => Error.Traced.annotated ⟨ht, hm⟩,
        fun _ _ _ => id⟩
    have hpassing : ∀ m ∈ t.tree.nodes, ∀ e₁ e₂, (tracedPairing env store main).error e₁ e₂ →
        (tracedPairing env store main).error (e₁.passing t m) (e₂.annotated t m) :=
      fun _ hm _ _ => Error.Traced.passing ⟨ht, hm⟩
    refine matches_atNode_same trivial hpassing (fun _ _ _ => id) i fun n hn => ?_
    have hmem := List.mem_of_getElem? hn
    refine matches_sameBody henv.raises (fun _ _ => Iff.rfl) hown hmem
      (fun j _ => ih ht j .normal) ?_ (fun _ _ => ⟨rfl, ht⟩) (env.loads_inPlay store main)
      (fun _ => ?_) mode
    · rintro name _ d - ⟨rfl, hd⟩
      exact ih hd d.node .called
    · exact ⟨fun _ => True, fun _ _ => trivial, fun _ _ => trivial,
        fun _ u j hu _ => ih hu j .normal⟩

/-- Renders a document like `renderWithin`, and annotates an error with every element around. -/
def renderTracedWithin (depth : Nat) (env : Environment) (scope : Scope) (files : FileStore)
    (t : Template) : Except Error String × FileStore :=
  let (result, s) := (renderTemplate (renderTraced env depth) t).outcome (.start scope files)
  (result.map s.finish, s.files)

end Rendering

/-- An error that has come out of the root of a template is annotated, or a fault. -/
theorem Error.Traced.exists_place_of_ofElement {place : Template → Node → Prop} {e e' : Error}
    (h : Traced place e e') (hkind : e'.OfElement) : (∃ f, e' = .fault f) ∨
      ∃ t n cause, place t n ∧ cause.IsPlain ∧ e' = .rendering n.tag t.sourcePath n.line cause := by
  rcases h.exists_place with hplain | hplace
  · cases e' with
    | rendering => exact hplain.elim
    | fault f => exact .inl ⟨f, rfl⟩
    | _ => exact hkind.elim
  · exact .inr hplace

/-- **The errors of a document are annotated once, with the element that raised them**: the answer
is the one with all annotations, of which the first is kept; and an error names an element of a
template in play, with the path of the template. A fault is no error of an element. -/
theorem renderWithin_annotates_once {env : Environment} (henv : env.FailsPlainly) (depth : Nat)
    (scope : Scope) (store : FileStore) (main : Template) :
    renderWithin depth env scope store main =
        ((renderTracedWithin depth env scope store main).1.mapError Error.innermost,
          (renderTracedWithin depth env scope store main).2) ∧
      ∀ e, (renderWithin depth env scope store main).1 = .error e → (∃ f, e = .fault f) ∨
        ∃ t n cause, env.InPlay store main t ∧ n ∈ t.tree.nodes ∧ cause.IsPlain ∧
          e = .rendering n.tag t.sourcePath n.line cause := by
  -- the rendering that keeps every annotation runs beside the one that keeps the innermost
  have hmatches : (tracedPairing env store main).Matches Eq
      (renderTemplate (renderTraced env depth) main) (renderTemplate (renderNode env depth) main) :=
    matches_sameRoot rfl fun i _ => matches_renderTraced henv depth .main i .normal
  obtain ⟨hresult, hstate⟩ := corresponds_of_matches hmatches (fun _ _ _ => And.left)
    (fun _ _ => Iff.rfl) (fun _ => id) scope Relation.ReflTransGen.refl trivial
  have hkind : FailsAs Error.OfElement
      ((renderTemplate (renderNode env depth) main).outcome (.start scope store)).1 :=
    ofElement_renderTemplate
  rw [renderWithin_eq, renderTracedWithin]
  generalize (renderTemplate (renderTraced env depth) main).outcome _ = p at hresult hstate ⊢
  generalize (renderTemplate (renderNode env depth) main).outcome _ = q at hresult hstate hkind ⊢
  obtain ⟨traced, s⟩ := p
  obtain ⟨real, _⟩ := q
  obtain rfl := hstate
  dsimp only at hresult hkind ⊢
  cases hresult with
  | @ok text _ htext =>
    obtain rfl := htext
    exact ⟨rfl, fun e he => by cases he⟩
  | @error e e' htraced =>
    refine ⟨?_, fun e'' he => ?_⟩
    · show (Except.error e', _) = (Except.error e.innermost, _)
      rw [htraced.innermost_eq]
    · cases he
      refine (htraced.exists_place_of_ofElement (hkind e' rfl)).imp_right ?_
      rintro ⟨t, n, cause, ⟨ht, hn⟩, hcause, he⟩
      exact ⟨t, n, cause, ht, hn, hcause, he⟩

/-- A page that calls a macro that is not there, on its second line. -/
def callPage : Template :=
  ⟨"page.xml", "tl:", none,
    ⟨[⟨"r", "tl:", .empty, [.text "\n", .node 1], false, 1, none, "", none⟩,
      ⟨"u", "tl:", .ofList [("tl:call", "m")], [], true, 2, some 0, "\n", none⟩], some (.node 0)⟩⟩

theorem failsPlainly_bareEnvironment : bareEnvironment.FailsPlainly :=
  ⟨fun _ h => (List.not_mem_nil h).elim, fun _ h => (List.not_mem_nil h).elim⟩

/-- The element that calls the macro is named, and the one around it is not. -/
theorem renderWithin_annotates_callPage :
    Template.read "<r>\n<u tl:call=\"m\"/></r>" "page.xml" true = .ok callPage ∧
    (renderWithin 9 bareEnvironment .empty (.empty "/" 0) callPage).1 =
      .error (.rendering "u" "page.xml" 2 (.macroNotFound "m")) ∧
    (renderTracedWithin 9 bareEnvironment .empty (.empty "/" 0) callPage).1 =
      .error (.rendering "r" "page.xml" 1 (.rendering "u" "page.xml" 2 (.macroNotFound "m"))) ∧
    renderWithin 9 bareEnvironment .empty (.empty "/" 0) callPage =
      ((renderTracedWithin 9 bareEnvironment .empty (.empty "/" 0) callPage).1.mapError
          Error.innermost,
        (renderTracedWithin 9 bareEnvironment .empty (.empty "/" 0) callPage).2) ∧
    ∀ e, (renderWithin 9 bareEnvironment .empty (.empty "/" 0) callPage).1 = .error e →
      (∃ f, e = .fault f) ∨ ∃ t n cause, bareEnvironment.InPlay (.empty "/" 0) callPage t ∧
        n ∈ t.tree.nodes ∧ cause.IsPlain ∧ e = .rendering n.tag t.sourcePath n.line cause :=
  ⟨by decide +kernel, by rfl, by rfl,
    renderWithin_annotates_once failsPlainly_bareEnvironment 9 .empty (.empty "/" 0) callPage⟩

end TagTemplate
