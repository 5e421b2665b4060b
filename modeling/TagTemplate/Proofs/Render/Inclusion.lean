import TagTemplate.Proofs.Render.Detour
import TagTemplate.Proofs.Render.Restoration

/-!
# How deep templates are included

The include level of the state is the number of include directives around an element, however it was
come to. Whether a document renders under a limit for them depends on nothing else.

- `deepInclude`: include directives inside of a number of others;
- `outcome_limited_of_not_comesTo`, `fails_limited_of_comesTo`: under a lower limit a document
  renders to the same, or fails at the limit;
- `fails_of_includesItself`: what includes itself in any case fails at the limit;
- `includeDepth_exact`: **the include level is exact**, and what follows for chains of templates.
-/

namespace TagTemplate

open Rendering

/-- The template that an include directive includes, if it can be loaded. -/
def Environment.included? (env : Environment) (files : FileStore) (t : Template) (i : Nat) :
    Option Template :=
  (t.tree.node? i).bind fun n =>
    if n.directive = some .embed then
      (loadTemplate env.cache files (resolveFile env t files (required n "file"))
        env.config.fold).1.toOption.map Loaded.template
    else none

theorem Template.exists_node_of_isInclude {t : Template} {i : Nat} (h : t.isInclude i = true) :
    ∃ n, t.tree.node? i = some n ∧ n.directive = some .embed := by
  unfold Template.isInclude at h
  cases hn : t.tree.node? i with
  | none =>
    rw [hn] at h
    cases h
  | some n =>
    rw [hn] at h
    exact ⟨n, rfl, eq_of_beq h⟩

/-- What is included is loaded from the file that the directive names. -/
theorem Environment.exists_node_of_included {env : Environment} {files : FileStore}
    {t u : Template} {i : Nat} (h : env.included? files t i = some u) :
    ∃ n loaded, t.tree.node? i = some n ∧ n.directive = some .embed ∧
      (loadTemplate env.cache files (resolveFile env t files (required n "file"))
        env.config.fold).1 = .ok loaded ∧ loaded.template = u := by
  obtain ⟨n, hn, hincluded⟩ := Option.bind_eq_some_iff.1 h
  split at hincluded
  · rename_i hdirective
    obtain ⟨loaded, hloaded, hu⟩ := Option.map_eq_some_iff.1 hincluded
    exact ⟨n, loaded, hn, hdirective, eq_ok_of_toOption hloaded, hu⟩
  · cases hincluded

theorem Environment.isInclude_of_included {env : Environment} {files : FileStore} {t u : Template}
    {i : Nat} (h : env.included? files t i = some u) : t.isInclude i = true := by
  obtain ⟨n, -, hn, hdirective, -⟩ := env.exists_node_of_included h
  rw [Template.isInclude, hn, Option.any_some, hdirective]
  rfl

theorem Error.rootCause_annotated (t : Template) (n : Node) (e : Error) :
    (e.annotated t n).rootCause = e.rootCause := by
  cases e <;> rfl

namespace Rendering

/-- The error was raised because a template would have been included deeper than the limit. -/
def ReachesLimit (limit : Nat) (e : Error) : Prop :=
  ∃ file, e.rootCause = .includeDepth file limit

/-- Include directives inside of so many others. -/
def deepInclude (level : Nat) : Stop := fun around t i _ => decide (level ≤ around) && t.isInclude i

variable {env : Environment} {depth : Nat} {scope : Scope} {store : FileStore} {t : Template}
  {stop stop' : Stop} {files : FileStore → Prop} {stops : Error → Prop} {limit limit' around : Nat}

theorem ReachesLimit.annotated (t : Template) (n : Node) (e : Error) (h : ReachesLimit limit e) :
    ReachesLimit limit (e.annotated t n) := by
  obtain ⟨file, hfile⟩ := h
  exact ⟨file, (e.rootCause_annotated t n).trans hfile⟩

/-! ## Include directives -/

/-- An include directive renders as such, and its errors are annotated with it. -/
theorem outcome_include {self : NodeRenderer} {i : Nat} {n : Node} (hn : t.tree.node? i = some n)
    (hdirective : n.directive = some .embed) (mode : Mode) (s : RenderState) :
    (renderWith env self t i mode).outcome s =
      (((renderEmbed env self t n).outcome s).1.mapError (Error.annotated t n),
        ((renderEmbed env self t n).outcome s).2) := by
  have hnode : (nodeAt t i).outcome s = (.ok n, s) := by
    unfold nodeAt
    rw [hn]
    rfl
  show outcome (nodeAt t i >>= fun n => ExceptT.adapt (Error.annotated t n) _) s = _
  rw [outcome_bind, hnode]
  dsimp only
  rw [outcome_adapt, hdirective]
  rfl

/-- At the limit an include directive fails, and changes nothing. -/
theorem outcome_include_of_le (env : Environment) {self : NodeRenderer} {i : Nat}
    (h : t.isInclude i = true) (mode : Mode) {s : RenderState}
    (hlimit : env.config.maxIncludeDepth ≤ s.includeDepth) :
    ∃ e, (renderWith env self t i mode).outcome s = (.error e, s) ∧
      ReachesLimit env.config.maxIncludeDepth e := by
  obtain ⟨n, hn, hdirective⟩ := Template.exists_node_of_isInclude h
  refine ⟨_, ?_, ReachesLimit.annotated t n (.includeDepth
    (resolveFile env t s.files (required n "file")) env.config.maxIncludeDepth) ⟨_, rfl⟩⟩
  rw [outcome_include hn hdirective, outcome_renderEmbed_of_le env hlimit]
  rfl

/-- Below the limit, the file is loaded that the directive names. -/
theorem outcome_renderIncluded {self : NodeRenderer} (n : Node) (s : RenderState) :
    (renderIncluded env self t n).outcome s =
      (load env (resolveFile env t s.files (required n "file")) >>= fun u =>
        withInclude (renderTemplate self u)).outcome s := by
  unfold renderIncluded
  rw [outcome_bind]
  rfl

/-- Below the limit, errors of an include directive are about the file, or come from the template in
it and are annotated or faults. -/
theorem failsAs_renderIncluded (n : Node) (s : RenderState) :
    FailsAs (fun e => e.OfLoading ∨ e.OfElement)
      ((renderIncluded env (renderNode env depth) t n).outcome s).1 := by
  rw [outcome_renderIncluded, outcome_bind]
  have hload : FailsAs Error.OfLoading ((load env
      (resolveFile env t s.files (required n "file"))).outcome s).1 :=
    (failsAs_loadTemplate _ _ _ _).map Loaded.template
  cases hloaded : (load env (resolveFile env t s.files (required n "file"))).outcome s with
  | mk result s' =>
    rw [hloaded] at hload
    cases result with
    | error e => exact .error (.inl (hload e rfl))
    | ok included =>
      dsimp only
      unfold withInclude
      rw [outcome_during]
      exact ofElement_renderTemplate.imp fun _ => .inr

/-- An include directive fails at the limit, and nowhere else for that reason. -/
theorem fails_includeDepth_iff (n : Node) (s : RenderState) :
    (∃ file limit, ((renderEmbed env (renderNode env depth) t n).outcome s).1 =
      .error (.includeDepth file limit)) ↔ env.config.maxIncludeDepth ≤ s.includeDepth := by
  constructor
  · rintro ⟨file, limit, he⟩
    by_contra hlimit
    rw [outcome_renderEmbed_of_lt env (Nat.lt_of_not_le hlimit)] at he
    rcases failsAs_renderIncluded n s _ he with hkind | hkind
    · exact hkind
    · exact hkind
  · intro hlimit
    rw [outcome_renderEmbed_of_le env hlimit]
    exact ⟨_, _, rfl⟩

/-! ## Documents under limits -/

/-- **The include level is the number of include directives around**, and within the limit. -/
theorem not_comesTo_otherLevel : ¬ ComesTo env depth scope store t fun around _ _ s =>
    s.includeDepth != around || decide (env.config.maxIncludeDepth < around) := by
  rintro ⟨instead, hne⟩
  have hsame := same_or_stops env (fun _ => False) env.config.maxIncludeDepth
    env.config.maxIncludeDepth (fun around _ _ s =>
      s.includeDepth != around || decide (env.config.maxIncludeDepth < around)) instead depth scope
    store t (fun _ _ _ => id) ?_ fun _ _ _ _ _ _ _ => .same rfl
  · exact hne (hsame.resolve_left fun ⟨_, _, hnever⟩ => hnever)
  · intro _ around _ _ _ s hlevel hlimit hstop
    rw [hlevel, bne_self_eq_false, Bool.false_or, decide_eq_true_iff] at hstop
    exact absurd hlimit (Nat.not_le.2 hstop)

theorem deepInclude_eq_true {level : Nat} {i : Nat} {s : RenderState}
    (h : deepInclude level around t i s = true) : level ≤ around ∧ t.isInclude i = true :=
  (Bool.and_eq_true_iff.1 h).imp_left of_decide_eq_true

theorem lt_of_deepInclude {level : Nat} {i : Nat} {s : RenderState}
    (hinclude : t.isInclude i = true) (h : deepInclude level around t i s = false) :
    around < level := by
  unfold deepInclude at h
  rw [hinclude, Bool.and_true, decide_eq_false_iff_not] at h
  exact Nat.lt_of_not_le h

/-- The include directives inside of too many others fail where they are come to. -/
theorem fails_deepInclude {base : NodeRenderer} {level i : Nat} {mode : Mode} {s : RenderState}
    (hlevel : s.includeDepth = around) (h : deepInclude level around t i s = true) :
    ∃ e, (renderOver (env.limited level) base (depth + 1) t i mode).outcome s = (.error e, s) ∧
      ReachesLimit level e := by
  obtain ⟨hdeep, hinclude⟩ := deepInclude_eq_true h
  exact outcome_include_of_le (env.limited level) hinclude mode (hlevel ▸ hdeep)

/-- Under a lower limit a document renders to the same, if it comes to no include directive inside
of so many others. -/
theorem outcome_limited_of_not_comesTo (hle : limit' ≤ limit)
    (h : ¬ ComesTo (env.limited limit) depth scope store t (deepInclude limit')) :
    (renderTemplate (renderNode (env.limited limit') depth) t).outcome (.start scope store) =
      (renderTemplate (renderNode (env.limited limit) depth) t).outcome (.start scope store) := by
  have hsame := same_or_stops env (fun _ => False) limit' limit (deepInclude limit')
    (fun depth _ => renderOver (env.limited limit') exhausted (depth + 1)) depth scope store t
    (fun _ _ _ => id) (fun depth around t i mode s hlevel _ hstop => ?_)
    (fun around t i s _ hinclude hgo => ?_)
  · by_contra hne
    have hstopped := hsame.resolve_left fun ⟨_, _, hnever⟩ => hnever
    exact h ⟨_, fun hcomes => hne (hstopped.symm.trans hcomes)⟩
  · obtain ⟨e, hfails, -⟩ := fails_deepInclude hlevel hstop
    exact ⟨e, hfails, .inr hfails⟩
  · have hlt := lt_of_deepInclude hinclude hgo
    exact .below hlt (hlt.trans_le hle)

/-- Under a lower limit a document fails at the limit, if it comes to an include directive inside of
so many others. -/
theorem fails_limited_of_comesTo (hle : limit' ≤ limit)
    (h : ComesTo (env.limited limit) depth scope store t (deepInclude limit')) :
    ∃ e, ((renderTemplate (renderNode (env.limited limit') depth) t).outcome
      (.start scope store)).1 = .error e ∧ ReachesLimit limit' e := by
  obtain ⟨instead, hne⟩ := h
  have hsame := same_or_stops env (ReachesLimit limit') limit' limit (deepInclude limit') instead
    depth scope store t ReachesLimit.annotated
    (fun depth around t i mode s hlevel _ hstop => ?_) (fun around t i s _ hinclude hgo => ?_)
  · -- with nothing put in the place of the directives, it is the document under the higher limit
    have hnowhere := same_or_stops env (ReachesLimit limit') limit' limit (fun _ _ _ _ => false)
      instead depth scope store t ReachesLimit.annotated
      (fun _ _ _ _ _ _ _ _ hnever => nomatch hnever) (fun around t i s _ _ _ => ?_)
    · rw [renderUnless_never, ← renderNode_eq_renderOver] at hnowhere
      rcases hsame with hfails | hsame
      · exact hfails
      · exact hnowhere.resolve_right fun hother => hne (hsame.trans hother.symm)
    · exact .of_le hle (fun file => ⟨file, rfl⟩) around
  · obtain ⟨e, hfails, hreaches⟩ := fails_deepInclude hlevel hstop
    exact ⟨e, hfails, .inl hreaches⟩
  · have hlt := lt_of_deepInclude hinclude hgo
    exact .below hlt (hlt.trans_le hle)

/-- What renders under a limit renders to the same under a higher one, and comes to no include
directive inside of as many others. -/
theorem outcome_limited_of_ok {text : String} (hle : limit ≤ limit')
    (hok : ((renderTemplate (renderNode (env.limited limit) depth) t).outcome
      (.start scope store)).1 = .ok text) :
    (renderTemplate (renderNode (env.limited limit') depth) t).outcome (.start scope store) =
        (renderTemplate (renderNode (env.limited limit) depth) t).outcome (.start scope store) ∧
      ¬ ComesTo (env.limited limit) depth scope store t (deepInclude limit') := by
  have hgoes : ¬ ∃ e, ((renderTemplate (renderNode (env.limited limit) depth) t).outcome
      (.start scope store)).1 = .error e ∧ True := by
    rintro ⟨e, he, -⟩
    cases hok.symm.trans he
  constructor
  · have hsame := same_or_stops env (fun _ => True) limit limit' (fun _ _ _ _ => false)
      (fun _ _ => exhausted) depth scope store t (fun _ _ _ => id)
      (fun _ _ _ _ _ _ _ _ hnever => nomatch hnever) (fun around t i s _ _ _ => ?_)
    · rw [renderUnless_never, ← renderNode_eq_renderOver] at hsame
      exact hsame.resolve_left hgoes
    · exact .of_le hle (fun _ => trivial) around
  · rintro ⟨instead, hne⟩
    have hsame := same_or_stops env (fun _ => True) limit limit (deepInclude limit') instead depth
      scope store t (fun _ _ _ => id)
      (fun depth around t i mode s hlevel _ hstop => ?_) (fun _ _ _ _ _ _ _ => .same rfl)
    · exact hne (hsame.resolve_left hgoes)
    · obtain ⟨hdeep, hinclude⟩ := deepInclude_eq_true hstop
      obtain ⟨e, hfails, -⟩ := outcome_include_of_le (env.limited limit) hinclude mode
        (hlevel ▸ hle.trans hdeep)
      exact ⟨e, hfails, .inl trivial⟩

/-! ## Templates that include themselves -/

/-- Include directives that include the template itself. -/
def selfInclude (env : Environment) (t : Template) : Stop := fun _ u i s =>
  decide (env.included? s.files u i = some t)

/-- The template includes itself in any case, at most so many levels down: whatever error stands in
place of the directives that include it, the template fails with that error. -/
def IncludesItself (env : Environment) (store : FileStore) (levels : Nat) (t : Template) : Prop :=
  ∀ base e s, env.Leads store s.files →
    ∃ e', ((renderTemplate (renderUnless env (selfInclude env t) (fun _ _ _ _ _ => throw e) base
        levels s.includeDepth) t).outcome s).1 = .error e' ∧ e'.rootCause = e.rootCause

/-- Below the limit an include directive fails at the limit if the template does that it
includes. -/
theorem fails_include_of_lt {self : NodeRenderer} {i : Nat} {u : Template} {mode : Mode}
    {s : RenderState} (hu : env.included? s.files t i = some u)
    (hlimit : s.includeDepth < env.config.maxIncludeDepth)
    (hfails : ∀ s' : RenderState, env.Leads s.files s'.files →
      s'.includeDepth = s.includeDepth + 1 →
      ∃ e, ((renderTemplate self u).outcome s').1 = .error e ∧ ReachesLimit limit e) :
    ∃ e, ((renderWith env self t i mode).outcome s).1 = .error e ∧ ReachesLimit limit e := by
  obtain ⟨n, loaded, hn, hdirective, hloaded, rfl⟩ := env.exists_node_of_included hu
  have hload : (load env (resolveFile env t s.files (required n "file"))).outcome s =
      ((loadTemplate env.cache s.files (resolveFile env t s.files (required n "file"))
          env.config.fold).1.map Loaded.template,
        { s with files := (loadTemplate env.cache s.files
          (resolveFile env t s.files (required n "file")) env.config.fold).2 }) := rfl
  rw [hloaded] at hload
  obtain ⟨e, he, hreaches⟩ := hfails
    { s with
      includeDepth := s.includeDepth + 1
      files := (loadTemplate env.cache s.files (resolveFile env t s.files (required n "file"))
        env.config.fold).2 } (.single ⟨_, rfl⟩) rfl
  refine ⟨e.annotated t n, ?_, hreaches.annotated t n⟩
  rw [outcome_include hn hdirective, outcome_renderEmbed_of_lt env hlimit]
  have hincluded : ((renderIncluded env self t n).outcome s).1 = .error e := by
    rw [outcome_renderIncluded, outcome_bind, hload]
    exact he
  exact congrArg (Except.mapError (Error.annotated t n)) hincluded

/-- A renderer does the same as itself. -/
theorem matches_renderNode_self (hloads : env.Loads files fun _ _ => True)
    (hstops : ∀ t n e, stops e → stops (Error.annotated t n e)) (depth around : Nat) (t : Template)
    (i : Nat) (mode : Mode) :
    (levelPairing files stops env.config.maxIncludeDepth around).Matches Eq
      (renderNode env depth t i mode) (renderNode env depth t i mode) := by
  have hmatches : (levelPairing files stops env.config.maxIncludeDepth around).Matches Eq
      (renderOver (env.limited env.config.maxIncludeDepth) exhausted depth t i mode)
      (renderUnless (env.limited env.config.maxIncludeDepth) (fun _ _ _ _ => false)
        (fun _ _ => exhausted) exhausted depth around t i mode) :=
    matches_renderUnless hloads hstops (fun _ _ _ _ => matches_throw trivial)
      (fun _ _ _ _ _ _ _ _ _ _ hnever => absurd hnever Bool.false_ne_true)
      (fun _ _ _ _ _ _ _ _ => .same rfl) depth around (Nat.zero_le around) t i mode
  rw [renderUnless_never] at hmatches
  rw [renderNode_eq_renderOver]
  exact hmatches

/-- A template that includes itself fails if it does so wherever it is included. -/
theorem fails_of_fails_included {levels rest : Nat} (h : IncludesItself env store levels t)
    {s : RenderState} (hfiles : env.Leads store s.files)
    (hlevel : s.includeDepth ≤ env.config.maxIncludeDepth)
    (hincluded : ∀ depth (s' : RenderState), rest ≤ depth → env.Leads store s'.files →
      s.includeDepth < s'.includeDepth → s'.includeDepth ≤ env.config.maxIncludeDepth →
      ∃ e, ((renderTemplate (renderNode env depth) t).outcome s').1 = .error e ∧
        ReachesLimit env.config.maxIncludeDepth e) :
    ∃ e, ((renderTemplate (renderNode env (rest + levels)) t).outcome s).1 = .error e ∧
      ReachesLimit env.config.maxIncludeDepth e := by
  have hloads : env.Loads (env.Leads store) fun _ _ => True :=
    ⟨fun _ _ => trivial, (env.loads_inPlay store t).files⟩
  obtain ⟨e', hfails, hcause⟩ := h (renderNode env rest)
    (.includeDepth "" env.config.maxIncludeDepth) s hfiles
  have hmatches : (levelPairing (env.Leads store) (ReachesLimit env.config.maxIncludeDepth)
      env.config.maxIncludeDepth s.includeDepth).Matches Eq
      (renderTemplate (renderOver env (renderNode env rest) levels) t)
      (renderTemplate (renderUnless env (selfInclude env t)
        (fun _ _ _ _ _ => throw (.includeDepth "" env.config.maxIncludeDepth)) (renderNode env rest)
        levels s.includeDepth) t) := by
    refine matches_sameRoot rfl fun i _ => ?_
    refine matches_renderUnless hloads ReachesLimit.annotated
      (matches_renderNode_self hloads ReachesLimit.annotated rest) ?_
      (fun _ _ _ _ _ _ _ _ => .same rfl) levels s.includeDepth (Nat.le_refl _) t i .normal
    intro depth around u j mode s' hlowest hfiles' hlevel' hlimit hstop
    have hu : env.included? s'.files u j = some t := of_decide_eq_true hstop
    -- below the limit the page inside of the page fails by assumption, else the limit is reached
    -- here
    have hreaches :
        ∃ e, ((renderOver env (renderNode env rest) (depth + 1) u j mode).outcome s').1 =
          .error e ∧ ReachesLimit env.config.maxIncludeDepth e := by
      rcases Nat.lt_or_ge s'.includeDepth env.config.maxIncludeDepth with hlt | hge
      · refine fails_include_of_lt hu hlt fun s'' hleads hdeeper => ?_
        rw [← renderNode_add]
        exact hincluded (rest + depth) s'' (Nat.le_add_right rest depth) (hfiles'.trans hleads)
          (by omega) (by omega)
      · obtain ⟨e, he, hreaches⟩ :=
          outcome_include_of_le env (env.isInclude_of_included hu) mode hge
        exact ⟨e, congrArg Prod.fst he, hreaches⟩
    obtain ⟨e, he, hreaches⟩ := hreaches
    exact ⟨e, he, .inl hreaches⟩
  rw [renderNode_add]
  rcases same_of_matches hmatches hfiles rfl hlevel with hstopped | hsame
  · exact hstopped
  · exact ⟨e', hsame ▸ hfails, "", hcause⟩

/-- **What includes itself in any case fails at the limit**, if it may nest deep enough for it. -/
theorem fails_of_includesItself {levels : Nat} (h : IncludesItself env store levels t) (more : Nat)
    {depth : Nat} (hdepth : levels * (more + 1) ≤ depth) {s : RenderState}
    (hfiles : env.Leads store s.files) (hlevel : s.includeDepth ≤ env.config.maxIncludeDepth)
    (hmore : env.config.maxIncludeDepth ≤ s.includeDepth + more) :
    ∃ e, ((renderTemplate (renderNode env depth) t).outcome s).1 = .error e ∧
      ReachesLimit env.config.maxIncludeDepth e := by
  induction more generalizing depth s with
  | zero =>
    obtain ⟨rest, rfl⟩ := Nat.exists_eq_add_of_le' ((Nat.mul_one levels).symm.trans_le hdepth)
    refine fails_of_fails_included h hfiles hlevel fun _ s' _ _ hdeeper hlevel' => ?_
    exact absurd (hdeeper.trans_le hlevel') (Nat.not_lt.2 hmore)
  | succ more ih =>
    obtain ⟨rest, rfl⟩ := Nat.exists_eq_add_of_le' (Nat.le_of_add_left_le hdepth)
    refine fails_of_fails_included h hfiles hlevel fun depth s' hrest hfiles' hdeeper hlevel' => ?_
    have hlevels : levels * (more + 1 + 1) = levels * (more + 1) + levels := Nat.mul_succ ..
    exact ih (by omega) hfiles' hlevel' (by omega)

/-! ## Documents -/

/-- From a template on, each one includes the next of the list and the last one nothing: there is an
include directive in each, inside of as many others as templates stand before it, and none inside of
as many as there are. -/
structure IncludeChain (env : Environment) (depth : Nat) (scope : Scope) (store : FileStore)
    (main : Template) (rest : List Template) : Prop where
  next : ∀ k < rest.length, ComesTo env depth scope store main fun around u i s =>
    around == k && decide ((main :: rest)[k]? = some u ∧ env.included? s.files u i = rest[k]?)
  last : ¬ ComesTo env depth scope store main (deepInclude rest.length)

/-- The document fails because a template would have been included deeper than the limit. -/
def FailsAtLimit (depth : Nat) (env : Environment) (scope : Scope) (store : FileStore)
    (t : Template) : Prop :=
  ∃ e, (renderWithin depth env scope store t).1 = .error e ∧
    ReachesLimit env.config.maxIncludeDepth e

theorem failsAtLimit_of_outcome (h : ∃ e, ((renderTemplate (renderNode env depth) t).outcome
    (.start scope store)).1 = .error e ∧ ReachesLimit env.config.maxIncludeDepth e) :
    FailsAtLimit depth env scope store t := by
  obtain ⟨e, he, hreaches⟩ := h
  refine ⟨e, ?_, hreaches⟩
  rw [renderWithin_eq]
  exact congrArg (Except.map _) he

/-- **Whether a document renders under a limit depends on how deep its include directives are
nested**, if it renders at all. -/
theorem renderWithin_limited {out : String}
    (hok : (renderWithin depth env scope store t).1 = .ok out) (limit : Nat) :
    (¬ ComesTo env depth scope store t (deepInclude limit) →
        (renderWithin depth (env.limited limit) scope store t).1 = .ok out) ∧
      (ComesTo env depth scope store t (deepInclude limit) →
        FailsAtLimit depth (env.limited limit) scope store t) := by
  obtain ⟨text, htext, -⟩ := map_eq_ok hok
  have hsame : (renderTemplate (renderNode (env.limited limit) depth) t).outcome
        (.start scope store) =
      (renderTemplate (renderNode env depth) t).outcome (.start scope store) →
      (renderWithin depth (env.limited limit) scope store t).1 = .ok out := by
    intro h
    rw [renderWithin_eq, h]
    exact hok
  rcases Nat.le_total limit env.config.maxIncludeDepth with hle | hle
  · exact ⟨fun h => hsame (outcome_limited_of_not_comesTo hle h),
      fun h => failsAtLimit_of_outcome (fails_limited_of_comesTo hle h)⟩
  · obtain ⟨houtcome, hnever⟩ := outcome_limited_of_ok hle htext
    exact ⟨fun _ => hsame houtcome, fun h => absurd h hnever⟩

/-- **A chain of templates renders under the limits from its length on**, the first one not
counted. -/
theorem renderWithin_chain {out : String} {rest : List Template}
    (hok : (renderWithin depth env scope store t).1 = .ok out)
    (h : IncludeChain env depth scope store t rest) (limit : Nat) :
    ((renderWithin depth (env.limited limit) scope store t).1 = .ok out ↔ rest.length ≤ limit) ∧
      (limit < rest.length → FailsAtLimit depth (env.limited limit) scope store t) := by
  obtain ⟨hrenders, hfails⟩ := renderWithin_limited hok limit
  have hdeep : limit < rest.length → FailsAtLimit depth (env.limited limit) scope store t := by
    intro hlimit
    -- the directive that includes the last template is inside of too many others
    refine hfails ((h.next (rest.length - 1) (by omega)).mono fun around u i s hstop => ?_)
    obtain ⟨haround, hnext⟩ := Bool.and_eq_true_iff.1 hstop
    obtain ⟨-, hincluded⟩ := of_decide_eq_true hnext
    obtain rfl := eq_of_beq haround
    rw [List.getElem?_eq_getElem (by omega)] at hincluded
    rw [deepInclude, env.isInclude_of_included hincluded, Bool.and_true]
    exact decide_eq_true (by omega)
  refine ⟨⟨fun hrendered => ?_, fun hlimit => ?_⟩, hdeep⟩
  · by_contra hlimit
    obtain ⟨e, he, -⟩ := hdeep (Nat.lt_of_not_le hlimit)
    cases hrendered.symm.trans he
  · refine hrenders fun hcomes => h.last (hcomes.mono fun around u i s hstop => ?_)
    obtain ⟨hlevel, hinclude⟩ := deepInclude_eq_true hstop
    rw [deepInclude, hinclude, Bool.and_true]
    exact decide_eq_true (hlimit.trans hlevel)

/-- The include level counts the include directives around, and nothing else limits them. -/
structure IncludeDepthExact (env : Environment) (depth : Nat) (scope : Scope) (store : FileStore)
    (main : Template) : Prop where
  /-- The document comes to no element at which the level is not the number of include directives
  around, or is beyond the limit. -/
  level : ¬ ComesTo env depth scope store main fun around _ _ s =>
    s.includeDepth != around || decide (env.config.maxIncludeDepth < around)
  /-- Behind an element the level is the one in front of it, even if it failed. -/
  restored : ∀ t i mode s,
    ((renderNode env depth t i mode).outcome s).2.includeDepth = s.includeDepth
  /-- An include directive fails for its depth if and only if the level has reached the limit. -/
  limit : ∀ t n s, (∃ file limit, ((renderEmbed env (renderNode env depth) t n).outcome s).1 =
    .error (.includeDepth file limit)) ↔ env.config.maxIncludeDepth ≤ s.includeDepth
  /-- If the document renders, it does so under the limits that no include directive is too deep
  for, however many stand beside each other. -/
  nesting : ∀ out, (renderWithin depth env scope store main).1 = .ok out → ∀ limit,
    (¬ ComesTo env depth scope store main (deepInclude limit) →
      (renderWithin depth (env.limited limit) scope store main).1 = .ok out) ∧
    (ComesTo env depth scope store main (deepInclude limit) →
      FailsAtLimit depth (env.limited limit) scope store main)
  /-- A chain of templates renders under the limits from its length on. -/
  chain : ∀ out rest, (renderWithin depth env scope store main).1 = .ok out →
    IncludeChain env depth scope store main rest → ∀ limit,
    ((renderWithin depth (env.limited limit) scope store main).1 = .ok out ↔
      rest.length ≤ limit) ∧
    (limit < rest.length → FailsAtLimit depth (env.limited limit) scope store main)
  /-- A template that includes itself in any case fails at the limit. -/
  selfInclusion : ∀ levels, IncludesItself env store levels main →
    levels * (env.config.maxIncludeDepth + 1) ≤ depth → FailsAtLimit depth env scope store main

end Rendering

open Rendering

/-- **The include level is exact**: it is the number of include directives around each element, and
templates are included as long as it is below the limit. -/
theorem includeDepth_exact (env : Environment) (depth : Nat) (scope : Scope) (store : FileStore)
    (main : Template) : IncludeDepthExact env depth scope store main where
  level := not_comesTo_otherLevel
  restored t i mode s := (restores_renderNode depth t i mode s).includeDepth
  limit _ := fails_includeDepth_iff
  nesting _ := renderWithin_limited
  chain _ _ := renderWithin_chain
  selfInclusion _ h hdepth := failsAtLimit_of_outcome (fails_of_includesItself h
    env.config.maxIncludeDepth hdepth .refl (Nat.zero_le _) (Nat.le_add_left ..))

/-! ## A chain of pages, and a page that includes itself -/

/-- A page that includes the next one. -/
def firstPage : Template :=
  ⟨"/a.xml", "tl:", none,
    ⟨[⟨"r", "tl:", .empty, [.node 1], false, 1, none, "", none⟩,
      ⟨"tl:include", "tl:", .ofList [("file", "/b.xml")], [], true, 1, some 0, "", some .embed⟩],
      some (.node 0)⟩⟩

/-- A page that includes the next one twice. -/
def secondPage : Template :=
  ⟨"/b.xml", "tl:", none,
    ⟨[⟨"p", "tl:", .empty, [.node 1, .node 2], false, 1, none, "", none⟩,
      ⟨"tl:include", "tl:", .ofList [("file", "/c.xml")], [], true, 1, some 0, "", some .embed⟩,
      ⟨"tl:include", "tl:", .ofList [("file", "/c.xml")], [], true, 1, some 0, "", some .embed⟩],
      some (.node 0)⟩⟩

/-- A page that includes nothing. -/
def lastPage : Template := ⟨"/c.xml", "tl:", none, ⟨[], some (.text "<q/>")⟩⟩

/-- A page that includes itself. -/
def mirrorPage : Template :=
  ⟨"/d.xml", "tl:", none,
    ⟨[⟨"r", "tl:", .empty, [.node 1], false, 1, none, "", none⟩,
      ⟨"tl:include", "tl:", .ofList [("file", "/d.xml")], [], true, 1, some 0, "", some .embed⟩],
      some (.node 0)⟩⟩

/-- The files of the pages. -/
def nestedSite : FileStore :=
  ⟨"/", .ofList [("/a.xml", .file "<r><tl:include file=\"/b.xml\"/></r>".toUTF8 1),
    ("/b.xml", .file "<p><tl:include file=\"/c.xml\"/><tl:include file=\"/c.xml\"/></p>".toUTF8 1),
    ("/c.xml", .file "<q/>".toUTF8 1),
    ("/d.xml", .file "<r><tl:include file=\"/d.xml\"/></r>".toUTF8 1)], 2⟩

/-- The chain of pages renders. -/
theorem renderWithin_firstPage :
    (renderWithin 9 bareEnvironment .empty nestedSite firstPage).1 = .ok "<r><p><q/><q/></p></r>" :=
  eq_ok_of_toOption (by decide +kernel)

/-- The chain of pages is one: what is put in place of a directive is seen in the output. -/
theorem includeChain_firstPage :
    IncludeChain bareEnvironment 9 .empty nestedSite firstPage [secondPage, lastPage] where
  next k hk := by
    match k, hk with
    | 0, _ =>
      exact comesTo_of_output (fun _ _ _ _ _ => pure "") "<r></r>" (by decide +kernel)
        (by decide +kernel)
    | 1, _ =>
      exact comesTo_of_output (fun _ _ _ _ _ => pure "") "<r><p></p></r>" (by decide +kernel)
        (by decide +kernel)
  last h := by
    obtain ⟨e, he, -⟩ := (renderWithin_limited renderWithin_firstPage 2).2 h
    have hok : (renderWithin 9 (bareEnvironment.limited 2) .empty nestedSite firstPage).1.toOption =
        some "<r><p><q/><q/></p></r>" := by decide +kernel
    rw [he] at hok
    cases hok

/-- The element around the include directive fails with the error that stands in its place. -/
theorem includesItself_mirrorPage : IncludesItself bareEnvironment nestedSite 2 mirrorPage := by
  intro base e s hs
  have hfiles : s.files = nestedSite := eq_of_leads rfl hs
  have hroot : selfInclude bareEnvironment mirrorPage s.includeDepth mirrorPage 0 s = false := by
    rw [selfInclude, hfiles]
    decide +kernel
  have hinclude : ∀ frames, selfInclude bareEnvironment mirrorPage s.includeDepth mirrorPage 1
      { s with frames } = true := by
    intro frames
    rw [selfInclude, hfiles]
    decide +kernel
  have hchildren : ((renderChildren (renderUnless bareEnvironment
      (selfInclude bareEnvironment mirrorPage) (fun _ _ _ _ _ => throw e) base 1 s.includeDepth)
      mirrorPage [.node 1]).outcome { s with frames := .empty :: s.frames }).1 = .error e := by
    refine fails_bind ?_ _
    rw [outcome_renderUnless, if_pos (hinclude _)]
    rfl
  have hbody : ((renderElement bareEnvironment _ mirrorPage mirrorPage.tree.nodes[0]).outcome s).1 =
      .error e := fails_renderElement rfl hchildren
  have hpage : ((renderUnless bareEnvironment (selfInclude bareEnvironment mirrorPage)
      (fun _ _ _ _ _ => throw e) base 2 s.includeDepth mirrorPage 0 .normal).outcome s).1 =
      .error (e.annotated mirrorPage mirrorPage.tree.nodes[0]) := by
    rw [outcome_renderUnless, if_neg (Bool.eq_false_iff.1 hroot)]
    exact congrArg (Except.mapError _) hbody
  exact ⟨_, hpage, e.rootCause_annotated ..⟩

/-- The chain of three pages renders within two levels and not within one, and the page that
includes itself fails. -/
theorem includeDepth_exact_nestedSite :
    IncludeChain bareEnvironment 9 .empty nestedSite firstPage [secondPage, lastPage] ∧
    IncludesItself bareEnvironment nestedSite 2 mirrorPage ∧
    (renderWithin 9 (bareEnvironment.limited 2) .empty nestedSite firstPage).1 =
      .ok "<r><p><q/><q/></p></r>" ∧
    FailsAtLimit 9 (bareEnvironment.limited 1) .empty nestedSite firstPage ∧
    FailsAtLimit 66 bareEnvironment .empty nestedSite mirrorPage := by
  have hchain := (includeDepth_exact bareEnvironment 9 .empty nestedSite firstPage).chain _ _
    renderWithin_firstPage includeChain_firstPage
  have hmirror := (includeDepth_exact bareEnvironment 66 .empty nestedSite mirrorPage).selfInclusion
    2 includesItself_mirrorPage (Nat.le_refl 66)
  exact ⟨includeChain_firstPage, includesItself_mirrorPage, (hchain 2).1.2 (Nat.le_refl 2),
    (hchain 1).2 (Nat.lt_succ_self 1), hmirror⟩

end TagTemplate
