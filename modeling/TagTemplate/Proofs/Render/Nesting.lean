import Mathlib.Logic.Relation
import Mathlib.Tactic.Ring
import TagTemplate.Proofs.Render.SameElements
import TagTemplate.Proofs.Template.Consistency
import TagTemplate.Proofs.Template.Reading

/-!
# How deeply elements are nested

Elements are nested through children, included templates and macros that are called. Children lie
behind their parents and includes are limited, but nothing limits calls: they end where macros can
be ranked so that each one calls only macros of a lower rank, and need not end elsewhere.

- `Tree.Ranked`: calls inside of a macro lead to macros of a lower rank;
- `matches_renderOver`: no element is nested deeper than the levels from it on (`levelsFrom`);
- `renderWithin_of_ranked`: **the nesting of a document is bounded**, by the sizes of the templates,
  the number of ranks and the limit for includes;
- `loopPage_tooDeep`: a page whose macro calls itself is nested deeper than any bound.
-/

namespace TagTemplate

/-! ## Ranks of macros -/

namespace Tree

/-- The element has the other one among its children. -/
def IsParent (t : Tree) (p c : Nat) : Prop :=
  ∃ n, t.node? p = some n ∧ .node c ∈ n.children

/-- The macros that are called by the element and those inside of it are of a rank below the
bound. -/
def CallsBelow (t : Tree) (rank : String → Nat) (bound i : Nat) : Prop :=
  ∀ j n name, Relation.ReflTransGen t.IsParent i j → t.node? j = some n →
    n.directiveAttribute? "call" = some name → rank name < bound

/-- At most `size` elements, in which macros call only macros of a lower rank. -/
structure Ranked (rank : String → Nat) (ranks size : Nat) (t : Tree) : Prop where
  wellFormed : t.WellFormed
  size : t.nodes.length ≤ size
  calls : ∀ i, t.CallsBelow rank ranks i
  macros : ∀ i n name, t.node? i = some n → n.directiveAttribute? "macro" = some name →
    t.CallsBelow rank (rank name) i

variable {t : Tree} {rank : String → Nat} {bound i j : Nat}

theorem CallsBelow.of_reaches (h : t.CallsBelow rank bound i)
    (hreaches : Relation.ReflTransGen t.IsParent i j) : t.CallsBelow rank bound j :=
  fun _ _ _ hj => h _ _ _ (hreaches.trans hj)

/-- Elements inside lie behind the one they are in. -/
theorem lt_of_reaches (h : t.WellFormed) (hreaches : Relation.TransGen t.IsParent i j) :
    i < j ∧ j < t.nodes.length := by
  induction hreaches with
  | single hchild =>
    obtain ⟨n, hn, hj⟩ := hchild
    exact h.child _ n _ hn hj
  | tail _ hchild ih =>
    obtain ⟨n, hn, hj⟩ := hchild
    obtain ⟨hbehind, hlength⟩ := h.child _ n _ hn hj
    exact ⟨ih.1.trans hbehind, hlength⟩

/-- An element with nothing inside that calls no macro. -/
theorem callsBelow_of_leaf {n : Node} (hn : t.node? i = some n)
    (hleaf : ∀ c, .node c ∉ n.children) (hcall : n.directiveAttribute? "call" = none) :
    t.CallsBelow rank bound i := by
  intro j m name hreaches hm hname
  rcases Relation.ReflTransGen.cases_head hreaches with rfl | ⟨c, ⟨n', hn', hc⟩, -⟩
  · cases hn.symm.trans hm
    rw [hcall] at hname
    cases hname
  · cases hn.symm.trans hn'
    exact absurd hc (hleaf c)

end Tree

/-- What an element holds is inside of it. -/
theorem Template.Holds.reaches {t : Template} {n : Node} {i j : Nat} (hn : t.tree.node? i = some n)
    (h : t.Holds n j) : Relation.TransGen t.tree.IsParent i j := by
  cases h with
  | child hj => exact .single ⟨n, hn, hj⟩
  | param hp hm hj => exact .tail (.single ⟨n, hn, hp⟩) ⟨_, hm, hj⟩

namespace Rendering

variable {env : Environment} {base base' : NodeRenderer}

/-! ## How deep a rendering goes -/

/-- The same elements with macros that are ranked, while at most `more` further includes are
nested. -/
def rankedPairing (rank : String → Nat) (ranks size : Nat) (files : FileStore → Prop)
    (limit more : Nat) : Pairing :=
  .ofSame (fun name d => d.template.tree.Ranked rank ranks size ∧
      d.node < d.template.tree.nodes.length ∧
      d.template.tree.CallsBelow rank (rank name) d.node)
    (limit ≤ · + more) files Eq (fun _ => True) (fun _ _ => rfl) fun _ => False

/-- The levels from an element on: first those behind it in its template; then whole templates, one
for each rank below its own; and, for each further include, one for each rank and one more. -/
def levelsFrom (size ranks : Nat) (behind rank more : Nat) : Nat :=
  behind + size * (rank + (ranks + 1) * more)

variable {rank : String → Nat} {ranks size : Nat} {files : FileStore → Prop}

/-- A macro of a lower rank takes fewer levels. -/
theorem levelsFrom_lower {behind behind' bound bound' : Nat} (more : Nat) (hbehind : 0 < behind)
    (hbehind' : behind' ≤ size) (hbound : bound' < bound) :
    levelsFrom size ranks behind' bound' more < levelsFrom size ranks behind bound more := by
  unfold levelsFrom
  have hfactor : bound' + (ranks + 1) * more + 1 ≤ bound + (ranks + 1) * more := by omega
  have hlevels := Nat.mul_le_mul_left size hfactor
  rw [Nat.mul_succ] at hlevels
  omega

/-- A template that is included takes fewer levels. -/
theorem levelsFrom_included {behind behind' : Nat} (bound more : Nat) (hbehind : 0 < behind)
    (hbehind' : behind' ≤ size) :
    levelsFrom size ranks behind' ranks more < levelsFrom size ranks behind bound (more + 1) := by
  unfold levelsFrom
  have hfactor : ranks + (ranks + 1) * more + 1 ≤ bound + (ranks + 1) * (more + 1) := by
    rw [Nat.mul_succ]
    omega
  have hlevels := Nat.mul_le_mul_left size hfactor
  rw [Nat.mul_succ] at hlevels
  omega

/-- **No element is nested deeper than the levels from it on**, whatever would be done with it. -/
theorem matches_renderOver (hloads : env.Loads files fun _ u => u.tree.Ranked rank ranks size)
    {t : Template} (ht : t.tree.Ranked rank ranks size) {i bound more depth : Nat}
    (hi : i < t.tree.nodes.length) (hcalls : t.tree.CallsBelow rank bound i)
    (hdepth : levelsFrom size ranks (t.tree.nodes.length - i) bound more ≤ depth) (mode : Mode) :
    (rankedPairing rank ranks size files env.config.maxIncludeDepth more).Matches Eq
      (renderOver env base depth t i mode) (renderOver env base' depth t i mode) := by
  induction depth generalizing t i bound more mode with
  | zero =>
    unfold levelsFrom at hdepth
    omega
  | succ depth ih =>
    have hown : OwnKin (rankedPairing rank ranks size files env.config.maxIncludeDepth more) t :=
      ⟨trivial, fun _ => ⟨rfl, rfl⟩, fun _ _ _ _ => congrArg _, fun _ _ _ => id⟩
    refine matches_atNode_same trivial hown.annotated hown.stops i fun n hn => ?_
    have hmem := List.mem_of_getElem? hn
    have hbehind : 0 < t.tree.nodes.length - i := by omega
    refine matches_sameBody env.raises_any (fun _ _ => Iff.rfl) hown hmem (fun j hj => ?_) ?_
      (fun name hname => ?_) hloads (fun hlevel => ?_) mode
    · -- an element inside stands behind this one
      have hinside := hj.reaches hn
      obtain ⟨hlater, hlength⟩ := Tree.lt_of_reaches ht.wellFormed hinside
      refine ih ht hlength (hcalls.of_reaches hinside.to_reflTransGen) ?_ .normal
      unfold levelsFrom at hdepth ⊢
      omega
    · -- a macro that is called has a lower rank
      rintro name d _ hname ⟨rfl, hd, hnode, hbelow⟩
      refine ih hd hnode hbelow (Nat.le_of_lt_succ (Nat.lt_of_lt_of_le ?_ hdepth)) .called
      have hsize := hd.size
      exact levelsFrom_lower more hbehind (by omega) (hcalls i n name .refl hn hname)
    · exact ⟨rfl, ht, hi, ht.macros i n name hn hname⟩
    · -- below an include directive one fewer can be nested
      obtain ⟨l, hl, hlimit⟩ := hlevel
      obtain ⟨more, rfl⟩ : ∃ k, more = k + 1 := ⟨more - 1, by
        replace hl : env.config.maxIncludeDepth ≤ l + more := hl
        omega⟩
      refine ⟨(env.config.maxIncludeDepth ≤ · + more), fun l hl => ?_, fun l hl => ?_, ?_⟩
      · replace hl : env.config.maxIncludeDepth ≤ l + (more + 1) := hl
        omega
      · show env.config.maxIncludeDepth ≤ l - 1 + (more + 1)
        omega
      · intro path u j hu hroot
        refine ih hu (hu.wellFormed.root j hroot) (hu.calls j)
          (Nat.le_of_lt_succ (Nat.lt_of_lt_of_le ?_ hdepth)) .normal
        have hsize := hu.size
        exact levelsFrom_included bound more hbehind (by omega)

end Rendering

open Rendering

/-- **Where macros are ranked, the nesting of elements is bounded**: nothing is asked of a renderer
for what is nested deeper, and from there on every depth gives the same. -/
theorem renderWithin_of_ranked {env : Environment} {rank : String → Nat} {ranks size : Nat}
    {files : FileStore → Prop} (hloads : env.Loads files fun _ u => u.tree.Ranked rank ranks size)
    {store : FileStore} (hstore : files store) {t : Template} (ht : t.tree.Ranked rank ranks size)
    (scope : Scope) {depth : Nat}
    (hdepth : size * ((ranks + 1) * (env.config.maxIncludeDepth + 1)) ≤ depth) :
    (∀ base, (renderTemplate (renderOver env base depth) t).outcome (.start scope store) =
        (renderTemplate (renderNode env depth) t).outcome (.start scope store)) ∧
      ∀ deeper, depth ≤ deeper →
        renderWithin deeper env scope store t = renderWithin depth env scope store t := by
  have hsame : ∀ base, (renderTemplate (renderOver env base depth) t).outcome (.start scope store) =
      (renderTemplate (renderNode env depth) t).outcome (.start scope store) := by
    intro base
    rw [renderNode_eq_renderOver]
    have hmatches : (rankedPairing rank ranks size files env.config.maxIncludeDepth
        env.config.maxIncludeDepth).Matches Eq (renderTemplate (renderOver env base depth) t)
        (renderTemplate (renderOver env exhausted depth) t) := by
      refine matches_sameRoot rfl fun i hroot => ?_
      refine matches_renderOver hloads ht (ht.wellFormed.root i hroot) (ht.calls i) ?_ .normal
      refine Nat.le_trans ?_ hdepth
      have hsize := ht.size
      have hlevels : size * ((ranks + 1) * (env.config.maxIncludeDepth + 1)) =
          size + size * (ranks + (ranks + 1) * env.config.maxIncludeDepth) := by ring
      unfold levelsFrom
      omega
    obtain ⟨hresult, hstate⟩ := corresponds_of_matches hmatches (fun _ _ _ => And.left)
      (fun _ _ => Iff.rfl) (fun _ => id) scope hstore (Nat.le_add_left ..)
    exact Prod.ext hresult.eq hstate.symm
  refine ⟨hsame, fun deeper hdeeper => ?_⟩
  obtain ⟨more, rfl⟩ := Nat.exists_eq_add_of_le' hdeeper
  rw [renderWithin_eq, renderWithin_eq, renderNode_add, hsame]

/-! ## A page with a macro -/

/-- A page that calls a macro and includes another page. -/
def rankedSource : String :=
  "<r><b tl:macro=\"m\">x</b><u tl:call=\"m\"/><tl:include file=\"/a.xml\"/></r>"

/-- The page as it is read. -/
def rankedPage : Template :=
  ⟨"/page.xml", "tl:", none,
    ⟨[⟨"r", "tl:", .empty, [.node 1, .node 2, .node 3], false, 1, none, "", none⟩,
      ⟨"b", "tl:", .ofList [("tl:macro", "m")], [.text "x"], false, 1, some 0, "", none⟩,
      ⟨"u", "tl:", .ofList [("tl:call", "m")], [], true, 1, some 0, "x", none⟩,
      ⟨"tl:include", "tl:", .ofList [("file", "/a.xml")], [], true, 1, some 0, "", some .embed⟩],
      some (.node 0)⟩⟩

/-- The page that it includes. -/
def includedSource : String := "<p tl:text=\"'a'\"/>"

/-- The site of the page. -/
def rankedSite : FileStore := ⟨"/", .ofList [("/a.xml", .file includedSource.toUTF8 1)], 2⟩

theorem read_rankedSource : Template.read rankedSource "/page.xml" true = .ok rankedPage := by
  decide +kernel

/-- The macro of the page calls nothing. -/
theorem ranked_rankedPage : rankedPage.tree.Ranked (fun _ => 0) 1 4 where
  wellFormed := Template.wellFormed_of_read read_rankedSource
  size := Nat.le_refl 4
  calls _ _ _ _ _ _ _ := Nat.zero_lt_one
  macros i n name hn hname := by
    have hmacros : ∀ m ∈ rankedPage.tree.nodes, (m.directiveAttribute? "macro").isSome →
        m.children = [.text "x"] ∧ m.directiveAttribute? "call" = none := by decide +kernel
    obtain ⟨hchildren, hcall⟩ := hmacros n (List.mem_of_getElem? hn) (hname ▸ rfl)
    refine Tree.callsBelow_of_leaf hn (fun c hc => ?_) hcall
    rw [hchildren] at hc
    cases List.mem_singleton.1 hc

/-- The page that is included has no macro. -/
theorem loads_rankedSite : bareEnvironment.Loads (· = rankedSite) fun _ u =>
    u.tree.Ranked (fun _ => 0) 1 4 := by
  refine loads_of_texts rfl fun content time text path t hmem hdecoded hread => ?_
  cases List.mem_singleton.1 hmem
  have htext : String.fromUTF8? includedSource.toUTF8 = some includedSource := by decide +kernel
  cases htext.symm.trans hdecoded
  obtain ⟨included, hincluded, htree⟩ : ∃ u, Template.read includedSource "/a.xml" true = .ok u ∧
      u.tree.nodes = [⟨"p", "tl:", .ofList [("tl:text", "'a'")], [], true, 1, none, "", none⟩] :=
    ⟨⟨"/a.xml", "tl:", none, ⟨_, some (.node 0)⟩⟩, by decide +kernel, rfl⟩
  rw [← Template.tree_of_read hread hincluded] at htree
  refine ⟨Template.wellFormed_of_read hread, ?_, fun _ _ _ _ _ _ _ => Nat.zero_lt_one, ?_⟩
  · rw [htree]
    decide
  · intro i n name hn hname
    have hmem := List.mem_of_getElem? hn
    rw [htree] at hmem
    have hunregistered : n.directiveAttribute? "macro" = none := by
      rw [List.mem_singleton.1 hmem]
      decide +kernel
    rw [hunregistered] at hname
    cases hname

/-- On the page and the one that it includes, no elements are nested deeper than the bound. -/
theorem renderWithin_of_rankedPage :
    (∀ base, (renderTemplate (renderOver bareEnvironment base 264) rankedPage).outcome
        (.start .empty rankedSite) =
      (renderTemplate (renderNode bareEnvironment 264) rankedPage).outcome
        (.start .empty rankedSite)) ∧
    ∀ deeper, 264 ≤ deeper → renderWithin deeper bareEnvironment .empty rankedSite rankedPage =
      renderWithin 264 bareEnvironment .empty rankedSite rankedPage :=
  renderWithin_of_ranked loads_rankedSite rfl ranked_rankedPage .empty (Nat.le_refl 264)

/-! ## A page with a macro that calls itself -/

/-- A call without arguments fails with what the macro fails with. -/
theorem fails_renderCall {env : Environment} {self : NodeRenderer} {t : Template} {n : Node}
    {name : String} {d : Macro} {s : RenderState} {e : Error} (hchildren : n.children = [])
    (hplain : n.plainAttributes = []) (hregistered : s.macros.get? name = some d)
    (hmade : ((self d.template d.node .called).outcome
      { s with scope := s.scope.push (.map .empty) }).1 = .error e) :
    ((renderCall env self t n name).outcome s).1 = .error e := by
  unfold renderCall callArguments
  rw [outcome_bind, show outcome get s = (.ok s, s) from rfl]
  dsimp only
  rw [hregistered, hchildren, hplain]
  exact hmade

/-- A page with a macro that calls itself. -/
def loopSource : String := "<r><b tl:macro=\"m\"><i tl:call=\"m\"/></b><u tl:call=\"m\"/></r>"

/-- The page as it is read. -/
def loopPage : Template :=
  ⟨"page.xml", "tl:", none,
    ⟨[⟨"r", "tl:", .empty, [.node 1, .node 3], false, 1, none, "", none⟩,
      ⟨"b", "tl:", .ofList [("tl:macro", "m")], [.node 2], false, 1, some 0, "", none⟩,
      ⟨"i", "tl:", .ofList [("tl:call", "m")], [], true, 1, some 1, "", none⟩,
      ⟨"u", "tl:", .ofList [("tl:call", "m")], [], true, 1, some 0, "", none⟩], some (.node 0)⟩⟩

theorem read_loopSource : Template.read loopSource "page.xml" true = .ok loopPage := by
  decide +kernel

/-- The macro goes too deep wherever it is called, and so do the two elements that call it. -/
theorem renderNode_loopPage (env : Environment) (depth : Nat) (s : RenderState)
    (hregistered : s.macros.get? "m" = some ⟨loopPage, 1⟩) :
    ((renderNode env depth loopPage 1 .called).outcome s).1 = .error tooDeep ∧
    ((renderNode env depth loopPage 2 .normal).outcome s).1 = .error tooDeep ∧
    ((renderNode env depth loopPage 3 .normal).outcome s).1 = .error tooDeep := by
  induction depth generalizing s with
  | zero => exact ⟨rfl, rfl, rfl⟩
  | succ depth ih =>
    have hcall : ∀ n : Node, n.children = [] → n.plainAttributes = [] →
        ((renderCall env (renderNode env depth) loopPage n "m").outcome s).1 = .error tooDeep :=
      fun n hchildren hplain => fails_renderCall hchildren hplain hregistered
        (ih { s with scope := s.scope.push (.map .empty) } hregistered).1
    have hbody : ((renderElement env (renderNode env depth) loopPage
        loopPage.tree.nodes[1]).outcome s).1 = .error tooDeep :=
      fails_renderElement rfl
        (fails_bind (ih { s with frames := .empty :: s.frames } hregistered).2.1 _)
    refine ⟨?_, ?_, ?_⟩
    · exact congrArg (Except.mapError _) hbody
    · exact congrArg (Except.mapError _) (hcall loopPage.tree.nodes[2] rfl rfl)
    · exact congrArg (Except.mapError _) (hcall loopPage.tree.nodes[3] rfl rfl)

/-- The two elements of the page, of which the first one is only registered. -/
theorem fails_children (env : Environment) (depth : Nat) (s : RenderState) :
    ((renderChildren (renderNode env depth) loopPage [.node 1, .node 3]).outcome s).1 =
      .error tooDeep := by
  cases depth with
  | zero => rfl
  | succ depth =>
    have hregistered :
        ({ s with macros := s.macros.insert "m" ⟨loopPage, 1⟩ } : RenderState).macros.get? "m" =
          some ⟨loopPage, 1⟩ := OrderedMap.get?_insert_self ..
    have hregister : (renderNode env (depth + 1) loopPage 1 .normal).outcome s =
        (.ok "", { s with macros := s.macros.insert "m" ⟨loopPage, 1⟩ }) := rfl
    unfold renderChildren
    rw [outcome_bind, hregister]
    exact fails_bind (fails_bind (renderNode_loopPage env (depth + 1) _ hregistered).2.2 _) _

/-- **A page with a macro that calls itself is nested deeper than any bound**, in every
environment. -/
theorem loopPage_tooDeep : Template.read loopSource "page.xml" true = .ok loopPage ∧
    ∀ depth env scope files, (renderWithin depth env scope files loopPage).1 = .error tooDeep := by
  refine ⟨read_loopSource, fun depth env scope files => ?_⟩
  have hroot : ((renderNode env depth loopPage 0 .normal).outcome (.start scope files)).1 =
      .error tooDeep := by
    cases depth with
    | zero => rfl
    | succ depth =>
      have hbody : ((renderElement env (renderNode env depth) loopPage
          loopPage.tree.nodes[0]).outcome (.start scope files)).1 = .error tooDeep :=
        fails_renderElement rfl (fails_children env depth _)
      exact congrArg (Except.mapError _) hbody
  rw [renderWithin_eq]
  exact congrArg (Except.map _) hroot

end TagTemplate
