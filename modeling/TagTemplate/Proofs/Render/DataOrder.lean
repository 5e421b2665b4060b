import TagTemplate.Proofs.Render.Reordering
import TagTemplate.Project

/-!
# The order of the data

The data of a view are mounted one after the other. The order in which this is done is seen by a
template only where an expression reads the universe as a whole, so that any order gives the same
output, or the same error, to a template that does so nowhere.

- `Environment.Enters`: the elements that a rendering can come to, with the layers that are on;
- `Environment.OverlooksUniverse`: no expression of these elements reads the universe as a whole;
- `renderWithin_reordered`: **then a document does not depend on the order of the universe**;
- `View.render_reordered`: **nor does a view on the order in which its data are mounted**;
- `View.render_shows_order`: a page that writes the universe shows it.
-/

namespace TagTemplate

open Rendering

/-! ## Elements that are come to -/

/-- The elements that a rendering can come to, in which mode and with how many layers on. -/
inductive Environment.Enters (env : Environment) (store : FileStore) (main : Template) :
    Template → Nat → Mode → Nat → Prop
  | root {i : Nat} : main.tree.root = some (.node i) → Enters env store main main i .normal 0
  | held {t : Template} {i j l : Nat} {mode : Mode} {n : Node} : Enters env store main t i mode l →
    t.Opens i mode n → t.Holds n j → Enters env store main t j .normal (l + n.walkLayers)
  | included {t u : Template} {i j l : Nat} {mode : Mode} {n : Node} {s : FileStore} :
    Enters env store main t i mode l → t.Opens i mode n → env.Leads store s →
    env.included? s t i = some u → u.tree.root = some (.node j) →
    Enters env store main u j .normal l
  /-- The arguments of a call are one more layer. -/
  | called {t u : Template} {i j l l' : Nat} {mode : Mode} {n m : Node} {name : String} :
    Enters env store main t i mode l → t.Opens i mode n →
    n.directiveAttribute? "call" = some name → Enters env store main u j .normal l' →
    u.tree.node? j = some m → m.Registers .normal name →
    Enters env store main u j .called (l + n.walkLayers + 1)

/-- No expression that a rendering can come to reads the universe as a whole. -/
def Environment.OverlooksUniverse (env : Environment) (store : FileStore) (main : Template) :
    Prop :=
  ∀ t i mode l n put e, env.Enters store main t i mode l → t.Opens i mode n → n.Evaluates put e →
    env.Overlooks (l + put) e

/-- Macros are elements that the rendering came to, and the files are those that it leads to. -/
def Environment.known (env : Environment) (store : FileStore) (main : Template) : Known where
  registered name m := ∃ l n, env.Enters store main m.template m.node .normal l ∧
    m.template.tree.node? m.node = some n ∧ n.Registers .normal name
  files := env.Leads store

namespace Rendering

open Known

variable {env : Environment} {store : FileStore} {main : Template}

/-- **No element that a rendering comes to depends on the order of the universe**, by induction on
how deep the renderer goes. -/
theorem indifferent_renderNode (henv : env.functions.IgnoresOrder)
    (hlooks : env.OverlooksUniverse store main) {depth : Nat} {t : Template} {i l : Nat}
    {mode : Mode} (h : env.Enters store main t i mode l) :
    (env.known store main).Indifferent l (renderNode env depth t i mode) := by
  induction depth generalizing t i l mode with
  | zero => exact indifferent_throw _
  | succ depth ih =>
    refine indifferent_renderWith henv (fun n put e hopens => ?_) (fun n hopens => ?_)
      (fun n name hn hname => ?_) (fun s path hs => hs.tail ⟨path, rfl⟩)
      fun n s u j hopens hs hu hj => ?_
    · exact hlooks t i mode l n put e h hopens
    · refine ⟨fun j hj => ih (h.held hopens hj), fun p m e hp hm hparam he => ?_, ?_⟩
      · -- the value of a parameter is an expression of the parameter
        exact hlooks t p .normal _ m 0 e (h.held hopens (.child hp)) (.of_directive hm hparam)
          (.value hparam (by decide) he)
      · rintro name m hcall ⟨l', m', hm, hnode, hregistered⟩
        exact ih (h.called hopens hcall hm hnode hregistered)
    · obtain ⟨hmode, -⟩ := id hname
      subst hmode
      exact ⟨l, n, h, hn, hname⟩
    · exact ih (h.included hopens hs hu hj)

end Rendering

/-- **A document does not depend on the order of the universe's entries**, if it comes to no
expression that reads the universe as a whole. -/
theorem renderWithin_reordered {env : Environment} {store : FileStore} {main : Template}
    (henv : env.functions.IgnoresOrder) (hlooks : env.OverlooksUniverse store main)
    {base base' : OrderedMap Value} (hdistinct : base.Distinct)
    (hperm : base.entries.Perm base'.entries) (depth : Nat) :
    renderWithin depth env (.ofUniverse base) store main =
      renderWithin depth env (.ofUniverse base') store main := by
  have htemplate : (env.known store main).Indifferent 0
      (renderTemplate (renderNode env depth) main) :=
    Known.indifferent_renderTemplate fun i hi => indifferent_renderNode henv hlooks (.root hi)
  have hstart : (env.known store main).Reordered 0 (.start (.ofUniverse base) store)
      (.start (.ofUniverse base') store) :=
    ⟨rfl, ⟨rfl, hdistinct, hperm⟩, rfl, nofun, .refl⟩
  obtain ⟨hcorresponds, hs⟩ := (htemplate _ _ hstart).resolve_left fun ⟨_, hnever, _⟩ => hnever
  replace hs : (env.known store main).Reordered 0 _ _ := hs
  have hfinish := congrArg RenderState.finish hs.rest
  rw [renderWithin_eq, renderWithin_eq]
  dsimp only
  rw [hcorresponds.eq, hs.files_eq, hfinish]
  rfl

namespace View

/-! ## Data that are mounted -/

/-- Mounts data one after the other. -/
def mountAll (v : View) (data : List (String × Value)) : View :=
  data.foldl (fun v (name, value) => v.mount name value) v

/-- The view of a project has the project's data mounted. -/
theorem ofProject_eq {files : FileStore} {root : String} {project : Project}
    {data : List (String × Value)} (hproject : Project.read? files root = .ok (some project))
    (hdata : project.readData files root = .ok data) :
    View.ofProject files root = .ok ((ofConfig (project.config root)).mountAll data) := by
  unfold ofProject
  rw [hproject]
  show (project.readData files root >>= _) = _
  rw [hdata]
  rfl

theorem mountAll_eq (v : View) (data : List (String × Value)) :
    v.mountAll data =
      { v with globals := ⟨v.globals.base.insertAll data, v.globals.layers⟩ } := by
  unfold mountAll OrderedMap.insertAll
  induction data generalizing v with
  | nil => rfl
  | cons entry data ih =>
    rw [List.foldl_cons, ih]
    rfl

/-- Data with distinct names are the entries of the universe, in the order they are mounted in. -/
theorem mountAll_eq_of_nodup {v : View} (hempty : v.globals = .empty) {data : List (String × Value)}
    (h : (data.map Prod.fst).Nodup) :
    v.mountAll data = { v with globals := .ofUniverse ⟨data⟩ } := by
  rw [mountAll_eq, hempty]
  exact congrArg (fun base => { v with globals := Scope.ofUniverse base })
    (OrderedMap.ofList_of_nodup h)

/-- Building a template does not look at the data. -/
theorem build_withGlobals (v : View) (globals : Scope) (files : FileStore) :
    ({ v with globals } : View).build files =
      ((v.build files).1, { (v.build files).2.1 with globals }, (v.build files).2.2) := by
  obtain ⟨config, functions, feeds, translator, old, source, template, fromCache, cache⟩ := v
  unfold build cacheFor
  cases template with
  | some template => rfl
  | none =>
    cases source with
    | none => rfl
    | some source =>
      cases source with
      | text text =>
        dsimp only
        cases Template.read text textSource config.fold <;> rfl
      | file path =>
        dsimp only
        generalize loadTemplate _ files path config.fold = loaded
        obtain ⟨result, files'⟩ := loaded
        cases result <;> rfl

theorem functions_build (v : View) (files : FileStore) :
    (v.build files).2.1.functions = v.functions := by
  unfold build
  split
  · rfl
  · rfl
  · split <;> rfl
  · dsimp only
    split <;> rfl

/-- A view renders its template with its data. -/
theorem render_withGlobals (v : View) (globals : Scope) (files : FileStore) :
    (({ v with globals } : View).render files).1 =
      (v.build files).1.bind fun t => (renderDocument (v.build files).2.1.environment globals
        (v.build files).2.2 t).1 := by
  unfold render
  rw [build_withGlobals]
  dsimp only
  cases (v.build files).1 <;> rfl

/-- **A view does not depend on the order in which its data are mounted**, if its template comes to
no expression that reads the universe as a whole, and added functions do not show its order. -/
theorem render_reordered {v : View} {files : FileStore}
    (hempty : v.globals = .empty) (hfunctions : v.functions.IgnoresOrder)
    (hlooks : ∀ t, (v.build files).1 = .ok t →
      (v.build files).2.1.environment.OverlooksUniverse (v.build files).2.2 t)
    {data data' : List (String × Value)} (hdistinct : (data.map Prod.fst).Nodup)
    (hperm : data.Perm data') :
    ((v.mountAll data).render files).1 = ((v.mountAll data').render files).1 := by
  have hdistinct' : (data'.map Prod.fst).Nodup := (hperm.map Prod.fst).nodup_iff.1 hdistinct
  rw [mountAll_eq_of_nodup hempty hdistinct, mountAll_eq_of_nodup hempty hdistinct',
    render_withGlobals, render_withGlobals]
  cases hbuilt : (v.build files).1 with
  | error e => rfl
  | ok t =>
    have henv : (v.build files).2.1.functions.IgnoresOrder := by
      rw [functions_build]
      exact hfunctions
    exact congrArg Prod.fst
      (renderWithin_reordered henv (hlooks t hbuilt) hdistinct hperm nestingLimit)

/-! ## A page that looks up names -/

/-- A page with a title and a list of items. -/
def listSource : String := "<r><b tl:text=\"title\"/><i tl:walk=\"items\" tl:text=\".\"/></r>"

/-- The page as it is read. -/
def listPage : Template :=
  ⟨"<string>", "tl:", none,
    ⟨[⟨"r", "tl:", .empty, [.node 1, .node 2], false, 1, none, "", none⟩,
      ⟨"b", "tl:", .ofList [("tl:text", "title")], [], true, 1, some 0, "", none⟩,
      ⟨"i", "tl:", .ofList [("tl:walk", "items"), ("tl:text", ".")], [], true, 1, some 0, "",
        none⟩], some (.node 0)⟩⟩

/-- A view of the page. -/
def listView : View := (ofConfig .standard).loadText listSource

/-- No element of the page is a directive, is called or has other attributes, and the one that is
walked has nothing inside. -/
theorem nodes_listPage : ∀ n ∈ listPage.tree.nodes, n.directive = none ∧
    n.directiveAttribute? "call" = none ∧ n.plainAttributes = [] ∧
    (n.children = [] ∨ n.walkLayers = 0) := by
  decide +kernel

/-- A title is looked up by its name, and items where a layer is on. -/
theorem expressions_listPage : ∀ n ∈ listPage.tree.nodes,
    (∀ e ∈ n.directiveAttribute? "walk", e = "items") ∧
    ∀ name ∈ guardNames, ∀ e ∈ n.directiveAttribute? name,
      e = "title" ∨ e = "." ∧ n.walkLayers = 1 := by
  decide +kernel

/-- All elements of the page are come to without a layer on. -/
theorem entered_listPage {env : Environment} {store : FileStore} {t : Template} {i l : Nat}
    {mode : Mode} (h : env.Enters store listPage t i mode l) : t = listPage ∧ l = 0 := by
  induction h with
  | root _ => exact ⟨rfl, rfl⟩
  | held _ hopens hj ih =>
    obtain ⟨rfl, rfl⟩ := ih
    obtain ⟨-, -, -, hchildren⟩ := nodes_listPage _ (List.mem_of_getElem? hopens.node)
    refine ⟨rfl, (Nat.zero_add _).trans (hchildren.resolve_left fun hnone => ?_)⟩
    -- an element that puts a layer on has no children
    cases hj with
    | child hj =>
      rw [hnone] at hj
      cases hj
    | param hp _ _ =>
      rw [hnone] at hp
      cases hp
  | included _ hopens _ hincluded _ ih =>
    obtain ⟨rfl, -⟩ := ih
    obtain ⟨n, _, hn, hembed, -⟩ := env.exists_node_of_included hincluded
    have hplain := (nodes_listPage n (List.mem_of_getElem? hn)).1
    cases hplain.symm.trans hembed
  | called _ hopens hcall _ _ _ ih =>
    obtain ⟨rfl, -⟩ := ih
    have hnone := (nodes_listPage _ (List.mem_of_getElem? hopens.node)).2.1
    cases hnone.symm.trans hcall

theorem overlooks_listPage (env : Environment) (store : FileStore) :
    env.OverlooksUniverse store listPage := by
  intro t i mode l n put e henters hopens hevaluates scope iteration hlayers
  obtain ⟨rfl, rfl⟩ := entered_listPage henters
  have hmem := List.mem_of_getElem? hopens.node
  obtain ⟨hplain, hcall, hattributes, -⟩ := nodes_listPage n hmem
  obtain ⟨hwalk, hguards⟩ := expressions_listPage n hmem
  cases hevaluates with
  | walk _ he =>
    obtain rfl := hwalk e he
    exact Expr.overlooks_of_notMem (by decide) (by simp) (by simp)
  | guard _ hname he =>
    rcases hguards _ hname e he with rfl | ⟨rfl, hput⟩
    · exact Expr.overlooks_of_notMem (by decide) (by simp) (by simp)
    · refine Expr.overlooks_of_notMem (by decide) (fun _ => ?_) (by simp)
      show scope.layers.length ≠ 0
      omega
  | argument _ hargument _ => cases hcall.symm.trans hargument
  | written _ _ hentry _ =>
    rw [hattributes] at hentry
    cases hentry
  | value hdirective _ _ => cases hplain.symm.trans hdirective
  | val hdirective => cases hplain.symm.trans hdirective
  | flag hdirective _ => cases hplain.symm.trans hdirective
  | feed hdirective _ _ => cases hplain.symm.trans hdirective
  | key hdirective _ _ => cases hplain.symm.trans hdirective

/-- What the page shows. -/
def listData : List (String × Value) := [("title", .string "T"), ("items", .list [.string "x"])]

/-- The page with its title and items, mounted in either order. -/
theorem render_reordered_listView :
    listView.globals = .empty ∧ listView.functions.IgnoresOrder ∧
    (∀ t, (listView.build (.empty "/" 0)).1 = .ok t →
      (listView.build (.empty "/" 0)).2.1.environment.OverlooksUniverse
        (listView.build (.empty "/" 0)).2.2 t) ∧
    (listData.map Prod.fst).Nodup ∧ listData.Perm listData.reverse ∧
    ((listView.mountAll listData).render (.empty "/" 0)).1 =
      ((listView.mountAll listData.reverse).render (.empty "/" 0)).1 := by
  have hread : (listView.build (.empty "/" 0)).1 = .ok listPage := by decide +kernel
  have hlooks : ∀ t, (listView.build (.empty "/" 0)).1 = .ok t →
      (listView.build (.empty "/" 0)).2.1.environment.OverlooksUniverse
        (listView.build (.empty "/" 0)).2.2 t := by
    intro t ht
    cases hread.symm.trans ht
    exact overlooks_listPage _ _
  have hperm : listData.Perm listData.reverse := listData.reverse_perm.symm
  refine ⟨rfl, Registry.ignoresOrder_empty, hlooks, by decide, hperm, ?_⟩
  exact render_reordered rfl Registry.ignoresOrder_empty hlooks (by decide) hperm

/-! ## A page that shows the order -/

/-- A view of a page that writes the universe. -/
def universeView : View := (ofConfig .standard).loadText "<r><tl:val value=\"/\"/></r>"

/-- What the universe holds. -/
def letterData : List (String × Value) := [("a", .string "1"), ("b", .string "2")]

/-- **A page that writes the universe shows the order of the data.** -/
theorem render_shows_order :
    (letterData.map Prod.fst).Nodup ∧ letterData.Perm letterData.reverse ∧
      ((universeView.mountAll letterData).render (.empty "/" 0)).1 = .ok "<r>1,2</r>" ∧
      ((universeView.mountAll letterData.reverse).render (.empty "/" 0)).1 = .ok "<r>2,1</r>" := by
  refine ⟨by decide, letterData.reverse_perm.symm, ?_, ?_⟩
  · decide +kernel
  · decide +kernel

end View

end TagTemplate
