import TagTemplate.Proofs.Render.Composition
import TagTemplate.Proofs.Slots.Searches
import TagTemplate.View

/-!
# Anchors in documents

What is known of the elements of orderly templates, for whole documents: the output before its slots
are worked off is composed of text and of the slots noted, so that they are found where they stand
and nothing of their anchors is left. Neither holds of all templates and data.

- `Setup.grows_renderTemplate`: the output of a document, before its slots are worked off;
- `View.render_leaves_no_anchor`: **an orderly document has no anchor left in its output**;
- `View.render_keeps_repeated_anchor`: a slot that is mounted and then written twice leaves one;
- `View.finds_slots_as_written`: **an anchor is found where its slot was written**;
- `View.takes_text_for_slot`: data that look like an anchor are taken for it, and so may be the end
  of another anchor.
-/

namespace TagTemplate

open Text Slots Rendering

namespace Setup

variable {S : Setup} {t : Template} {scope : Scope} {depth : Nat} {output : String}

theorem state_start (hscope : scope.Unmarked) : S.State (.start scope S.files) where
  scope := hscope
  iterations := List.forall_mem_nil _
  frames := List.forall_mem_nil _
  macros := List.forall_mem_nil _
  doctype := nofun
  files := .refl

/-- **The output of a document is composed of text and of the slots noted**, and so are the
plugs. -/
theorem grows_renderTemplate (hS : S.Orderly) (ht : S.Admits t) (hscope : scope.Unmarked)
    {s : RenderState}
    (h : (renderTemplate (renderNode S.env depth) t).outcome (.start scope S.files) =
      (.ok output, s)) :
    S.State s ∧ ∃ c is, c.flatten = output.toList ∧ Grows S.plugged .empty s.slots c is := by
  have hself : ∀ (t : Template) (i : Nat) (mode : Mode), S.Admits t →
      S.Writes (Output (t.Plain i)) (renderNode S.env depth t i mode) :=
    fun t i mode ht => writes_renderNode hS depth ht i mode
  obtain ⟨hs, c, is, hout, hgrows⟩ :=
    writes_renderTemplate hself ht _ _ _ (state_start hscope) h
  exact ⟨hs, c, is, hout.flatten, hgrows⟩

/-- The doctype in front holds no mark either. -/
theorem State.unmarked_finish {s : RenderState} (hs : S.State s)
    (h : Text.Unmarked (s.slots.reconcile output).1) : Text.Unmarked (s.finish output) := by
  unfold RenderState.finish
  cases hdoctype : s.doctype with
  | none => exact h
  | some doctype =>
    have hfront : Text.Unmarked (("<!doctype " ++ doctype) ++ ">\n") :=
      unmarked_append (unmarked_append (by decide) (hs.doctype _ hdoctype)) (by decide)
    exact unmarked_append hfront h

/-- No anchor is left in an orderly document. -/
theorem unmarked_renderWithin (hS : S.Orderly) (ht : S.Admits t) (hscope : scope.Unmarked)
    (h : (renderWithin depth S.env scope S.files t).1 = .ok output) : Text.Unmarked output := by
  rw [renderWithin_eq] at h
  generalize hrun : (renderTemplate (renderNode S.env depth) t).outcome (.start scope S.files) = run
    at h
  obtain ⟨result, s⟩ := run
  obtain ⟨composed, rfl, rfl⟩ := map_eq_ok h
  obtain ⟨hs, c, is, hflatten, hgrows⟩ := grows_renderTemplate hS ht hscope hrun
  refine hs.unmarked_finish ?_
  rw [← String.ofList_toList (s := composed), ← hflatten]
  exact hgrows.notMem_reconcile

/-- Every anchor that is found in an orderly document is that of a slot that was written there. -/
theorem found_at_slots (hS : S.Orderly) (ht : S.Admits t) (hscope : scope.Unmarked)
    {s : RenderState} (h : (renderTemplate (renderNode S.env depth) t).outcome
    (.start scope S.files) =
      (.ok output, s)) :
    ∃ c is, s.slots.Composed output c is ∧
      ∀ search ∈ s.slots.searches output, ∀ before after,
        breakOn? (anchor search.name).toList search.output = some (before, after) →
          ∃ d, Reworked is c d ∧ d.flatten = search.output ∧ d.StandsBehind search.name before := by
  obtain ⟨-, c, is, hflatten, hgrows⟩ := grows_renderTemplate hS ht hscope h
  obtain rfl : String.ofList c.flatten = output := by rw [hflatten, String.ofList_toList]
  refine ⟨c, is, hgrows.composed, fun search hsearch before after hfound => ?_⟩
  exact hgrows.spliceable.stands_of_found hsearch hfound

/-! ## Setups without collaborators -/

/-- Loading without a cache leaves the files as they are. -/
theorem files_of_leads (hcache : S.env.cache = none) {before after : FileStore}
    (h : S.Leads before after) : after = before := by
  induction h with
  | refl => rfl
  | tail _ hstep ih =>
    obtain ⟨file, rfl⟩ := hstep
    rw [← ih, hcache]
    unfold loadTemplate
    rw [Option.bind_none]
    dsimp only
    split <;> rfl

/-- Without feeds, translator and cache all that comes from outside are the files. -/
theorem orderly_of_files (hcache : S.env.cache = none) (hfeeds : S.env.feeds = [])
    (htranslator : S.env.translator = none)
    (hfiles : ∀ file text, S.files.readNamed file = .ok text → Text.Unmarked text ∧
      ∀ t, Template.read text file S.env.config.fold = .ok t → S.Admits t) : S.Orderly where
  feeds name run hrun := by
    rw [hfeeds] at hrun
    cases hrun
  translations translate htranslate := by
    rw [htranslator] at htranslate
    cases htranslate
  templates files hleads file loaded hload := by
    -- nothing but the cache writes files while a template is rendered
    obtain rfl := files_of_leads hcache hleads
    rw [hcache] at hload
    unfold loadTemplate at hload
    rw [Option.bind_none] at hload
    dsimp only at hload
    split at hload
    · cases hload
    · rename_i t hread
      cases hload
      obtain ⟨text, htext, ht⟩ := bind_eq_ok hread
      exact (hfiles file text htext).2 t ht
  texts files hleads file text htext := by
    obtain rfl := files_of_leads hcache hleads
    exact (hfiles file text htext).1

end Setup

/-- Nothing can be read where there is only the root. -/
theorem FileStore.readNamed_empty (directory : String) (clock : Nat) (file text : String) :
    (FileStore.empty directory clock).readNamed file ≠ .ok text := by
  intro h
  unfold FileStore.readNamed at h
  split at h
  · rename_i found hfound
    obtain ⟨content, hcontent, -⟩ := bind_eq_ok hfound
    obtain ⟨entry, hentry, hfile⟩ := bind_eq_ok hcontent
    obtain ⟨names, -, hnames⟩ := bind_eq_ok hentry
    split at hnames
    · rename_i e he
      cases hnames
      unfold FileStore.entry? at he
      split at he
      · cases he
        cases hfile
      · cases he
    · cases hnames
  · cases h
  · cases h

namespace View

/-! ## Documents before their slots are worked off -/

/-- The output of a view's template before its slots are worked off, and the state by then. -/
def composed (v : View) (files : FileStore) : Except Error (String × RenderState) :=
  let (built, w, files) := v.build files
  built.bind fun t =>
    let (result, s) :=
      (renderTemplate (renderNode w.environment nestingLimit) t).outcome (.start w.globals files)
    result.map fun output => (output, s)

/-- What a view renders is the composed output with its slots worked off. -/
theorem render_eq_composed (v : View) (files : FileStore) :
    (v.render files).1 = (v.composed files).map fun p => p.2.finish p.1 := by
  unfold render composed
  generalize v.build files = built
  obtain ⟨result, w, files⟩ := built
  cases result with
  | error e => rfl
  | ok t =>
    dsimp only [Except.bind]
    rw [renderDocument, renderWithin_eq]
    generalize (renderTemplate (renderNode w.environment nestingLimit) t).outcome
      (.start w.globals files) = run
    obtain ⟨result, s⟩ := run
    cases result <;> rfl

/-! ## No anchor is left -/

/-- **An orderly document has no anchor left in its output.** -/
theorem render_leaves_no_anchor {v w : View} {before files : FileStore} {t : Template}
    {plugged : String → Prop} (hbuild : v.build before = (.ok t, w, files))
    (horderly : Setup.Orderly ⟨w.environment, files, plugged⟩)
    (ht : t.Orderly w.functions plugged) (hdata : w.globals.Unmarked) {output : String}
    (hrender : (v.render before).1 = .ok output) : anchorMark ∉ output.toList := by
  unfold render at hrender
  rw [hbuild] at hrender
  exact Setup.unmarked_renderWithin horderly ht hdata hrender

/-- A page with a value, a slot and a plug. -/
def slotPage : String :=
  "<r><tl:val value=\"x\"/><p tl:slot=\"a\">D</p><q tl:plug=\"a\">Q</q></r>"

/-- The elements of the page. -/
def slotTemplate : Template :=
  ⟨textSource, "tl:", none,
    ⟨[⟨"r", "tl:", ⟨[]⟩, [.node 1, .node 2, .node 3], false, 1, none, "", none⟩,
      ⟨"tl:val", "tl:", ⟨[("value", "x")]⟩, [], true, 1, some 0, "", some .val⟩,
      ⟨"p", "tl:", ⟨[("tl:slot", "a")]⟩, [.text "D"], false, 1, some 0, "", none⟩,
      ⟨"q", "tl:", ⟨[("tl:plug", "a")]⟩, [.text "Q"], false, 1, some 0, "D", none⟩],
      some (.node 0)⟩⟩

/-- Every element of the page keeps its slots in place. -/
theorem orderly_slotTemplate (functions : Registry) :
    slotTemplate.Orderly functions (· = "a") where
  nodes := by
    have hnames : ∀ n ∈ slotTemplate.tree.nodes,
        (Text.Unmarked n.tag ∧ Text.Unmarked n.precedingText) ∧
        (∀ a ∈ n.attributes.entries,
          Text.Unmarked a.1 ∧ anchorMark ∉ a.2.toList ∧ '(' ∉ a.2.toList) ∧
        (∀ name ∈ n.directiveAttribute? "slot", name ≠ "slot" ∧ n.children = [.text "D"]) ∧
        (∀ name ∈ n.directiveAttribute? "plug", name = "a") ∧
        (n.directive = none ∨ n.directive = some .val) ∧
        ∀ c ∈ n.children, c = .text "D" ∨ c = .text "Q" ∨ c ∈ [.node 1, .node 2, .node 3] := by
      decide
    intro n hn
    obtain ⟨⟨htag, hpreceding⟩, hattributes, hslot, hplug, hdirective, hchildren⟩ := hnames n hn
    refine
      { tag := htag
        attributes := fun a ha => ?_
        texts := fun content hcontent => ?_
        precedingText := hpreceding
        slot := fun name hname => (hslot name hname).1
        pluggedSlot := fun name hname _ i hi => ?_
        plug := hplug
        captured := fun hcaptures => ?_ }
    · obtain ⟨hname, hmark, hcall⟩ := hattributes a ha
      exact ⟨hname, Expr.harmless_of_notMem hmark hcall⟩
    · rcases hchildren _ hcontent with h | h | h
      · cases h
        decide
      · cases h
        decide
      · simp at h
    · rw [(hslot name hname).2] at hi
      simp at hi
    · rcases hdirective with h | h <;> simp [Node.Captures, h] at hcaptures
  root := nofun

/-- A view of the page with a text for the value. -/
def slotView (text : String) : View :=
  ((ofConfig .standard).mount "x" (.string text)).loadText slotPage

/-- A template that is given as a text is built without files. -/
theorem build_text {v : View} {source : String} {t : Template} (htemplate : v.template = none)
    (hsource : v.source = some (.text source))
    (hread : Template.read source textSource v.config.fold = .ok t) (files : FileStore) :
    v.build files = (.ok t, { v with template := some t, fromCache := false }, files) := by
  unfold build
  rw [htemplate, hsource]
  dsimp only
  rw [hread]

/-- What the page is read as, and what it comes to with a text and with an anchor for the value. -/
theorem slotPage_evaluates :
    Text.Unmarked slotPage ∧ Template.read slotPage textSource true = .ok slotTemplate ∧
      (((slotView "v").composed (.empty "/" 0)).map fun p => (p.1, p.2.finish p.1)) =
        .ok ("<r>v" ++ anchor "a" ++ "<p>D</p></r>", "<r>v<q>Q</q></r>") ∧
      (((slotView (anchor "a")).composed (.empty "/" 0)).map fun p =>
          ((p.1, p.2.slots.lengths.keys), p.2.finish p.1)) =
        .ok (("<r>" ++ anchor "a" ++ (anchor "a" ++ "<p>D</p></r>"), ["a"]),
          "<r><q>Q</q><p>D</p></r>") := by
  decide +kernel

theorem build_slotView (text : String) :
    (slotView text).build (.empty "/" 0) =
      (.ok slotTemplate, { slotView text with template := some slotTemplate, fromCache := false },
        .empty "/" 0) := by
  have hfold : (slotView text).config.fold = true := rfl
  refine build_text rfl rfl ?_ _
  rw [hfold]
  exact slotPage_evaluates.2.1

/-- Nothing comes from outside but the text. -/
theorem orderly_slotView (text : String) (plugged : String → Prop) :
    Setup.Orderly ⟨(slotView text).environment, .empty "/" 0, plugged⟩ :=
  Setup.orderly_of_files rfl rfl rfl fun file found hfound =>
    absurd hfound (FileStore.readNamed_empty "/" 0 file found)

theorem unmarked_slotView {text : String} (h : Text.Unmarked text) :
    (slotView text).globals.Unmarked where
  base := Value.unmarked_empty.insert (by decide) (.string h)
  layers := List.forall_mem_nil _

/-- With a text without marks the page shows the text and the plug. -/
theorem render_slotView :
    ((slotView "v").render (.empty "/" 0)).1 = .ok "<r>v<q>Q</q></r>" ∧
      anchorMark ∉ "<r>v<q>Q</q></r>".toList := by
  have hrender : ((slotView "v").render (.empty "/" 0)).1 = .ok "<r>v<q>Q</q></r>" := by
    obtain ⟨p, hcomposed, hpair⟩ := map_eq_ok slotPage_evaluates.2.2.1
    rw [render_eq_composed, hcomposed]
    exact congrArg Except.ok (Prod.mk.inj hpair).2
  exact ⟨hrender, render_leaves_no_anchor (build_slotView "v") (orderly_slotView "v" _)
    (orderly_slotTemplate _) (unmarked_slotView (by decide)) hrender⟩

/-- The content of the slot `s` is mounted and written twice. -/
def repeatedPage : String :=
  "<r><tl:mount target=\"m\"><b tl:slot=\"s\">B</b></tl:mount>" ++
    "<tl:val value=\"/m\"/><tl:val value=\"/m\"/></r>"

/-- **A slot that is written twice keeps an anchor**, although the page holds no mark: reconciling
takes out the first one only. -/
theorem render_keeps_repeated_anchor :
    Text.Unmarked repeatedPage ∧
      (((ofConfig .standard).loadText repeatedPage).render (.empty "/" 0)).1 =
        .ok ("<r><b>B</b>" ++ anchor "s" ++ "<b>B</b></r>") := by
  decide +kernel

/-! ## Anchors are found at their slots -/

/-- **An anchor is found where its slot was written**: the output of an orderly document is composed
of text without marks and of slots, and in it, and in what becomes of it while its slots are worked
off, each anchor that is searched for is found where the slot stands. -/
theorem finds_slots_as_written {v w : View} {before files : FileStore} {t : Template}
    {plugged : String → Prop} (hbuild : v.build before = (.ok t, w, files))
    (horderly : Setup.Orderly ⟨w.environment, files, plugged⟩)
    (ht : t.Orderly w.functions plugged) (hdata : w.globals.Unmarked) {output : String}
    {s : RenderState} (hcomposed : v.composed before = .ok (output, s)) :
    ∃ c is, s.slots.Composed output c is ∧
      ∀ search ∈ s.slots.searches output, ∀ front rest,
        breakOn? (anchor search.name).toList search.output = some (front, rest) →
          ∃ d, Reworked is c d ∧ d.flatten = search.output ∧ d.StandsBehind search.name front := by
  unfold composed at hcomposed
  rw [hbuild] at hcomposed
  obtain ⟨composed, hresult, hpair⟩ := map_eq_ok hcomposed
  obtain ⟨rfl, rfl⟩ := Prod.mk.inj hpair
  exact Setup.found_at_slots horderly ht hdata (Prod.ext hresult rfl)

/-- With a text without marks the one slot of the page is the one that is found. -/
theorem finds_slots_of_slotView :
    ∃ s, (slotView "v").composed (.empty "/" 0) = .ok ("<r>v" ++ anchor "a" ++ "<p>D</p></r>", s) ∧
      ∃ c is, s.slots.Composed ("<r>v" ++ anchor "a" ++ "<p>D</p></r>") c is ∧
        ∀ search ∈ s.slots.searches ("<r>v" ++ anchor "a" ++ "<p>D</p></r>"), ∀ front rest,
          breakOn? (anchor search.name).toList search.output = some (front, rest) →
            ∃ d, Reworked is c d ∧ d.flatten = search.output ∧
              d.StandsBehind search.name front := by
  obtain ⟨⟨output, s⟩, hcomposed, hpair⟩ := map_eq_ok slotPage_evaluates.2.2.1
  obtain ⟨rfl, -⟩ := Prod.mk.inj hpair
  exact ⟨s, hcomposed, finds_slots_as_written (build_slotView "v") (orderly_slotView "v" _)
    (orderly_slotTemplate _) (unmarked_slotView (by decide)) hcomposed⟩

/-- A slot named `slot` is mounted and written behind the text of another slot. -/
def reservedPage : String :=
  "<r><tl:mount target=\"m\"><b tl:slot=\"slot\">X</b></tl:mount>" ++
    "<p tl:slot=\"a\" tl:mute=\"true\">slot<tl:val value=\"/m\"/></p></r>"

/-- **Text may be taken for an anchor.** A value that looks like the anchor of the slot `a` is found
in its place, and the plug goes where the value was. The end of one anchor and the text behind it
may be taken for the anchor of a slot named `slot`, without any mark in page and data. -/
theorem takes_text_for_slot :
    (Text.Unmarked slotPage ∧
      (∃ s, (slotView (anchor "a")).composed (.empty "/" 0) =
          .ok ("<r>" ++ anchor "a" ++ (anchor "a" ++ "<p>D</p></r>"), s) ∧
        ⟨"a", ("<r>" ++ anchor "a" ++ (anchor "a" ++ "<p>D</p></r>")).toList⟩ ∈
          s.slots.searches ("<r>" ++ anchor "a" ++ (anchor "a" ++ "<p>D</p></r>"))) ∧
      breakOn? (anchor "a").toList ("<r>" ++ anchor "a" ++ (anchor "a" ++ "<p>D</p></r>")).toList =
        some ("<r>".toList, (anchor "a" ++ "<p>D</p></r>").toList) ∧
      ((slotView (anchor "a")).render (.empty "/" 0)).1 = .ok "<r><q>Q</q><p>D</p></r>") ∧
    Text.Unmarked reservedPage ∧
      (∃ s, ((ofConfig .standard).loadText reservedPage).composed (.empty "/" 0) =
          .ok ("<r>" ++ anchor "a" ++ "slot" ++ anchor "slot" ++ "<b>X</b></r>", s) ∧
        ⟨"slot", ("<r>" ++ anchor "a" ++ "slot" ++ anchor "slot" ++ "<b>X</b></r>").toList⟩ ∈
          s.slots.searches ("<r>" ++ anchor "a" ++ "slot" ++ anchor "slot" ++ "<b>X</b></r>")) ∧
      breakOn? (anchor "slot").toList
          ("<r>" ++ anchor "a" ++ "slot" ++ anchor "slot" ++ "<b>X</b></r>").toList =
        some ("<r>\x1fslot\x1fa".toList, "slot\x1f<b>X</b></r>".toList) := by
  obtain ⟨hunmarked, -, -, hpage⟩ := slotPage_evaluates
  have hreserved : Text.Unmarked reservedPage ∧
      (((ofConfig .standard).loadText reservedPage).composed (.empty "/" 0)).map
          (fun p => (p.1, p.2.slots.lengths.keys)) =
        .ok ("<r>" ++ anchor "a" ++ "slot" ++ anchor "slot" ++ "<b>X</b></r>", ["slot", "a"]) := by
    decide +kernel
  refine ⟨⟨hunmarked, ?_, by decide, ?_⟩, hreserved.1, ?_, by decide⟩
  · obtain ⟨⟨output, s⟩, hcomposed, hpair⟩ := map_eq_ok hpage
    obtain ⟨rfl, hkeys⟩ := Prod.mk.inj (Prod.mk.inj hpair).1
    exact ⟨s, hcomposed, mem_searches_head hkeys _⟩
  · obtain ⟨p, hcomposed, hpair⟩ := map_eq_ok hpage
    rw [render_eq_composed, hcomposed]
    exact congrArg Except.ok (Prod.mk.inj hpair).2
  · obtain ⟨⟨output, s⟩, hcomposed, hpair⟩ := map_eq_ok hreserved.2
    obtain ⟨rfl, hkeys⟩ := Prod.mk.inj hpair
    exact ⟨s, hcomposed, mem_searches_head hkeys _⟩

end View

end TagTemplate
