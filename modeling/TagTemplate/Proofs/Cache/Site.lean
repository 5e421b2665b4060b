import TagTemplate.Proofs.Cache.History
import TagTemplate.Proofs.Render.Inclusion

/-!
# Pages with and without a cache

The pages of a site stand below the templates root, and their templates name no other files. Beside
a store in which pages are cached stands one in which they are not. A load writes into the first one
and leaves the second one as it is; the pages stay the same.

- `Site`: the pages that a cache is made for;
- `Site.Closed`, `Site.Takes`: templates that name pages only, and texts of such templates;
- `Site.Alike`: a store with a faithful cache beside one with the same pages;
- `Site.Alike.load`, `Site.Alike.write`: what happens to pages keeps the stores alike;
- `Site.matches_renderNode`: **elements render to the same with a cache and without**;
- `Site.renderWithin_uncached`: and so do documents, with all that they include.
-/

namespace TagTemplate

open Rendering

/-! ## Files that are preserved -/

namespace FileStore

open FilePath

variable {s s' : FileStore} {names : List (List Char)}

/-- What is preserved is read as before. -/
theorem Preserves.readText (h : Preserves names s s') (hnames : AreNames names) (hne : names ≠ [])
    {text : String} (htext : s.readText (key names) = .ok text) :
    s'.readText (key names) = .ok text := by
  obtain ⟨changed, hentry, -⟩ := Cache.entry?_of_readText hnames hne htext
  have hresolve := Cache.resolve_of_readText hnames hne htext
  refine Cache.readText_of_entry ?_ (h.file _ changed hentry)
  exact resolve_of_directories h.workingDirectory
    (fun others time hothers hdirectory => ⟨time, h.directory others time hothers hdirectory⟩)
    hresolve

/-- A file that can be read can be written. -/
theorem exists_writeFile?_of_readText (hnames : AreNames names) (hne : names ≠ []) {text : String}
    (htext : s.readText (key names) = .ok text) (content : ByteArray) :
    ∃ written, s.writeFile? (key names) content = some written := by
  obtain ⟨changed, hentry, -⟩ := Cache.entry?_of_readText hnames hne htext
  have hresolve : s.tick.resolve (key names) = .ok names :=
    resolve_of_directories (s := s) rfl (fun _ time _ hdirectory => ⟨time, hdirectory⟩)
      (Cache.resolve_of_readText hnames hne htext)
  have htick : FileStore.entry? s.tick names = some (.file text.toUTF8 changed) := hentry
  refine ⟨s.tick.setEntry names (.file content s.tick.clock), ?_⟩
  unfold writeFile? putFile?
  rw [hresolve]
  dsimp only
  rw [htick]

theorem workingDirectory_writeFile? {path : String} {content : ByteArray}
    (h : s.writeFile? path content = some s') : s'.workingDirectory = s.workingDirectory := by
  obtain ⟨_, -, -, -, -, rfl⟩ := writeFile?_eq_some h
  rfl

end FileStore

namespace Cache

variable {c : Cache} {s s' : FileStore} {source path : String}

/-- Writing a source gives it its text. -/
theorem readText_of_writeFile? (hsource : c.Serves s.workingDirectory source) {text : String}
    (hwrite : s.writeFile? source text.toUTF8 = some s') : s'.readText source = .ok text := by
  have hruns : c.Runs s.workingDirectory [] := fun _ hmem => absurd hmem List.not_mem_nil
  exact readText_after hsource hwrite hruns fun _ => List.not_mem_nil

/-- Writing a source leaves the text of every other one. -/
theorem readText_writeFile? (hsource : c.Serves s.workingDirectory source)
    (hpath : c.Serves s.workingDirectory path) {content : ByteArray}
    (hwrite : s.writeFile? source content = some s') (hne : path ≠ source)
    {text : String} (htext : s.readText path = .ok text) : s'.readText path = .ok text := by
  obtain ⟨names, hnames, rfl⟩ := hsource
  obtain ⟨others, hothers, rfl⟩ := hpath
  refine FileStore.Preserves.readText ?_ hothers.areNames hothers.names_ne_nil htext
  refine .writeFile? hwrite hothers.areNames.slashless ?_
  rw [FilePath.place?_key _ hnames.areNames hnames.names_ne_nil]
  intro heq
  cases heq
  exact hne rfl

end Cache

/-! ## Sites -/

/-- The pages that a cache is made for. -/
structure Site where
  cache : Cache
  workingDirectory : String
  page : String → Prop
  serves : ∀ {path}, page path → cache.Serves workingDirectory path

/-- The files that a template includes, or writes as they are. -/
def Template.namedFiles (t : Template) : List String :=
  (t.tree.nodes.filter fun n => n.directive = some .embed ∨ n.directive = some .cdata).map
    (required · "file")

theorem Template.mem_namedFiles {t : Template} {n : Node} (hn : n ∈ t.tree.nodes)
    (hdirective : n.directive = some .embed ∨ n.directive = some .cdata) :
    required n "file" ∈ t.namedFiles :=
  List.mem_map_of_mem (List.mem_filter.2 ⟨hn, decide_eq_true hdirective⟩)

/-- The environment without its cache. -/
def Environment.uncached (env : Environment) : Environment :=
  { env with config := { env.config with cacheRoot := none }, cache := none }

namespace Site

/-- The environment of a rendering on the site, which may not have opened the cache yet. -/
structure Suits (site : Site) (env : Environment) : Prop where
  templatesRoot : env.config.templatesRoot = some site.cache.templatesRoot
  cache : env.cache = none ∨ env.cache = some site.cache

/-- All files that the template names are pages. -/
def Closed (site : Site) (t : Template) : Prop :=
  ∀ env files, site.Suits env → files.workingDirectory = site.workingDirectory →
    ∀ file ∈ t.namedFiles, site.page (resolveFile env t files file)

/-- What is read from the text names pages only, whichever way it is built. -/
def Takes (site : Site) (source text : String) : Prop :=
  ∀ fold t, Template.read text source fold = .ok t → site.Closed t

/-- A store in which pages are cached, and one with the same pages. -/
structure Alike (site : Site) (cached plain : FileStore) : Prop where
  workingDirectory_cached : cached.workingDirectory = site.workingDirectory
  workingDirectory_plain : plain.workingDirectory = site.workingDirectory
  faithful : site.cache.Faithful cached
  reads : ∀ {path}, site.page path → ∃ text, cached.readText path = .ok text ∧
    plain.readText path = .ok text ∧ site.Takes path text

variable {site : Site} {cached plain : FileStore} {path : String}

/-- Without a cache a load reads the source. -/
theorem loadTemplate_uncached {s : FileStore} {text : String} (h : s.readText path = .ok text)
    (fold : Bool) :
    (loadTemplate none s path fold).1.map Loaded.template = Template.read text path fold ∧
      (loadTemplate none s path fold).2 = s := by
  unfold loadTemplate
  rw [Option.bind_none, Cache.readTemplate_of_readText h]
  cases Template.read text path fold <;> exact ⟨rfl, rfl⟩

namespace Alike

variable (h : site.Alike cached plain)

include h

/-- **A page is loaded alike**, through the cache and without it. -/
theorem load (hpage : site.page path) {cache : Option Cache}
    (hcache : cache = none ∨ cache = some site.cache) (fold : Bool) :
    (loadTemplate cache cached path fold).1.map Loaded.template =
        (loadTemplate none plain path fold).1.map Loaded.template ∧
      (∀ loaded, (loadTemplate cache cached path fold).1 = .ok loaded →
        site.Closed loaded.template) ∧
      site.Alike (loadTemplate cache cached path fold).2 (loadTemplate none plain path fold).2 := by
  obtain ⟨text, hcached, hplain, htakes⟩ := h.reads hpage
  obtain ⟨hread, hfiles⟩ := loadTemplate_uncached hplain fold
  rw [hread, hfiles]
  have hclosed : (loadTemplate cache cached path fold).1.map Loaded.template =
      Template.read text path fold →
      ∀ loaded, (loadTemplate cache cached path fold).1 = .ok loaded →
        site.Closed loaded.template := by
    intro heq loaded hloaded
    rw [hloaded] at heq
    exact htakes fold _ heq.symm
  rcases hcache with rfl | rfl
  · obtain ⟨hread', hfiles'⟩ := loadTemplate_uncached hcached fold
    rw [hfiles']
    exact ⟨hread', hclosed hread', h⟩
  · obtain ⟨names, hcovers, rfl⟩ := site.serves hpage
    rw [← h.workingDirectory_cached] at hcovers
    have hsame := Cache.loadTemplate_of_faithful h.faithful hcovers hcached fold
    refine ⟨hsame, hclosed hsame, ?_⟩
    have hworking := (Cache.preserves_load hcovers hcovers fold).workingDirectory
    refine ⟨hworking.trans h.workingDirectory_cached, h.workingDirectory_plain,
      Cache.faithful_load h.faithful hcovers fold, fun {other} hother => ?_⟩
    -- the load leaves all pages as they are
    obtain ⟨text', hcached', hplain', htakes'⟩ := h.reads hother
    obtain ⟨others, hothers, rfl⟩ := site.serves hother
    rw [← h.workingDirectory_cached] at hothers
    exact ⟨text', (Cache.preserves_load hothers hcovers fold).readText hothers.areNames
      hothers.names_ne_nil hcached', hplain', htakes'⟩

/-- **A page is rewritten alike.** -/
theorem write (hpage : site.page path) {text : String} (htakes : site.Takes path text) :
    site.Alike ((cached.writeFile? path text.toUTF8).getD cached)
      ((plain.writeFile? path text.toUTF8).getD plain) := by
  obtain ⟨old, hcached, hplain, -⟩ := h.reads hpage
  obtain ⟨names, hcovers, rfl⟩ := site.serves hpage
  have hnames := hcovers.areNames
  have hne := hcovers.names_ne_nil
  obtain ⟨cached', hwritten⟩ :=
    FileStore.exists_writeFile?_of_readText hnames hne hcached text.toUTF8
  obtain ⟨plain', hwritten'⟩ :=
    FileStore.exists_writeFile?_of_readText hnames hne hplain text.toUTF8
  have hserves : site.cache.Serves cached.workingDirectory (FileStore.key names) :=
    h.workingDirectory_cached.symm ▸ site.serves hpage
  have hserves' : site.cache.Serves plain.workingDirectory (FileStore.key names) :=
    h.workingDirectory_plain.symm ▸ site.serves hpage
  have hfaithful := Cache.faithful_write h.faithful (h.workingDirectory_cached.symm ▸ hcovers)
    text.toUTF8
  rw [hwritten] at hfaithful
  rw [hwritten, hwritten']
  refine ⟨?_, ?_, hfaithful, fun {other} hother => ?_⟩
  · exact (FileStore.workingDirectory_writeFile? hwritten).trans h.workingDirectory_cached
  · exact (FileStore.workingDirectory_writeFile? hwritten').trans h.workingDirectory_plain
  · by_cases heq : other = FileStore.key names
    · subst heq
      exact ⟨text, Cache.readText_of_writeFile? hserves hwritten,
        Cache.readText_of_writeFile? hserves' hwritten', htakes⟩
    · obtain ⟨text', hcached', hplain', htakes'⟩ := h.reads hother
      have hothers := site.serves hother
      exact ⟨text', Cache.readText_writeFile? hserves (h.workingDirectory_cached.symm ▸ hothers)
          hwritten heq hcached',
        Cache.readText_writeFile? hserves' (h.workingDirectory_plain.symm ▸ hothers)
          hwritten' heq hplain', htakes'⟩

end Alike

/-! ## Rendering -/

/-- The elements of closed templates beside themselves, over stores that are alike. -/
def pairing (site : Site) : Pairing where
  counterparts t₁ t₂ i₁ i₂ := t₂ = t₁ ∧ i₂ = i₁ ∧ site.Closed t₁
  files _ := True
  mirror := site.Alike
  workingDirectory_mirror h := h.workingDirectory_plain.trans h.workingDirectory_cached.symm
  error := Eq
  error_refl _ _ := rfl
  stops _ := False

/-- Rendering does not ask where the cache is, only for what is in it. -/
theorem renderNode_uncached (env : Environment) (depth : Nat) :
    renderNode env.uncached depth = renderNode (env.reading env.config.fold none) depth := by
  induction depth with
  | zero => rfl
  | succ depth ih =>
    show renderWith env.uncached (renderNode env.uncached depth) = _
    rw [ih]
    rfl

variable {env : Environment} {t : Template} {n : Node}

/-- Both sides load a page as the same template, which is closed. -/
theorem matches_load (henv : site.Suits env) (hpage : site.page path) :
    site.pairing.Matches (fun t₁ t₂ => t₂ = t₁ ∧ site.Closed t₁) (load env path)
      (load (env.reading env.config.fold none) path) := by
  intro s₁ s₂ (hs : site.pairing.Beside s₁ s₂)
  have halike : site.Alike s₁.files s₂.files := hs.mirror
  obtain ⟨hsame, hclosed, hloaded⟩ := halike.load hpage henv.cache env.config.fold
  refine .inr ⟨?_, ?_, hs.macros, trivial, hloaded, hs.level⟩
  · show Corresponds _ _ ((loadTemplate env.cache s₁.files path env.config.fold).1.map _)
      ((loadTemplate none s₂.files path env.config.fold).1.map _)
    rw [← hsame]
    cases hresult : (loadTemplate env.cache s₁.files path env.config.fold).1 with
    | error e => exact .error rfl
    | ok loaded => exact .ok ⟨rfl, hclosed loaded hresult⟩
  · exact congrArg (fun s : RenderState =>
      { s with files := (loadTemplate none s₂.files path env.config.fold).2 }) hs.rest

/-- A page is written as it is on both sides. -/
theorem matches_renderCData (henv : site.Suits env) (ht : site.Closed t) (hn : n ∈ t.tree.nodes)
    (hcdata : n.directive = some .cdata) :
    site.pairing.Matches Eq (renderCData env t n) (renderCData env t n) := by
  intro s₁ s₂ (hs : site.pairing.Beside s₁ s₂)
  have halike : site.Alike s₁.files s₂.files := hs.mirror
  have houtcome : ∀ s, (renderCData env t n).outcome s =
      (s.files.readNamed (resolveFile env t s.files (required n "file")), s) := fun _ => rfl
  have hpage := ht env s₁.files henv halike.workingDirectory_cached _
    (Template.mem_namedFiles hn (.inr hcdata))
  obtain ⟨text, hcached, hplain, -⟩ := halike.reads hpage
  have hfile : resolveFile env t s₁.files (required n "file") =
      resolveFile env t s₂.files (required n "file") := resolveFile_eq hs rfl _
  rw [houtcome, houtcome, ← hfile, FileStore.readNamed, FileStore.readNamed, hcached, hplain]
  exact .inr ⟨.ok rfl, hs⟩

/-- A page is included on both sides, if closed templates render to the same. -/
theorem matches_renderIncluded (henv : site.Suits env) (ht : site.Closed t)
    (hn : n ∈ t.tree.nodes) (hembed : n.directive = some .embed) {self₁ self₂ : NodeRenderer}
    (hself : ∀ u, site.Closed u → ∀ i,
      site.pairing.Matches Eq (self₁ u i .normal) (self₂ u i .normal)) :
    site.pairing.Matches Eq (renderIncluded env self₁ t n)
      (renderIncluded (env.reading env.config.fold none) self₂ t n) := by
  intro s₁ s₂ (hs : site.pairing.Beside s₁ s₂)
  have halike : site.Alike s₁.files s₂.files := hs.mirror
  have hpage := ht env s₁.files henv halike.workingDirectory_cached _
    (Template.mem_namedFiles hn (.inl hembed))
  have hfile : resolveFile env t s₁.files (required n "file") =
      resolveFile (env.reading env.config.fold none) t s₂.files (required n "file") :=
    resolveFile_eq hs rfl _
  rw [outcome_renderIncluded, outcome_renderIncluded, ← hfile]
  refine matches_bind (matches_load henv hpage) ?_ s₁ s₂ hs
  rintro _ u ⟨rfl, hu⟩
  have hroot : (site.pairing.onLevels fun _ => True).Matches Eq (renderTemplate self₁ u)
      (renderTemplate self₂ u) := matches_sameRoot rfl fun i _ => hself u hu i
  exact Pairing.matches_withInclude (fun _ _ => trivial) (fun _ _ => trivial) hroot

/-- **The elements of a closed template render to the same** with a cache and without, at every
depth. -/
theorem matches_renderNode (henv : site.Suits env) (depth : Nat) (ht : site.Closed t) (i : Nat)
    (mode : Mode) :
    site.pairing.Matches Eq (renderNode env depth t i mode)
      (renderNode (env.reading env.config.fold none) depth t i mode) := by
  induction depth generalizing t i mode with
  | zero => exact matches_throw trivial
  | succ depth ih =>
    have hown : OwnKin site.pairing t :=
      ⟨trivial, fun _ => ⟨rfl, rfl, ht⟩, fun _ _ _ _ => congrArg _, fun _ _ _ => id⟩
    refine matches_atNode_same trivial hown.annotated hown.stops i fun n hn => ?_
    have hmem := List.mem_of_getElem? hn
    refine @matches_sameElement env env.config.fold env.config.fold env.cache none
      env.config.maxIncludeDepth env.config.maxIncludeDepth _ t _ _ n env.raises_any hown hmem
      (fun j _ => ih ht j .normal) ?_ i (fun _ _ => ⟨rfl, rfl, ht⟩)
      (matches_renderCData henv ht hmem) (fun hembed => ?_) mode
    · rintro name d d' - ⟨htemplate, hnode, hd⟩
      rw [htemplate, hnode]
      exact ih hd d.node .called
    · exact @matches_renderEmbed env env.config.fold env.config.fold env.cache none
        _ _ _ _ _ _ _ _ _ env.raises_any (hown.kin hmem fun j _ => ih ht j .normal) fun _ =>
          matches_renderIncluded henv ht hmem hembed fun u hu j => ih hu j .normal

/-- **A document comes to the same with a cache and without**, and so do all pages that it
includes. -/
theorem renderWithin_uncached (henv : site.Suits env) (ht : site.Closed t)
    (h : site.Alike cached plain) (depth : Nat) (scope : Scope) :
    (renderWithin depth env scope cached t).1 = (renderWithin depth env.uncached scope plain t).1 ∧
      site.Alike (renderWithin depth env scope cached t).2
        (renderWithin depth env.uncached scope plain t).2 := by
  have hroot : site.pairing.Matches Eq (renderTemplate (renderNode env depth) t)
      (renderTemplate (renderNode env.uncached depth) t) := by
    rw [renderNode_uncached]
    exact matches_sameRoot rfl fun i _ => matches_renderNode henv depth ht i .normal
  have hstart : site.pairing.Beside (.start scope cached) (.start scope plain) :=
    Pairing.beside_start scope trivial h trivial
  obtain ⟨hresult, hs⟩ := (hroot _ _ hstart).resolve_left fun ⟨_, hstops, _⟩ => hstops
  rw [renderWithin_eq, renderWithin_eq]
  generalize (renderTemplate (renderNode env depth) t).outcome _ = p at hresult hs ⊢
  generalize (renderTemplate (renderNode env.uncached depth) t).outcome _ = q at hresult hs ⊢
  obtain ⟨a, s₁⟩ := p
  obtain ⟨b, s₂⟩ := q
  replace hs : site.pairing.Beside s₁ s₂ := hs
  have hab : a = b := hresult.eq
  refine ⟨?_, hs.mirror⟩
  dsimp only
  rw [hab, hs.finish_eq]

end Site

end TagTemplate
