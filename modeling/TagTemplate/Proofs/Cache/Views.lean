import TagTemplate.Proofs.Cache.History
import TagTemplate.View

/-!
# Views with and without a cache

A view with a templates root has one cache all the time, so the cache makes no difference to what
it builds. Without a templates root the directory of each file stands in for it: then templates of
the same name share a cache file.

- `build_text_eq`, `build_file_eq`: what building does;
- `files_build`: building is a load through the view's cache, or changes no file;
- `build_uncached`: a view with a templates root builds what it builds without a cache;
- `render_shares_cacheFile`: a view without one may take a template for another.
-/

namespace TagTemplate.View

/-- The view without a cache. -/
def uncached (v : View) : View := { v with config := { v.config with cacheRoot := none } }

variable {v : View} {s : FileStore} {c : Cache}

/-- The cache of a view with a templates root is the same for all files. -/
structure Uses (v : View) (c : Cache) : Prop where
  cacheRoot : v.config.cacheRoot = some c.cacheRoot
  templatesRoot : v.config.templatesRoot = some c.templatesRoot

theorem Uses.cacheFor (h : v.Uses c) (path : String) : v.cacheFor path = some c := by
  rw [View.cacheFor, h.cacheRoot, h.templatesRoot]
  rfl

/-- A text is built without any files. -/
theorem build_text_eq {text : String} (htemplate : v.template = none)
    (hsource : v.source = some (.text text)) :
    v.build s = match Template.read text textSource v.config.fold with
      | .error e => (.error e, v, s)
      | .ok template =>
        (.ok template, { v with template := some template, fromCache := false }, s) := by
  cases v
  subst htemplate hsource
  rfl

/-- A file is loaded through the cache that the view opens for it. -/
theorem build_file_eq {path : String} (htemplate : v.template = none)
    (hsource : v.source = some (.file path)) :
    v.build s = match loadTemplate (v.cacheFor path) s path v.config.fold with
      | (.error e, s') => (.error e, { v with cache := v.cacheFor path }, s')
      | (.ok ⟨template, fromCache⟩, s') =>
        (.ok template,
          { v with cache := v.cacheFor path, template := some template, fromCache }, s') := by
  unfold build
  rw [htemplate, hsource]
  dsimp only
  generalize loadTemplate (v.cacheFor path) s path v.config.fold = loaded
  obtain ⟨_ | _, _⟩ := loaded <;> rfl

/-- What a view builds from a file is what a load through its cache gives. -/
theorem build_file {path : String} (htemplate : v.template = none)
    (hsource : v.source = some (.file path)) :
    (v.build s).1 = (loadTemplate (v.cacheFor path) s path v.config.fold).1.map Loaded.template ∧
      (v.build s).2.2 = (loadTemplate (v.cacheFor path) s path v.config.fold).2 := by
  rw [build_file_eq htemplate hsource]
  generalize loadTemplate (v.cacheFor path) s path v.config.fold = loaded
  obtain ⟨result, files⟩ := loaded
  cases result <;> exact ⟨rfl, rfl⟩

/-- What is not built from a file needs no files. -/
theorem build_elsewhere (h : ∀ path, v.template = none → v.source ≠ some (.file path)) :
    (v.build s).1 = (v.uncached.build s).1 ∧ (v.build s).2.2 = s := by
  unfold build uncached
  dsimp only
  split
  · exact ⟨rfl, rfl⟩
  · exact ⟨rfl, rfl⟩
  · rename_i source htemplate hsource
    cases Template.read source textSource v.config.fold <;> exact ⟨rfl, rfl⟩
  · rename_i path htemplate hsource
    exact absurd hsource (h path htemplate)

/-- Building is a load through the view's cache, or changes no file. -/
theorem files_build (huses : v.Uses c) :
    (v.build s).2.2 = s ∨ ∃ path, v.source = some (.file path) ∧
      (v.build s).2.2 = (Happening.load path v.config.fold).apply c s := by
  by_cases hfile : ∃ path, v.template = none ∧ v.source = some (.file path)
  · obtain ⟨path, htemplate, hsource⟩ := hfile
    refine .inr ⟨path, hsource, ?_⟩
    rw [(build_file htemplate hsource).2, huses.cacheFor]
    rfl
  · exact .inl (build_elsewhere fun path htemplate hsource => hfile ⟨path, htemplate, hsource⟩).2

/-- **With a templates root the cache makes no difference** to what a view builds, whatever happened
to the sources and their cache before. -/
theorem build_uncached (huses : v.Uses c) (hunused : c.Unused s) {history : List Happening}
    (hruns : c.Runs s.workingDirectory history)
    (hsource : ∀ path, v.source = some (.file path) → c.Serves s.workingDirectory path ∧
      ∃ text, (c.after s history).readText path = .ok text) :
    (v.build (c.after s history)).1 = (v.uncached.build (c.after s history)).1 := by
  -- only a view of a file without a template of its own asks the cache
  by_cases hfile : ∃ path, v.template = none ∧ v.source = some (.file path)
  · obtain ⟨path, htemplate, hpath⟩ := hfile
    obtain ⟨hserves, text, htext⟩ := hsource path hpath
    obtain ⟨hfaithful, hworking⟩ := Cache.faithful_after hunused.faithful hruns
    obtain ⟨names, hcovers, rfl⟩ := hserves
    rw [← hworking] at hcovers
    have hload := Cache.loadTemplate_of_faithful hfaithful hcovers htext v.config.fold
    rw [(build_file htemplate hpath).1, huses.cacheFor, hload,
      (build_file (v := v.uncached) htemplate hpath).1]
    show _ = (loadTemplate none _ _ v.config.fold).1.map Loaded.template
    unfold loadTemplate
    rw [Option.bind_none, Cache.readTemplate_of_readText htext]
    cases Template.read text (FileStore.key names) v.config.fold <;> rfl
  · exact (build_elsewhere fun path htemplate hsource => hfile ⟨path, htemplate, hsource⟩).1

/-- A view of the page that was rewritten builds it as it is now. -/
theorem build_uncached_rewritten :
    let v : View :=
      { View.ofConfig
          { Config.standard with cacheRoot := some "/cache", templatesRoot := some "/pages" }
        with source := some (.file "/pages/a.xml") }
    (v.build (Cache.siteCache.after Cache.siteFiles Cache.siteHistory)).1 =
      (v.uncached.build (Cache.siteCache.after Cache.siteFiles Cache.siteHistory)).1 := by
  refine build_uncached (c := Cache.siteCache) ⟨rfl, rfl⟩ Cache.unused_site Cache.runs_site ?_
  intro path hpath
  cases hpath
  exact ⟨Cache.serves_site, _, Cache.readText_site⟩

/-! ## Templates of the same name -/

/-- Two pages of the same name, and a directory for the cache. -/
def twinFiles : FileStore :=
  ⟨"/", .ofList [("/cache", .directory 0), ("/a", .directory 0), ("/b", .directory 0),
    ("/a/page.xml", .file "<p>first</p>".toUTF8 1),
    ("/b/page.xml", .file "<p>second</p>".toUTF8 2)], 2⟩

/-- What the view renders from the one page and then from the other. -/
def renderTwins (v : View) : Option String × Option String :=
  let (first, v, files) := (v.loadFile twinFiles "/a/page.xml").render twinFiles
  let (second, _, _) := (v.loadFile files "/b/page.xml").render files
  (first.toOption, second.toOption)

/-- **A view without a templates root may take a template for another**: the second page is
rendered as the first one if there is a cache. -/
theorem render_shares_cacheFile :
    renderTwins (.ofConfig .standard) = (some "<p>first</p>", some "<p>second</p>") ∧
    renderTwins (.ofConfig { Config.standard with cacheRoot := some "/cache" }) =
      (some "<p>first</p>", some "<p>first</p>") := by
  refine ⟨?_, ?_⟩ <;> decide +kernel

end TagTemplate.View
