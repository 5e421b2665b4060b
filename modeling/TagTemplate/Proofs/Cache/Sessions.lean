import TagTemplate.Proofs.Cache.Site
import TagTemplate.Proofs.Cache.Views
import TagTemplate.Proofs.Session

/-!
# Sessions with and without a cache

A session on the pages of a site loads, builds, renders and rewrites them, and changes its settings
but for the two roots. Beside it goes the same session without a cache, and answers the same.

- `FileChange.write`: a file is written;
- `Site.Allows`: the steps of a session on a site;
- `Site.Beside`: a session and the same one without a cache, with one lemma for building
  (`Site.Beside.build`), one for a step (`Site.Beside.step`) and one for a run
  (`Site.Beside.answers_eq`);
- `Site.answers_uncached`: **with a templates root a session answers the same without its cache.**
-/

namespace TagTemplate

/-- A file gets a text; a write that fails changes nothing. -/
def FileChange.write (path text : String) : FileChange where
  change files := (files.writeFile? path text.toUTF8).getD files
  workingDirectory_change files := by
    cases hwrite : files.writeFile? path text.toUTF8 with
    | none => rfl
    | some written => exact FileStore.workingDirectory_writeFile? hwrite

/-- The change has no part in where templates are and where they are kept. -/
def Config.KeepsRoots (change : Config → Config) : Prop :=
  ∀ config templatesRoot cacheRoot, change { config with templatesRoot, cacheRoot } =
    { change config with templatesRoot, cacheRoot }

namespace Config.KeepsRoots

variable {change : Config → Config} (h : KeepsRoots change) (config : Config)

include h

theorem roots_eq : (change config).cacheRoot = config.cacheRoot ∧
    (change config).templatesRoot = config.templatesRoot := by
  have hsame := h config config.templatesRoot config.cacheRoot
  exact ⟨(congrArg Config.cacheRoot hsame :), (congrArg Config.templatesRoot hsame :)⟩

theorem withoutCache : change { config with cacheRoot := none } =
    { change config with cacheRoot := none } := by
  have hsame := h config config.templatesRoot none
  dsimp only at hsame
  rw [hsame, ← (h.roots_eq config).2]

end Config.KeepsRoots

/-- The view as it is without a cache. -/
def View.plain (v : View) : View := { v.uncached with cache := none, fromCache := false }

namespace Site

variable {site : Site} {s t : Session}

/-- Without a cache nothing comes from it. -/
theorem fromCache_of_uncached {files : FileStore} {path : String} {fold : Bool} {loaded : Loaded}
    (h : (loadTemplate none files path fold).1 = .ok loaded) : loaded.fromCache = false := by
  unfold loadTemplate at h
  rw [Option.bind_none] at h
  dsimp only at h
  split at h
  · cases h
  · cases h
    rfl

/-! ## Sessions on a site -/

/-- The template is a page, or a text that names pages only. -/
def Offers (site : Site) : TemplateSource → Prop
  | .file path => site.page path
  | .text source => site.Takes View.textSource source

/-- What may be set up: anything but other roots, and of the files only new texts for pages. -/
def Permits (site : Site) : Setting → Prop
  | .configure change => Config.KeepsRoots change
  | .changeFiles change =>
    ∃ path text, site.page path ∧ site.Takes path text ∧ change = .write path text
  | _ => True

/-- The steps of a session on the site. -/
def Allows (site : Site) : Step → Prop
  | .set setting => site.Permits setting
  | .load (.file path) => ∀ files : FileStore, files.workingDirectory = site.workingDirectory →
      site.page (files.absolute path)
  | .load (.text text) => site.Takes View.textSource text
  | .build | .render => True

/-- A session on the site, and the same one without a cache. -/
structure Beside (site : Site) (s t : Session) : Prop where
  view : t.view = s.view.plain
  uses : s.view.Uses site.cache
  /-- The cache is opened when the first page is built. -/
  cache : s.view.cache = none ∨ s.view.cache = some site.cache
  template : ∀ template, s.view.template = some template → site.Closed template
  source : ∀ source, s.view.source = some source → site.Offers source
  files : site.Alike s.files t.files

section

variable (h : site.Beside s t)

include h

theorem Beside.template_eq : t.view.template = s.view.template := by
  rw [h.view]
  rfl

theorem Beside.source_eq : t.view.source = s.view.source := by
  rw [h.view]
  rfl

theorem Beside.fold_eq : t.view.config.fold = s.view.config.fold := by
  rw [h.view]
  rfl

end

/-- A change of the settings, with no part in the roots, the cache and what is loaded. -/
theorem Beside.change (h : site.Beside s t) {f : View → View}
    (hplain : ∀ v, f v.plain = (f v).plain)
    (hroots : ∀ v, (f v).config.cacheRoot = v.config.cacheRoot ∧
      (f v).config.templatesRoot = v.config.templatesRoot)
    (hkept : ∀ v, (f v).cache = v.cache ∧ (f v).template = v.template ∧ (f v).source = v.source) :
    site.Beside { s with view := f s.view } { t with view := f t.view } := by
  obtain ⟨hcacheRoot, htemplatesRoot⟩ := hroots s.view
  obtain ⟨hcache, htemplate, hsource⟩ := hkept s.view
  refine ⟨?_, ⟨hcacheRoot.trans h.uses.cacheRoot, htemplatesRoot.trans h.uses.templatesRoot⟩,
    ?_, ?_, ?_, h.files⟩
  · show f t.view = _
    rw [h.view]
    exact hplain s.view
  · exact hcache ▸ h.cache
  · exact htemplate ▸ h.template
  · exact hsource ▸ h.source

namespace Beside

variable (h : site.Beside s t) {files files' : FileStore} (hfiles : site.Alike files files')

include h hfiles

/-- A page is asked for: the first view opens the cache. -/
theorem openCache :
    site.Beside ⟨{ s.view with cache := some site.cache }, files⟩
      ⟨{ t.view with cache := none }, files'⟩ where
  view := by
    show { t.view with cache := none } = _
    rw [h.view]
    rfl
  uses := ⟨h.uses.cacheRoot, h.uses.templatesRoot⟩
  cache := .inr rfl
  template := h.template
  source := h.source
  files := hfiles

/-- A template is built: both views keep it. -/
theorem keep {template : Template} (hclosed : site.Closed template) (fromCache : Bool) :
    site.Beside ⟨{ s.view with template := some template, fromCache }, files⟩
      ⟨{ t.view with template := some template, fromCache := false }, files'⟩ where
  view := by
    show { t.view with template := some template, fromCache := false } = _
    rw [h.view]
    rfl
  uses := ⟨h.uses.cacheRoot, h.uses.templatesRoot⟩
  cache := h.cache
  template := by
    rintro _ ⟨⟩
    exact hclosed
  source := h.source
  files := hfiles

end Beside

/-- Another template is taken. -/
theorem Beside.load (h : site.Beside s t) {source : TemplateSource} (hoffers : site.Offers source) :
    site.Beside
      { s with view.source := some source, view.template := none, view.fromCache := false }
      { t with view.source := some source, view.template := none, view.fromCache := false } where
  view := by
    show { t.view with source := some source, template := none, fromCache := false } = _
    rw [h.view]
    rfl
  uses := ⟨h.uses.cacheRoot, h.uses.templatesRoot⟩
  cache := h.cache
  template := nofun
  source := by
    rintro _ ⟨⟩
    exact hoffers
  files := h.files

/-! ## Building -/

/-- The same template, which names pages only, or the same error; and views that go on beside each
other. -/
structure Builds (site : Site) (r r' : Except Error Template × View × FileStore) : Prop where
  same : r.1 = r'.1
  closed : ∀ template, r.1 = .ok template → site.Closed template
  beside : site.Beside ⟨r.2.1, r.2.2⟩ ⟨r'.2.1, r'.2.2⟩

/-- A text is built without any files. -/
theorem Beside.build_text (h : site.Beside s t) {source : String}
    (htemplate : s.view.template = none) (hsource : s.view.source = some (.text source)) :
    site.Builds (s.view.build s.files) (t.view.build t.files) := by
  rw [View.build_text_eq htemplate hsource,
    View.build_text_eq (h.template_eq.trans htemplate) (h.source_eq.trans hsource), h.fold_eq]
  cases hread : Template.read source View.textSource s.view.config.fold with
  | error e => exact ⟨rfl, nofun, h⟩
  | ok template =>
    have hclosed : site.Closed template := h.source _ hsource s.view.config.fold template hread
    refine ⟨rfl, ?_, h.keep h.files hclosed false⟩
    rintro _ ⟨⟩
    exact hclosed

/-- A page is built through the cache, and without it. -/
theorem Beside.build_page (h : site.Beside s t) {path : String}
    (htemplate : s.view.template = none) (hsource : s.view.source = some (.file path)) :
    site.Builds (s.view.build s.files) (t.view.build t.files) := by
  have hplain : t.view.cacheFor path = none := by
    rw [h.view]
    rfl
  obtain ⟨hsame, hclosed, hloaded⟩ :=
    h.files.load (h.source _ hsource) (.inr rfl) s.view.config.fold
  have hfresh := @fromCache_of_uncached t.files path s.view.config.fold
  rw [View.build_file_eq htemplate hsource,
    View.build_file_eq (h.template_eq.trans htemplate) (h.source_eq.trans hsource),
    h.uses.cacheFor, hplain, h.fold_eq]
  generalize loadTemplate (some site.cache) s.files path s.view.config.fold = cached
    at hsame hclosed hloaded ⊢
  generalize loadTemplate none t.files path s.view.config.fold = plain at hsame hloaded hfresh ⊢
  obtain ⟨result, files⟩ := cached
  obtain ⟨result', files'⟩ := plain
  have hopened := h.openCache hloaded
  cases result with
  | error e =>
    cases result' with
    | ok loaded => cases hsame
    | error e' => exact ⟨hsame, nofun, hopened⟩
  | ok loaded =>
    cases result' with
    | error e => cases hsame
    | ok loaded' =>
      obtain ⟨template, fromCache⟩ := loaded
      obtain ⟨template', _⟩ := loaded'
      obtain rfl : template = template' := Except.ok.inj hsame
      cases hfresh rfl
      refine ⟨rfl, ?_, hopened.keep hloaded (hclosed _ rfl) fromCache⟩
      rintro _ ⟨⟩
      exact hclosed _ rfl

/-- **Both sessions build the same template**, or fail with the same error. -/
theorem Beside.build (h : site.Beside s t) :
    site.Builds (s.view.build s.files) (t.view.build t.files) := by
  cases htemplate : s.view.template with
  | some template =>
    unfold View.build
    rw [h.template_eq, htemplate]
    refine ⟨rfl, ?_, h⟩
    rintro _ ⟨⟩
    exact h.template _ htemplate
  | none =>
    cases hsource : s.view.source with
    | none =>
      unfold View.build
      rw [h.template_eq, h.source_eq, htemplate, hsource]
      exact ⟨rfl, nofun, h⟩
    | some source =>
      cases source with
      | text source => exact h.build_text htemplate hsource
      | file path => exact h.build_page htemplate hsource

/-! ## Steps -/

/-- **Both sessions render to the same**, with all pages that are included. -/
theorem Beside.render (h : site.Beside s t) :
    (s.view.render s.files).1 = (t.view.render t.files).1 ∧
      site.Beside ⟨(s.view.render s.files).2.1, (s.view.render s.files).2.2⟩
        ⟨(t.view.render t.files).2.1, (t.view.render t.files).2.2⟩ := by
  obtain ⟨hsame, hclosed, hbeside⟩ := h.build
  unfold View.render
  generalize s.view.build s.files = built at hsame hclosed hbeside ⊢
  generalize t.view.build t.files = built' at hsame hbeside ⊢
  obtain ⟨result, v, files⟩ := built
  obtain ⟨result', v', files'⟩ := built'
  obtain rfl : result = result' := hsame
  cases result with
  | error e => exact ⟨rfl, hbeside⟩
  | ok template =>
    have hsuits : site.Suits v.environment := ⟨hbeside.uses.templatesRoot, hbeside.cache⟩
    obtain ⟨houtput, hfiles⟩ := renderWithin_uncached hsuits (hclosed template rfl) hbeside.files
      nestingLimit v.globals
    have hview : v' = v.plain := hbeside.view
    subst hview
    exact ⟨houtput, { hbeside with files := hfiles }⟩

/-- Both sessions are set up the same. -/
theorem Beside.set (h : site.Beside s t) {setting : Setting} (hpermits : site.Permits setting) :
    site.Beside (s.set setting) (t.set setting) := by
  cases setting with
  | configure change =>
    refine h.change (f := fun v => { v with config := change v.config }) (fun v => ?_)
      (fun v => Config.KeepsRoots.roots_eq hpermits v.config) fun _ => ⟨rfl, rfl, rfl⟩
    exact congrArg (fun config => { v.plain with config })
      (Config.KeepsRoots.withoutCache hpermits v.config)
  | mount name value =>
    exact h.change (f := (·.mount name value)) (fun _ => rfl) (fun _ => ⟨rfl, rfl⟩)
      fun _ => ⟨rfl, rfl, rfl⟩
  | addFunctions library =>
    exact h.change (f := (·.addFunctions library)) (fun _ => rfl) (fun _ => ⟨rfl, rfl⟩)
      fun _ => ⟨rfl, rfl, rfl⟩
  | addFeeds factory =>
    exact h.change (f := (·.addFeeds factory)) (fun _ => rfl) (fun _ => ⟨rfl, rfl⟩)
      fun _ => ⟨rfl, rfl, rfl⟩
  | translate translator =>
    exact h.change (f := fun v => { v with translator := some translator }) (fun _ => rfl)
      (fun _ => ⟨rfl, rfl⟩) fun _ => ⟨rfl, rfl, rfl⟩
  | changeFiles change =>
    obtain ⟨path, text, hpage, htakes, rfl⟩ := hpermits
    exact { h with files := h.files.write hpage htakes }

/-- **A step that is allowed is answered the same** by both sessions, which go on beside each
other. -/
theorem Beside.step (h : site.Beside s t) {step : Step} (hstep : site.Allows step) :
    (s.step step).1 = (t.step step).1 ∧ site.Beside (s.step step).2 (t.step step).2 := by
  cases step with
  | set setting => exact ⟨rfl, h.set hstep⟩
  | load source =>
    cases source with
    | text text =>
      have hoffers : site.Offers (.text text) := hstep
      exact ⟨rfl, h.load hoffers⟩
    | file path =>
      have hsame : t.files.absolute path = s.files.absolute path := by
        rw [FileStore.absolute, FileStore.absolute, h.files.workingDirectory_plain,
          h.files.workingDirectory_cached]
      have hoffers : site.Offers (.file (s.files.absolute path)) :=
        hstep s.files h.files.workingDirectory_cached
      refine ⟨rfl, ?_⟩
      show site.Beside { s with view := s.view.loadFile s.files path }
        { t with view := t.view.loadFile t.files path }
      unfold View.loadFile
      rw [hsame]
      exact h.load hoffers
  | build =>
    obtain ⟨hsame, -, hbeside⟩ := h.build
    exact ⟨congrArg Answer.built hsame, hbeside⟩
  | render =>
    obtain ⟨hsame, hbeside⟩ := h.render
    exact ⟨congrArg Answer.rendered hsame, hbeside⟩

/-- A run: all steps that are allowed are answered the same. -/
theorem Beside.answers_eq (h : site.Beside s t) {steps : List Step}
    (hsteps : ∀ step ∈ steps, site.Allows step) : s.answers steps = t.answers steps := by
  induction steps generalizing s t with
  | nil => rfl
  | cons step steps ih =>
    obtain ⟨hanswer, hafter⟩ := h.step (hsteps step List.mem_cons_self)
    unfold Session.answers
    rw [hanswer, ih hafter fun later hlater => hsteps later (List.mem_cons_of_mem _ hlater)]

/-! ## Sessions from the start -/

/-- The settings and the files that a session on the site starts with: the pages are there, and
nothing was put into the cache yet. -/
structure Starts (site : Site) (config : Config) (files : FileStore) : Prop where
  cacheRoot : config.cacheRoot = some site.cache.cacheRoot
  templatesRoot : config.templatesRoot = some site.cache.templatesRoot
  workingDirectory : files.workingDirectory = site.workingDirectory
  unused : site.cache.Unused files
  reads : ∀ {path}, site.page path → ∃ text, files.readText path = .ok text ∧ site.Takes path text

/-- **With a templates root a session answers the same without its cache**: whatever pages it loads,
builds, renders with all that they include, and rewrites, and however it changes its other
settings. -/
theorem answers_uncached {config : Config} {files : FileStore} (h : site.Starts config files)
    {steps : List Step} (hsteps : ∀ step ∈ steps, site.Allows step) :
    (Session.start config files).answers steps =
      (Session.start { config with cacheRoot := none } files).answers steps := by
  have hfiles : site.Alike files files :=
    ⟨h.workingDirectory, h.workingDirectory, h.unused.faithful, fun hpage =>
      let ⟨text, htext, htakes⟩ := h.reads hpage
      ⟨text, htext, htext, htakes⟩⟩
  have hstart : site.Beside (Session.start config files)
      (Session.start { config with cacheRoot := none } files) :=
    ⟨rfl, ⟨h.cacheRoot, h.templatesRoot⟩, .inl rfl, nofun, nofun, hfiles⟩
  exact hstart.answers_eq hsteps

/-! ## A page that includes another -/

/-- A page that includes another one. -/
def frontText : String := "<r><tl:include file=\"b.xml\"/></r>"

/-- The two pages, and a directory for the cache. -/
def newsFiles : FileStore :=
  ⟨"/", .ofList [("/cache", .directory 0), ("/pages", .directory 0),
    ("/pages/a.xml", .file frontText.toUTF8 1), ("/pages/b.xml", .file "<p>old</p>".toUTF8 1)], 2⟩

theorem serves_news {path : String} (h : path = "/pages/a.xml" ∨ path = "/pages/b.xml") :
    Cache.siteCache.Serves "/" path := by
  rcases h with rfl | rfl
  · exact Cache.serves_site
  · have hname : FilePath.IsName "b.xml".toList := ⟨by decide, by decide, by decide, by decide⟩
    exact Cache.serves_page hname

/-- The two pages. -/
def newsSite : Site where
  cache := Cache.siteCache
  workingDirectory := "/"
  page path := path = "/pages/a.xml" ∨ path = "/pages/b.xml"
  serves := serves_news

/-- The settings with a cache. -/
def newsConfig : Config :=
  { Config.standard with cacheRoot := some "/cache", templatesRoot := some "/pages" }

/-- The first page is rendered, the second one is rewritten, and the first one is rendered again. -/
def newsSteps : List Step :=
  [.load (.file "pages/a.xml"), .render, .set (.changeFiles (.write "/pages/b.xml" "<p>new</p>")),
    .render]

/-- A text whose templates name no files but pages, by their paths from the directory of pages. -/
theorem takes_news {path text : String} {named : List String}
    (hparent : (FilePath.parent? path).filter (· ≠ "") = some "/pages")
    (hread : ∀ fold, (Template.read text path fold).toOption.all (fun t =>
      t.sourcePath = path ∧ t.namedFiles = named) = true)
    (hpages : ∀ file ∈ named, FilePath.isAbsolute file = false ∧
      newsSite.page (FilePath.join "/pages" file)) :
    newsSite.Takes path text := by
  intro fold t ht env files _ _ file hfile
  have hsaid := hread fold
  rw [ht] at hsaid
  obtain ⟨hpath, rfl⟩ : t.sourcePath = path ∧ t.namedFiles = named := of_decide_eq_true hsaid
  obtain ⟨hrelative, hpage⟩ := hpages file hfile
  rw [Rendering.resolveFile, hpath, hparent, hrelative]
  exact hpage

theorem takes_front : newsSite.Takes "/pages/a.xml" frontText := by
  have hread : ∀ fold, (Template.read frontText "/pages/a.xml" fold).toOption.all (fun t =>
      t.sourcePath = "/pages/a.xml" ∧ t.namedFiles = ["b.xml"]) = true := by decide +kernel
  refine takes_news (by decide +kernel) hread fun file hfile => ?_
  obtain rfl := List.mem_singleton.1 hfile
  exact ⟨by decide, .inr (by decide +kernel)⟩

theorem takes_included {text : String} (h : text ∈ ["<p>old</p>", "<p>new</p>"]) :
    newsSite.Takes "/pages/b.xml" text := by
  have hread : ∀ text ∈ ["<p>old</p>", "<p>new</p>"], ∀ fold,
      (Template.read text "/pages/b.xml" fold).toOption.all (fun t =>
        t.sourcePath = "/pages/b.xml" ∧ t.namedFiles = []) = true := by decide +kernel
  exact takes_news (by decide +kernel) (hread text h) nofun

theorem unused_news : Cache.siteCache.Unused newsFiles := by
  have hfiles : ∀ names bytes time, newsFiles.entry? names = some (.file bytes time) →
      time = 1 ∧ ['/', 'p'] <+: (FileStore.key names).toList := by
    intro names bytes time hentry
    rw [FileStore.entry?] at hentry
    split at hentry
    · cases hentry
    · have hall : ∀ entry ∈ newsFiles.entries.entries, ∀ bytes time, entry.2 = .file bytes time →
          time = 1 ∧ ['/', 'p'] <+: entry.1.toList := by
        rintro entry (_ | ⟨_, _ | ⟨_, _ | ⟨_, _ | ⟨_, ⟨⟩⟩⟩⟩⟩) bytes time ⟨⟩ <;>
          exact ⟨rfl, by decide⟩
      exact hall _ (OrderedMap.mem_of_get? hentry) bytes time rfl
  refine ⟨fun names _ bytes time hentry => ?_, fun home hhome names hbelow bytes time hentry => ?_⟩
  · rw [(hfiles names bytes time hentry).1]
    decide
  · have hcache : FilePath.place? "/" Cache.siteCache.home =
        some ["cache".toList, "trees".toList] := by decide +kernel
    cases hcache.symm.trans hhome
    obtain ⟨rest, -, rfl⟩ := hbelow
    obtain ⟨tail, htail⟩ := (hfiles _ bytes time hentry).2
    rw [FileStore.key, String.toList_ofList] at htail
    exact absurd (List.cons.inj (List.cons.inj htail).2).1 (by decide)

/-- The pages are there from the start. -/
theorem starts_news : newsSite.Starts newsConfig newsFiles where
  cacheRoot := rfl
  templatesRoot := rfl
  workingDirectory := rfl
  unused := unused_news
  reads := by
    rintro path (rfl | rfl)
    · have htext : newsFiles.readText "/pages/a.xml" = .ok frontText := by decide +kernel
      exact ⟨_, htext, takes_front⟩
    · have htext : newsFiles.readText "/pages/b.xml" = .ok "<p>old</p>" := by decide +kernel
      exact ⟨_, htext, takes_included (by decide)⟩

/-- The session answers the same without its cache, and both render the page as it is. -/
theorem answers_uncached_news :
    (Session.start newsConfig newsFiles).answers newsSteps =
        (Session.start { newsConfig with cacheRoot := none } newsFiles).answers newsSteps ∧
      ((Session.start newsConfig newsFiles).answers newsSteps).map Answer.output? =
        [none, some "<r><p>old</p></r>", none, some "<r><p>new</p></r>"] := by
  refine ⟨answers_uncached starts_news ?_, by decide +kernel⟩
  rintro step (_ | ⟨_, _ | ⟨_, _ | ⟨_, _ | ⟨_, ⟨⟩⟩⟩⟩⟩)
  · intro files hfiles
    rw [FileStore.absolute, hfiles]
    exact .inl (by decide +kernel)
  · trivial
  · exact ⟨_, _, .inr rfl, takes_included (by decide), rfl⟩
  · trivial

end Site

end TagTemplate
