import TagTemplate.View

/-!
# Sessions

A session is a view together with the files it works on, and goes on step by step. What a load
leaves of all that was done before are the settings and, if a text is loaded, one thing more: the
cache of the last file that was built, which the includes of the text are then taken from.

- `Session.answers`: what the steps of a session answer, one after the other;
- `Session.fresh`: the view as if it had never held a template;
- `Alike`: sessions that differ at most in a cache that the next build sets anew, with one lemma for
  a step (`Alike.step`) and one for a run (`Alike.answers`);
- `WithoutFile`, `WithoutCache`: views that get no cache, again with one lemma for a step each;
- `answers_after_load`: after a load a session goes on as the fresh one on which only that load was
  made, for a file in any case, for a text if no file was loaded before or nothing was ever cached;
- `load_keeps_cache`: otherwise an include may show what a file was when it was loaded before.
-/

namespace TagTemplate

/-- A view and the files it works on. -/
structure Session where
  view : View
  files : FileStore

/-- A change of the files from outside; the working directory stays. -/
structure FileChange where
  change : FileStore → FileStore
  workingDirectory_change : ∀ files, (change files).workingDirectory = files.workingDirectory

/-- What is set up for the renderings to come. -/
inductive Setting where
  | configure (change : Config → Config)
  | mount (name : String) (value : Value)
  | addFunctions (library : Library)
  | addFeeds (factory : FeedFactory)
  | translate (translator : Translator)
  | changeFiles (change : FileChange)

/-- What can be done in a session. -/
inductive Step where
  | set (setting : Setting)
  | load (source : TemplateSource)
  | build
  | render

/-- What a step answers. -/
inductive Answer where
  | done
  | built (template : Except Error Template)
  | rendered (output : Except Error String)

/-- The text that was rendered. -/
def Answer.output? : Answer → Option String
  | rendered (.ok output) => some output
  | _ => none

namespace Session

/-- Sets something up. -/
def set (s : Session) : Setting → Session
  | .configure change => { s with view.config := change s.view.config }
  | .mount name value => { s with view := s.view.mount name value }
  | .addFunctions library => { s with view := s.view.addFunctions library }
  | .addFeeds factory => { s with view := s.view.addFeeds factory }
  | .translate translator => { s with view.translator := some translator }
  | .changeFiles change => { s with files := change.change s.files }

/-- Takes a template. -/
def load (s : Session) : TemplateSource → Session
  | .file path => { s with view := s.view.loadFile s.files path }
  | .text source => { s with view := s.view.loadText source }

/-- Does a step. -/
def step (s : Session) : Step → Answer × Session
  | .set setting => (.done, s.set setting)
  | .load source => (.done, s.load source)
  | .build => let (built, view, files) := s.view.build s.files; (.built built, ⟨view, files⟩)
  | .render => let (output, view, files) := s.view.render s.files; (.rendered output, ⟨view, files⟩)

/-- The session after some steps. -/
def after (s : Session) (steps : List Step) : Session := steps.foldl (fun s a => (s.step a).2) s

/-- What some steps answer. -/
def answers (s : Session) : List Step → List Answer
  | [] => []
  | step :: steps => (s.step step).1 :: (s.step step).2.answers steps

/-- The session after something was set up. -/
def prepared (s : Session) (settings : List Setting) : Session := settings.foldl set s

/-- The view with its settings, as if it had never held a template. -/
def fresh (s : Session) : Session :=
  ⟨{ View.ofConfig s.view.config with
      functions := s.view.functions, feeds := s.view.feeds, translator := s.view.translator,
      globals := s.view.globals }, s.files⟩

/-- The session with another cache. -/
def withCache (s : Session) (cache : Option Cache) : Session := { s with view.cache := cache }

variable {s t : Session}

/-! ## Sessions that differ in a cache -/

/-- Sessions that are equal, up to a cache that is set anew before it is used. -/
inductive Alike (s : Session) : Session → Prop where
  | refl : Alike s s
  | unbuilt (path : String) (cache : Option Cache) (source : s.view.source = some (.file path))
      (template : s.view.template = none) : Alike s (s.withCache cache)

/-- Building from a file sets the cache anew. -/
theorem Alike.build_eq (h : Alike s t) : s.view.build s.files = t.view.build t.files := by
  cases h with
  | refl => rfl
  | unbuilt path cache source template =>
    unfold View.build withCache
    dsimp only
    rw [template, source]
    rfl

/-- **A step keeps sessions alike**, and they give the same answer. A load does not: a text that is
loaded before the file was built finds the cache that was there. -/
theorem Alike.step (h : Alike s t) {step : Step} (hload : ∀ source, step ≠ .load source) :
    (s.step step).1 = (t.step step).1 ∧ Alike (s.step step).2 (t.step step).2 := by
  cases step with
  | set setting =>
    refine ⟨rfl, ?_⟩
    cases h with
    | refl => exact .refl
    | unbuilt path cache source template =>
      cases setting <;> exact .unbuilt path cache source template
  | load source => exact absurd rfl (hload source)
  | build =>
    unfold Session.step
    dsimp only
    rw [h.build_eq]
    exact ⟨rfl, .refl⟩
  | render =>
    unfold Session.step View.render
    dsimp only
    rw [h.build_eq]
    exact ⟨rfl, .refl⟩

/-- Up to the next load, sessions that are alike answer alike. -/
theorem Alike.answers (h : Alike s t) {steps : List Step}
    (hload : ∀ source, .load source ∉ steps) : s.answers steps = t.answers steps := by
  induction steps generalizing s t with
  | nil => rfl
  | cons step steps ih =>
    obtain ⟨hanswer, hafter⟩ :=
      h.step fun source hstep => hload source (hstep ▸ List.mem_cons_self)
    unfold Session.answers
    rw [hanswer, ih hafter fun source hmem => hload source (List.mem_cons_of_mem _ hmem)]

/-! ## What is set up between a load and a rendering -/

/-- A load and a setting can be made in either order. -/
theorem load_set (s : Session) (source : TemplateSource) (setting : Setting) :
    (s.load source).set setting = (s.set setting).load source := by
  cases setting with
  | changeFiles change =>
    cases source with
    | text source => rfl
    | file path =>
      unfold load set View.loadFile FileStore.absolute
      dsimp only
      rw [change.workingDirectory_change]
  | _ => cases source <;> rfl

/-- A load can be made after all settings. -/
theorem load_prepared (s : Session) (source : TemplateSource) (settings : List Setting) :
    (s.load source).prepared settings = (s.prepared settings).load source := by
  induction settings generalizing s with
  | nil => rfl
  | cons setting settings ih =>
    show ((s.load source).set setting).prepared settings = _
    rw [load_set, ih]
    rfl

/-- The fresh view does not know what is loaded. -/
theorem fresh_load (s : Session) (source : TemplateSource) : (s.load source).fresh = s.fresh := by
  cases source <;> rfl

/-- No setting changes the cache. -/
theorem cache_prepared (s : Session) (settings : List Setting) :
    (s.prepared settings).view.cache = s.view.cache := by
  induction settings generalizing s with
  | nil => rfl
  | cons setting settings ih => exact (ih (s.set setting)).trans (by cases setting <;> rfl)

/-- What a load leaves of the time before: nothing if it is that of a file, else the cache. -/
theorem alike_fresh {source : TemplateSource}
    (hsource : (∃ path, source = .file path) ∨ s.view.cache = none) (settings : List Setting) :
    Alike ((s.load source).prepared settings)
      (((s.load source).prepared settings).fresh.load source) := by
  rw [load_prepared, fresh_load]
  rw [← cache_prepared s settings] at hsource
  generalize s.prepared settings = t at hsource ⊢
  rcases hsource with ⟨path, rfl⟩ | hcache
  · exact .unbuilt _ none rfl rfl
  · have hsame : t.load source = (t.fresh.load source).withCache t.view.cache := by
      cases source <;> rfl
    rw [hcache] at hsame
    rw [hsame]
    cases source <;> exact .refl

/-! ## Sessions without a cache -/

/-- What every step keeps holds after all of them. -/
theorem after_induction {P : Session → Prop} {Q : Step → Prop}
    (hstep : ∀ s step, Q step → P s → P (s.step step).2) {steps : List Step}
    (hsteps : ∀ step ∈ steps, Q step) (hs : P s) : P (s.after steps) := by
  induction steps generalizing s with
  | nil => exact hs
  | cons step steps ih =>
    exact ih (fun a ha => hsteps a (List.mem_cons_of_mem _ ha))
      (hstep s step (hsteps step List.mem_cons_self) hs)

end Session

/-- The step takes no file for the template. -/
def Step.LoadsNoFile : Step → Prop
  | load (.file _) => False
  | _ => True

/-- The step does not make the view cache its templates. -/
def Step.CachesNothing : Step → Prop
  | set (.configure change) => ∀ config, config.cacheRoot = none → (change config).cacheRoot = none
  | _ => True

namespace View

variable {v : View} {files : FileStore}

/-- A build sets the cache only for a file, and only by the settings. -/
theorem cache_build (v : View) (files : FileStore) :
    (v.build files).2.1.cache = v.cache ∨
      ∃ path, v.source = some (.file path) ∧ (v.build files).2.1.cache = v.cacheFor path := by
  unfold build
  split
  · exact .inl rfl
  · exact .inl rfl
  · rename_i source _ _
    cases Template.read source textSource v.config.fold <;> exact .inl rfl
  · rename_i path _ hsource
    refine .inr ⟨path, hsource, ?_⟩
    dsimp only
    generalize loadTemplate (v.cacheFor path) files path v.config.fold = loaded
    obtain ⟨_ | _, _⟩ := loaded <;> rfl

/-- Neither the source nor the settings are changed by a build. -/
theorem source_build (v : View) (files : FileStore) :
    (v.build files).2.1.source = v.source ∧ (v.build files).2.1.config = v.config := by
  unfold build
  split
  · exact ⟨rfl, rfl⟩
  · exact ⟨rfl, rfl⟩
  · rename_i source _ _
    cases Template.read source textSource v.config.fold <;> exact ⟨rfl, rfl⟩
  · rename_i path _ hsource
    dsimp only
    generalize loadTemplate (v.cacheFor path) files path v.config.fold = loaded
    obtain ⟨_ | _, _⟩ := loaded <;> exact ⟨rfl, rfl⟩

/-- A rendering changes of the view what the build changes. -/
theorem view_render (v : View) (files : FileStore) :
    (v.render files).2.1 = (v.build files).2.1 := by
  unfold render
  generalize v.build files = built
  obtain ⟨_ | _, _, _⟩ := built <;> rfl

end View

namespace Session

variable {s : Session}

/-- The view has no cache and no file to build from. -/
structure WithoutFile (s : Session) : Prop where
  cache : s.view.cache = none
  source : ∀ path, s.view.source ≠ some (.file path)

/-- The view has no cache, and its settings give it none. -/
structure WithoutCache (s : Session) : Prop where
  cache : s.view.cache = none
  cacheRoot : s.view.config.cacheRoot = none

/-- **A view that loads no file gets no cache.** -/
theorem WithoutFile.step (h : s.WithoutFile) {step : Step} (hstep : step.LoadsNoFile) :
    (s.step step).2.WithoutFile := by
  -- rendering builds the view too, and a cache is only opened for a file
  have hbuild : (v : View) → v = (s.view.build s.files).2.1 → v.cache = none ∧
      ∀ path, v.source ≠ some (.file path) := by
    rintro v rfl
    rw [(View.source_build s.view s.files).1]
    refine ⟨?_, h.source⟩
    rcases View.cache_build s.view s.files with hcache | ⟨path, hpath, -⟩
    · rw [hcache, h.cache]
    · exact absurd hpath (h.source path)
  cases step with
  | set setting =>
    cases setting <;> exact ⟨h.cache, h.source⟩
  | load source =>
    cases source with
    | file path => exact hstep.elim
    | text source => exact ⟨h.cache, fun path hpath => by cases hpath⟩
  | build =>
    obtain ⟨hcache, hsource⟩ := hbuild _ rfl
    exact ⟨hcache, hsource⟩
  | render =>
    obtain ⟨hcache, hsource⟩ := hbuild _ (View.view_render s.view s.files)
    exact ⟨hcache, hsource⟩

/-- **A view without a directory for it gets no cache.** -/
theorem WithoutCache.step (h : s.WithoutCache) {step : Step} (hstep : step.CachesNothing) :
    (s.step step).2.WithoutCache := by
  have hbuild : (v : View) → v = (s.view.build s.files).2.1 → v.cache = none ∧
      v.config.cacheRoot = none := by
    rintro v rfl
    rw [(View.source_build s.view s.files).2]
    refine ⟨?_, h.cacheRoot⟩
    rcases View.cache_build s.view s.files with hcache | ⟨path, -, hcache⟩
    · rw [hcache, h.cache]
    · rw [hcache, View.cacheFor, h.cacheRoot]
      rfl
  cases step with
  | set setting =>
    cases setting with
    | configure change => exact ⟨h.cache, hstep _ h.cacheRoot⟩
    | _ => exact ⟨h.cache, h.cacheRoot⟩
  | load source => cases source <;> exact ⟨h.cache, h.cacheRoot⟩
  | build =>
    obtain ⟨hcache, hroot⟩ := hbuild _ rfl
    exact ⟨hcache, hroot⟩
  | render =>
    obtain ⟨hcache, hroot⟩ := hbuild _ (View.view_render s.view s.files)
    exact ⟨hcache, hroot⟩

/-! ## What a load leaves -/

/-- The session of a new view. -/
def start (config : Config) (files : FileStore) : Session := ⟨.ofConfig config, files⟩

/-- **After a load a session goes on as if nothing had been loaded before**: up to the next load it
answers what the fresh view answers on which only that load was made. This holds for every file, and
for a text if no file was loaded before or nothing was ever cached. -/
theorem answers_after_load (config : Config) (files : FileStore) {before : List Step}
    {source : TemplateSource}
    (hsource : (∃ path, source = .file path) ∨ (∀ step ∈ before, step.LoadsNoFile) ∨
      config.cacheRoot = none ∧ ∀ step ∈ before, step.CachesNothing)
    (settings : List Setting) {later : List Step} (hlater : ∀ source, .load source ∉ later) :
    let s := (((start config files).after before).load source).prepared settings
    s.answers later = (s.fresh.load source).answers later := by
  refine (alike_fresh ?_ settings).answers hlater
  rcases hsource with hfile | htexts | ⟨hroot, huncached⟩
  · exact .inl hfile
  · have hstart : (start config files).WithoutFile := ⟨rfl, fun path hpath => by cases hpath⟩
    exact .inr (after_induction (P := WithoutFile) (fun _ _ a h => h.step a) htexts hstart).cache
  · have hstart : (start config files).WithoutCache := ⟨rfl, hroot⟩
    exact .inr
      (after_induction (P := WithoutCache) (fun _ _ a h => h.step a) huncached hstart).cache

/-! ## A text after a file -/

/-- A page, and a directory for the cache. -/
def pageFiles : FileStore :=
  ⟨"/", .ofList [("/cache", .directory 0), ("/page.xml", .file "<p>old</p>".toUTF8 1)], 2⟩

/-- The page is rewritten, with an old time. -/
def rewritePage : FileChange :=
  ⟨fun files =>
      { files with entries := files.entries.insert "/page.xml" (.file "<p>new</p>".toUTF8 1) },
    fun _ => rfl⟩

/-- A view that caches what it builds. -/
def cachingConfig : Config := { Config.standard with cacheRoot := some "/cache" }

/-- The page was rendered, and then it was rewritten. -/
def pageSteps : List Step :=
  [.load (.file "/page.xml"), .render, .set (.changeFiles rewritePage)]

/-- A text that includes the page. -/
def pageText : TemplateSource := .text "<r><tl:include file=\"/page.xml\"/></r>"

/-- The page, loaded again, is rendered as by the fresh view, from the cache or not. -/
theorem answers_after_load_page :
    let s := (((start cachingConfig pageFiles).after pageSteps).load
      (.file "/page.xml")).prepared [.mount "x" .null]
    s.answers [.render] = (s.fresh.load (.file "/page.xml")).answers [.render] :=
  answers_after_load _ _ (.inl ⟨_, rfl⟩) _ (by simp)

/-- **A text after a file takes its includes from the cache of that file**, where the fresh view
reads them: it shows the page as it was when it was rendered before. -/
theorem load_keeps_cache :
    let s := ((start cachingConfig pageFiles).after pageSteps).load pageText
    (s.answers [.render]).map Answer.output? = [some "<r><p>old</p></r>"] ∧
      ((s.fresh.load pageText).answers [.render]).map Answer.output? =
        [some "<r><p>new</p></r>"] := by
  constructor <;> decide +kernel

end Session

end TagTemplate
