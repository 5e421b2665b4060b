import TagTemplate.Proofs.Cache.Sharing
import TagTemplate.Proofs.FilePath.Climbing
import TagTemplate.Proofs.FileStore
import TagTemplate.View

/-!
# Where the cache writes

Of a source below the templates root the cache keeps what is behind the root as it is written, steps
up included; of any other source it keeps the names only. So a source that steps above the root
again has its cache file outside of the directory of cache files, wherever the steps lead.

- `remainder`, `components_path`: what is kept of a source, and the path that is made of it;
- `changed_makeAlong`, `changed_save`: the entries that keeping a template can change;
- `included_below_iff`: the same for a source that a template includes;
- `path_contained_iff`: **the cache file of a source is below the directory of cache files exactly
  if what is behind the templates root comes back by the names it leaves, and keeping a template
  touches nothing else if it never steps above the root**;
- `path_leaves_home`: an include that writes elsewhere.
-/

namespace TagTemplate

open FilePath

/-! ## Directories that are made -/

namespace FileStore

variable {s s' : FileStore}

/-- Making directories along a path changes entries on the way only. -/
theorem changed_makeAlong {names ss others : List (List Char)} (hnames : Slashless names)
    (hss : Slashless ss) (h : s.makeAlong names ss = some s') (hothers : Slashless others)
    (hchanged : s'.entry? others ≠ s.entry? others) :
    ∃ before, before <+: ss.filterMap ofSegment? ∧ others = along names before := by
  induction ss generalizing s names with
  | nil =>
    cases h
    exact absurd rfl hchanged
  | cons segment rest ih =>
    have hrest : Slashless rest := fun t ht => hss t (List.mem_cons_of_mem _ ht)
    have hhere : Slashless (names ++ [segment]) := hnames.concat (hss segment List.mem_cons_self)
    rw [makeAlong] at h
    rcases ofSegment?_cases segment with hvoid | hup | hname
    · simp only [hvoid] at h
      rw [List.filterMap_cons_none hvoid]
      exact ih hnames hrest h hchanged
    · simp only [hup] at h
      rw [List.filterMap_cons_some hup]
      obtain ⟨before, hbefore, hothers⟩ :=
        ih (fun t ht => hnames t (List.dropLast_subset _ ht)) hrest h hchanged
      exact ⟨.up :: before, List.cons_prefix_cons.2 ⟨rfl, hbefore⟩, hothers⟩
    · simp only [hname] at h
      rw [List.filterMap_cons_some hname]
      -- whatever is changed further on is behind this name
      have hfurther : ∀ {s}, makeAlong s (names ++ [segment]) rest = some s' →
          s'.entry? others ≠ s.entry? others → ∃ before,
            before <+: .name segment :: rest.filterMap ofSegment? ∧
              others = along names before := by
        intro s h hchanged
        obtain ⟨before, hbefore, hothers⟩ := ih hhere hrest h hchanged
        exact ⟨.name segment :: before, List.cons_prefix_cons.2 ⟨rfl, hbefore⟩, hothers⟩
      split at h
      · exact hfurther h hchanged
      · cases h
      · split at h
        · cases h
        · by_cases heq : others = names ++ [segment]
          · exact ⟨[.name segment], List.cons_prefix_cons.2 ⟨rfl, List.nil_prefix⟩, heq⟩
          · refine hfurther h ?_
            rw [entry?_setEntry hhere (by simp) _ hothers, if_neg heq]
            exact hchanged

/-- Making the directories of an absolute path changes entries on the way only. -/
theorem changed_createDirectories? {path : String} {cs : List Component}
    (hpath : components path = .root :: cs) (h : s.createDirectories? path = some s')
    {others : List (List Char)} (hothers : Slashless others)
    (hchanged : s'.entry? others ≠ s.entry? others) :
    ∃ before, before <+: cs ∧ others = along [] before := by
  obtain ⟨habsolute, -, hsegments⟩ := components_root hpath
  rw [createDirectories?, absolute, if_pos habsolute] at h
  split_ifs at h with hempty
  · cases h
    exact absurd rfl hchanged
  · have hmade :=
      changed_makeAlong (fun _ ht => absurd ht List.not_mem_nil) (slashless_segments _) h hothers
        hchanged
    rwa [hsegments] at hmade

end FileStore

namespace Cache

/-! ## What is kept of a source -/

/-- The components that a cache keeps of a source: those behind the templates root, or the names of
a source that does not begin with it. -/
def remainder (c : Cache) (source : String) : List Component :=
  if components c.templatesRoot <+: components source then
    (components source).drop (components c.templatesRoot).length
  else ((components source).filterMap Component.name?).map .name

section Path

variable {c : Cache} {cs base : List Component}

theorem remainder_of_append {source : String} {rest : List Component}
    (h : components source = components c.templatesRoot ++ rest) : c.remainder source = rest := by
  rw [remainder, if_pos (h ▸ List.prefix_append _ _), h, List.drop_left]

/-- What a source's cache file has behind the directory of cache files. -/
theorem exists_kept_segments (hroot : components c.templatesRoot = .root :: base)
    (source : String) :
    ∃ ss, (relativeTo? c.templatesRoot source).getD (normalNames source) =
        String.ofList (unsegmented ss) ∧
      Trimmed ss ∧ ss.filterMap ofSegment? = c.remainder source := by
  by_cases hbegin : components c.templatesRoot <+: components source
  · obtain ⟨rest, hrest⟩ := hbegin
    have hsource : components source = .root :: (base ++ rest) := by
      rw [← hrest, hroot]
      rfl
    obtain ⟨ss, hss, htrimmed, hcomponents⟩ := relativeTo?_eq_some hroot hsource
    refine ⟨ss, ?_, htrimmed, ?_⟩
    · rw [hss, Option.getD_some]
    · rw [hcomponents, remainder_of_append hrest.symm]
  · have hnames := areNames_components source
    refine ⟨_, ?_, hnames.trimmed, ?_⟩
    · rw [relativeTo?_eq_none_of_notBelow (by simp [hroot]) hbegin, Option.getD_none, normalNames]
    · rw [remainder, if_neg hbegin, hnames.filterMap]

/-- **The path of a cache file**: the directory of cache files, the directories that are kept of the
source, and a name. -/
theorem components_path (hcache : components c.cacheRoot = .root :: cs)
    (hroot : components c.templatesRoot = .root :: base) (source : String) :
    ∃ last, components (c.path source) =
      .root :: (cs ++ [.name directory.toList] ++ (c.remainder source).dropLast ++
        [.name last]) := by
  obtain ⟨ss, hkept, htrimmed, hcomponents⟩ := exists_kept_segments hroot source
  -- the suffix goes to the last name that is kept, or is a name itself if none is
  obtain ⟨front, last, hslashless, hlast, hends, hfront⟩ : ∃ front last,
      Slashless front ∧ '/' ∉ last ∧
      unsegmented ss ++ fileSuffix.toList = unsegmented (front ++ [last ++ fileSuffix.toList]) ∧
      front.filterMap ofSegment? = (c.remainder source).dropLast := by
    rw [← hcomponents]
    have hall := htrimmed.slashless
    rcases htrimmed.cases with rfl | ⟨front, last, rfl, component, hcomponent⟩
    · exact ⟨[], [], hall, List.not_mem_nil, rfl, rfl⟩
    · refine ⟨front, last, fun s hs => hall s (List.mem_append_left _ hs), hall last (by simp),
        unsegmented_append _ _ _, ?_⟩
      rw [List.filterMap_append, List.filterMap_cons_some hcomponent]
      exact List.dropLast_concat.symm
  have hhome : components c.home = .root :: (cs ++ [.name directory.toList]) :=
    components_join hcache (by decide)
  obtain ⟨habsolute, -, hsegments⟩ := components_root hhome
  have hname := isName_suffixed hlast
  have hpath : c.path source =
      c.home ++ String.ofList ('/' :: unsegmented (front ++ [last ++ fileSuffix.toList])) := by
    rw [path_of_relative htrimmed.isAbsolute hkept, ← hends, ← String.toList_inj]
    simp
  refine ⟨last ++ fileSuffix.toList, ?_⟩
  rw [hpath, components_of_isAbsolute ((isAbsolute_append c.home_spec.1 _).trans habsolute),
    String.toList_append, String.toList_ofList, segments_append_slash,
    segments_unsegmented (by simp) (hslashless.concat hname.slash), List.filterMap_append,
    hsegments, List.filterMap_append, hfront, List.filterMap_cons_some hname.ofSegment?]
  simp

end Path

/-! ## Where the cache file is -/

section Home

variable {c : Cache} {cache root home : List (List Char)}

/-- The cache file is in a directory that the kept components lead to from that of cache files. -/
theorem place?_path_of_components (hcache : components c.cacheRoot = .root :: cache.map .name)
    (hroot : components c.templatesRoot = .root :: root.map .name)
    (workingDirectory source : String) :
    ∃ last, place? workingDirectory (c.path source) =
      some (along (cache ++ [directory.toList]) (c.remainder source).dropLast ++ [last]) := by
  obtain ⟨last, hpath⟩ := components_path hcache hroot source
  refine ⟨last, ?_⟩
  have hhome : along [] (cache.map .name ++ [.name directory.toList]) =
      cache ++ [directory.toList] :=
    along_names [] (cache ++ [directory.toList]) ▸ by rw [List.map_append]; rfl
  rw [place?_eq_along hpath, along_append, along_append, hhome]
  rfl

/-- What is in a directory in or below another is below that. -/
theorem below_concat_iff {names : List (List Char)} {last : List Char} :
    Below home (names ++ [last]) ↔ home <+: names := by
  constructor
  · rintro ⟨rest, hrest, heq⟩
    obtain ⟨front, final, rfl⟩ := (List.eq_nil_or_concat rest).resolve_left hrest
    rw [List.concat_eq_append, ← List.append_assoc] at heq
    exact ⟨front, (List.append_inj' heq rfl).1.symm⟩
  · rintro ⟨rest, rfl⟩
    exact ⟨rest ++ [last], by simp, List.append_assoc _ _ _⟩

/-- **The cache file of a source is below the directory of cache files** exactly if what is kept of
the source comes back by the names it leaves. -/
theorem below_path_iff (hcache : components c.cacheRoot = .root :: cache.map .name)
    (hroot : components c.templatesRoot = .root :: root.map .name)
    (workingDirectory source : String) :
    ∃ spot, place? workingDirectory (c.path source) = some spot ∧
      (Below (cache ++ [directory.toList]) spot ↔
        StaysIn (cache ++ [directory.toList]) (c.remainder source).dropLast) := by
  obtain ⟨last, hpath⟩ := place?_path_of_components hcache hroot workingDirectory source
  exact ⟨_, hpath, below_concat_iff.trans (prefix_along_iff _ _)⟩

/-- Only a source below the templates root can have steps up in what is kept of it. -/
theorem ups_remainder {source : String}
    (h : ∀ rest, components source = components c.templatesRoot ++ rest →
      (climb rest.dropLast).ups = 0) : (climb (c.remainder source).dropLast).ups = 0 := by
  by_cases hbegin : components c.templatesRoot <+: components source
  · obtain ⟨rest, hrest⟩ := hbegin
    rw [remainder_of_append hrest.symm]
    exact h rest hrest.symm
  · rw [remainder, if_neg hbegin, ← List.map_dropLast, climb_names]

/-! ## What keeping a template changes -/

/-- Keeping a template changes the directories on the way to its cache file, and the cache file. -/
theorem changed_save {cs base : List Component} (hcache : components c.cacheRoot = .root :: cs)
    (hroot : components c.templatesRoot = .root :: base) {files : FileStore} {source : String}
    {template : Template} {fold : Bool} {names : List (List Char)} (hnames : Slashless names)
    (hchanged : FileStore.entry? (c.save files source template fold) names ≠ files.entry? names) :
    (∃ before, before <+: cs ++ [.name directory.toList] ++ (c.remainder source).dropLast ∧
      names = along [] before) ∨
    place? files.workingDirectory (c.path source) = some names := by
  obtain ⟨last, hpath⟩ := components_path hcache hroot source
  obtain ⟨parent, hparent, hcomponents⟩ := components_parent? hpath
  unfold save at hchanged
  rw [hparent, Option.bind_some] at hchanged
  cases hmade : files.createDirectories? parent with
  | none =>
    rw [hmade] at hchanged
    exact absurd rfl hchanged
  | some made =>
    -- directories are made first, and only then is the file written
    have hmaking := FileStore.changed_createDirectories? hcomponents hmade hnames
    have hextends := FileStore.extends_createDirectories? hmade
    rw [hmade] at hchanged
    dsimp only at hchanged
    split at hchanged
    · exact .inl (hmaking hchanged)
    · cases hwrite : made.writeFile? (c.path source)
          (Entry.write ⟨version, fold, template⟩).toUTF8 with
      | none =>
        rw [hwrite] at hchanged
        exact .inl (hmaking hchanged)
      | some written =>
        rw [hwrite] at hchanged
        obtain ⟨spot, -, hspot, hne, -, rfl⟩ := FileStore.writeFile?_eq_some hwrite
        -- anywhere but in its own spot the file changes nothing
        by_cases heq : names = spot
        · rw [heq, ← hextends.workingDirectory]
          exact .inr hspot
        · refine .inl (hmaking ?_)
          rw [Option.getD_some,
            FileStore.entry?_setEntry (slashless_of_place? hspot) hne _ hnames,
            if_neg heq] at hchanged
          exact hchanged

/-- **Keeping a template of which no more steps up are kept than names before them** changes nothing
but directories that lead to that of cache files and what is below it. -/
theorem changed_save_below (hcache : components c.cacheRoot = .root :: cache.map .name)
    (hroot : components c.templatesRoot = .root :: root.map .name) {files : FileStore}
    {source : String} (hups : (climb (c.remainder source).dropLast).ups = 0) {template : Template}
    {fold : Bool} {names : List (List Char)} (hnames : Slashless names)
    (hchanged : FileStore.entry? (c.save files source template fold) names ≠ files.entry? names) :
    names <+: cache ++ [directory.toList] ∨ Below (cache ++ [directory.toList]) names := by
  have hhome : cache.map Component.name ++ [.name directory.toList] =
      (cache ++ [directory.toList]).map .name := by rw [List.map_append]; rfl
  rcases changed_save hcache hroot hnames hchanged with ⟨before, hbefore, rfl⟩ | hspot
  · rw [hhome] at hbefore
    generalize cache ++ [directory.toList] = home at *
    rcases List.prefix_or_prefix_of_prefix hbefore (List.prefix_append _ _) with
      hshort | ⟨more, rfl⟩
    · -- a directory that leads to that of cache files
      obtain ⟨others, hothers⟩ := hshort
      obtain ⟨front, back, rfl, rfl, -⟩ := List.map_eq_append_iff.1 hothers.symm
      rw [along_names]
      exact .inl (List.prefix_append _ _)
    · -- a directory that what is kept of the source goes through, and that never steps up
      have hmore := ups_climb_le ((List.prefix_append_right_inj _).1 hbefore)
      rw [hups] at hmore
      rw [along_append, along_names, List.nil_append]
      obtain ⟨rest, hrest⟩ :=
        (prefix_along_iff home more).2 (staysIn_of_ups (Nat.le_zero.1 hmore))
      by_cases hnil : rest = []
      · rw [hnil, List.append_nil] at hrest
        exact .inl (hrest ▸ List.prefix_refl _)
      · exact .inr ⟨rest, hnil, hrest.symm⟩
  · obtain ⟨spot, hplace, hbelow⟩ := below_path_iff hcache hroot files.workingDirectory source
    obtain rfl := Option.some.inj (hplace.symm.trans hspot)
    exact .inr (hbelow.2 (staysIn_of_ups hups))

/-! ## Sources that templates include -/

/-- A template below the root includes what its directory and the file that it names lead to. -/
theorem components_resolveFile {template : Template} {file : String} {cs : List Component}
    {c : Component} (hsource : components template.sourcePath = .root :: (cs ++ [c]))
    (hfile : isAbsolute file = false) (env : Environment) (files : FileStore) :
    components (Rendering.resolveFile env template files file) =
      .root :: (cs ++ (segments file.toList).filterMap ofSegment?) := by
  obtain ⟨parent, hparent, hcomponents⟩ := components_parent? hsource
  have hne : parent ≠ "" := by
    rintro rfl
    cases hcomponents
  have hown : (some parent).filter (· ≠ "") = some parent := by simp [Option.filter, hne]
  rw [Rendering.resolveFile, hparent]
  simp only [hown, hfile, Option.some_or, Option.getD_some]
  exact components_join hcomponents hfile

/-- **Where the cache file of an include is**: below the directory of cache files exactly if the way
from the templates root, through the directory of the template to the file that it names, comes back
by the names it leaves. -/
theorem included_below_iff (hcache : components c.cacheRoot = .root :: cache.map .name)
    (hroot : components c.templatesRoot = .root :: root.map .name) {env : Environment}
    {template : Template} {files : FileStore} {file : String} {ds : List Component} {d : Component}
    (hsource : components template.sourcePath = components c.templatesRoot ++ ds ++ [d])
    (hfile : isAbsolute file = false) (workingDirectory : String) :
    ∃ spot, place? workingDirectory (c.path (Rendering.resolveFile env template files file)) =
        some spot ∧
      (Below (cache ++ [directory.toList]) spot ↔ StaysIn (cache ++ [directory.toList])
        (ds ++ (segments file.toList).filterMap ofSegment?).dropLast) := by
  rw [hroot, List.cons_append, List.cons_append] at hsource
  have hincluded := components_resolveFile hsource hfile env files
  have hkept : c.remainder (Rendering.resolveFile env template files file) =
      ds ++ (segments file.toList).filterMap ofSegment? :=
    remainder_of_append (by rw [hincluded, hroot, List.cons_append, List.append_assoc])
  have hbelow := below_path_iff hcache hroot workingDirectory
    (Rendering.resolveFile env template files file)
  rwa [hkept] at hbelow

/-! ## All sources -/

/-- **The cache stays in its directory except for sources that step out of the templates root.** The
cache file of a source is below the directory of cache files exactly if what is behind the templates
root, if the source begins with that, comes back by the names it leaves; and if it never steps above
the root, keeping a template changes nothing but what is below the directory of cache files and
directories that lead to it. -/
theorem path_contained_iff (hcache : components c.cacheRoot = .root :: cache.map .name)
    (hroot : components c.templatesRoot = .root :: root.map .name)
    (workingDirectory source : String) :
    (∃ spot, place? workingDirectory (c.path source) = some spot ∧
      (Below (cache ++ [directory.toList]) spot ↔
        ∀ rest, components source = components c.templatesRoot ++ rest →
          StaysIn (cache ++ [directory.toList]) rest.dropLast)) ∧
    ((∀ rest, components source = components c.templatesRoot ++ rest →
        (climb rest.dropLast).ups = 0) →
      ∀ files template fold names, Slashless names →
        FileStore.entry? (c.save files source template fold) names ≠ files.entry? names →
          names <+: cache ++ [directory.toList] ∨ Below (cache ++ [directory.toList]) names) := by
  constructor
  · obtain ⟨spot, hspot, hbelow⟩ := below_path_iff hcache hroot workingDirectory source
    refine ⟨spot, hspot, hbelow.trans ?_⟩
    constructor
    · intro hstays rest hrest
      rwa [remainder_of_append hrest] at hstays
    · intro hstays
      by_cases hbegin : components c.templatesRoot <+: components source
      · obtain ⟨rest, hrest⟩ := hbegin
        rw [remainder_of_append hrest.symm]
        exact hstays rest hrest.symm
      · -- a source that does not begin with the root has no steps up left
        exact staysIn_of_ups (ups_remainder fun rest hrest =>
          absurd (hrest ▸ List.prefix_append _ _) hbegin)
  · intro hups files template fold names hnames hchanged
    exact changed_save_below hcache hroot (ups_remainder hups) hnames hchanged

end Home

/-- A detour through a directory below the templates root stays, a step out of the root does not. -/
theorem path_contained_iff_rootedCache :
    (∃ spot, place? "/" (rootedCache.path "/t/pages/../home.xml") = some spot ∧
      Below ["cache".toList, directory.toList] spot) ∧
    (∃ spot, place? "/" (rootedCache.path "/t/../note.xml") = some spot ∧
      ¬Below ["cache".toList, directory.toList] spot) ∧
    ∀ files template fold names, Slashless names →
      FileStore.entry? (rootedCache.save files "/t/pages/../home.xml" template fold) names ≠
          files.entry? names →
        names <+: ["cache".toList, directory.toList] ∨
          Below ["cache".toList, directory.toList] names := by
  have hcache : components rootedCache.cacheRoot = .root :: ["cache".toList].map .name := by decide
  have hroot : components rootedCache.templatesRoot = .root :: ["t".toList].map .name := by decide
  have hstays : ∀ rest, components "/t/pages/../home.xml" =
      components rootedCache.templatesRoot ++ rest → (climb rest.dropLast).ups = 0 := by
    intro rest hrest
    have hwritten : components "/t/pages/../home.xml" = components rootedCache.templatesRoot ++
        [.name "pages".toList, .up, .name "home.xml".toList] := by decide +kernel
    rw [List.append_cancel_left (hrest.symm.trans hwritten)]
    rfl
  obtain ⟨hinside, hsaved⟩ := path_contained_iff hcache hroot "/" "/t/pages/../home.xml"
  obtain ⟨⟨left, hleft, houtside⟩, -⟩ := path_contained_iff hcache hroot "/" "/t/../note.xml"
  refine ⟨?_, ⟨left, hleft, fun hbelow => ?_⟩, hsaved hstays⟩
  · obtain ⟨spot, hspot, hbelow⟩ := hinside
    exact ⟨spot, hspot, hbelow.2 fun rest hrest => staysIn_of_ups (hstays rest hrest)⟩
  · exact absurd (houtside.1 hbelow [.up, .name "note.xml".toList] (by decide +kernel)) (by decide)

/-! ## An include that writes elsewhere -/

/-- A page in the templates root that includes a file of the root directory, and directories. -/
def noteFiles : FileStore :=
  ⟨"/", .ofList [("/cache", .directory 0), ("/site", .directory 0), ("/site/t", .directory 0),
    ("/site/t/page.xml", .file "<r><tl:include file=\"../../note.xml\"/></r>".toUTF8 1),
    ("/note.xml", .file "<p/>".toUTF8 1)], 1⟩

/-- The cache of that page. -/
def noteCache : Cache := ⟨"/cache", "/site/t"⟩

/-- A view of that page with that cache. -/
def noteView : View :=
  { View.ofConfig { Config.standard with
      cacheRoot := some "/cache", templatesRoot := some "/site/t" } with
    source := some (.file "/site/t/page.xml") }

/-- **An include can make the cache write elsewhere**: rendering the page puts a cache file next to
the file that it includes, outside of the cache root. -/
theorem path_leaves_home :
    place? "/" (noteCache.path "/site/t/../../note.xml") = some ["note.xml.tlc".toList] ∧
      ¬Below ["cache".toList, directory.toList] ["note.xml.tlc".toList] ∧
      noteFiles.isFile "/note.xml.tlc" = false ∧
      (noteView.render noteFiles).1 = .ok "<r><p/></r>" ∧
      (noteView.render noteFiles).2.2.isFile "/note.xml.tlc" = true := by
  refine ⟨by decide +kernel, ?_, by decide +kernel, by decide +kernel, by decide +kernel⟩
  rintro ⟨rest, -, heq⟩
  exact absurd (List.cons.inj heq).1 (by decide)

end Cache

end TagTemplate
