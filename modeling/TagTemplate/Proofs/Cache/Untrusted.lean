import TagTemplate.Proofs.Cache.Views
import TagTemplate.Proofs.Template.Consistency

/-!
# Cache files that the engine did not write

A cache file may hold any bytes. If they are no entry, or one of another version or built another
way, the template is read from its source. But an entry is taken as it is: nothing looks at the
tree in it, which may be none that a builder makes.

- `Cache.Has`: the template that the cache file of a source holds;
- `load?_eq_some_iff`: the cache gives this template and no other;
- `loadTemplate_of_any`: **whatever the cache file holds, a source that can be read is loaded**, and
  its tree is well-formed exactly if the cache file holds no other;
- `loadTemplate_takes_broken`: a tree that cannot be rendered is taken from the cache.
-/

namespace TagTemplate

open FilePath

namespace Cache

variable {c : Cache} {s : FileStore} {source : String} {fold : Bool} {template : Template}

/-- The cache file of the source is not older than it, and its bytes are those of an entry for the
template, built the same way. -/
def Has (c : Cache) (s : FileStore) (source : String) (fold : Bool) (template : Template) : Prop :=
  ∃ bytes cached, s.readBytes (c.path source) = .ok bytes ∧
    s.modified? (c.path source) = some cached ∧ isStale s source cached = false ∧
    Entry.read? bytes = some ⟨version, fold, template⟩

/-- A source has one template in the cache at most. -/
theorem Has.unique {other : Template} (h : c.Has s source fold template)
    (h' : c.Has s source fold other) : template = other := by
  obtain ⟨bytes, cached, hbytes, -, -, hread⟩ := h
  obtain ⟨bytes', cached', hbytes', -, -, hread'⟩ := h'
  cases hbytes.symm.trans hbytes'
  cases hread.symm.trans hread'
  rfl

/-- What the cache gives of a file that is there. -/
theorem load?_of_readBytes {bytes : ByteArray} {cached : Nat}
    (hbytes : s.readBytes (c.path source) = .ok bytes)
    (hcached : s.modified? (c.path source) = some cached) :
    c.load? s source fold =
      if isStale s source cached then none
      else (Entry.read? bytes).bind fun entry =>
        if entry.version = version ∧ entry.folded = fold then some entry.template else none := by
  rw [load?, hcached, Option.bind_some, hbytes]
  rfl

/-- **The cache gives the template that it has**, and no other. -/
theorem load?_eq_some_iff :
    c.load? s source fold = some template ↔ c.Has s source fold template := by
  constructor
  · intro h
    obtain ⟨cached, bytes, entry, hfresh, hfind, hread, hfold, rfl⟩ := load?_eq_some h
    have hbytes : s.readBytes (c.path source) = .ok bytes := by
      rw [FileStore.readBytes, hfind]
      rfl
    have hcached : s.modified? (c.path source) = some cached := by
      rw [FileStore.modified?, hfind]
    rw [load?_of_readBytes hbytes hcached, hfresh, if_neg Bool.false_ne_true, hread,
      Option.bind_some] at h
    split at h
    · rename_i hbuilt
      refine ⟨bytes, cached, hbytes, hcached, hfresh, ?_⟩
      rw [hread, ← hbuilt.1, ← hfold]
    · cases h
  · rintro ⟨bytes, cached, hbytes, hcached, hfresh, hread⟩
    rw [load?_of_readBytes hbytes hcached, hfresh, if_neg Bool.false_ne_true, hread,
      Option.bind_some, if_pos ⟨rfl, rfl⟩]

/-- What is loaded, given the template that the source has: the one in the cache if there is one,
and else that of the source. -/
def loadedOf (built : Template) : Option Template → Loaded
  | some kept => ⟨kept, true⟩
  | none => ⟨built, false⟩

theorem loadTemplate_of_built {text : String} {built : Template}
    (htext : s.readText source = .ok text) (hbuilt : Template.read text source fold = .ok built) :
    (loadTemplate (some c) s source fold).1 = .ok (loadedOf built (c.load? s source fold)) := by
  cases hload : c.load? s source fold with
  | some kept =>
    rw [loadTemplate_of_some hload]
    rfl
  | none =>
    have hread : readTemplate s source fold = .ok built := by
      rw [readTemplate, FileStore.readNamed, htext]
      exact hbuilt
    rw [loadTemplate_of_none hload, hread]
    rfl

/-- **Whatever the cache file of a source holds, a source that can be read is loaded.** What is
loaded is the template in the cache, or the one that the source has if the cache has none. The
latter is well-formed, so it is up to the cache file whether the former is. -/
theorem loadTemplate_of_any {text : String} {built : Template}
    (htext : s.readText source = .ok text) (hbuilt : Template.read text source fold = .ok built) :
    ∃ loaded, (loadTemplate (some c) s source fold).1 = .ok loaded ∧
      (loaded.fromCache = true ∧ c.Has s source fold loaded.template ∨
        loaded = ⟨built, false⟩ ∧ ∀ kept, ¬ c.Has s source fold kept) ∧
      built.tree.WellFormed ∧
      (loaded.template.tree.WellFormed ↔
        ∀ kept, c.Has s source fold kept → kept.tree.WellFormed) := by
  have hwellFormed := Template.wellFormed_of_read hbuilt
  refine ⟨_, loadTemplate_of_built htext hbuilt, ?_⟩
  -- what the cache has is taken as it is, and only if it has nothing is the source read
  cases hload : c.load? s source fold with
  | some kept =>
    have hhas := load?_eq_some_iff.1 hload
    refine ⟨.inl ⟨rfl, hhas⟩, hwellFormed, fun h other hother => ?_, fun h => h kept hhas⟩
    rw [hother.unique hhas]
    exact h
  | none =>
    have hnone : ∀ kept, ¬ c.Has s source fold kept := by
      intro kept hkept
      rw [load?_eq_some_iff.2 hkept] at hload
      cases hload
    exact ⟨.inr ⟨rfl, hnone⟩, hwellFormed, fun _ kept hkept => absurd hkept (hnone kept),
      fun _ => hwellFormed⟩

/-! ## A page whose cache file was put there -/

/-- A site with a page. -/
def pageSite : FileStore :=
  ⟨"/", .ofList [("/cache", .directory 0), ("/cache/trees", .directory 0),
    ("/pages", .directory 0), ("/pages/a.xml", .file "<p>fresh</p>".toUTF8 1)], 2⟩

/-- The cache file of the page, from the root on. -/
def pageSpot : List (List Char) := ["cache".toList, "trees".toList, "a.xml.tlc".toList]

/-- The site with bytes in the cache file of its page that were written later. -/
def pageFiles (bytes : ByteArray) : FileStore := pageSite.setEntry pageSpot (.file bytes 2)

/-- The cache file of the page is found, whatever its bytes are. -/
theorem find_pageFiles (bytes : ByteArray) :
    (pageFiles bytes).find (siteCache.path "/pages/a.xml") = .ok (.file bytes 2) := by
  have hslashless : Slashless pageSpot := by
    unfold Slashless
    decide
  have hne : pageSpot ≠ [] := by decide
  have habsent : Option.isNone <| FileStore.entry? pageSite pageSpot := by decide
  have hresolve : pageSite.resolve (siteCache.path "/pages/a.xml") = .ok pageSpot := by
    decide
  -- the cache file takes no directory's place
  have hdirectories : ∀ names time, Slashless names →
      pageSite.entry? names = some (.directory time) →
      ∃ time, FileStore.entry? (pageFiles bytes) names = some (.directory time) := by
    intro names time hnames hdirectory
    have hother : names ≠ pageSpot := by
      rintro rfl
      rw [hdirectory] at habsent
      cases habsent
    rw [pageFiles, FileStore.entry?_setEntry hslashless hne _ hnames, if_neg hother]
    exact ⟨time, hdirectory⟩
  have hentry : FileStore.entry? (pageFiles bytes) pageSpot = some (.file bytes 2) := by
    rw [pageFiles, FileStore.entry?_setEntry hslashless hne _ hslashless, if_pos rfl]
  have hfound : (pageFiles bytes).resolve (siteCache.path "/pages/a.xml") = .ok pageSpot :=
    FileStore.resolve_of_directories (s := pageSite) rfl hdirectories hresolve
  rw [FileStore.find, hfound]
  dsimp only [Except.bind]
  rw [hentry]

/-- The page, folded to its text. -/
def pageTemplate : Template := ⟨"/pages/a.xml", "tl:", none, ⟨[], some (.text "<p>fresh</p>")⟩⟩

/-- Bytes that are no entry: the page is loaded from its source. -/
theorem loadTemplate_of_any_garbage :
    (loadTemplate (some siteCache) (pageFiles "garbage".toUTF8) "/pages/a.xml" true).1 =
      .ok ⟨pageTemplate, false⟩ ∧ pageTemplate.tree.WellFormed := by
  have htext : (pageFiles "garbage".toUTF8).readText "/pages/a.xml" = .ok "<p>fresh</p>" := by
    decide +kernel
  have hbuilt : Template.read "<p>fresh</p>" "/pages/a.xml" true = .ok pageTemplate := by
    decide +kernel
  have hnone : Entry.read? "garbage".toUTF8 = none := by
    decide +kernel
  obtain ⟨loaded, hload, hsource, hwellFormed, -⟩ :=
    loadTemplate_of_any (c := siteCache) htext hbuilt
  rcases hsource with ⟨-, bytes, cached, hbytes, -, -, hread⟩ | ⟨rfl, -⟩
  · rw [FileStore.readBytes, find_pageFiles] at hbytes
    cases hbytes
    cases hnone.symm.trans hread
  · exact ⟨hload, hwellFormed⟩

/-- A template whose root is an element that it does not have cannot be rendered. -/
theorem renderDocument_of_missing {t : Template} {id : Nat} (hroot : t.tree.root = some (.node id))
    (hnone : t.tree.node? id = none) (env : Environment) (scope : Scope) (files : FileStore) :
    (renderDocument env scope files t).1 = .error (.fault .missingNode) := by
  have hnode : Rendering.nodeAt t id = throw (.fault .missingNode) := by
    rw [Rendering.nodeAt, hnone]
  unfold renderDocument renderWithin Rendering.renderTemplate
  rw [hroot]
  show Except.map _ ((Rendering.renderWith env (Rendering.renderNode env 9999) t id
    .normal).run (RenderState.start scope files)).1 = _
  unfold Rendering.renderWith
  rw [hnode]
  rfl

/-- A template that does not have its root, with a `val` directive that has no value and stands in
itself. -/
def brokenTemplate : Template :=
  ⟨"/pages/a.xml", "tl:", none,
    ⟨[⟨"tl:val", "tl:", .empty, [.node 0], false, 1, none, "", some .val⟩], some (.node 7)⟩⟩

/-- The site with an entry for the broken template in its cache. -/
def brokenFiles : FileStore := pageFiles (Entry.write ⟨version, true, brokenTemplate⟩).toUTF8

/-- The cache has the broken template. -/
theorem has_broken : siteCache.Has brokenFiles "/pages/a.xml" true brokenTemplate := by
  have hdistinct : brokenTemplate.tree.HasDistinctAttributes := by
    intro n hn
    rw [List.mem_singleton.1 hn]
    exact List.nodup_nil
  have hfits : Entry.Fits ⟨version, true, brokenTemplate⟩ := by
    refine ⟨by decide, fun n hn => ?_, fun child hchild => ?_⟩
    · rw [List.mem_singleton.1 hn]
      refine ⟨fun child hchild => ?_, by decide, nofun⟩
      rw [List.mem_singleton.1 hchild]
      exact (by decide : 0 < Nat.pow 2 64)
    · cases hchild
      exact (by decide : 7 < Nat.pow 2 64)
  refine ⟨_, 2, ?_, ?_, ?_, (Entry.read?_write hdistinct _).2 ⟨hfits, rfl⟩⟩
  · rw [brokenFiles, FileStore.readBytes, find_pageFiles]
    rfl
  · rw [brokenFiles, FileStore.modified?, find_pageFiles]
  · decide

/-- **A tree that breaks all that a renderer relies on is taken from the cache**, though the page
could be read, and cannot be rendered. -/
theorem loadTemplate_takes_broken :
    brokenFiles.readText "/pages/a.xml" = .ok "<p>fresh</p>" ∧
    Template.read "<p>fresh</p>" "/pages/a.xml" true = .ok pageTemplate ∧
    (loadTemplate (some siteCache) brokenFiles "/pages/a.xml" true).1 =
      .ok ⟨brokenTemplate, true⟩ ∧
    (∃ i, brokenTemplate.tree.root = some (.node i) ∧ ¬ i < brokenTemplate.tree.nodes.length) ∧
    (∃ (p : Nat) (n : Node) (c : Nat), brokenTemplate.tree.nodes[p]? = some n ∧
      .node c ∈ n.children ∧ ¬ p < c) ∧
    (∃ n ∈ brokenTemplate.tree.nodes, ¬ n.HasRequired) ∧
    ∀ env scope files,
      (renderDocument env scope files brokenTemplate).1 = .error (.fault .missingNode) := by
  refine ⟨?_, ?_, ?_, ⟨7, rfl, by decide⟩, ⟨0, _, 0, rfl, List.mem_cons_self, by decide⟩,
    ⟨_, List.mem_cons_self, fun h => ?_⟩, renderDocument_of_missing rfl rfl⟩
  · decide +kernel
  · decide +kernel
  · rw [loadTemplate_of_some (load?_eq_some_iff.2 has_broken)]
  · cases h .val rfl "value" (by decide)

end Cache

end TagTemplate
