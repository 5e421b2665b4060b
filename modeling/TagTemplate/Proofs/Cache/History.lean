import TagTemplate.Proofs.Cache.Codec
import TagTemplate.Proofs.Cache.Path
import TagTemplate.Proofs.FileStore

/-!
# The cache over time

Sources are written and templates are loaded through one cache, in any order and each load with its
own way of building. Whatever happened, a load has the result of reading the source as it is now.

- `Cache.Holds`: what a cache file says about its source, as long as that is not newer;
- `Cache.Faithful`: every cache file does, and no file is newer than the clock;
- `loadTemplate_of_faithful`: then a load has the result of reading the source;
- `faithful_write`, `faithful_load`: what happens leaves the cache faithful;
- `readText_after`: a source has the text that was written last;
- `loadTemplate_history`: a load after any history.
-/

namespace TagTemplate

open FilePath

/-! ## Faithful caches -/

/-- No file is newer than the clock. -/
def FileStore.Timely (s : FileStore) : Prop :=
  ∀ names, Slashless names → ∀ bytes time, s.entry? names = some (.file bytes time) → time ≤ s.clock

namespace Cache

variable {c : Cache} {s s' : FileStore} {names : List (List Char)}

/-- The bytes are those of a template that was read from some text, and that is the text of the
source unless the source was written later. -/
def Holds (s : FileStore) (names : List (List Char)) (bytes : ByteArray) (cached : Nat) : Prop :=
  ∃ text fold template, Template.read text (FileStore.key names) fold = .ok template ∧
    bytes = (Entry.write ⟨version, fold, template⟩).toUTF8 ∧
    ∀ content changed, s.entry? names = some (.file content changed) → changed ≤ cached →
      content = text.toUTF8

/-- What is in the cache agrees with the sources. -/
structure Faithful (c : Cache) (s : FileStore) : Prop where
  timely : s.Timely
  holds : ∀ names, c.Covers s.workingDirectory names → ∀ spot,
    place? s.workingDirectory (c.path (FileStore.key names)) = some spot →
    ∀ bytes cached, s.entry? spot = some (.file bytes cached) → Holds s names bytes cached

/-- A path in normal form leads to its own names. -/
theorem eq_of_resolve_key (hnames : AreNames names) (hne : names ≠ []) {found : List (List Char)}
    (h : s.resolve (FileStore.key names) = .ok found) : found = names := by
  have hplace := FileStore.resolve_eq_place? h
  rw [place?_key _ hnames hne] at hplace
  exact (Option.some.inj hplace).symm

theorem resolve_of_readText {text : String} (hnames : AreNames names) (hne : names ≠ [])
    (h : s.readText (FileStore.key names) = .ok text) :
    s.resolve (FileStore.key names) = .ok names := by
  obtain ⟨bytes, hbytes, -⟩ := bind_eq_ok h
  obtain ⟨changed, hfind⟩ := FileStore.readBytes_eq_ok hbytes
  obtain ⟨found, hresolve, -⟩ := FileStore.find_eq_ok hfind
  rw [hresolve, eq_of_resolve_key hnames hne hresolve]

/-- The text of a source is the content of its entry. -/
theorem entry?_of_readText {text : String} (hnames : AreNames names) (hne : names ≠ [])
    (h : s.readText (FileStore.key names) = .ok text) :
    ∃ changed, s.entry? names = some (.file text.toUTF8 changed) ∧
      s.modified? (FileStore.key names) = some changed := by
  obtain ⟨bytes, hbytes, htext⟩ := bind_eq_ok h
  obtain ⟨changed, hfind⟩ := FileStore.readBytes_eq_ok hbytes
  obtain ⟨found, hresolve, hentry⟩ := FileStore.find_eq_ok hfind
  obtain rfl := eq_of_resolve_key hnames hne hresolve
  split at htext
  · rename_i text' hutf
    cases htext
    rw [fromUTF8?_eq_some_iff.1 hutf] at hentry hfind
    exact ⟨changed, hentry, by rw [FileStore.modified?, hfind]⟩
  · cases htext

theorem readText_of_entry {path text : String} (hresolve : s.resolve path = .ok names) {time : Nat}
    (hentry : s.entry? names = some (.file text.toUTF8 time)) : s.readText path = .ok text := by
  have hbytes : s.readBytes path = .ok text.toUTF8 := by
    simp only [FileStore.readBytes, FileStore.find, hresolve, Except.bind, hentry]
  rw [FileStore.readText, hbytes]
  simp only [Except.bind, fromUTF8?_eq_some_iff.2 rfl]

/-- What the cache has for a source comes from a file that is not older than the source and was
built the same way. -/
theorem load?_eq_some {source : String} {fold : Bool} {template : Template}
    (h : c.load? s source fold = some template) :
    ∃ cached bytes entry, isStale s source cached = false ∧
      s.find (c.path source) = .ok (.file bytes cached) ∧ Entry.read? bytes = some entry ∧
      entry.folded = fold ∧ entry.template = template := by
  rw [load?, Option.bind_eq_some_iff] at h
  obtain ⟨cached, hcached, h⟩ := h
  split at h
  · cases h
  · rename_i hfresh
    rw [Option.bind_eq_some_iff] at h
    obtain ⟨entry, hentry, h⟩ := h
    split at h
    · rename_i hbuilt
      obtain ⟨bytes, hbytes, hread⟩ := Option.bind_eq_some_iff.1 hentry
      obtain ⟨time, hfind⟩ := FileStore.readBytes_eq_ok (eq_ok_of_toOption hbytes)
      rw [FileStore.modified?, hfind] at hcached
      cases hcached
      exact ⟨_, bytes, entry, Bool.eq_false_iff.2 hfresh, hfind, hread, hbuilt.2,
        Option.some.inj h⟩
    · cases h

/-- What the cache has is the result of a load. -/
theorem loadTemplate_of_some {source : String} {fold : Bool} {template : Template}
    (h : c.load? s source fold = some template) :
    loadTemplate (some c) s source fold = (.ok ⟨template, true⟩, s) := by
  unfold loadTemplate
  rw [Option.bind_some, h]

/-- What the cache does not have is read from the source. -/
theorem loadTemplate_of_none {source : String} {fold : Bool} (h : c.load? s source fold = none) :
    loadTemplate (some c) s source fold = match readTemplate s source fold with
      | .error e => (.error e, s)
      | .ok template => (.ok ⟨template, false⟩, c.save s source template fold) := by
  unfold loadTemplate
  cases readTemplate s source fold with
  | error e => simp only [Option.bind_some, h]
  | ok template => simp only [Option.bind_some, h]

theorem readTemplate_of_readText {source text : String} (h : s.readText source = .ok text)
    (fold : Bool) : readTemplate s source fold = Template.read text source fold := by
  rw [readTemplate, FileStore.readNamed, h]
  rfl

/-- **Loading through a faithful cache** has the result of reading the source. -/
theorem loadTemplate_of_faithful (h : c.Faithful s) (hcovers : c.Covers s.workingDirectory names)
    {text : String} (htext : s.readText (FileStore.key names) = .ok text) (fold : Bool) :
    (loadTemplate (some c) s (FileStore.key names) fold).1.map Loaded.template =
      Template.read text (FileStore.key names) fold := by
  cases hload : c.load? s (FileStore.key names) fold with
  | none =>
    rw [loadTemplate_of_none hload, readTemplate_of_readText htext]
    cases Template.read text (FileStore.key names) fold <;> rfl
  | some template =>
    obtain ⟨cached, bytes, entry, hfresh, hfind, hread, hfold, rfl⟩ := load?_eq_some hload
    obtain ⟨spot, hresolve, hentry⟩ := FileStore.find_eq_ok hfind
    obtain ⟨changed, hcurrent, hmodified⟩ :=
      entry?_of_readText hcovers.areNames hcovers.names_ne_nil htext
    obtain ⟨text', fold', template, htemplate, rfl, hagrees⟩ :=
      h.holds names hcovers spot (FileStore.resolve_eq_place? hresolve) bytes cached hentry
    -- the source was not written after the cache file, so both come from the same text
    have hle : changed ≤ cached := by
      rw [isStale, hmodified] at hfresh
      simpa using hfresh
    have hsame : text = text' := String.toByteArray_inj.1 (hagrees _ _ hcurrent hle)
    subst hsame
    have hdistinct := Template.hasDistinctAttributes_of_read htemplate
    obtain ⟨-, rfl⟩ := (Entry.read?_write (e := ⟨version, fold', template⟩) hdistinct entry).1 hread
    rw [loadTemplate_of_some hload, ← hfold, htemplate]
    rfl

/-! ## What leaves a cache faithful -/

/-- A file set now, as writing does. -/
theorem timely_setEntry (h : s.Timely) (hnames : Slashless names) (hne : names ≠ [])
    (content : ByteArray) :
    (s.tick.setEntry names (.file content s.tick.clock)).Timely := by
  intro others hothers bytes time hentry
  rw [FileStore.entry?_setEntry hnames hne _ hothers] at hentry
  split at hentry
  · cases hentry
    exact Nat.le_refl _
  · exact Nat.le_succ_of_le (h others hothers bytes time hentry)

/-- Other directories make no difference. -/
theorem faithful_extends (h : c.Faithful s) (hextends : FileStore.Extends s s') :
    c.Faithful s' := by
  refine ⟨?_, ?_⟩
  · intro names hnames bytes time hentry
    rw [hextends.clock]
    exact h.timely names hnames bytes time ((hextends.entry?_file hnames bytes time).1 hentry)
  · intro names hcovers spot hspot bytes cached hentry
    rw [hextends.workingDirectory] at hcovers hspot
    obtain ⟨text, fold, template, htemplate, hbytes, hagrees⟩ :=
      h.holds names hcovers spot hspot bytes cached
        ((hextends.entry?_file (slashless_of_place? hspot) bytes cached).1 hentry)
    exact ⟨text, fold, template, htemplate, hbytes, fun content changed hsource =>
      hagrees content changed
        ((hextends.entry?_file hcovers.areNames.slashless content changed).1 hsource)⟩

/-- A source that is written now is newer than all cache files. -/
theorem faithful_source (h : c.Faithful s) (hcovers : c.Covers s.workingDirectory names)
    (content : ByteArray) : c.Faithful (s.tick.setEntry names (.file content s.tick.clock)) := by
  have hslashless := hcovers.areNames.slashless
  have hne := hcovers.names_ne_nil
  refine ⟨timely_setEntry h.timely hslashless hne content, ?_⟩
  intro others hothers spot hspot bytes cached hentry
  -- no source is in the place of a cache file, so all of those stay
  have hspot' : spot ≠ names := by
    rintro rfl
    exact hothers.place?_ne hcovers hspot
  rw [FileStore.entry?_setEntry hslashless hne _ (slashless_of_place? hspot),
    if_neg hspot'] at hentry
  obtain ⟨text, fold, template, htemplate, hbytes, hagrees⟩ :=
    h.holds others hothers spot hspot bytes cached hentry
  refine ⟨text, fold, template, htemplate, hbytes, fun found changed hsource hle => ?_⟩
  rw [FileStore.entry?_setEntry hslashless hne _ hothers.areNames.slashless] at hsource
  split at hsource
  -- the source itself is newer now than its cache file, which says nothing of it any more
  · cases hsource
    have hcached := h.timely spot (slashless_of_place? hspot) bytes cached hentry
    exact absurd (Nat.le_trans hle hcached) (Nat.not_succ_le_self _)
  · exact hagrees found changed hsource hle

/-- The cache file of a source that is written now has what was read from the source. -/
theorem faithful_cached (h : c.Faithful s) (hcovers : c.Covers s.workingDirectory names)
    {spot : List (List Char)}
    (hspot : place? s.workingDirectory (c.path (FileStore.key names)) = some spot)
    {text : String} {fold : Bool} {template : Template}
    (htemplate : Template.read text (FileStore.key names) fold = .ok template) {changed : Nat}
    (hsource : s.entry? names = some (.file text.toUTF8 changed)) :
    c.Faithful (s.tick.setEntry spot
      (.file (Entry.write ⟨version, fold, template⟩).toUTF8 s.tick.clock)) := by
  have hslashless := slashless_of_place? hspot
  have hne : spot ≠ [] := by
    obtain ⟨home, root, rest, -, -, hrest, -, hpath⟩ := hcovers.place?_path
    rw [hpath] at hspot
    cases hspot
    simp [marked_ne_nil (kept_ne_nil hrest)]
  -- no cache file is in the place of a source, so all of those stay
  have hsources : ∀ others, c.Covers s.workingDirectory others → ∀ entry,
      FileStore.entry? (s.tick.setEntry spot entry) others = s.entry? others := by
    intro others hothers entry
    have hother : others ≠ spot := by
      rintro rfl
      exact hcovers.place?_ne hothers hspot
    rw [FileStore.entry?_setEntry hslashless hne _ hothers.areNames.slashless, if_neg hother]
    rfl
  refine ⟨timely_setEntry h.timely hslashless hne _, ?_⟩
  intro others hothers spot' hspot' bytes cached hentry
  rw [FileStore.entry?_setEntry hslashless hne _ (slashless_of_place? hspot')] at hentry
  split at hentry
  -- what was written is the cache file of this source and of no other
  · rename_i heq
    subst heq
    cases hcovers.unique hothers (hspot.trans hspot'.symm)
    cases hentry
    refine ⟨text, fold, template, htemplate, rfl, fun found changed' hfound _ => ?_⟩
    rw [hsources names hcovers, hsource] at hfound
    cases hfound
    rfl
  · obtain ⟨text', fold', template', htemplate', hbytes, hagrees⟩ :=
      h.holds others hothers spot' hspot' bytes cached hentry
    refine ⟨text', fold', template', htemplate', hbytes, fun found changed' hfound => ?_⟩
    rw [hsources others hothers] at hfound
    exact hagrees found changed' hfound

theorem faithful_tick (h : c.Faithful s) : c.Faithful s.tick :=
  ⟨fun names hnames bytes time hentry =>
      Nat.le_succ_of_le (h.timely names hnames bytes time hentry),
    h.holds⟩

/-- Writing a source leaves the cache faithful, also if it fails. -/
theorem faithful_write (h : c.Faithful s) (hcovers : c.Covers s.workingDirectory names)
    (content : ByteArray) :
    c.Faithful ((s.writeFile? (FileStore.key names) content).getD s) := by
  cases hwrite : s.writeFile? (FileStore.key names) content with
  | none => exact h
  | some s' =>
    obtain ⟨found, -, hplace, -, -, rfl⟩ := FileStore.writeFile?_eq_some hwrite
    rw [place?_key _ hcovers.areNames hcovers.names_ne_nil] at hplace
    cases hplace
    exact faithful_source h hcovers content

/-- Keeping a template makes some directories at most, and then writes the cache file or nothing. -/
theorem save_cases (c : Cache) (s : FileStore) (source : String) (template : Template)
    (fold : Bool) :
    ∃ s', FileStore.Extends s s' ∧ (c.save s source template fold = s' ∨
      s'.writeFile? (c.path source) (Entry.write ⟨version, fold, template⟩).toUTF8 =
        some (c.save s source template fold)) := by
  unfold save
  split
  · exact ⟨s, .refl s, .inl rfl⟩
  · rename_i s' hcreate
    obtain ⟨directory, -, hcreate⟩ := Option.bind_eq_some_iff.1 hcreate
    refine ⟨s', FileStore.extends_createDirectories? hcreate, ?_⟩
    dsimp only
    split
    · exact .inl rfl
    · cases s'.writeFile? (c.path source) (Entry.write ⟨version, fold, template⟩).toUTF8 with
      | none => exact .inl rfl
      | some s'' => exact .inr rfl

/-- A load makes some directories at most, and then writes what it read from the source into the
cache file, or nothing. -/
theorem loadTemplate_cases (c : Cache) (s : FileStore) (source : String) (fold : Bool) :
    ∃ s', FileStore.Extends s s' ∧ ((loadTemplate (some c) s source fold).2 = s' ∨
      ∃ text template, s.readText source = .ok text ∧
        Template.read text source fold = .ok template ∧
        s'.writeFile? (c.path source) (Entry.write ⟨version, fold, template⟩).toUTF8 =
          some (loadTemplate (some c) s source fold).2) := by
  cases hload : c.load? s source fold with
  | some template =>
    rw [loadTemplate_of_some hload]
    exact ⟨s, .refl s, .inl rfl⟩
  | none =>
    rw [loadTemplate_of_none hload]
    cases hread : readTemplate s source fold with
    | error e => exact ⟨s, .refl s, .inl rfl⟩
    | ok template =>
      obtain ⟨text, htext, htemplate⟩ := bind_eq_ok hread
      obtain ⟨s', hextends, hsaved⟩ := c.save_cases s source template fold
      exact ⟨s', hextends, hsaved.imp_right fun hwrite =>
        ⟨text, template, FileStore.readText_of_readNamed htext, htemplate, hwrite⟩⟩

/-- Loading a template leaves the cache faithful, whatever of it fails. -/
theorem faithful_load (h : c.Faithful s) (hcovers : c.Covers s.workingDirectory names)
    (fold : Bool) :
    c.Faithful (loadTemplate (some c) s (FileStore.key names) fold).2 := by
  obtain ⟨s', hextends, hsame | ⟨text, template, htext, htemplate, hwrite⟩⟩ :=
    c.loadTemplate_cases s (FileStore.key names) fold
  · rw [hsame]
    exact faithful_extends h hextends
  · obtain ⟨changed, hsource, -⟩ := entry?_of_readText hcovers.areNames hcovers.names_ne_nil htext
    obtain ⟨spot, -, hspot, -, -, hset⟩ := FileStore.writeFile?_eq_some hwrite
    rw [hset]
    rw [← hextends.workingDirectory] at hcovers
    exact faithful_cached (faithful_extends h hextends) hcovers hspot htemplate
      ((hextends.entry?_file hcovers.areNames.slashless _ _).2 hsource)

/-! ## Histories -/

/-- There is no cache file yet, and no file is newer than the clock. -/
structure Unused (c : Cache) (s : FileStore) : Prop where
  timely : s.Timely
  empty : ∀ home, place? s.workingDirectory c.home = some home → ∀ names, Below home names →
    ∀ bytes time, s.entry? names ≠ some (.file bytes time)

theorem Unused.faithful (h : c.Unused s) : c.Faithful s := by
  refine ⟨h.timely, fun names hcovers spot hspot bytes cached hentry => ?_⟩
  obtain ⟨home, root, rest, hhome, -, hrest, -, hpath⟩ := hcovers.place?_path
  rw [hpath] at hspot
  cases hspot
  exact absurd hentry
    (h.empty home hhome _ ⟨_, marked_ne_nil (kept_ne_nil hrest), rfl⟩ bytes cached)

/-- The path is that of a source the cache is made for, in normal form. -/
def Serves (c : Cache) (workingDirectory source : String) : Prop :=
  ∃ names, c.Covers workingDirectory names ∧ source = FileStore.key names

end Cache

/-- What can happen to sources and their cache. -/
inductive Happening where
  /-- A source gets a text; a write that fails changes nothing. -/
  | write (source text : String)
  /-- A template is loaded through the cache. -/
  | load (source : String) (fold : Bool)
  /-- Time passes. -/
  | wait

namespace Happening

/-- The source that something happens to. -/
def source? : Happening → Option String
  | write source _ => some source
  | load source _ => some source
  | wait => none

/-- The files after it happened. -/
def apply (c : Cache) (s : FileStore) : Happening → FileStore
  | write source text => (s.writeFile? source text.toUTF8).getD s
  | load source fold => (loadTemplate (some c) s source fold).2
  | wait => s.tick

end Happening

namespace Cache

/-- The files after all of it happened, in order. -/
def after (c : Cache) (s : FileStore) (history : List Happening) : FileStore :=
  history.foldl (Happening.apply c) s

/-- Everything in the history happens to sources that the cache is made for. -/
def Runs (c : Cache) (workingDirectory : String) (history : List Happening) : Prop :=
  ∀ h ∈ history, ∀ source ∈ h.source?, c.Serves workingDirectory source

variable {c : Cache} {s : FileStore} {names others : List (List Char)}

theorem workingDirectory_apply (happening : Happening) :
    (happening.apply c s).workingDirectory = s.workingDirectory := by
  cases happening with
  | write source text =>
    rw [Happening.apply]
    cases hwrite : s.writeFile? source text.toUTF8 with
    | none => rfl
    | some s' =>
      obtain ⟨names, -, -, -, -, rfl⟩ := FileStore.writeFile?_eq_some hwrite
      rfl
  | load source fold =>
    rw [Happening.apply]
    obtain ⟨s', hextends, hsame | ⟨text, template, -, -, hwrite⟩⟩ :=
      c.loadTemplate_cases s source fold
    · rw [hsame, hextends.workingDirectory]
    · obtain ⟨spot, -, -, -, -, hset⟩ := FileStore.writeFile?_eq_some hwrite
      rw [hset]
      exact hextends.workingDirectory
  | wait => rfl

/-- One step of a history. -/
theorem faithful_apply (h : c.Faithful s) (happening : Happening)
    (hserves : ∀ source ∈ happening.source?, c.Serves s.workingDirectory source) :
    c.Faithful (happening.apply c s) := by
  cases happening with
  | write source text =>
    obtain ⟨names, hcovers, rfl⟩ := hserves source rfl
    exact faithful_write h hcovers text.toUTF8
  | load source fold =>
    obtain ⟨names, hcovers, rfl⟩ := hserves source rfl
    exact faithful_load h hcovers fold
  | wait => exact faithful_tick h

/-- A whole history. -/
theorem faithful_after (h : c.Faithful s) {history : List Happening}
    (hruns : c.Runs s.workingDirectory history) :
    c.Faithful (c.after s history) ∧ (c.after s history).workingDirectory = s.workingDirectory := by
  induction history generalizing s with
  | nil => exact ⟨h, rfl⟩
  | cons happening history ih =>
    have hworking := workingDirectory_apply (c := c) (s := s) happening
    have hstep := faithful_apply h happening (hruns happening List.mem_cons_self)
    rw [← hworking] at hruns ⊢
    exact ih hstep fun later hlater => hruns later (List.mem_cons_of_mem _ hlater)

/-! ## What a source reads as -/

/-- A load leaves every source as it is. -/
theorem preserves_load (hcovers : c.Covers s.workingDirectory names)
    (hothers : c.Covers s.workingDirectory others) (fold : Bool) :
    FileStore.Preserves names s (loadTemplate (some c) s (FileStore.key others) fold).2 := by
  have hslashless := hcovers.areNames.slashless
  obtain ⟨s', hextends, hsame | ⟨text, template, -, -, hwrite⟩⟩ :=
    c.loadTemplate_cases s (FileStore.key others) fold
  · rw [hsame]
    exact .of_extends hextends hslashless
  · refine .trans (.of_extends hextends hslashless) (.writeFile? hwrite hslashless ?_)
    rw [hextends.workingDirectory]
    exact hothers.place?_ne hcovers

/-- What happens to other sources, and loads of the same one, leave a source as it is. -/
theorem preserves_apply (hcovers : c.Covers s.workingDirectory names) (happening : Happening)
    (hserves : ∀ source ∈ happening.source?, c.Serves s.workingDirectory source)
    (hother : ∀ text, happening ≠ .write (FileStore.key names) text) :
    FileStore.Preserves names s (happening.apply c s) := by
  cases happening with
  | write source text =>
    obtain ⟨others, hothers, rfl⟩ := hserves source rfl
    cases hwrite : s.writeFile? (FileStore.key others) text.toUTF8 with
    | none =>
      rw [Happening.apply, hwrite]
      exact .refl names s
    | some s' =>
      rw [Happening.apply, hwrite]
      refine .writeFile? hwrite hcovers.areNames.slashless ?_
      rw [place?_key _ hothers.areNames hothers.names_ne_nil]
      intro heq
      cases heq
      exact hother text rfl
  | load source fold =>
    obtain ⟨others, hothers, rfl⟩ := hserves source rfl
    exact preserves_load hcovers hothers fold
  | wait => exact ⟨rfl, fun _ _ _ h => h, fun _ _ h => h⟩

theorem preserves_after (hcovers : c.Covers s.workingDirectory names) {history : List Happening}
    (hruns : c.Runs s.workingDirectory history)
    (hother : ∀ text, .write (FileStore.key names) text ∉ history) :
    FileStore.Preserves names s (c.after s history) := by
  induction history generalizing s with
  | nil => exact .refl names s
  | cons happening history ih =>
    have hworking := workingDirectory_apply (c := c) (s := s) happening
    have hstep := preserves_apply hcovers happening (hruns happening List.mem_cons_self)
      fun text heq => hother text (heq ▸ List.mem_cons_self)
    rw [← hworking] at hcovers hruns
    exact hstep.trans (ih hcovers (fun later hlater => hruns later (List.mem_cons_of_mem _ hlater))
      fun text hmem => hother text (List.mem_cons_of_mem _ hmem))

/-- **A source has the text that was written last**, whatever else happened since. -/
theorem readText_after {source text : String} (hserves : c.Serves s.workingDirectory source)
    {written : FileStore} (hwritten : s.writeFile? source text.toUTF8 = some written)
    {history : List Happening} (hruns : c.Runs s.workingDirectory history)
    (hlast : ∀ text, .write source text ∉ history) :
    (c.after written history).readText source = .ok text := by
  obtain ⟨names, hcovers, rfl⟩ := hserves
  obtain ⟨found, hresolve, hplace, hne, hentry, rfl⟩ := FileStore.writeFile?_eq_some hwritten
  rw [place?_key _ hcovers.areNames hcovers.names_ne_nil] at hplace
  cases hplace
  have hslashless := hcovers.areNames.slashless
  -- the source takes no directory's place, so the way to it is still there
  have hdirectories : ∀ others time, Slashless others →
      s.tick.entry? others = some (.directory time) →
      FileStore.entry? (s.tick.setEntry names (.file text.toUTF8 s.tick.clock)) others =
        some (.directory time) := by
    intro others time hothers hdirectory
    have hdifferent : others ≠ names := by
      rintro rfl
      exact hentry time hdirectory
    rw [FileStore.entry?_setEntry hslashless hne _ hothers, if_neg hdifferent]
    exact hdirectory
  -- from then on nothing touches it
  have hafter := preserves_after (s := s.tick.setEntry names (.file text.toUTF8 s.tick.clock))
    hcovers hruns hlast
  have hfile := hafter.file text.toUTF8 s.tick.clock
    (by rw [FileStore.entry?_setEntry hslashless hne _ hslashless, if_pos rfl])
  have hfound : FileStore.resolve (c.after _ history) (FileStore.key names) = .ok names :=
    FileStore.resolve_of_directories (s := s.tick) hafter.workingDirectory
      (fun others time hothers hdirectory =>
        ⟨time, hafter.directory others time hothers (hdirectories others time hothers hdirectory)⟩)
      hresolve
  exact readText_of_entry hfound hfile

/-- **A load after any history** has the result of reading the source as it is now: the same
template, or the same error. -/
theorem loadTemplate_history (hunused : c.Unused s) {history : List Happening}
    (hruns : c.Runs s.workingDirectory history) {source : String}
    (hserves : c.Serves s.workingDirectory source) {text : String}
    (htext : (c.after s history).readText source = .ok text) (fold : Bool) :
    (loadTemplate (some c) (c.after s history) source fold).1.map Loaded.template =
      Template.read text source fold := by
  obtain ⟨hfaithful, hworking⟩ := faithful_after hunused.faithful hruns
  obtain ⟨names, hcovers, rfl⟩ := hserves
  rw [← hworking] at hcovers
  exact loadTemplate_of_faithful hfaithful hcovers htext fold

/-! ## A page that is rewritten -/

/-- A directory of pages, and one for the cache. -/
def siteFiles : FileStore := ⟨"/", .ofList [("/cache", .directory 0), ("/pages", .directory 0)], 0⟩

/-- The cache of the pages. -/
def siteCache : Cache := ⟨"/cache", "/pages"⟩

/-- The page is written, kept, written again, and kept again, built in another way. -/
def siteHistory : List Happening :=
  [.write "/pages/a.xml" "<p>old</p>", .load "/pages/a.xml" true,
    .write "/pages/a.xml" "<p>new</p>", .load "/pages/a.xml" false]

theorem unused_site : siteCache.Unused siteFiles := by
  have hfile : ∀ names bytes time, siteFiles.entry? names ≠ some (.file bytes time) := by
    intro names bytes time hentry
    rw [FileStore.entry?] at hentry
    split at hentry
    · cases hentry
    · have hmem := OrderedMap.mem_of_get? hentry
      have hall : ∀ entry ∈ siteFiles.entries.entries, entry.2 = .directory 0 := by
        rintro entry (_ | ⟨_, _ | ⟨_, ⟨⟩⟩⟩) <;> rfl
      exact absurd (hall _ hmem) (by simp)
  exact ⟨fun names _ bytes time hentry => absurd hentry (hfile names bytes time),
    fun _ _ names _ bytes time => hfile names bytes time⟩

/-- The cache is made for everything that stands in the directory of pages. -/
theorem serves_page {name : List Char} (hname : IsName name) :
    siteCache.Serves siteFiles.workingDirectory (FileStore.key ["pages".toList, name]) := by
  have hhome : place? "/" siteCache.home = some ["cache".toList, "trees".toList] := by
    decide +kernel
  refine ⟨["pages".toList, name], ⟨?_, ?_, ?_⟩, rfl⟩
  · intro s hs
    rcases List.mem_pair.1 hs with rfl | rfl
    · exact ⟨by decide, by decide, by decide, by decide⟩
    · exact hname
  · exact ⟨["pages".toList], by decide +kernel, [name], by simp, rfl⟩
  · rintro home hplace ⟨rest, -, heq⟩
    cases hhome.symm.trans hplace
    exact absurd (List.cons.inj heq).1 (by decide)

theorem serves_site : siteCache.Serves siteFiles.workingDirectory "/pages/a.xml" :=
  have hname : IsName "a.xml".toList := ⟨by decide, by decide, by decide, by decide⟩
  serves_page hname

theorem runs_site : siteCache.Runs siteFiles.workingDirectory siteHistory := by
  intro happening hmem source hsource
  have hpage : ∀ happening ∈ siteHistory, happening.source? = some "/pages/a.xml" := by decide
  rw [hpage happening hmem] at hsource
  cases hsource
  exact serves_site

theorem readText_site :
    (siteCache.after siteFiles siteHistory).readText "/pages/a.xml" = .ok "<p>new</p>" := by
  decide +kernel

/-- A load of the page gives it as it was written last. -/
theorem loadTemplate_history_rewritten :
    (loadTemplate (some siteCache) (siteCache.after siteFiles siteHistory)
        "/pages/a.xml" true).1.map Loaded.template =
      Template.read "<p>new</p>" "/pages/a.xml" true :=
  loadTemplate_history unused_site runs_site serves_site readText_site true

end Cache

end TagTemplate
