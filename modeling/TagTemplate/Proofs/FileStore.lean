import TagTemplate.Cache.Basic
import TagTemplate.Proofs.Except
import TagTemplate.Proofs.FilePath
import TagTemplate.Proofs.OrderedMap

/-!
# What changes of a file store leave alone

Everything about a store is said of its entries by their names. A path leads to the place that its
segments say, and a change is known by the one entry that it sets.

- `resolve_eq_place?`: where a path leads;
- `exists_entry_of_readNamed`: what is read stands in an entry;
- `entry?_setEntry`: what setting an entry does to the others;
- `Extends`, `extends_createDirectories?`: making directories only adds some where nothing was;
- `putFile?_eq_some`: writing sets one entry, which was no directory;
- `resolve_of_directories`: a path leads on to where it led as long as directories stay;
- `Preserves`: directories and one file stay.
-/

namespace TagTemplate.FileStore

open FilePath

variable {s s' : FileStore} {path : String} {names : List (List Char)}

/-! ## Where paths lead -/

theorem walk_eq_place {ss out : List (List Char)} (h : s.walk names ss = .ok out) :
    out = place names ss := by
  induction ss generalizing names with
  | nil =>
    cases h
    rfl
  | cons segment rest ih =>
    rw [walk] at h
    obtain ⟨-, -, h⟩ := bind_eq_ok h
    rcases ofSegment?_cases segment with hvoid | hup | hname
    · simp only [hvoid] at h
      simp only [place, hvoid]
      exact ih h
    · simp only [hup] at h
      simp only [place, hup]
      exact ih h
    · simp only [hname] at h
      simp only [place, hname]
      split at h
      · cases h
      · exact ih h

/-- A path that can be followed leads where its segments say. -/
theorem resolve_eq_place? (h : s.resolve path = .ok names) :
    place? s.workingDirectory path = some names := by
  rw [resolve] at h
  split at h
  · cases h
  · rename_i hne
    split at h
    · rw [place?, if_neg hne, walk_eq_place h]
      rfl
    · cases h

theorem find_eq_ok {entry : Entry} (h : s.find path = .ok entry) :
    ∃ names, s.resolve path = .ok names ∧ s.entry? names = some entry := by
  obtain ⟨names, hnames, h⟩ := bind_eq_ok h
  refine ⟨names, hnames, ?_⟩
  split at h
  · rename_i hentry
    cases h
    exact hentry
  · cases h

theorem readBytes_eq_ok {bytes : ByteArray} (h : s.readBytes path = .ok bytes) :
    ∃ time, s.find path = .ok (.file bytes time) := by
  obtain ⟨entry, hentry, h⟩ := bind_eq_ok h
  cases entry with
  | file content time =>
    cases h
    exact ⟨time, hentry⟩
  | directory time => cases h

theorem readText_of_readNamed {text : String} (h : s.readNamed path = .ok text) :
    s.readText path = .ok text := by
  unfold readNamed at h
  split at h
  · rename_i found hfound
    cases h
    exact hfound
  · cases h
  · cases h

/-- The root is a directory, so whatever is read stands in one of the entries. -/
theorem exists_entry_of_readNamed {text : String} (h : s.readNamed path = .ok text) :
    ∃ content time, Entry.file content time ∈ s.entries.values ∧
      String.fromUTF8? content = some text := by
  obtain ⟨content, hbytes, hdecoded⟩ := bind_eq_ok (readText_of_readNamed h)
  obtain ⟨time, hfind⟩ := readBytes_eq_ok hbytes
  obtain ⟨names, -, hentry⟩ := find_eq_ok hfind
  refine ⟨content, time, ?_, ?_⟩
  · unfold entry? at hentry
    split at hentry
    · cases hentry
    · exact List.mem_map_of_mem (f := Prod.snd) (OrderedMap.mem_of_get? hentry)
  · split at hdecoded
    · cases hdecoded
      assumption
    · cases hdecoded

theorem walk_of_directories
    (h : ∀ names time, Slashless names → s.entry? names = some (.directory time) →
      ∃ time, s'.entry? names = some (.directory time))
    {ss out : List (List Char)} (hnames : Slashless names) (hss : Slashless ss)
    (hwalk : s.walk names ss = .ok out) : s'.walk names ss = .ok out := by
  induction ss generalizing names with
  | nil => exact hwalk
  | cons segment rest ih =>
    have hrest : Slashless rest := fun t ht => hss t (List.mem_cons_of_mem _ ht)
    rw [walk] at hwalk ⊢
    obtain ⟨_, hdirectory, hwalk⟩ := bind_eq_ok hwalk
    -- a walk asks for nothing but directories
    have hdirectory' : s'.requireDirectory names = .ok () := by
      unfold requireDirectory at hdirectory ⊢
      split at hdirectory
      · rename_i time hentry
        obtain ⟨time', hentry'⟩ := h names time hnames hentry
        rw [hentry']
      · cases hdirectory
      · cases hdirectory
    rw [hdirectory']
    simp only [Except.bind]
    rcases ofSegment?_cases segment with hvoid | hup | hname
    · simp only [hvoid] at hwalk ⊢
      exact ih hnames hrest hwalk
    · simp only [hup] at hwalk ⊢
      exact ih (fun t ht => hnames t (List.dropLast_subset _ ht)) hrest hwalk
    · simp only [hname] at hwalk ⊢
      split at hwalk
      · cases hwalk
      · rename_i hshort
        rw [if_neg hshort]
        exact ih (hnames.concat (hss segment List.mem_cons_self)) hrest hwalk

/-- A path leads on to where it led as long as directories stay. -/
theorem resolve_of_directories (hworking : s'.workingDirectory = s.workingDirectory)
    (h : ∀ names time, Slashless names → s.entry? names = some (.directory time) →
      ∃ time, s'.entry? names = some (.directory time))
    (hresolve : s.resolve path = .ok names) : s'.resolve path = .ok names := by
  have habsolute : s'.absolute path = s.absolute path := by
    rw [absolute, absolute, hworking]
  rw [resolve] at hresolve ⊢
  rw [habsolute]
  split_ifs at hresolve ⊢
  exact walk_of_directories h (fun _ ht => absurd ht List.not_mem_nil) (slashless_segments _)
    hresolve

/-! ## Setting an entry -/

theorem entry?_setEntry (hnames : Slashless names) (hne : names ≠ []) (entry : Entry)
    {others : List (List Char)} (hothers : Slashless others) :
    FileStore.entry? (s.setEntry names entry) others =
      if others = names then some entry else s.entry? others := by
  rw [ entry?, entry?, setEntry]
  by_cases hnil : others = []
  · subst hnil
    rw [if_pos rfl, if_pos rfl, if_neg (Ne.symm hne)]
  · rw [if_neg hnil, if_neg hnil, OrderedMap.get?_insert]
    by_cases heq : others = names
    · rw [if_pos heq, if_pos (congrArg key heq)]
    · rw [if_neg heq, if_neg fun hkey => heq (key_injective hothers hnames hkey)]

/-! ## Making directories -/

/-- The second store has some more directories, where nothing was, and is the same otherwise. -/
structure Extends (s s' : FileStore) : Prop where
  workingDirectory : s'.workingDirectory = s.workingDirectory
  clock : s'.clock = s.clock
  entry? : ∀ names, Slashless names → s'.entry? names = s.entry? names ∨
    s.entry? names = none ∧ ∃ time, s'.entry? names = some (.directory time)

theorem Extends.refl (s : FileStore) : Extends s s := ⟨rfl, rfl, fun _ _ => .inl rfl⟩

theorem Extends.trans {s'' : FileStore} (h : Extends s s') (h' : Extends s' s'') :
    Extends s s'' := by
  refine ⟨h'.workingDirectory.trans h.workingDirectory, h'.clock.trans h.clock, ?_⟩
  intro names hnames
  rcases h.entry? names hnames with heq | ⟨hnone, time, hdirectory⟩
  · rcases h'.entry? names hnames with heq' | ⟨hnone', hdirectory'⟩
    · exact .inl (heq'.trans heq)
    · exact .inr ⟨heq ▸ hnone', hdirectory'⟩
  · rcases h'.entry? names hnames with heq' | ⟨hnone', -⟩
    · exact .inr ⟨hnone, time, heq'.trans hdirectory⟩
    · rw [hdirectory] at hnone'
      cases hnone'

/-- Files are the same. -/
theorem Extends.entry?_file (h : Extends s s') (hnames : Slashless names) (bytes : ByteArray)
    (time : Nat) : s'.entry? names = some (.file bytes time) ↔
      s.entry? names = some (.file bytes time) := by
  rcases h.entry? names hnames with heq | ⟨hnone, time', hdirectory⟩
  · rw [heq]
  · rw [hnone, hdirectory]
    simp

/-- Directories stay. -/
theorem Extends.entry?_directory (h : Extends s s') (hnames : Slashless names) {time : Nat}
    (hdirectory : s.entry? names = some (.directory time)) :
    s'.entry? names = some (.directory time) := by
  rcases h.entry? names hnames with heq | ⟨hnone, -⟩
  · rw [heq, hdirectory]
  · rw [hdirectory] at hnone
    cases hnone

theorem extends_makeAlong {ss : List (List Char)} (hnames : Slashless names) (hss : Slashless ss)
    (h : s.makeAlong names ss = some s') : Extends s s' := by
  induction ss generalizing s names with
  | nil =>
    cases h
    exact .refl _
  | cons segment rest ih =>
    have hrest : Slashless rest := fun t ht => hss t (List.mem_cons_of_mem _ ht)
    have hhere : Slashless (names ++ [segment]) := hnames.concat (hss segment List.mem_cons_self)
    rw [makeAlong] at h
    rcases ofSegment?_cases segment with hvoid | hup | hname
    · simp only [hvoid] at h
      exact ih hnames hrest h
    · simp only [hup] at h
      exact ih (fun t ht => hnames t (List.dropLast_subset _ ht)) hrest h
    · simp only [hname] at h
      split at h
      · exact ih hhere hrest h
      · cases h
      · rename_i hnone
        split at h
        · cases h
        -- a directory is made only where there was nothing
        · have hstep : Extends s (s.setEntry (names ++ [segment]) (.directory s.clock)) := by
            refine ⟨rfl, rfl, fun others hothers => ?_⟩
            rw [entry?_setEntry hhere (by simp) _ hothers]
            by_cases heq : others = names ++ [segment]
            · rw [if_pos heq, heq]
              exact .inr ⟨hnone, _, rfl⟩
            · rw [if_neg heq]
              exact .inl rfl
          exact hstep.trans (ih hhere hrest h)

theorem extends_createDirectories? (h : s.createDirectories? path = some s') : Extends s s' := by
  rw [createDirectories?] at h
  split at h
  · cases h
    exact .refl _
  · split at h
    · exact extends_makeAlong (fun _ ht => absurd ht List.not_mem_nil) (slashless_segments _) h
    · cases h

/-! ## Writing files -/

/-- Writing sets the entry that the path leads to, which is no directory. -/
theorem putFile?_eq_some {content : ByteArray} {time : Nat}
    (h : s.putFile? path content time = some s') :
    ∃ names, s.resolve path = .ok names ∧ names ≠ [] ∧
      (∀ time, s.entry? names ≠ some (.directory time)) ∧
      s' = s.setEntry names (.file content time) := by
  rw [putFile?] at h
  split at h
  · cases h
  · rename_i names hnames
    split at h
    · cases h
    · rename_i hentry
      refine ⟨names, hnames, ?_, hentry, (Option.some.inj h).symm⟩
      rintro rfl
      exact hentry 0 rfl

/-- Writing now sets the entry that the path leads to, later than all before. -/
theorem writeFile?_eq_some {content : ByteArray} (h : s.writeFile? path content = some s') :
    ∃ names, s.tick.resolve path = .ok names ∧ place? s.workingDirectory path = some names ∧
      names ≠ [] ∧ (∀ time, s.entry? names ≠ some (.directory time)) ∧
      s' = s.tick.setEntry names (.file content s.tick.clock) := by
  rw [writeFile?] at h
  obtain ⟨names, hresolve, hne, hentry, hset⟩ := putFile?_eq_some h
  exact ⟨names, hresolve, resolve_eq_place? (s := s.tick) hresolve, hne, hentry, hset⟩

/-! ## What stays -/

/-- The directories are still there, and so is the file with these names, if it is one. -/
structure Preserves (names : List (List Char)) (s s' : FileStore) : Prop where
  workingDirectory : s'.workingDirectory = s.workingDirectory
  directory : ∀ others time, Slashless others → s.entry? others = some (.directory time) →
    s'.entry? others = some (.directory time)
  file : ∀ bytes time, s.entry? names = some (.file bytes time) →
    s'.entry? names = some (.file bytes time)

namespace Preserves

theorem refl (names : List (List Char)) (s : FileStore) : Preserves names s s :=
  ⟨rfl, fun _ _ _ h => h, fun _ _ h => h⟩

theorem trans {s'' : FileStore} (h : Preserves names s s') (h' : Preserves names s' s'') :
    Preserves names s s'' :=
  ⟨h'.workingDirectory.trans h.workingDirectory,
    fun others time hothers hentry =>
      h'.directory others time hothers (h.directory others time hothers hentry),
    fun bytes time hentry => h'.file bytes time (h.file bytes time hentry)⟩

theorem of_extends (h : Extends s s') (hnames : Slashless names) : Preserves names s s' :=
  ⟨h.workingDirectory, fun _ _ hothers => h.entry?_directory hothers,
    fun bytes time => (h.entry?_file hnames bytes time).2⟩

/-- Writing another file. -/
theorem writeFile? {content : ByteArray} (h : s.writeFile? path content = some s')
    (hnames : Slashless names) (hother : place? s.workingDirectory path ≠ some names) :
    Preserves names s s' := by
  obtain ⟨found, -, hplace, hne, hentry, rfl⟩ := writeFile?_eq_some h
  have hfound := slashless_of_place? hplace
  refine ⟨rfl, fun others time hothers hdirectory => ?_, fun bytes time hfile => ?_⟩
  · have hdifferent : others ≠ found := by
      rintro rfl
      exact hentry time hdirectory
    rw [entry?_setEntry hfound hne _ hothers, if_neg hdifferent]
    exact hdirectory
  · have hdifferent : names ≠ found := by
      rintro rfl
      exact hother hplace
    rw [entry?_setEntry hfound hne _ hnames, if_neg hdifferent]
    exact hfile

end Preserves

end TagTemplate.FileStore
