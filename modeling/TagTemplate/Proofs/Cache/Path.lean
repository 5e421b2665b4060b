import TagTemplate.Cache.Basic
import TagTemplate.Proofs.FilePath

/-!
# Where cache files are

Templates in normal form below the templates root have cache files of their own, all of them in the
directory of cache files.

- `Cache.Covers`: the sources that a cache is made for;
- `place?_path`: where the cache file of a source is;
- `Covers.place?_ne`: no source is a cache file;
- `Covers.unique`: no two sources have the same cache file.
-/

namespace TagTemplate.Cache

open FilePath

/-- The directory of the cache files. -/
def home (c : Cache) : String := join c.cacheRoot directory

/-- The cache is made for the source with these names: it is below the templates root, and it is
not among the cache files. -/
structure Covers (c : Cache) (workingDirectory : String) (names : List (List Char)) : Prop where
  areNames : AreNames names
  below : ∃ root, place? workingDirectory c.templatesRoot = some root ∧ Below root names
  outside : ∀ home, place? workingDirectory c.home = some home → ¬Below home names

/-! ## The names of cache files -/

/-- The names of a file with the suffix of cache files. -/
def marked (names : List (List Char)) : List (List Char) :=
  names.dropLast ++ names.getLast?.toList.map fun last => last ++ fileSuffix.toList

theorem marked_append (names : List (List Char)) (last : List Char) :
    marked (names ++ [last]) = names ++ [last ++ fileSuffix.toList] := by
  simp [marked]

theorem marked_ne_nil {names : List (List Char)} (h : names ≠ []) : marked names ≠ [] := by
  obtain ⟨front, last, rfl⟩ := (List.eq_nil_or_concat names).resolve_left h
  rw [List.concat_eq_append, marked_append]
  simp

theorem marked_injective {names others : List (List Char)} (h : names ≠ []) (h' : others ≠ [])
    (heq : marked names = marked others) : names = others := by
  obtain ⟨front, last, rfl⟩ := (List.eq_nil_or_concat names).resolve_left h
  obtain ⟨front', last', rfl⟩ := (List.eq_nil_or_concat others).resolve_left h'
  rw [List.concat_eq_append, List.concat_eq_append, marked_append, marked_append] at heq
  obtain ⟨rfl, hlast⟩ := List.append_inj' heq rfl
  rw [List.append_cancel_right (List.cons.inj hlast).1]

/-- The name of a cache file is a name, whatever its source is called. -/
theorem isName_suffixed {last : List Char} (h : '/' ∉ last) :
    IsName (last ++ fileSuffix.toList) := by
  have hlong : 3 < (last ++ fileSuffix.toList).length := by
    rw [List.length_append]
    exact Nat.lt_of_lt_of_le (by decide) (Nat.le_add_left _ _)
  refine ⟨?_, ?_, ?_, ?_⟩
  · intro heq
    rw [heq] at hlong
    exact absurd hlong (by decide)
  · intro heq
    rw [heq] at hlong
    exact absurd hlong (by decide)
  · intro heq
    rw [heq] at hlong
    exact absurd hlong (by decide)
  · rw [List.mem_append, not_or]
    exact ⟨h, by decide⟩

theorem areNames_marked {names : List (List Char)} (h : AreNames names) :
    AreNames (marked names) := by
  rcases List.eq_nil_or_concat names with rfl | ⟨front, last, rfl⟩
  · exact h
  · rw [List.concat_eq_append] at h ⊢
    rw [marked_append]
    intro s hs
    rcases List.mem_append.1 hs with hs | hs
    · exact h s (List.mem_append_left _ hs)
    · rw [List.mem_singleton.1 hs]
      exact isName_suffixed (h last (by simp)).slash

theorem unsegmented_marked {names : List (List Char)} (h : names ≠ []) :
    unsegmented names ++ fileSuffix.toList = unsegmented (marked names) := by
  obtain ⟨front, last, rfl⟩ := (List.eq_nil_or_concat names).resolve_left h
  rw [List.concat_eq_append, marked_append, unsegmented_append]

/-! ## The path of a cache file -/

theorem home_spec (c : Cache) : c.home ≠ "" ∧ c.home.toList.getLast? ≠ some '/' := by
  obtain ⟨front, hfront⟩ : ∃ front : String, c.home = front ++ directory := by
    rw [home, join]
    split_ifs
    · exact ⟨"", (String.empty_append).symm⟩
    · exact ⟨c.cacheRoot, rfl⟩
    · exact ⟨c.cacheRoot ++ "/", rfl⟩
  rw [hfront, String.toList_append]
  have hdirectory : directory.toList = "tree".toList ++ ['s'] := rfl
  refine ⟨?_, ?_⟩
  · simp [directory]
  · rw [hdirectory, ← List.append_assoc, List.getLast?_append]
    simp

/-- The path of a cache file, made of the segments that are kept of its source. -/
theorem path_of_relative {c : Cache} {source : String} {ss : List (List Char)}
    (hrelative : isAbsolute (String.ofList (unsegmented ss)) = false)
    (h : (relativeTo? c.templatesRoot source).getD (normalNames source) =
      String.ofList (unsegmented ss)) :
    c.path source = c.home ++ "/" ++ String.ofList (unsegmented ss) ++ fileSuffix := by
  obtain ⟨hne, hlast⟩ := c.home_spec
  rw [path]
  simp only [h]
  rw [← home, join, hrelative, if_neg (by simp [hne]), if_neg hlast]

/-- The names that a source keeps in the cache, if its names are `rest` behind those of the
templates root. -/
def kept (c : Cache) (root rest : List (List Char)) : List (List Char) :=
  if components c.templatesRoot = .root :: root.map .name then rest else root ++ rest

section Path

variable {c : Cache} {workingDirectory : String} {root rest : List (List Char)}

theorem kept_ne_nil (hrest : rest ≠ []) : c.kept root rest ≠ [] := by
  rw [kept]
  split
  · exact hrest
  · simp [hrest]

theorem areNames_kept (h : AreNames (root ++ rest)) : AreNames (c.kept root rest) := by
  rw [kept]
  split
  · exact fun s hs => h s (List.mem_append_right _ hs)
  · exact h

theorem kept_injective {rest' : List (List Char)} (h : c.kept root rest = c.kept root rest') :
    rest = rest' := by
  rw [kept, kept] at h
  split at h
  · exact h
  · exact List.append_cancel_left h

theorem path_key (hroot : place? workingDirectory c.templatesRoot = some root)
    (hnames : AreNames (root ++ rest)) (hrest : rest ≠ []) :
    c.path (FileStore.key (root ++ rest)) =
      c.home ++ String.ofList ('/' :: unsegmented (marked (c.kept root rest))) := by
  rw [path_of_relative (areNames_kept hnames).isAbsolute_unsegmented
      (relative_below hroot hnames hrest),
    ← unsegmented_marked (kept_ne_nil hrest), ← String.toList_inj]
  simp

end Path

/-! ## Different sources, different files -/

namespace Covers

variable {c : Cache} {workingDirectory : String} {names others : List (List Char)}

theorem names_ne_nil (h : c.Covers workingDirectory names) : names ≠ [] := by
  obtain ⟨root, -, rest, hrest, rfl⟩ := h.below
  simp [hrest]

/-- The cache file of a source is in the directory of cache files, under the names that the source
keeps. -/
theorem place?_path (h : c.Covers workingDirectory names) :
    ∃ home root rest, place? workingDirectory c.home = some home ∧
      place? workingDirectory c.templatesRoot = some root ∧ rest ≠ [] ∧ names = root ++ rest ∧
      place? workingDirectory (c.path (FileStore.key names)) =
        some (home ++ marked (c.kept root rest)) := by
  obtain ⟨root, hroot, rest, hrest, rfl⟩ := h.below
  have hmarked := areNames_marked (areNames_kept (c := c) h.areNames)
  have hhome : place? workingDirectory c.home =
      some (place [] (segments (fromDirectory workingDirectory c.home).toList)) :=
    if_neg c.home_spec.1
  refine ⟨_, root, rest, hhome, hroot, hrest, rfl, ?_⟩
  rw [path_key hroot h.areNames hrest,
    place?_append hhome (marked_ne_nil (kept_ne_nil hrest)) hmarked.slashless, place_names hmarked]

/-- **No source is a cache file.** -/
theorem place?_ne (h : c.Covers workingDirectory names) (h' : c.Covers workingDirectory others) :
    place? workingDirectory (c.path (FileStore.key names)) ≠ some others := by
  obtain ⟨home, root, rest, hhome, -, hrest, -, hpath⟩ := h.place?_path
  rw [hpath]
  intro heq
  exact h'.outside home hhome
    ⟨_, marked_ne_nil (kept_ne_nil hrest), (Option.some.inj heq).symm⟩

/-- **No two sources have the same cache file.** -/
theorem unique (h : c.Covers workingDirectory names) (h' : c.Covers workingDirectory others)
    (heq : place? workingDirectory (c.path (FileStore.key names)) =
      place? workingDirectory (c.path (FileStore.key others))) : names = others := by
  obtain ⟨home, root, rest, hhome, hroot, hrest, rfl, hpath⟩ := h.place?_path
  obtain ⟨home', root', rest', hhome', hroot', hrest', rfl, hpath'⟩ := h'.place?_path
  cases hhome.symm.trans hhome'
  cases hroot.symm.trans hroot'
  rw [hpath, hpath'] at heq
  have hmarked := List.append_cancel_left (Option.some.inj heq)
  rw [kept_injective (marked_injective (kept_ne_nil hrest) (kept_ne_nil hrest') hmarked)]

end Covers

end TagTemplate.Cache
