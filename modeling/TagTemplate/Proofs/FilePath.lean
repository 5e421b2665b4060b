import Mathlib.Data.List.Basic
import TagTemplate.FileStore
import TagTemplate.Proofs.Text.Search

/-!
# Paths and the places they lead to

- `segments_append_slash`, `segments_unsegmented`: taking a path apart and putting it together;
- `IsName`: what a file or a directory can be called in a path in normal form;
- `place`, `place?`: where a path leads if every step up goes back one step;
- `place?_append`, `Below`: what is behind a path;
- `place?_key`, `key_injective`: a path in normal form leads to its names;
- `relativeTo?_append`, `relativeTo?_eq_none`: what is left of a path that begins with a base, or
  does not.
-/

namespace TagTemplate.FilePath

/-! ## Segments -/

/-- None of them has a slash in it. -/
def Slashless (ss : List (List Char)) : Prop := ∀ s ∈ ss, '/' ∉ s

theorem Slashless.append {ss ts : List (List Char)} (h : Slashless ss) (h' : Slashless ts) :
    Slashless (ss ++ ts) := fun s hs => (List.mem_append.1 hs).elim (h s) (h' s)

theorem Slashless.concat {ss : List (List Char)} {s : List Char} (h : Slashless ss) (hs : '/' ∉ s) :
    Slashless (ss ++ [s]) := by
  refine h.append fun t ht => ?_
  rw [List.mem_singleton.1 ht]
  exact hs

theorem segments_ne_nil (cs : List Char) : segments cs ≠ [] := by
  cases cs with
  | nil => exact List.cons_ne_nil _ _
  | cons c cs =>
    rw [segments]
    split
    · exact List.cons_ne_nil _ _
    · split <;> exact List.cons_ne_nil _ _

theorem segments_cons {c : Char} (h : c ≠ '/') {cs s : List Char} {ss : List (List Char)}
    (hcs : segments cs = s :: ss) : segments (c :: cs) = (c :: s) :: ss := by
  rw [segments, if_neg h, hcs]

theorem slashless_segments (cs : List Char) : Slashless (segments cs) := by
  intro s h
  induction cs generalizing s with
  | nil =>
    rw [List.mem_singleton.1 h]
    exact List.not_mem_nil
  | cons c cs ih =>
    by_cases hc : c = '/'
    · rw [segments, if_pos hc] at h
      rcases List.mem_cons.1 h with rfl | h
      · exact List.not_mem_nil
      · exact ih _ h
    · obtain ⟨first, others, hcs⟩ := List.exists_cons_of_ne_nil (segments_ne_nil cs)
      rw [segments_cons hc hcs] at h
      rw [hcs] at ih
      rcases List.mem_cons.1 h with rfl | h
      · rw [List.mem_cons, not_or]
        exact ⟨Ne.symm hc, ih _ List.mem_cons_self⟩
      · exact ih _ (List.mem_cons_of_mem _ h)

theorem segments_of_notMem {cs : List Char} (h : '/' ∉ cs) : segments cs = [cs] := by
  induction cs with
  | nil => rfl
  | cons c cs ih =>
    rw [List.mem_cons, not_or] at h
    exact segments_cons (Ne.symm h.1) (ih h.2)

/-- A slash ends a segment. -/
theorem segments_append_slash (before after : List Char) :
    segments (before ++ '/' :: after) = segments before ++ segments after := by
  induction before with
  | nil => rfl
  | cons c before ih =>
    rw [List.cons_append]
    by_cases hc : c = '/'
    · rw [segments, segments, if_pos hc, if_pos hc, ih]
      rfl
    · obtain ⟨first, others, hbefore⟩ := List.exists_cons_of_ne_nil (segments_ne_nil before)
      rw [hbefore, List.cons_append] at ih
      rw [segments_cons hc ih, segments_cons hc hbefore]
      rfl

theorem unsegmented_singleton (s : List Char) : unsegmented [s] = s := List.intercalate_singleton

theorem unsegmented_cons (s : List Char) {ss : List (List Char)} (h : ss ≠ []) :
    unsegmented (s :: ss) = s ++ '/' :: unsegmented ss := by
  obtain ⟨next, ss, rfl⟩ := List.exists_cons_of_ne_nil h
  rw [unsegmented, List.intercalate_cons_cons, List.append_assoc, List.singleton_append,
    unsegmented]

/-- What was put together from segments has these segments. -/
theorem segments_unsegmented {ss : List (List Char)} (h : ss ≠ []) (hslash : Slashless ss) :
    segments (unsegmented ss) = ss := by
  induction ss with
  | nil => exact absurd rfl h
  | cons s ss ih =>
    have hs := hslash s List.mem_cons_self
    cases ss with
    | nil => rw [unsegmented_singleton, segments_of_notMem hs]
    | cons next ss =>
      have hmore : next :: ss ≠ [] := List.cons_ne_nil _ _
      rw [unsegmented_cons s hmore, segments_append_slash, segments_of_notMem hs,
        ih hmore fun t ht => hslash t (List.mem_cons_of_mem _ ht)]
      rfl

/-- Text behind the last segment belongs to it. -/
theorem unsegmented_append (ss : List (List Char)) (last more : List Char) :
    unsegmented (ss ++ [last]) ++ more = unsegmented (ss ++ [last ++ more]) := by
  induction ss with
  | nil => rw [List.nil_append, List.nil_append, unsegmented_singleton, unsegmented_singleton]
  | cons s ss ih =>
    rw [List.cons_append, List.cons_append, unsegmented_cons s (by simp),
      unsegmented_cons s (by simp), List.append_assoc, List.cons_append, ih]

/-- A segment is void, a step up, or a name. -/
theorem ofSegment?_cases (s : List Char) :
    ofSegment? s = none ∨ ofSegment? s = some .up ∨ ofSegment? s = some (.name s) := by
  unfold ofSegment?
  split_ifs <;> simp

/-! ## Names -/

/-- The segment names something in a directory. -/
structure IsName (s : List Char) : Prop where
  ne_nil : s ≠ []
  ne_here : s ≠ ['.']
  ne_up : s ≠ ['.', '.']
  slash : '/' ∉ s

namespace IsName

variable {s : List Char}

theorem ofSegment? (h : IsName s) : FilePath.ofSegment? s = some (.name s) := by
  rw [FilePath.ofSegment?, if_neg (not_or.2 ⟨h.ne_nil, h.ne_here⟩), if_neg h.ne_up]

theorem isVoid (h : IsName s) : FilePath.isVoid s = false := by
  rw [FilePath.isVoid, h.ofSegment?]
  rfl

end IsName

/-- All of them are names. -/
def AreNames (names : List (List Char)) : Prop := ∀ s ∈ names, IsName s

namespace AreNames

variable {names : List (List Char)}

theorem slashless (h : AreNames names) : Slashless names := fun s hs => (h s hs).slash

theorem filterMap (h : AreNames names) :
    names.filterMap FilePath.ofSegment? = names.map Component.name := by
  induction names with
  | nil => rfl
  | cons s names ih =>
    rw [List.filterMap_cons, (h s List.mem_cons_self).ofSegment?, List.map_cons,
      ih fun t ht => h t (List.mem_cons_of_mem _ ht)]

theorem trimmedStart (h : AreNames names) : FilePath.trimmedStart names = names := by
  cases names with
  | nil => rfl
  | cons s names =>
    exact List.dropWhile_cons_of_neg
      (by rw [(h s List.mem_cons_self).isVoid]; exact Bool.false_ne_true)

theorem trimmedEnd (h : AreNames names) : FilePath.trimmedEnd names = names := by
  have hreverse : AreNames names.reverse := fun s hs => h s (List.mem_reverse.1 hs)
  have hstart := hreverse.trimmedStart
  rw [FilePath.trimmedStart] at hstart
  rw [FilePath.trimmedEnd, hstart, List.reverse_reverse]

theorem dropComponents (h : AreNames names) (n : Nat) :
    FilePath.dropComponents n names = names.drop n := by
  induction names generalizing n with
  | nil => cases n <;> rfl
  | cons s names ih =>
    cases n with
    | zero => rfl
    | succ n =>
      rw [FilePath.dropComponents, (h s List.mem_cons_self).isVoid, List.drop_succ_cons]
      exact ih (fun t ht => h t (List.mem_cons_of_mem _ ht)) n

end AreNames

/-! ## Places -/

/-- Where segments lead from a place: a step up goes back one step, void segments nowhere. -/
def place : List (List Char) → List (List Char) → List (List Char)
  | names, [] => names
  | names, s :: ss =>
    match ofSegment? s with
    | some .up => place names.dropLast ss
    | some _ => place (names ++ [s]) ss
    | none => place names ss

theorem place_append (names before after : List (List Char)) :
    place names (before ++ after) = place (place names before) after := by
  induction before generalizing names with
  | nil => rfl
  | cons s before ih =>
    rw [List.cons_append, place, place]
    split <;> exact ih _

theorem slashless_place {names ss : List (List Char)} (h : Slashless names) (hss : Slashless ss) :
    Slashless (place names ss) := by
  induction ss generalizing names with
  | nil => exact h
  | cons s ss ih =>
    have hrest : Slashless ss := fun t ht => hss t (List.mem_cons_of_mem _ ht)
    rw [place]
    split
    · exact ih (fun t ht => h t (List.dropLast_subset _ ht)) hrest
    · exact ih (h.concat (hss s List.mem_cons_self)) hrest
    · exact ih h hrest

/-- Segments whose components are names lead to these names. -/
theorem place_of_filterMap {ss names : List (List Char)}
    (h : ss.filterMap ofSegment? = names.map Component.name) (start : List (List Char)) :
    place start ss = start ++ names := by
  -- none of the segments steps up, so names are only added
  induction ss generalizing start names with
  | nil =>
    cases names with
    | nil => exact (List.append_nil _).symm
    | cons => cases h
  | cons s ss ih =>
    rw [List.filterMap_cons] at h
    rw [place]
    cases hs : ofSegment? s with
    | none =>
      rw [hs] at h
      exact ih h start
    | some component =>
      rw [hs] at h
      cases names with
      | nil => cases h
      | cons name names =>
        obtain ⟨hfirst, hrest⟩ := List.cons.inj h
        subst hfirst
        have hname : s = name := by
          rcases ofSegment?_cases s with hs' | hs' | hs'
          · cases hs.symm.trans hs'
          · cases hs.symm.trans hs'
          · cases hs.symm.trans hs'
            rfl
        show place (start ++ [s]) ss = _
        rw [ih hrest, hname, List.append_assoc, List.singleton_append]

theorem place_names {names : List (List Char)} (h : AreNames names) (start : List (List Char)) :
    place start names = start ++ names :=
  place_of_filterMap h.filterMap start

/-- The path seen from a directory. -/
def fromDirectory (directory path : String) : String :=
  if isAbsolute path then path else join directory path

/-- Where a path leads, seen from a directory, if every step of it is there. The empty path leads
nowhere. -/
def place? (directory path : String) : Option (List (List Char)) :=
  if path = "" then none else some (place [] (segments (fromDirectory directory path).toList))

theorem slashless_of_place? {directory path : String} {names : List (List Char)}
    (h : place? directory path = some names) : Slashless names := by
  rw [place?] at h
  split at h
  · cases h
  · cases h
    exact slashless_place (fun _ hs => absurd hs List.not_mem_nil) (slashless_segments _)

theorem isAbsolute_append {path : String} (h : path ≠ "") (more : String) :
    isAbsolute (path ++ more) = isAbsolute path := by
  obtain ⟨c, cs, hpath⟩ := List.exists_cons_of_ne_nil (mt String.toList_eq_nil_iff.1 h)
  rw [isAbsolute, isAbsolute, String.toList_append, hpath]
  rfl

theorem fromDirectory_append (directory : String) {path : String} (h : path ≠ "") (more : String) :
    fromDirectory directory (path ++ more) = fromDirectory directory path ++ more := by
  rw [fromDirectory, fromDirectory, join, join, isAbsolute_append h]
  split_ifs <;> simp [String.append_assoc]

/-- Segments behind a path lead on from where it leads. -/
theorem place?_append {directory path : String} {names : List (List Char)}
    (h : place? directory path = some names) {ss : List (List Char)} (hss : ss ≠ [])
    (hslash : Slashless ss) :
    place? directory (path ++ String.ofList ('/' :: unsegmented ss)) = some (place names ss) := by
  have hne : path ≠ "" := by
    rintro rfl
    cases h
  rw [place?, if_neg hne] at h
  rw [place?, if_neg (by simp [hne]), fromDirectory_append directory hne, String.toList_append,
    String.toList_ofList, segments_append_slash, place_append, Option.some.inj h,
    segments_unsegmented hss hslash]

/-- The names lead to something in the directory `base`, at whatever depth. -/
def Below (base names : List (List Char)) : Prop := ∃ rest, rest ≠ [] ∧ names = base ++ rest

/-! ## Paths in normal form -/

/-- Slashes in front of names make a path that has these names. -/
theorem toList_key {names : List (List Char)} (h : names ≠ []) :
    (FileStore.key names).toList = '/' :: unsegmented names := by
  rw [FileStore.key, String.toList_ofList]
  induction names with
  | nil => exact absurd rfl h
  | cons s names ih =>
    cases names with
    | nil => rw [List.flatMap_singleton, unsegmented_singleton]
    | cons next names =>
      have hmore : next :: names ≠ [] := List.cons_ne_nil _ _
      rw [List.flatMap_cons, ih hmore, unsegmented_cons s hmore]
      rfl

theorem segments_key {names : List (List Char)} (h : names ≠ []) (hslash : Slashless names) :
    segments (FileStore.key names).toList = [] :: names := by
  rw [toList_key h, segments, if_pos rfl, segments_unsegmented h hslash]

/-- Different names make different keys. -/
theorem key_injective {names others : List (List Char)} (hslash : Slashless names)
    (hslash' : Slashless others) (h : FileStore.key names = FileStore.key others) :
    names = others := by
  have hnil : ∀ {ss : List (List Char)}, ss ≠ [] → FileStore.key ss ≠ FileStore.key [] := by
    intro ss hss heq
    have hlist := congrArg String.toList heq
    rw [toList_key hss] at hlist
    exact List.cons_ne_nil _ _ hlist
  by_cases hnames : names = []
  · subst hnames
    by_contra hne
    exact hnil (Ne.symm hne) h.symm
  · have hothers : others ≠ [] := by
      rintro rfl
      exact hnil hnames h
    have hsegments : segments (FileStore.key names).toList =
        segments (FileStore.key others).toList :=
      congrArg (fun path : String => segments path.toList) h
    rw [segments_key hnames hslash, segments_key hothers hslash'] at hsegments
    exact (List.cons.inj hsegments).2

section Key

variable {names : List (List Char)}

theorem isAbsolute_key (h : names ≠ []) : isAbsolute (FileStore.key names) = true := by
  rw [isAbsolute, toList_key h]
  rfl

theorem key_ne_empty (h : names ≠ []) : FileStore.key names ≠ "" := by
  intro heq
  have hlist := congrArg String.toList heq
  rw [toList_key h] at hlist
  exact List.cons_ne_nil _ _ hlist

theorem parts_key (hnames : AreNames names) (h : names ≠ []) :
    parts (FileStore.key names) = ⟨some .root, names⟩ := by
  rw [parts, toList_key h]
  show Parts.mk _ (segments (unsegmented names)) = _
  rw [segments_unsegmented h hnames.slashless]

theorem components_key (hnames : AreNames names) (h : names ≠ []) :
    components (FileStore.key names) = .root :: names.map .name := by
  rw [components, parts_key hnames h, Parts.components, hnames.filterMap]
  rfl

/-- A path in normal form leads to its names. -/
theorem place?_key (directory : String) (hnames : AreNames names) (h : names ≠ []) :
    place? directory (FileStore.key names) = some names := by
  rw [place?, if_neg (key_ne_empty h), fromDirectory, if_pos (isAbsolute_key h),
    segments_key h hnames.slashless]
  show some (place [] names) = _
  rw [place_names hnames, List.nil_append]

end Key

/-! ## Below a base -/

theorem ofSegment?_ne_root (s : List Char) : ofSegment? s ≠ some .root := by
  rcases ofSegment?_cases s with hs | hs | hs <;> rw [hs] <;> simp

/-- A path starts at the root, with a dot, or with something else that is no slash. -/
theorem parts_cases (path : String) :
    (∃ cs, path.toList = '/' :: cs ∧ parts path = ⟨some .root, segments cs⟩) ∨
    (∃ ss, parts path = ⟨some .here, ss⟩) ∨
    (path.toList.head? ≠ some '/' ∧ ∃ s ss, segments path.toList = s :: ss ∧ s ≠ ['.'] ∧
      parts path = ⟨none, s :: ss⟩) := by
  unfold parts
  split
  · rename_i cs hcs
    exact .inl ⟨cs, hcs, rfl⟩
  · rename_i hslash
    split
    · exact .inr (.inl ⟨_, rfl⟩)
    · rename_i hdot
      obtain ⟨s, ss, hss⟩ := List.exists_cons_of_ne_nil (segments_ne_nil path.toList)
      refine .inr (.inr ⟨?_, s, ss, hss, ?_, by rw [hss]⟩)
      · intro hhead
        obtain ⟨cs, hcs⟩ := List.head?_eq_some_iff.1 hhead
        exact hslash cs hcs
      · rintro rfl
        exact hdot ss hss

/-- Only the empty path has no components. -/
theorem eq_empty_of_components {path : String} (h : components path = []) : path = "" := by
  rw [components, Parts.components, List.append_eq_nil_iff] at h
  obtain ⟨hlead, hbody⟩ := h
  rcases parts_cases path with
    ⟨cs, -, hparts⟩ | ⟨ss, hparts⟩ | ⟨hslash, s, ss, hsegments, hdot, hparts⟩
  · rw [hparts] at hlead
    cases hlead
  · rw [hparts] at hlead
    cases hlead
  · rw [hparts, List.filterMap_cons] at hbody
    -- the first segment is void, so there is no first character
    have hvoid : s = [] := by
      by_contra hne
      rw [ofSegment?, if_neg (not_or.2 ⟨hne, hdot⟩)] at hbody
      split_ifs at hbody
    rw [← String.toList_eq_nil_iff]
    cases hpath : path.toList with
    | nil => rfl
    | cons c cs =>
      rw [hpath] at hslash hsegments
      obtain ⟨first, others, hcs⟩ := List.exists_cons_of_ne_nil (segments_ne_nil cs)
      rw [segments_cons (fun hc => hslash (congrArg some hc)) hcs, hvoid] at hsegments
      exact absurd (List.cons.inj hsegments).1 (List.cons_ne_nil _ _)

/-- A path whose components start with the root is absolute. -/
theorem components_root {path : String} {cs : List Component} (h : components path = .root :: cs) :
    isAbsolute path = true ∧ (parts path).body.filterMap ofSegment? = cs ∧
      (segments path.toList).filterMap ofSegment? = cs := by
  rw [components, Parts.components] at h
  rcases parts_cases path with ⟨rest, hpath, hparts⟩ | ⟨ss, hparts⟩ | ⟨-, s, ss, -, -, hparts⟩
  · rw [hparts] at h ⊢
    have hrest : (segments rest).filterMap ofSegment? = cs := (List.cons.inj h).2
    refine ⟨by rw [isAbsolute, hpath]; rfl, hrest, ?_⟩
    rw [hpath, segments, if_pos rfl]
    exact hrest
  · rw [hparts] at h
    cases (List.cons.inj h).1
  · rw [hparts] at h
    -- no segment is the root
    have hroot : Component.root ∈ (s :: ss).filterMap ofSegment? := by
      show Component.root ∈ Option.toList none ++ (s :: ss).filterMap ofSegment?
      rw [h]
      exact List.mem_cons_self
    obtain ⟨t, -, ht⟩ := List.mem_filterMap.1 hroot
    exact absurd ht (ofSegment?_ne_root t)

/-- A path whose components are the root and names leads to these names. -/
theorem place?_of_components {path : String} {names : List (List Char)}
    (h : components path = .root :: names.map .name) (directory : String) :
    place? directory path = some names := by
  obtain ⟨habsolute, -, hsegments⟩ := components_root h
  have hne : path ≠ "" := by
    rintro rfl
    cases habsolute
  rw [place?, if_neg hne, fromDirectory, if_pos habsolute, place_of_filterMap hsegments,
    List.nil_append]

/-- The names of a path in normal form are left if nothing else is. -/
theorem normalNames_key {names : List (List Char)} (hnames : AreNames names) (hne : names ≠ []) :
    normalNames (FileStore.key names) = String.ofList (unsegmented names) := by
  rw [normalNames, components_key hnames hne, List.filterMap_cons_none rfl, List.filterMap_map]
  exact congrArg (fun names => String.ofList (unsegmented names)) List.filterMap_some

/-- Different names put together make different texts. -/
theorem unsegmented_injective {names others : List (List Char)} (hnames : AreNames names)
    (hothers : AreNames others) (h : unsegmented names = unsegmented others) : names = others := by
  have hplace : ∀ {names}, AreNames names → place [] (segments (unsegmented names)) = names := by
    intro names hnames
    by_cases hne : names = []
    · rw [hne]
      rfl
    · rw [segments_unsegmented hne hnames.slashless, place_names hnames, List.nil_append]
  rw [← hplace hnames, h, hplace hothers]

/-- Segments put together make no absolute path unless the first of them is empty. -/
theorem isAbsolute_unsegmented {ss : List (List Char)} (h : Slashless ss)
    (hhead : ss.head? ≠ some []) : isAbsolute (String.ofList (unsegmented ss)) = false := by
  rw [isAbsolute, String.toList_ofList]
  cases ss with
  | nil => rfl
  | cons s ss =>
    obtain ⟨c, cs, rfl⟩ := List.exists_cons_of_ne_nil fun hs : s = [] => hhead (congrArg some hs)
    have hslash := (not_or.1 (mt List.mem_cons.2 (h _ List.mem_cons_self))).1
    have hfirst : (unsegmented ((c :: cs) :: ss)).head? = some c := by
      by_cases hss : ss = []
      · rw [hss, unsegmented_singleton, List.head?_cons]
      · rw [unsegmented_cons _ hss]
        rfl
    rw [hfirst]
    simpa using Ne.symm hslash

theorem AreNames.isAbsolute_unsegmented {names : List (List Char)} (h : AreNames names) :
    isAbsolute (String.ofList (unsegmented names)) = false := by
  refine FilePath.isAbsolute_unsegmented h.slashless fun hhead => ?_
  exact (h [] (List.mem_of_head? hhead)).ne_nil rfl

section Relative

variable {root : String} {base names rest : List (List Char)}

/-- **A path that begins with the components of a base** has left what is behind them. -/
theorem relativeTo?_append (hroot : components root = .root :: base.map .name)
    (hnames : AreNames (base ++ rest)) (hne : base ++ rest ≠ []) :
    relativeTo? root (FileStore.key (base ++ rest)) = some (String.ofList (unsegmented rest)) := by
  have hsome : (parts root).components ≠ [] := by
    rw [← components, hroot]
    exact List.cons_ne_nil _ _
  have hlength : ((parts root).body.filterMap ofSegment?).length = base.length := by
    rw [(components_root hroot).2.1, List.length_map]
  have hstart : (parts root).components.isPrefixOf
      (Parts.mk (some .root) (base ++ rest)).components = true := by
    rw [List.isPrefixOf_iff_prefix, ← components, hroot, Parts.components, hnames.filterMap,
      List.map_append]
    exact List.cons_prefix_cons.2 ⟨rfl, List.prefix_append _ _⟩
  have hrest : AreNames rest := fun s hs => hnames s (List.mem_append_right _ hs)
  rw [relativeTo?, parts_key hnames hne]
  simp only [if_neg hsome, if_pos hstart, hlength]
  rw [hnames.dropComponents, List.drop_left, hrest.trimmedStart, hrest.trimmedEnd]
  rfl

/-- A path has nothing left of a base whose components it does not begin with. -/
theorem relativeTo?_eq_none (hroot : root ≠ "") (hnames : AreNames names) (hne : names ≠ [])
    (h : ∀ base, components root = .root :: base.map .name → ¬base <+: names) :
    relativeTo? root (FileStore.key names) = none := by
  have hsome : (parts root).components ≠ [] := mt eq_empty_of_components hroot
  have hstart : ¬(parts root).components.isPrefixOf
      (Parts.mk (some .root) names).components = true := by
    rw [List.isPrefixOf_iff_prefix, ← components, Parts.components, hnames.filterMap]
    intro hstart
    -- what is a beginning of the names is written with names only
    obtain ⟨cs, hcs, hbegin⟩ := (List.prefix_cons_iff.1 hstart).resolve_left hsome
    obtain ⟨more, hmore⟩ := hbegin
    obtain ⟨front, back, rfl, rfl, -⟩ := List.map_eq_append_iff.1 hmore.symm
    exact h front hcs (List.prefix_append _ _)
  rw [relativeTo?, parts_key hnames hne]
  simp only [if_neg hsome, if_neg hstart]

end Relative

/-- **What is left of a path below a base**: the names behind the base if that is written with its
names only, and all names otherwise. -/
theorem relative_below {directory root : String} {base rest : List (List Char)}
    (hroot : place? directory root = some base) (hnames : AreNames (base ++ rest))
    (hrest : rest ≠ []) :
    (relativeTo? root (FileStore.key (base ++ rest))).getD
        (normalNames (FileStore.key (base ++ rest))) =
      String.ofList (unsegmented
        (if components root = .root :: base.map .name then rest else base ++ rest)) := by
  have hne : base ++ rest ≠ [] := by simp [hrest]
  by_cases hwritten : components root = .root :: base.map .name
  · rw [if_pos hwritten, relativeTo?_append hwritten hnames hne, Option.getD_some]
  · have hnonempty : root ≠ "" := by
      rintro rfl
      cases hroot
    have hnone : relativeTo? root (FileStore.key (base ++ rest)) = none := by
      refine relativeTo?_eq_none hnonempty hnames hne fun other hother _ => hwritten ?_
      -- a base written with its names only leads to them
      rw [place?_of_components hother] at hroot
      rwa [← Option.some.inj hroot]
    rw [if_neg hwritten, hnone, Option.getD_none, normalNames_key hnames hne]

end TagTemplate.FilePath
