import TagTemplate.Proofs.Cache.Path

/-!
# Sources that share a cache file

Sources below the templates root keep the names behind it, and all others keep all their names. Each
of the two rules tells sources apart, but they put their files into one directory: a source outside
has the cache file of the one that is below the root under the same names.

- `Cache.Keeps`: the names that are kept of a source, by one rule or the other;
- `Keeps.path_eq_iff`: cache files are the same if the names that are kept are;
- `path_shared_iff`: **two sources have the same cache file exactly if they are the same, or one is
  below the templates root as the other is below `/`, which is outside**;
- `path_shared`: such two.
-/

namespace TagTemplate.Cache

open FilePath

/-- The names that a cache keeps of a source: those behind the templates root, or all of them if
they do not begin with it. -/
inductive Keeps (c : Cache) : List (List Char) → List (List Char) → Prop
  | inside {base rest : List (List Char)} :
      components c.templatesRoot = .root :: base.map .name → c.Keeps (base ++ rest) rest
  | outside {names : List (List Char)} :
      (∀ base, components c.templatesRoot = .root :: base.map .name → ¬base <+: names) →
      c.Keeps names names

/-- The first source is below the templates root as the second is below `/`, but the second is not
below the templates root. -/
def Mirrors (c : Cache) (names others : List (List Char)) : Prop :=
  ∃ base, components c.templatesRoot = .root :: base.map .name ∧ names = base ++ others ∧
    ¬base <+: others

variable {c : Cache} {names others remaining remaining' : List (List Char)}

/-! ## The names that are kept -/

theorem exists_keeps (c : Cache) (names : List (List Char)) :
    ∃ remaining, c.Keeps names remaining := by
  by_cases hinside : ∃ base, components c.templatesRoot = .root :: base.map .name ∧ base <+: names
  · obtain ⟨base, hbase, rest, rfl⟩ := hinside
    exact ⟨rest, .inside hbase⟩
  · exact ⟨names, .outside fun base hbase hbegin => hinside ⟨base, hbase, hbegin⟩⟩

namespace Keeps

theorem areNames (h : c.Keeps names remaining) (hnames : AreNames names) : AreNames remaining := by
  cases h with
  | inside => exact fun s hs => hnames s (List.mem_append_right _ hs)
  | outside => exact hnames

/-- The path of a cache file is made of the names that are kept. -/
theorem path_key (h : c.Keeps names remaining) (hroot : c.templatesRoot ≠ "")
    (hnames : AreNames names) (hne : names ≠ []) :
    c.path (FileStore.key names) =
      c.home ++ "/" ++ String.ofList (unsegmented remaining) ++ fileSuffix := by
  refine path_of_relative (h.areNames hnames).isAbsolute_unsegmented ?_
  cases h with
  | inside hbase => rw [relativeTo?_append hbase hnames hne, Option.getD_some]
  | outside houtside =>
    rw [relativeTo?_eq_none hroot hnames hne houtside, Option.getD_none, normalNames_key hnames hne]

/-- **Cache files are the same if the names that are kept are.** -/
theorem path_eq_iff (h : c.Keeps names remaining) (h' : c.Keeps others remaining')
    (hroot : c.templatesRoot ≠ "") (hnames : AreNames names) (hne : names ≠ [])
    (hothers : AreNames others) (hne' : others ≠ []) :
    c.path (FileStore.key names) = c.path (FileStore.key others) ↔ remaining = remaining' := by
  rw [h.path_key hroot hnames hne, h'.path_key hroot hothers hne']
  constructor
  · rw [String.append_left_inj, String.append_right_inj]
    intro heq
    exact unsegmented_injective (h.areNames hnames) (h'.areNames hothers)
      (String.ofList_injective heq)
  · rintro rfl
    rfl

end Keeps

/-! ## The same cache file -/

/-- A templates root has one list of names. -/
theorem base_unique {base base' : List (List Char)}
    (h : components c.templatesRoot = .root :: base.map .name)
    (h' : components c.templatesRoot = .root :: base'.map .name) : base = base' := by
  have hmap := (List.cons.inj (h.symm.trans h')).2
  exact List.map_injective_iff.2 (fun _ _ => Component.name.inj) hmap

/-- Two sources of which the same is kept are the same, or the one below the templates root mirrors
the one outside. -/
theorem Keeps.eq_iff (h : c.Keeps names remaining) (h' : c.Keeps others remaining') :
    remaining = remaining' ↔ names = others ∨ c.Mirrors names others ∨ c.Mirrors others names := by
  -- below the root only what is behind it is kept, elsewhere all, so two can meet if one is of each
  -- kind
  cases h with
  | @inside base _ hbase =>
    cases h' with
    | inside hbase' =>
      obtain rfl := base_unique hbase hbase'
      constructor
      · rintro rfl
        exact .inl rfl
      · rintro (heq | ⟨base', hbase', -, houtside⟩ | ⟨base', hbase', -, houtside⟩)
        · exact List.append_cancel_left heq
        · exact absurd (List.prefix_append _ _) (base_unique hbase hbase' ▸ houtside)
        · exact absurd (List.prefix_append _ _) (base_unique hbase hbase' ▸ houtside)
    | outside houtside =>
      constructor
      · rintro rfl
        exact .inr (.inl ⟨base, hbase, rfl, houtside base hbase⟩)
      · rintro (rfl | ⟨base', hbase', heq, -⟩ | ⟨base', hbase', rfl, -⟩)
        · exact absurd (List.prefix_append _ _) (houtside base hbase)
        · obtain rfl := base_unique hbase hbase'
          exact List.append_cancel_left heq
        · exact absurd (List.prefix_append _ _) (houtside base' hbase')
  | outside houtside =>
    cases h' with
    | @inside base _ hbase =>
      constructor
      · rintro rfl
        exact .inr (.inr ⟨base, hbase, rfl, houtside base hbase⟩)
      · rintro (rfl | ⟨base', hbase', rfl, -⟩ | ⟨base', hbase', heq, -⟩)
        · exact absurd (List.prefix_append _ _) (houtside base hbase)
        · exact absurd (List.prefix_append _ _) (houtside base' hbase')
        · obtain rfl := base_unique hbase hbase'
          exact (List.append_cancel_left heq).symm
    | outside houtside' =>
      refine ⟨.inl, ?_⟩
      rintro (heq | ⟨base, hbase, rfl, -⟩ | ⟨base, hbase, rfl, -⟩)
      · exact heq
      · exact absurd (List.prefix_append _ _) (houtside base hbase)
      · exact absurd (List.prefix_append _ _) (houtside' base hbase)

/-- **Two sources have the same cache file exactly if they are the same, or one is below the
templates root as the other, which is outside of it, is below `/`.** -/
theorem path_shared_iff (hroot : c.templatesRoot ≠ "") (hnames : AreNames names) (hne : names ≠ [])
    (hothers : AreNames others) (hne' : others ≠ []) :
    c.path (FileStore.key names) = c.path (FileStore.key others) ↔
      names = others ∨ c.Mirrors names others ∨ c.Mirrors others names := by
  obtain ⟨remaining, hkeeps⟩ := c.exists_keeps names
  obtain ⟨remaining', hkeeps'⟩ := c.exists_keeps others
  rw [hkeeps.path_eq_iff hkeeps' hroot hnames hne hothers hne']
  exact hkeeps.eq_iff hkeeps'

/-- A cache for the templates below `/t`. -/
def rootedCache : Cache := ⟨"/cache", "/t"⟩

/-- A source outside of the root has the file of the one that mirrors it, but two sources below the
root have files of their own, though one is the other behind the names of the root. -/
theorem path_shared_iff_rootedCache :
    rootedCache.path "/t/p" = rootedCache.path "/p" ∧
      rootedCache.path "/t/t/p" ≠ rootedCache.path "/t/p" := by
  have hname : ∀ ch, ch ≠ '.' → ch ≠ '/' → IsName [ch] := by
    intro ch hdot hslash
    exact ⟨by simp, by simpa using hdot, by simp, by simpa using Ne.symm hslash⟩
  have ht : IsName ['t'] := hname 't' (by decide) (by decide)
  have hp : IsName ['p'] := hname 'p' (by decide) (by decide)
  have houtside : AreNames [['p']] := List.forall_mem_singleton.2 hp
  have hinside : AreNames [['t'], ['p']] := List.forall_mem_cons.2 ⟨ht, houtside⟩
  have hdeeper : AreNames [['t'], ['t'], ['p']] := List.forall_mem_cons.2 ⟨ht, hinside⟩
  have hbase : components rootedCache.templatesRoot = .root :: [['t']].map .name := by decide
  refine ⟨?_, fun heq => ?_⟩
  · exact (path_shared_iff (by decide) hinside (List.cons_ne_nil _ _) houtside
      (List.cons_ne_nil _ _)).2 (.inr (.inl ⟨_, hbase, rfl, by decide⟩))
  · have hshared := (path_shared_iff (by decide) hdeeper (List.cons_ne_nil _ _) hinside
      (List.cons_ne_nil _ _)).1 heq
    rcases hshared with hsame | ⟨base, hbase', -, hnot⟩ | ⟨base, hbase', -, hnot⟩
    · exact absurd hsame (by decide)
    · obtain rfl := base_unique hbase hbase'
      exact absurd hnot (by decide)
    · obtain rfl := base_unique hbase hbase'
      exact absurd hnot (by decide)

/-- **A cache file for two sources**, one below the templates root and one outside. -/
theorem path_shared :
    rootedCache.path "/t/pages/home.xml" = "/cache/trees/pages/home.xml.tlc" ∧
      rootedCache.path "/pages/home.xml" = "/cache/trees/pages/home.xml.tlc" := by
  decide +kernel

end TagTemplate.Cache
