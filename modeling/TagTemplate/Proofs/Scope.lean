import Mathlib.Data.List.Basic
import TagTemplate.Proofs.OrderedMap
import TagTemplate.Scope

/-!
# Laws of scopes

A scope is a universe and layers above it. Names are looked up from the innermost layer outwards,
and maps are merged from the universe inwards; both give the value of the innermost layer that has
the name. Mounting changes the universe only, so a layer that has the name hides what is mounted.

- `Scope.after`: what pushing, taking off and mounting make of a scope;
- `base_after`, `distinct_after`: what they make of the universe and the maps in it;
- `lookup?_eq_some_iff`, `get?_merged`: **looking up and merging give the value of the innermost map
  that has the name**;
- `lookup?_mount_of_ne`, `lookup?_mount_self`, `lookup?_mount_hidden`: **what mounting does to a
  lookup**;
- `laws_after`: all of this, of any scope that changes lead to;
- `lookup?_mount_root`: a scope in which a mounted value is not found, since `/` names the universe.
-/

namespace TagTemplate.Scope

/-! ## What happens to a scope -/

/-- What can happen to a scope. -/
inductive Change where
  | push (layer : Value)
  | pop
  | mount (name : String) (value : Value)

/-- The scope after a change. -/
def change (s : Scope) : Change → Scope
  | .push layer => s.push layer
  | .pop => s.pop.2
  | .mount name value => s.mount name value

/-- The scope after changes, one after the other. -/
def after (s : Scope) (changes : List Change) : Scope := changes.foldl change s

/-- What changes mount, in order. -/
def mounted (changes : List Change) : List (String × Value) :=
  changes.filterMap fun
    | .mount name value => some (name, value)
    | _ => none

theorem base_pop (s : Scope) : s.pop.2.base = s.base := by
  unfold pop
  split <;> rfl

theorem layers_pop (s : Scope) : s.pop.2.layers = s.layers.tail := by
  unfold pop
  split
  · rename_i h
    rw [h]
    rfl
  · rename_i h
    rw [h]
    rfl

/-- **The universe is the one of the beginning with everything mounted into it.** -/
theorem base_after (s : Scope) (changes : List Change) :
    (s.after changes).base = s.base.insertAll (mounted changes) := by
  induction changes generalizing s with
  | nil => rfl
  | cons c changes ih =>
    show ((s.change c).after changes).base = _
    rw [ih]
    cases c with
    | push layer => rfl
    | pop =>
      show s.pop.2.base.insertAll (mounted changes) = _
      rw [s.base_pop]
      rfl
    | mount name value => rfl

/-- In all maps that are layers names are distinct. -/
def DistinctNames (s : Scope) : Prop := ∀ m, Value.map m ∈ s.allLayers → m.Distinct

theorem distinctNames_iff {s : Scope} :
    s.DistinctNames ↔ s.base.Distinct ∧ ∀ m, Value.map m ∈ s.layers → m.Distinct := by
  unfold DistinctNames allLayers
  constructor
  · intro h
    exact ⟨h _ (by simp), fun m hm => h m (List.mem_append_left _ hm)⟩
  · rintro ⟨hbase, hlayers⟩ m hm
    rcases List.mem_append.1 hm with hm | hm
    · exact hlayers m hm
    · cases List.mem_singleton.1 hm
      exact hbase

theorem distinctNames_change {s : Scope} (h : s.DistinctNames) {c : Change}
    (hc : ∀ m, c = .push (.map m) → m.Distinct) : (s.change c).DistinctNames := by
  rw [distinctNames_iff] at h ⊢
  obtain ⟨hbase, hlayers⟩ := h
  cases c with
  | push layer =>
    refine ⟨hbase, fun m hm => ?_⟩
    rcases List.mem_cons.1 hm with heq | hm
    · exact hc m (congrArg Change.push heq.symm)
    · exact hlayers m hm
  | pop =>
    show s.pop.2.base.Distinct ∧ ∀ m, Value.map m ∈ s.pop.2.layers → m.Distinct
    rw [s.base_pop, s.layers_pop]
    exact ⟨hbase, fun m hm => hlayers m (List.mem_of_mem_tail hm)⟩
  | mount name value => exact ⟨OrderedMap.distinct_insert hbase name value, hlayers⟩

/-- **Names stay distinct**, whatever happens. -/
theorem distinctNames_after {s : Scope} (h : s.DistinctNames) {changes : List Change}
    (hchanges : ∀ m, Change.push (.map m) ∈ changes → m.Distinct) :
    (s.after changes).DistinctNames := by
  induction changes generalizing s with
  | nil => exact h
  | cons c changes ih =>
    refine ih (distinctNames_change h fun m hm => ?_) fun m hm => ?_
    · exact hchanges m (hm ▸ List.mem_cons_self)
    · exact hchanges m (List.mem_cons_of_mem _ hm)

/-! ## Looking names up -/

/-- The names that stand for layers and not for entries of them. -/
def reserved : List String := ["/", ".", ".."]

/-- Any other name is looked up in the layers. -/
theorem lookup?_of_notMem (s : Scope) {name : String} (h : name ∉ reserved) :
    s.lookup? name = s.allLayers.findSome? (·.layerMember? name) := by
  simp only [reserved, List.mem_cons, List.not_mem_nil, or_false, not_or] at h
  rw [lookup?, if_neg h.1, if_neg h.2.1, if_neg h.2.2]

/-- The first map of the layers that has the name has this value under it. -/
def Innermost (layers : List Value) (name : String) (value : Value) : Prop :=
  ∃ above m below, layers = above ++ .map m :: below ∧
    (∀ m', Value.map m' ∈ above → m'.get? name = none) ∧ m.get? name = some value

/-- All layers are maps. -/
def AllMaps (s : Scope) : Prop := ∀ layer ∈ s.allLayers, ∃ m, layer = .map m

/-- **A name is found in the innermost map that has it**, if all layers are maps. -/
theorem lookup?_eq_some_iff {s : Scope} (h : s.AllMaps) {name : String} (hname : name ∉ reserved)
    {value : Value} : s.lookup? name = some value ↔ Innermost s.allLayers name value := by
  rw [s.lookup?_of_notMem hname, List.findSome?_eq_some_iff]
  constructor
  · rintro ⟨above, layer, below, hlayers, hfound, habove⟩
    obtain ⟨m, rfl⟩ := h layer (by simp [hlayers])
    exact ⟨above, m, below, hlayers, fun m' hm' => habove _ hm', hfound⟩
  · rintro ⟨above, m, below, hlayers, habove, hfound⟩
    refine ⟨above, .map m, below, hlayers, hfound, fun layer hlayer => ?_⟩
    obtain ⟨m', rfl⟩ := h layer (by simp [hlayers, hlayer])
    exact habove m' hlayer

/-! ## Merging -/

theorem nodup_mergeable {layers : List Value} (h : ∀ m, Value.map m ∈ layers → m.Distinct)
    {layer : Value} (hlayer : layer ∈ layers) : ((mergeable layer).map Prod.fst).Nodup := by
  cases layer with
  | map m => exact h m hlayer
  | _ => exact List.nodup_nil

/-- What merging layers has under a name. -/
theorem get?_mergeLayers {layers : List Value} (h : ∀ m, Value.map m ∈ layers → m.Distinct)
    (name : String) :
    (layers.reverse.foldl (fun m layer => m.insertAll (mergeable layer))
        OrderedMap.empty).get? name =
      layers.findSome? fun layer => (mergeable layer).lookup name := by
  induction layers with
  | nil => rfl
  | cons layer layers ih =>
    rw [List.reverse_cons, List.foldl_append, List.foldl_cons, List.foldl_nil,
      OrderedMap.get?_insertAll_of_nodup _ (nodup_mergeable h List.mem_cons_self),
      ih fun m hm => h m (List.mem_cons_of_mem _ hm), List.findSome?_cons]
    cases (mergeable layer).lookup name <;> rfl

/-- **Merging has the value that looking up finds**, if all layers are maps. -/
theorem get?_merged {s : Scope} (h : s.DistinctNames) (hmaps : s.AllMaps) {name : String}
    (hname : name ∉ reserved) : s.merged.get? name = s.lookup? name := by
  have hsame : s.allLayers.filterMap (fun layer => (mergeable layer).lookup name) =
      s.allLayers.filterMap (·.layerMember? name) := by
    refine List.filterMap_congr fun layer hlayer => ?_
    obtain ⟨m, rfl⟩ := hmaps layer hlayer
    rfl
  rw [merged, get?_mergeLayers h, s.lookup?_of_notMem hname, ← List.head?_filterMap, hsame,
    List.head?_filterMap]

/-! ## Mounting -/

section Mount

variable (s : Scope) {name other : String} (value : Value)

/-- Names are looked up in the layers above the universe first, and then in the universe. -/
theorem lookup?_eq_or (h : name ∉ reserved) :
    s.lookup? name = (s.layers.findSome? (·.layerMember? name)).or (s.base.get? name) := by
  rw [s.lookup?_of_notMem h, allLayers, List.findSome?_append]
  congr 1
  rw [List.findSome?_singleton]
  rfl

/-- Mounting leaves other names alone. -/
theorem lookup?_mount_of_ne (h : other ≠ name) (hother : other ∉ reserved) :
    (s.mount name value).lookup? other = s.lookup? other := by
  rw [lookup?_eq_or _ hother, lookup?_eq_or _ hother]
  show Option.or _ ((s.base.insert name value).get? other) = _
  rw [OrderedMap.get?_insert, if_neg h]
  rfl

/-- What is mounted is found unless a layer above the universe has the name. -/
theorem lookup?_mount_self (hname : name ∉ reserved)
    (h : ∀ layer ∈ s.layers, layer.layerMember? name = none) :
    (s.mount name value).lookup? name = some value := by
  rw [lookup?_eq_or _ hname]
  show (s.layers.findSome? _).or ((s.base.insert name value).get? name) = _
  rw [List.findSome?_eq_none_iff.2 h, OrderedMap.get?_insert_self, Option.none_or]

/-- A layer above the universe that has the name hides what is mounted. -/
theorem lookup?_mount_hidden (hname : name ∉ reserved) {layer : Value} (hlayer : layer ∈ s.layers)
    (h : layer.layerMember? name ≠ none) :
    (s.mount name value).lookup? name = s.lookup? name := by
  rw [lookup?_eq_or _ hname, lookup?_eq_or _ hname]
  have hfound : s.layers.findSome? (·.layerMember? name) ≠ none := fun hnone =>
    h (List.findSome?_eq_none_iff.1 hnone layer hlayer)
  obtain ⟨found, hfound⟩ := Option.ne_none_iff_exists'.1 hfound
  show (s.layers.findSome? _).or _ = _
  rw [hfound, Option.some_or, Option.some_or]

end Mount

/-! ## All laws -/

/-- **Laws of scopes.** Whatever is pushed, taken off and mounted, the outermost layer is the map of
the beginning with everything mounted into it, the last value under a name being the one that
counts. If all layers are maps, merging and looking up both have the value of the innermost layer
with the name. In any scope mounting leaves other names alone; what is mounted is found if no layer
above the universe has its name, and else what was found before. -/
theorem laws_after {u : OrderedMap Value} (hu : u.Distinct) {changes : List Change}
    (hchanges : ∀ m, Change.push (.map m) ∈ changes → m.Distinct) :
    let s := (ofUniverse u).after changes
    (s.allLayers.getLast? = some (.map (u.insertAll (mounted changes))) ∧
      ∀ name, (u.insertAll (mounted changes)).get? name =
        ((mounted changes).reverse.lookup name).or (u.get? name)) ∧
    (s.AllMaps → ∀ name, name ∉ reserved →
      s.merged.get? name = s.lookup? name ∧
      ∀ value, s.lookup? name = some value ↔ Innermost s.allLayers name value) ∧
    ∀ (s : Scope) (name : String) (value : Value),
      (∀ other, other ∉ reserved → other ≠ name →
        (s.mount name value).lookup? other = s.lookup? other) ∧
      (name ∉ reserved →
        ((∀ layer ∈ s.layers, layer.layerMember? name = none) →
          (s.mount name value).lookup? name = some value) ∧
        ((∃ layer ∈ s.layers, layer.layerMember? name ≠ none) →
          (s.mount name value).lookup? name = s.lookup? name)) := by
  intro s
  have hdistinct : s.DistinctNames := by
    refine distinctNames_after (distinctNames_iff.2 ⟨hu, ?_⟩) hchanges
    exact fun m hm => absurd hm List.not_mem_nil
  refine ⟨⟨?_, fun name => OrderedMap.get?_insertAll u _ name⟩, ?_, ?_⟩
  · have hbase : s.base = u.insertAll (mounted changes) := base_after _ changes
    rw [allLayers, List.getLast?_concat, hbase]
  · intro hmaps name hname
    exact ⟨get?_merged hdistinct hmaps hname, fun value => lookup?_eq_some_iff hmaps hname⟩
  · intro s name value
    refine ⟨fun other hother hne => lookup?_mount_of_ne s value hne hother, fun hname => ⟨?_, ?_⟩⟩
    · exact lookup?_mount_self s value hname
    · rintro ⟨layer, hlayer, hfound⟩
      exact lookup?_mount_hidden s value hname hlayer hfound

/-- A layer that hides one name of the universe, with a mount below it and another layer taken
off. -/
def shadowing : List Change :=
  [.push (.map (.ofList [("x", .bool true)])), .mount "x" .null, .push (.string "s"), .pop]

/-- The hidden name has the value of the layer, in a lookup and in the merged map, also if it is
mounted again; another name has what is mounted under it. -/
theorem laws_after_shadowing :
    let s := (ofUniverse (.ofList [("x", .string "u")])).after shadowing
    s.merged.get? "x" = s.lookup? "x" ∧ s.lookup? "x" = some (.bool true) ∧
      (s.mount "x" .null).lookup? "x" = some (.bool true) ∧
      (s.mount "y" .null).lookup? "y" = some .null := by
  intro s
  have hpushed : ∀ m, Change.push (.map m) ∈ shadowing → m.Distinct := by
    intro m hm
    rcases List.mem_cons.1 hm with heq | hm
    · cases heq
      exact OrderedMap.distinct_ofList _
    · simp at hm
  have hlayers : s.layers = [.map (.ofList [("x", .bool true)])] := rfl
  have hmaps : s.AllMaps := by
    intro layer hlayer
    rw [allLayers, hlayers] at hlayer
    rcases List.mem_cons.1 hlayer with rfl | hlayer
    · exact ⟨_, rfl⟩
    · exact ⟨_, List.mem_singleton.1 hlayer⟩
  have hx : "x" ∉ reserved := by decide
  have hy : "y" ∉ reserved := by decide
  have hhere : (OrderedMap.ofList [("x", Value.bool true)]).get? "x" = some (.bool true) :=
    OrderedMap.get?_insert_self _ _ _
  have hthere : (OrderedMap.ofList [("x", Value.bool true)]).get? "y" = none := by
    rw [OrderedMap.ofList, OrderedMap.get?_insertAll]
    rfl
  obtain ⟨-, hmerged, hmount⟩ := laws_after (OrderedMap.distinct_ofList _) hpushed
  have hfound : s.lookup? "x" = some (.bool true) :=
    ((hmerged hmaps "x" hx).2 _).2 ⟨[], _, _, rfl, fun m hm => absurd hm List.not_mem_nil, hhere⟩
  refine ⟨(hmerged hmaps "x" hx).1, hfound, ?_, ?_⟩
  · rw [((hmount s "x" .null).2 hx).2 ⟨_, hlayers ▸ List.mem_cons_self, ?_⟩, hfound]
    show OrderedMap.get? _ "x" ≠ none
    rw [hhere]
    exact Option.some_ne_none _
  · refine ((hmount s "y" .null).2 hy).1 fun layer hlayer => ?_
    rw [hlayers, List.mem_singleton] at hlayer
    rw [hlayer]
    exact hthere

/-- **What is mounted under `/` is not found there**, though no layer hides it: `/` names the
universe as a whole. -/
theorem lookup?_mount_root :
    ¬∀ (s : Scope) (name : String) (value : Value),
      (∀ layer ∈ s.layers, layer.layerMember? name = none) →
        (s.mount name value).lookup? name = some value := by
  intro h
  have hroot := h empty "/" .null fun layer hlayer => absurd hlayer List.not_mem_nil
  rw [lookup?, if_pos rfl] at hroot
  cases hroot

end TagTemplate.Scope
