import TagTemplate.OrderedMap

/-!
# Laws of ordered maps

Lookup in a map whose names are distinct, and the operations that keep names distinct.
-/

namespace TagTemplate.OrderedMap

universe u

variable {α : Type u}

theorem lookup_of_mem {es : List (String × α)} (h : (es.map Prod.fst).Nodup) {k : String} {v : α}
    (hmem : (k, v) ∈ es) : es.lookup k = some v := by
  induction es with
  | nil => cases hmem
  | cons e es ih =>
    obtain ⟨k', v'⟩ := e
    rw [List.map_cons, List.nodup_cons] at h
    rcases List.mem_cons.1 hmem with heq | htail
    · cases heq
      rw [List.lookup_cons_self]
    · have hne : k ≠ k' := by
        rintro rfl
        exact h.1 (List.mem_map.2 ⟨_, htail, rfl⟩)
      have hb : (k == k') = false := by simpa using hne
      rw [List.lookup_cons, hb]
      exact ih h.2 htail

/-- In a map with distinct names, every entry is found under its name. -/
theorem get?_of_mem {m : OrderedMap α} (h : m.Distinct) {k : String} {v : α}
    (hmem : (k, v) ∈ m.entries) : m.get? k = some v :=
  lookup_of_mem h hmem

theorem mem_of_lookup {β : Type} [BEq β] [LawfulBEq β] {es : List (β × α)} {k : β} {v : α}
    (h : es.lookup k = some v) : (k, v) ∈ es := by
  induction es with
  | nil => cases h
  | cons e es ih =>
    obtain ⟨k', v'⟩ := e
    by_cases hk : k = k'
    · subst hk
      rw [List.lookup_cons_self] at h
      cases h
      exact List.mem_cons_self
    · have hb : (k == k') = false := by simpa using hk
      rw [List.lookup_cons, hb] at h
      exact List.mem_cons_of_mem _ (ih h)

theorem mem_of_get? {m : OrderedMap α} {k : String} {v : α} (h : m.get? k = some v) :
    (k, v) ∈ m.entries :=
  mem_of_lookup h

/-- The entries after an insertion are those before and the new one. -/
theorem mem_entries_insert {m : OrderedMap α} {key : String} {value : α} {entry : String × α}
    (h : entry ∈ (m.insert key value).entries) : entry ∈ m.entries ∨ entry = (key, value) := by
  have hinsert : ∀ es : List (String × α), entry ∈ insertEntry key value es →
      entry ∈ es ∨ entry = (key, value) := by
    intro es
    induction es with
    | nil => exact fun hmem => .inr (List.mem_singleton.1 hmem)
    | cons e es ih =>
      intro hmem
      rw [insertEntry] at hmem
      split at hmem
      · rename_i heq
        rcases List.mem_cons.1 hmem with rfl | hmem
        · exact .inr (heq ▸ rfl)
        · exact .inl (List.mem_cons_of_mem _ hmem)
      · rcases List.mem_cons.1 hmem with rfl | hmem
        · exact .inl List.mem_cons_self
        · exact (ih hmem).imp_left (List.mem_cons_of_mem _)
  exact hinsert _ h

/-- The entries after several insertions are those before and those inserted. -/
theorem mem_entries_insertAll {m : OrderedMap α} {es : List (String × α)} {entry : String × α}
    (h : entry ∈ (m.insertAll es).entries) : entry ∈ m.entries ∨ entry ∈ es := by
  induction es generalizing m with
  | nil => exact .inl h
  | cons e es ih =>
    rcases ih h with hmem | hmem
    · rcases mem_entries_insert hmem with hmem | rfl
      · exact .inl hmem
      · exact .inr List.mem_cons_self
    · exact .inr (List.mem_cons_of_mem _ hmem)

theorem contains_of_mem_keys {m : OrderedMap α} {k : String} (h : k ∈ m.keys) :
    m.contains k = true := by
  obtain ⟨entries⟩ := m
  unfold keys at h
  unfold contains get?
  induction entries with
  | nil => cases h
  | cons e es ih =>
    obtain ⟨k', v'⟩ := e
    by_cases hk : k = k'
    · subst hk
      simp
    · have hb : (k == k') = false := by simpa using hk
      rw [List.lookup_cons, hb]
      exact ih ((List.mem_cons.1 h).resolve_left hk)

theorem notMem_keys_of_contains {m : OrderedMap α} {k : String} (h : m.contains k = false) :
    k ∉ m.keys := by
  intro hmem
  rw [contains_of_mem_keys hmem] at h
  cases h

theorem mem_keys_of_contains {m : OrderedMap α} {k : String} (h : m.contains k = true) :
    k ∈ m.keys := by
  obtain ⟨v, hv⟩ := Option.isSome_iff_exists.1 h
  exact List.mem_map.2 ⟨(k, v), mem_of_get? hv, rfl⟩

/-- A new name goes to the end. -/
theorem entries_insert_of_notMem {m : OrderedMap α} {key : String} (h : key ∉ m.keys) (value : α) :
    (m.insert key value).entries = m.entries ++ [(key, value)] := by
  obtain ⟨entries⟩ := m
  show insertEntry key value entries = entries ++ [(key, value)]
  replace h : key ∉ entries.map Prod.fst := h
  induction entries with
  | nil => rfl
  | cons e es ih =>
    rw [List.map_cons, List.mem_cons, not_or] at h
    rw [insertEntry, if_neg (Ne.symm h.1), ih h.2]
    rfl

/-- Setting a name that comes later leaves the entries before it alone. -/
theorem prefix_insertEntry {es more : List (String × α)} (h : es <+: more) {key : String}
    (hkey : key ∉ es.map Prod.fst) (value : α) : es <+: insertEntry key value more := by
  obtain ⟨rest, rfl⟩ := h
  induction es with
  | nil => exact List.nil_prefix
  | cons e es ih =>
    rw [List.map_cons, List.mem_cons, not_or] at hkey
    rw [List.cons_append, insertEntry, if_neg (Ne.symm hkey.1)]
    exact List.cons_prefix_cons.2 ⟨rfl, ih hkey.2⟩

/-- Names that were there before more entries came behind have the values they had. -/
theorem get?_of_prefix {m n : OrderedMap α} (h : m.entries <+: n.entries) {k : String}
    (hk : k ∈ m.keys) : n.get? k = m.get? k := by
  obtain ⟨more, hmore⟩ := h
  obtain ⟨v, hv⟩ := Option.isSome_iff_exists.1 (contains_of_mem_keys hk)
  rw [hv, get?, ← hmore, List.lookup_append, show m.entries.lookup k = some v from hv]
  rfl

theorem distinct_insertAll {m : OrderedMap α} (h : m.Distinct) (es : List (String × α)) :
    (m.insertAll es).Distinct := by
  unfold insertAll
  induction es generalizing m with
  | nil => exact h
  | cons e es ih => exact ih (distinct_insert h e.1 e.2)

theorem distinct_ofList (es : List (String × α)) : (ofList es).Distinct :=
  distinct_insertAll (m := empty) List.nodup_nil es

theorem distinct_erase {m : OrderedMap α} (h : m.Distinct) (key : String) :
    (m.erase key).Distinct :=
  h.sublist (List.filter_sublist.map Prod.fst)

theorem mem_keys_insert {m : OrderedMap α} {key k : String} {value : α} :
    k ∈ (m.insert key value).keys ↔ k ∈ m.keys ∨ k = key := by
  rw [keys_insert]
  split
  · rename_i hkey
    constructor
    · exact Or.inl
    · rintro (hk | rfl)
      · exact hk
      · exact hkey
  · rw [List.mem_append, List.mem_singleton]

theorem mem_keys_insertAll (m : OrderedMap α) (es : List (String × α)) (k : String) :
    k ∈ (m.insertAll es).keys ↔ k ∈ m.keys ∨ k ∈ es.map Prod.fst := by
  unfold insertAll
  induction es generalizing m with
  | nil => simp
  | cons e es ih =>
    rw [List.foldl_cons, ih, mem_keys_insert, List.map_cons, List.mem_cons, or_assoc]

/-- The names of a map are those that it was made from. -/
theorem contains_ofList {es : List (String × α)} {k : String} :
    (ofList es).contains k = true ↔ k ∈ es.map Prod.fst := by
  have hkeys : k ∈ (ofList es).keys ↔ k ∈ es.map Prod.fst := by
    rw [ofList, mem_keys_insertAll]
    exact or_iff_right (List.not_mem_nil)
  rw [← hkeys]
  exact ⟨mem_keys_of_contains, contains_of_mem_keys⟩

/-- Entries that are put behind others all go to the end if no name occurs twice. -/
theorem insertAll_of_nodup {m : OrderedMap α} {es : List (String × α)}
    (h : ((m.entries ++ es).map Prod.fst).Nodup) : m.insertAll es = ⟨m.entries ++ es⟩ := by
  induction es generalizing m with
  | nil =>
    rw [List.append_nil]
    rfl
  | cons e es ih =>
    have hnew : e.1 ∉ m.keys := by
      intro hmem
      rw [List.map_append, List.map_cons] at h
      exact (List.nodup_append.1 h).2.2 e.1 hmem e.1 List.mem_cons_self rfl
    have hentries : (m.insert e.1 e.2).entries = m.entries ++ [e] :=
      entries_insert_of_notMem hnew e.2
    show (m.insert e.1 e.2).insertAll es = _
    rw [ih, hentries, List.append_assoc, List.singleton_append]
    rw [hentries, List.append_assoc, List.singleton_append]
    exact h

/-- Entries with distinct names stay as they are. -/
theorem ofList_of_nodup {es : List (String × α)} (h : (es.map Prod.fst).Nodup) :
    ofList es = ⟨es⟩ :=
  insertAll_of_nodup (m := empty) h

theorem contains_erase {m : OrderedMap α} {key k : String} (h : k ≠ key) :
    (m.erase key).contains k = m.contains k := by
  have hmem : k ∈ (m.erase key).keys ↔ k ∈ m.keys := by
    unfold keys erase
    simp only [List.mem_map, List.mem_filter]
    constructor
    · rintro ⟨e, ⟨he, -⟩, rfl⟩
      exact ⟨e, he, rfl⟩
    · rintro ⟨e, he, rfl⟩
      exact ⟨e, ⟨he, by simpa using h⟩, rfl⟩
  refine Bool.eq_iff_iff.2 ⟨fun hk => ?_, fun hk => ?_⟩
  · exact contains_of_mem_keys (hmem.1 (mem_keys_of_contains hk))
  · exact contains_of_mem_keys (hmem.2 (mem_keys_of_contains hk))

/-- The order of entries does not matter for lookup. -/
theorem get?_perm {m n : OrderedMap α} (h : m.Distinct) (hperm : m.entries.Perm n.entries)
    (k : String) : m.get? k = n.get? k := by
  have hn : n.Distinct := (hperm.map Prod.fst).nodup_iff.1 h
  refine Option.ext fun v => ?_
  constructor
  · intro hv
    exact get?_of_mem hn (hperm.mem_iff.1 (mem_of_get? hv))
  · intro hv
    exact get?_of_mem h (hperm.mem_iff.2 (mem_of_get? hv))

/-- After several insertions a name has the value that was inserted last under it, or the one it had
before. -/
theorem get?_insertAll (m : OrderedMap α) (es : List (String × α)) (k : String) :
    (m.insertAll es).get? k = (es.reverse.lookup k).or (m.get? k) := by
  induction es generalizing m with
  | nil => rfl
  | cons e es ih =>
    obtain ⟨key, value⟩ := e
    show ((m.insert key value).insertAll es).get? k = _
    rw [ih, get?_insert, List.reverse_cons, List.lookup_append, Option.or_assoc]
    congr 1
    by_cases hk : k = key
    · subst hk
      rw [if_pos rfl, List.lookup_cons_self, Option.some_or]
    · have hb : (k == key) = false := by simpa using hk
      rw [if_neg hk, List.lookup_cons, hb]
      rfl

/-- Entries with distinct names that are set on top of a map hide what it has under these names. -/
theorem get?_insertAll_of_nodup (m : OrderedMap α) {es : List (String × α)}
    (h : (es.map Prod.fst).Nodup) (k : String) :
    (m.insertAll es).get? k = (es.lookup k).or (m.get? k) := by
  have hreverse := get?_perm (m := ⟨es⟩) (n := ⟨es.reverse⟩) h (List.reverse_perm es).symm k
  rw [get?_insertAll]
  exact congrArg (Option.or · (m.get? k)) hreverse.symm

end TagTemplate.OrderedMap
