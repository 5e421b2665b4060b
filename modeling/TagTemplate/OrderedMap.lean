/-!
# Maps that remember insertion order

An `OrderedMap` is a list of named entries. Setting a name that is already there replaces the value
and keeps its place; a new name goes to the end. Lookup is by name.

- `get?_insert`: what an insertion does to lookup;
- `keys_insert`: what it does to the order of names;
- `Distinct`: no name occurs twice, which `insert` keeps (`distinct_insert`).
-/

namespace TagTemplate

universe u

/-- Named entries in the order in which their names first came. -/
structure OrderedMap (α : Type u) where
  entries : List (String × α)
  deriving Repr, DecidableEq

namespace OrderedMap

variable {α : Type u}

/-- The map without entries. -/
def empty : OrderedMap α := ⟨[]⟩

instance : Inhabited (OrderedMap α) := ⟨empty⟩

/-- Replaces the value under a name, or adds the entry at the end. -/
def insertEntry (key : String) (value : α) : List (String × α) → List (String × α)
  | [] => [(key, value)]
  | (k, v) :: es => if k = key then (k, value) :: es else (k, v) :: insertEntry key value es

/-- The map with `key` set to `value`. -/
def insert (m : OrderedMap α) (key : String) (value : α) : OrderedMap α :=
  ⟨insertEntry key value m.entries⟩

/-- The value under a name. -/
def get? (m : OrderedMap α) (key : String) : Option α := m.entries.lookup key

/-- The name has an entry. -/
def contains (m : OrderedMap α) (key : String) : Bool := (m.get? key).isSome

/-- The map without the entry of a name. -/
def erase (m : OrderedMap α) (key : String) : OrderedMap α :=
  ⟨m.entries.filter fun entry => entry.1 ≠ key⟩

/-- The names in order. -/
def keys (m : OrderedMap α) : List String := m.entries.map Prod.fst

/-- The values in order. -/
def values (m : OrderedMap α) : List α := m.entries.map Prod.snd

/-- The number of entries. -/
def size (m : OrderedMap α) : Nat := m.entries.length

/-- All entries of the second map set on top of the first, in order. -/
def insertAll (m : OrderedMap α) (es : List (String × α)) : OrderedMap α :=
  es.foldl (fun m entry => m.insert entry.1 entry.2) m

/-- The map of a list of entries: a repeated name keeps its first place and its last value. -/
def ofList (es : List (String × α)) : OrderedMap α := empty.insertAll es

/-- The entries in the order of their names, which is that of their code points. -/
def sorted (m : OrderedMap α) : OrderedMap α :=
  ⟨m.entries.mergeSort fun a b => decide (a.1 ≤ b.1)⟩

/-- No name occurs twice. -/
def Distinct (m : OrderedMap α) : Prop := m.keys.Nodup

/-! ## Lookup and order after an insertion -/

theorem lookup_insertEntry (key k : String) (value : α) (es : List (String × α)) :
    (insertEntry key value es).lookup k = if k = key then some value else es.lookup k := by
  induction es with
  | nil =>
    by_cases hk : k = key
    · simp [insertEntry, hk]
    · have hb : (k == key) = false := by simpa using hk
      simp [insertEntry, List.lookup_cons, hk, hb]
  | cons e es ih =>
    obtain ⟨k', v'⟩ := e
    by_cases h : k' = key
    · subst h
      by_cases hk : k = k'
      · simp [insertEntry, hk]
      · have hb : (k == k') = false := by simpa using hk
        simp [insertEntry, List.lookup_cons, hk, hb]
    · by_cases hk : k = k'
      · subst hk
        simp [insertEntry, h]
      · have hb : (k == k') = false := by simpa using hk
        simp [insertEntry, h, List.lookup_cons, hb, ih]

@[simp] theorem get?_empty (k : String) : (empty : OrderedMap α).get? k = none := rfl

theorem get?_insert (m : OrderedMap α) (key k : String) (value : α) :
    (m.insert key value).get? k = if k = key then some value else m.get? k :=
  lookup_insertEntry key k value m.entries

@[simp] theorem get?_insert_self (m : OrderedMap α) (key : String) (value : α) :
    (m.insert key value).get? key = some value := by
  simp [get?_insert]

theorem map_fst_insertEntry (key : String) (value : α) (es : List (String × α)) :
    (insertEntry key value es).map Prod.fst =
      if key ∈ es.map Prod.fst then es.map Prod.fst else es.map Prod.fst ++ [key] := by
  induction es with
  | nil => simp [insertEntry]
  | cons e es ih =>
    obtain ⟨k', v'⟩ := e
    by_cases h : k' = key
    · simp [insertEntry, h]
    · have h' : ¬ key = k' := fun hk => h hk.symm
      by_cases hm : key ∈ es.map Prod.fst
      · simp only [insertEntry, h, if_false, List.map_cons, ih, hm, if_true, List.mem_cons, or_true]
      · simp only [insertEntry, h, if_false, List.map_cons, ih, hm, List.mem_cons, h', or_self,
          List.cons_append]

/-- A new name goes to the end; a known one keeps its place. -/
theorem keys_insert (m : OrderedMap α) (key : String) (value : α) :
    (m.insert key value).keys = if key ∈ m.keys then m.keys else m.keys ++ [key] :=
  map_fst_insertEntry key value m.entries

theorem distinct_insert {m : OrderedMap α} (h : m.Distinct) (key : String) (value : α) :
    (m.insert key value).Distinct := by
  unfold Distinct
  rw [keys_insert]
  split
  · exact h
  · rename_i hk
    refine List.nodup_append.2 ⟨h, by simp, ?_⟩
    intro a ha b hb hab
    rw [List.mem_singleton.1 hb] at hab
    exact hk (hab ▸ ha)

end OrderedMap

end TagTemplate
