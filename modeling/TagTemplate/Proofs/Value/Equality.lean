import TagTemplate.Proofs.Number.Equality
import TagTemplate.Proofs.OrderedMap
import TagTemplate.Value.Equality

/-!
# Laws of the equality of values

Equality of maps compares their sizes and then looks the entries of one map up in the other, so its
laws need that no name occurs twice: then a map that has all names of another and no more entries
has no other names, and either may be looked through.

- `Keyed`: no map in a value has a name twice, however deep it is;
- `equal_list_iff`, `equal_map_iff`: what equality says of lists and of maps;
- `equal_laws`: **equality is reflexive and symmetric**.

It is not transitive, as the comparison of numbers with a tolerance is not.
-/

namespace TagTemplate

/-- Each map in the value, however deep, has no name twice. -/
inductive Value.Keyed : Value → Prop
  | null : Keyed .null
  | bool (b : Bool) : Keyed (.bool b)
  | number (x : Float) : Keyed (.number x)
  | string (s : String) : Keyed (.string s)
  | list {items : List Value} (h : ∀ v ∈ items, v.Keyed) : Keyed (.list items)
  | map {entries : OrderedMap Value} (distinct : entries.Distinct)
      (values : ∀ e ∈ entries.entries, e.2.Keyed) : Keyed (.map entries)
  | host (identity : Nat) (text : String) (accessor field dynamic : String → Option Value) :
    Keyed (.host identity text accessor field dynamic)
  | document (identity : Nat) (d : Island.Document) : Keyed (.document identity d)

/-! ## Names of maps -/

namespace OrderedMap

variable {α β : Type} {m : OrderedMap α} {n : OrderedMap β}

/-- A map that has all names of another one and no more entries has no other names. -/
theorem mem_keys_of_size_eq (hm : m.Distinct) (hsize : m.size = n.size)
    (h : ∀ k ∈ m.keys, k ∈ n.keys) {k : String} (hk : k ∈ n.keys) : k ∈ m.keys := by
  have hlength : n.keys.length ≤ m.keys.length := by
    simp only [keys, List.length_map]
    exact hsize.ge
  exact ((hm.subperm h).perm_of_length_le hlength).mem_iff.2 hk

theorem exists_mem_of_mem_keys {k : String} (h : k ∈ m.keys) : ∃ v, (k, v) ∈ m.entries := by
  obtain ⟨⟨k', v⟩, hmem, rfl⟩ := List.mem_map.1 h
  exact ⟨v, hmem⟩

theorem mem_keys_of_get? {k : String} {v : α} (h : m.get? k = some v) : k ∈ m.keys :=
  List.mem_map.2 ⟨(k, v), mem_of_get? h, rfl⟩

end OrderedMap

namespace Value

/-! ## What equality says -/

theorem equalLists_iff {xs ys : List Value} :
    equalLists xs ys = true ↔ List.Forall₂ (fun v w => v.equal w = true) xs ys := by
  induction xs generalizing ys with
  | nil => cases ys <;> simp [equalLists]
  | cons x xs ih => cases ys <;> simp [equalLists, ih]

theorem equal_list_iff {xs ys : List Value} :
    (list xs).equal (list ys) = true ↔ List.Forall₂ (fun v w => v.equal w = true) xs ys := by
  rw [equal, equalLists_iff]

theorem entriesIncludedIn_iff {es : List (String × Value)} {n : OrderedMap Value} :
    entriesIncludedIn es n = true ↔
      ∀ e ∈ es, ∃ w, n.get? e.1 = some w ∧ e.2.equal w = true := by
  induction es with
  | nil => simp [entriesIncludedIn]
  | cons e es ih =>
    obtain ⟨k, v⟩ := e
    rw [entriesIncludedIn, Bool.and_eq_true, ih, List.forall_mem_cons]
    cases n.get? k <;> simp

/-- Maps are equal when they have as many entries and each of the first has an equal one in the
second. -/
theorem equal_map_iff {m n : OrderedMap Value} :
    (map m).equal (map n) = true ↔
      m.size = n.size ∧ ∀ e ∈ m.entries, ∃ w, n.get? e.1 = some w ∧ e.2.equal w = true := by
  obtain ⟨es⟩ := m
  rw [equal, Bool.and_eq_true, includedIn, entriesIncludedIn_iff, beq_iff_eq]

/-! ## The laws -/

/-- Related items, each known to come from its list. -/
theorem forall₂_and_mem {α β : Type} {r : α → β → Prop} {as : List α} {bs : List β}
    (h : List.Forall₂ r as bs) : List.Forall₂ (fun a b => a ∈ as ∧ b ∈ bs ∧ r a b) as bs := by
  obtain ⟨hlength, hpairs⟩ := List.forall₂_iff_zip.1 h
  refine List.forall₂_iff_zip.2 ⟨hlength, fun {a b} hab => ?_⟩
  obtain ⟨ha, hb⟩ := List.of_mem_zip hab
  exact ⟨ha, hb, hpairs hab⟩

variable {v w : Value}

theorem equal_self (h : v.Keyed) : v.equal v = true := by
  induction h with
  | null => rw [equal]
  | bool b => simp [equal]
  | number x => simp [equal, Number.nearlyEqual_self]
  | string s => simp [equal]
  | list _ ih => exact equal_list_iff.2 (List.forall₂_same.2 ih)
  | map hdistinct _ ih =>
    refine equal_map_iff.2 ⟨rfl, fun e he => ⟨e.2, ?_, ih e he⟩⟩
    exact OrderedMap.get?_of_mem hdistinct he
  | host => simp [equal]
  | document => simp [equal]

theorem equal_symm (hv : v.Keyed) (hw : w.Keyed) (h : v.equal w = true) : w.equal v = true := by
  induction hv generalizing w with
  | @list xs _ ih =>
    cases hw with
    | @list ys hys =>
      refine equal_list_iff.2
        (.flip ((forall₂_and_mem (equal_list_iff.1 h)).imp fun x y hpair => ?_))
      obtain ⟨hx, hy, hxy⟩ := hpair
      exact ih x hx (hys y hy) hxy
    | _ => simp [equal] at h
  | @map m hm hvalues ih =>
    cases hw with
    | @map n hn hvalues' =>
      obtain ⟨hsize, hentries⟩ := equal_map_iff.1 h
      refine equal_map_iff.2 ⟨hsize.symm, fun e he => ?_⟩
      -- the counting of names: what the second map has, the first one has as well
      have hkeys : ∀ k ∈ m.keys, k ∈ n.keys := by
        intro k hk
        obtain ⟨v, hv⟩ := OrderedMap.exists_mem_of_mem_keys hk
        obtain ⟨w, hw, -⟩ := hentries _ hv
        exact OrderedMap.mem_keys_of_get? hw
      obtain ⟨v, hv⟩ := OrderedMap.exists_mem_of_mem_keys
        (OrderedMap.mem_keys_of_size_eq hm hsize hkeys (List.mem_map_of_mem he))
      obtain ⟨w, hw, hequal⟩ := hentries _ hv
      obtain rfl : w = e.2 := Option.some.inj (hw.symm.trans (OrderedMap.get?_of_mem hn he))
      exact ⟨v, OrderedMap.get?_of_mem hm hv, ih _ hv (hvalues' e he) hequal⟩
    | _ => simp [equal] at h
  | number x =>
    cases hw with
    | number y =>
      rw [equal] at h ⊢
      rwa [Number.nearlyEqual_comm]
    | _ => simp [equal] at h
  | _ => cases w <;> simp_all [equal]

/-- **Equality is reflexive and symmetric**, for values of any depth; a copy of a value is the value
itself. -/
theorem equal_laws (hv : v.Keyed) (hw : w.Keyed) :
    v.equal v = true ∧ (v.equal w = true ↔ w.equal v = true) :=
  ⟨equal_self hv, equal_symm hv hw, equal_symm hw hv⟩

/-- A map with a number next to that of `otherRecord`, and another map below it. -/
def nestedRecord : Value :=
  .map ⟨[("n", .number (0.1 + 0.2)),
    ("l", .list [.null, .map ⟨[("x", .string "s"), ("y", .bool true)]⟩])]⟩

/-- The entries of `nestedRecord` in other orders. -/
def otherRecord : Value :=
  .map ⟨[("l", .list [.null, .map ⟨[("y", .bool true), ("x", .string "s")]⟩]),
    ("n", .number 0.3)]⟩

theorem equal_laws_nestedRecord :
    nestedRecord.Keyed ∧ otherRecord.Keyed ∧ nestedRecord.equal nestedRecord = true ∧
      nestedRecord.equal otherRecord = true ∧ otherRecord.equal nestedRecord = true := by
  have hinner : ∀ m : OrderedMap Value, m.keys.Nodup →
      (∀ e ∈ m.entries, e.2 = .string "s" ∨ e.2 = .bool true) → (list [.null, .map m]).Keyed := by
    intro m hm hvalues
    refine .list (List.forall_mem_cons.2 ⟨.null, List.forall_mem_singleton.2 (.map hm ?_)⟩)
    intro e he
    rcases hvalues e he with h | h
    · exact h ▸ .string _
    · exact h ▸ .bool _
  have hv : nestedRecord.Keyed :=
    .map (by decide : ["n", "l"].Nodup) (List.forall_mem_cons.2 ⟨.number _,
      List.forall_mem_singleton.2 (hinner _ (by decide : ["x", "y"].Nodup) (by simp))⟩)
  have hw : otherRecord.Keyed :=
    .map (by decide : ["l", "n"].Nodup) (List.forall_mem_cons.2
      ⟨hinner _ (by decide : ["y", "x"].Nodup) (by simp), List.forall_mem_singleton.2 (.number _)⟩)
  have hequal : nestedRecord.equal otherRecord = true := by decide +kernel
  exact ⟨hv, hw, (equal_laws hv hw).1, hequal, (equal_laws hv hw).2.1 hequal⟩

end Value

end TagTemplate
