import TagTemplate.Proofs.OrderedMap
import TagTemplate.Proofs.Slots.Content

/-!
# Working off one slot

What `reconcileSlot?` does to an output once it is known where the anchor stands, and what a pass
does to an output without anchors. Working a slot off notes its new length and changes nothing else.

- `reconcileSlot?_kept`, `reconcileSlot?_filled`: the two ways to work a slot off;
- `reconcileAll_of_absent`: nothing happens to an output that holds no anchor.
-/

namespace TagTemplate.Slots

open TagTemplate.Text

/-! ## What is noted down -/

theorem recordSlot_known {s : Slots} {name : String} (h : s.lengths.contains name = true) :
    s.recordSlot name = (none, s) := by
  simp [recordSlot, h]

theorem recordSlot_new {s : Slots} {name : String} (h : s.lengths.contains name = false) :
    s.recordSlot name = (some (anchor name), { s with lengths := s.lengths.insert name 0 }) := by
  simp [recordSlot, h]

@[simp] theorem queue_setLength (s : Slots) (name : String) (length : Nat) :
    (s.setLength name length).queue = s.queue := by
  unfold setLength
  split <;> rfl

theorem plugs_congr {s t : Slots} (h : s.queue = t.queue) : s.plugs = t.plugs := by
  funext name
  unfold plugs
  rw [h]

theorem get?_setLength_of_ne {s : Slots} {name other : String} (h : other ≠ name) (length : Nat) :
    (s.setLength name length).lengths.get? other = s.lengths.get? other := by
  unfold setLength
  split
  · simp [OrderedMap.get?_insert, h]
  · rfl

/-! ## Slots worked off -/

theorem reconcileSlot?_absent {s : Slots} {name : String} {output : List Char}
    (h : breakOn? (anchor name).toList output = none) : s.reconcileSlot? name output = none := by
  rw [reconcileSlot?, h]
  rfl

theorem reconcileSlot?_kept {s : Slots} {name : String} {output before after : List Char}
    (h : breakOn? (anchor name).toList output = some (before, after)) (hplugs : s.plugs name = []) :
    s.reconcileSlot? name output = some (before ++ after, s) := by
  rw [reconcileSlot?, h, hplugs]
  rfl

theorem reconcileSlot?_filled {s : Slots} {name : String} {output before body after : List Char}
    (h : breakOn? (anchor name).toList output = some (before, body ++ after))
    (hplugs : s.plugs name ≠ []) (hlength : s.lengths.get? name = some (byteLength body)) :
    s.reconcileSlot? name output =
      some (before ++ (joined (s.plugs name)).toList ++ after,
        s.setLength name (byteLength (joined (s.plugs name)).toList)) := by
  rw [reconcileSlot?, h]
  cases hp : s.plugs name with
  | nil => exact absurd hp hplugs
  | cons plug plugs => simp [hlength, dropWithin_byteLength]

theorem reconcilePass_cons_of_some {s t : Slots} {name : String} {names : List String}
    {output result : List Char} (h : s.reconcileSlot? name output = some (result, t)) :
    s.reconcilePass (name :: names) output = t.reconcilePass names result := by
  rw [reconcilePass, h]

theorem reconcilePass_cons_of_none {s : Slots} {name : String} {names : List String}
    {output : List Char} (h : s.reconcileSlot? name output = none) :
    s.reconcilePass (name :: names) output =
      (name :: (s.reconcilePass names output).1, (s.reconcilePass names output).2) := by
  rw [reconcilePass, h]

/-- Slots that are not there are passed over. -/
theorem reconcilePass_append_of_absent {s : Slots} {names later : List String}
    {output : List Char} (h : ∀ name ∈ names, breakOn? (anchor name).toList output = none) :
    s.reconcilePass (names ++ later) output =
      (names ++ (s.reconcilePass later output).1, (s.reconcilePass later output).2) := by
  induction names with
  | nil => rfl
  | cons name names ih =>
    have hname := reconcileSlot?_absent (s := s) (h name List.mem_cons_self)
    rw [List.cons_append, reconcilePass_cons_of_none hname,
      ih fun n hn => h n (List.mem_cons_of_mem _ hn)]
    rfl

theorem reconcileAll_of_absent {s : Slots} {names : List String} {output : List Char}
    (h : ∀ name ∈ names, breakOn? (anchor name).toList output = none) :
    s.reconcileAll names output = (output, s) := by
  have hpass : s.reconcilePass names output = (names, output, s) := by
    simpa [reconcilePass] using @reconcilePass_append_of_absent s names [] output h
  rw [reconcileAll, hpass]
  simp

end TagTemplate.Slots
