import TagTemplate.Expr.Path
import TagTemplate.Proofs.Text.Unmarked

/-!
# Values without marks

A value is unmarked if none of the texts that can be got out of it holds the mark of anchors: the
text it is written as, the names and values of its entries, the members of an object. What is looked
up in an unmarked scope is unmarked.

- `Value.Unmarked`, `Scope.Unmarked`: no text in the value or in the scope holds the mark;
- `Value.Unmarked.output`: an unmarked value is written without marks;
- `Expr.Path.resolve_unmarked`: paths lead to unmarked values.
-/

namespace TagTemplate

open Text

/-- No text that can be got out of the value holds a mark. -/
inductive Value.Unmarked : Value → Prop
  | null : Unmarked .null
  | bool (b : Bool) : Unmarked (.bool b)
  | number (x : Float) : Unmarked (.number x)
  | string {s : String} (h : Text.Unmarked s) : Unmarked (.string s)
  | list {items : List Value} (h : ∀ v ∈ items, v.Unmarked) : Unmarked (.list items)
  | map {entries : OrderedMap Value} (names : ∀ e ∈ entries.entries, Text.Unmarked e.1)
      (values : ∀ e ∈ entries.entries, e.2.Unmarked) : Unmarked (.map entries)
  | host (identity : Nat) {text : String} {accessor field dynamic : String → Option Value}
      (output : Text.Unmarked text)
      (accessors : ∀ name v, accessor name = some v → v.Unmarked)
      (fields : ∀ name v, field name = some v → v.Unmarked)
      (dynamics : ∀ name v, dynamic name = some v → v.Unmarked) :
    Unmarked (.host identity text accessor field dynamic)
  | document (identity : Nat) {d : Island.Document} (output : Text.Unmarked d.inspect)
      (name : Text.Unmarked d.name) (content : Text.Unmarked d.textContent) :
    Unmarked (.document identity d)

namespace Value

theorem outputs_eq_map (vs : List Value) : outputs vs = vs.map output := by
  induction vs with
  | nil => rfl
  | cons v vs ih => rw [outputs, ih, List.map_cons]

theorem pairOutputs_eq_map (es : List (String × Value)) :
    pairOutputs es = es.map fun e => e.2.output := by
  induction es with
  | nil => rfl
  | cons e es ih => rw [pairOutputs, ih, List.map_cons]

/-- **An unmarked value is written without marks.** -/
theorem Unmarked.output {v : Value} (h : v.Unmarked) : Text.Unmarked v.output := by
  induction h with
  | null => decide
  | bool b => cases b <;> decide
  | number x =>
    rw [Value.output]
    exact unmarked_numberText x
  | string h => exact h
  | list _ ih =>
    rw [Value.output, outputs_eq_map]
    refine unmarked_intercalate (by decide) fun t ht => ?_
    obtain ⟨v, hv, rfl⟩ := List.mem_map.1 ht
    exact ih v hv
  | @map entries _ _ ih =>
    rw [Value.output, show entryOutputs entries = pairOutputs entries.entries by
      cases entries
      rw [entryOutputs], pairOutputs_eq_map]
    refine unmarked_intercalate (by decide) fun t ht => ?_
    obtain ⟨e, he, rfl⟩ := List.mem_map.1 ht
    exact ih e he
  | host _ houtput => exact houtput
  | document _ houtput => exact houtput

/-! ## Members -/

section Members

variable {v w : Value} {name : String}

theorem unmarked_objectMember {accessor field dynamic : String → Option Value}
    (accessors : ∀ name v, accessor name = some v → v.Unmarked)
    (fields : ∀ name v, field name = some v → v.Unmarked)
    (dynamics : ∀ name v, dynamic name = some v → v.Unmarked)
    (h : objectMember? accessor field dynamic name = some w) : w.Unmarked := by
  rw [objectMember?, Option.or_eq_some_iff] at h
  rcases h with h | ⟨-, h⟩
  · exact accessors _ _ h
  · rcases Option.or_eq_some_iff.1 h with h | ⟨-, h⟩
    · exact fields _ _ h
    · exact dynamics _ _ h

theorem unmarked_documentMember {d : Island.Document} (hname : Text.Unmarked d.name)
    (hcontent : Text.Unmarked d.textContent) (h : documentMember? d name = some w) :
    w.Unmarked := by
  unfold documentMember? at h
  split at h
  · cases h
    exact .string hname
  · split at h
    · cases h
      exact .string hcontent
    · cases h

theorem Unmarked.layerMember (hv : v.Unmarked) (h : v.layerMember? name = some w) :
    w.Unmarked := by
  cases hv with
  | map _ values => exact values _ (OrderedMap.mem_of_get? h)
  | host _ _ accessors fields dynamics => exact unmarked_objectMember accessors fields dynamics h
  | document _ _ hname hcontent => exact unmarked_documentMember hname hcontent h
  | _ => cases h

theorem Unmarked.member (hv : v.Unmarked) (h : v.member? name = some w) : w.Unmarked := by
  cases hv with
  | list hitems =>
    obtain ⟨i, -, hi⟩ := Option.bind_eq_some_iff.1 h
    exact hitems _ (List.mem_of_getElem? hi)
  | map _ values => exact values _ (OrderedMap.mem_of_get? h)
  | host _ _ accessors fields dynamics => exact unmarked_objectMember accessors fields dynamics h
  | document _ _ hname hcontent => exact unmarked_documentMember hname hcontent h
  | _ => cases h

theorem Unmarked.insert {m : OrderedMap Value} (hm : (Value.map m).Unmarked)
    (hname : Text.Unmarked name) (hv : v.Unmarked) : (Value.map (m.insert name v)).Unmarked := by
  cases hm with
  | map names values =>
    refine .map (fun e he => ?_) fun e he => ?_
    · rcases OrderedMap.mem_entries_insert he with he | rfl
      · exact names e he
      · exact hname
    · rcases OrderedMap.mem_entries_insert he with he | rfl
      · exact values e he
      · exact hv

theorem unmarked_empty : (Value.map .empty).Unmarked :=
  .map (List.forall_mem_nil _) (List.forall_mem_nil _)

end Members

end Value

/-! ## Scopes -/

/-- No layer holds a mark. -/
structure Scope.Unmarked (s : Scope) : Prop where
  base : (Value.map s.base).Unmarked
  layers : ∀ v ∈ s.layers, v.Unmarked

/-- The key of the innermost iteration holds no mark. -/
def Iteration.Unmarked (it : Iteration) : Prop := it.key.Unmarked

namespace Scope

variable {s : Scope} {v : Value} {name : String}

theorem Unmarked.push (h : s.Unmarked) (hv : v.Unmarked) : (s.push v).Unmarked :=
  ⟨h.base, List.forall_mem_cons.2 ⟨hv, h.layers⟩⟩

theorem Unmarked.pop (h : s.Unmarked) : s.pop.2.Unmarked := by
  unfold Scope.pop
  split
  · exact h
  · rename_i hlayers
    exact ⟨h.base, fun v hv => h.layers v (hlayers ▸ List.mem_cons_of_mem _ hv)⟩

theorem Unmarked.mount (h : s.Unmarked) (hname : Text.Unmarked name) (hv : v.Unmarked) :
    (s.mount name v).Unmarked :=
  ⟨h.base.insert hname hv, h.layers⟩

theorem Unmarked.allLayers (h : s.Unmarked) : ∀ v ∈ s.allLayers, v.Unmarked := by
  intro v hv
  rcases List.mem_append.1 hv with hv | hv
  · exact h.layers v hv
  · rw [List.mem_singleton.1 hv]
    exact h.base

theorem Unmarked.top (h : s.Unmarked) : s.top.Unmarked := by
  unfold Scope.top
  cases hlayers : s.layers with
  | nil => exact h.base
  | cons v layers => exact h.layers v (hlayers ▸ List.mem_cons_self)

theorem Unmarked.lookup (h : s.Unmarked) (hfound : s.lookup? name = some v) : v.Unmarked := by
  unfold Scope.lookup? at hfound
  split_ifs at hfound
  · cases hfound
    exact h.base
  · cases hfound
    exact h.top
  · exact h.allLayers v (List.mem_of_getElem? hfound)
  · obtain ⟨layer, hlayer, hmember⟩ := List.exists_of_findSome?_eq_some hfound
    exact (h.allLayers layer hlayer).layerMember hmember

end Scope

/-- **Paths lead to unmarked values.** -/
theorem Expr.Path.resolve_unmarked {s : Scope} (h : s.Unmarked) (p : Expr.Path) :
    (p.resolve s).Unmarked := by
  have hwalk : ∀ (steps : List String) (start : Option Value),
      (∀ v ∈ start, v.Unmarked) → ∀ v ∈ Expr.walk start steps, v.Unmarked := by
    intro steps
    induction steps with
    | nil => exact fun _ hstart => hstart
    | cons step steps ih =>
      intro start hstart
      refine ih _ fun v hv => ?_
      obtain ⟨w, hw, hmember⟩ := Option.bind_eq_some_iff.1 hv
      exact (hstart w hw).member hmember
  have hfound : ∀ found : Option Value, (∀ v ∈ found, v.Unmarked) →
      (found.getD .null).Unmarked := by
    intro found hfound
    cases found with
    | none => exact .null
    | some v => exact hfound v rfl
  refine hfound _ ?_
  split
  · exact hwalk _ _ fun v hv => Option.some.inj hv ▸ h.base
  · exact hwalk _ _ fun v hv => Option.some.inj hv ▸ h.top
  · exact hwalk _ _ fun v hv => h.allLayers v (List.mem_of_getElem? hv)
  · split
    · exact fun v hv => nomatch hv
    · exact hwalk _ _ fun v hv => h.lookup hv

end TagTemplate
