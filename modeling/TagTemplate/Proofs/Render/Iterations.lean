import Mathlib.Data.List.TakeWhile
import TagTemplate.Proofs.Number.Truncation
import TagTemplate.Proofs.Render.Agreement
import TagTemplate.Proofs.Text.Search

/-!
# Walks, iteration by iteration

A walk renders its element once for every item. Each iteration begins in the state that the one
before left behind, may change it, and may come out empty.

- `emit_emitted`, `joinIndented_eq`: one output put behind the others, and all of them: the flag of
  the loop puts the indentation between two outputs that are not empty, and nowhere else;
- `toIndex_of_walk`: a number that can be walked over is cut to the floor of its magnitude;
- `Walks`, `walkItems_eq_ok_iff`: which items a value has, each with its key;
- `Indents`, `indents_indentation`: which part of the text in front of an element indents it;
- `Visits`, `visits_forItems`: the iterations one after another, each in the state it begins in;
- `renderWalk_iff`: **what a walk comes to, and when it does**.
-/

namespace TagTemplate

/-! ## Putting out -/

/-- What the loop of a walk holds after these texts, none of which is empty. -/
def emitted (indent : String) (texts : List String) : String × Bool :=
  (indent.intercalate texts, !texts.isEmpty)

/-- An output that is not empty becomes the last text, and an empty one is passed over. -/
theorem emit_emitted (indent output : String) (texts : List String) :
    emit indent (emitted indent texts) output =
      emitted indent (texts ++ [output].filter (· ≠ "")) := by
  by_cases hempty : output = ""
  · rw [List.filter_cons_of_neg (by simpa using hempty), List.filter_nil, List.append_nil]
    exact if_pos hempty
  · rw [List.filter_cons_of_pos (by simpa using hempty), List.filter_nil]
    -- the flag of the loop tells these two cases apart
    cases texts with
    | nil => simp [emit, emitted, hempty]
    | cons text texts =>
      have hjoin := String.intercalate_append_of_ne_nil (s := indent) (List.cons_ne_nil text texts)
        (List.cons_ne_nil output [])
      rw [String.intercalate_singleton] at hjoin
      rw [emitted, emitted, hjoin]
      exact if_neg hempty

/-- The loop, begun after some texts. -/
theorem foldl_emit (indent : String) (outputs texts : List String) :
    outputs.foldl (emit indent) (emitted indent texts) =
      emitted indent (texts ++ outputs.filter (· ≠ "")) := by
  induction outputs generalizing texts with
  | nil => rw [List.foldl_nil, List.filter_nil, List.append_nil]
  | cons output outputs ih =>
    rw [List.foldl_cons, emit_emitted, ih, List.append_assoc, ← List.filter_append,
      List.singleton_append]

/-- The indentation stands between two outputs that are not empty, and nowhere else. -/
theorem joinIndented_eq (indent : String) (outputs : List String) :
    joinIndented indent outputs = indent.intercalate (outputs.filter (· ≠ "")) := by
  have hstart : ("", false) = emitted indent [] := by simp [emitted]
  rw [joinIndented, hstart, foldl_emit, List.nil_append]
  rfl

/-! ## Items -/

/-- A walk over the value visits nothing but the value itself. -/
def Value.Solitary : Value → Prop
  | .list _ | .map _ => False
  | .number x => (x.isNaN || x.isInf) = false ∧ ¬ 1.0 ≤ x
  | _ => True

/-- The items of a value, each with its key: those of a list by their indices, those of a map by
their names, and for a finite number as many numbers from one on as it has whole units. A number
below one and every other value is visited itself if it is true. -/
inductive Walks : Value → List (Value × Value) → Prop
  | list {values : List Value} {items : List (Value × Value)}
    (hitem : ∀ i, items[i]? = values[i]?.map fun value => (Value.number (Float.ofNat i), value)) :
    Walks (.list values) items
  | map (m : OrderedMap Value) :
    Walks (.map m) (m.entries.map fun (name, value) => (.string name, value))
  | number {x : Float} {items : List (Value × Value)} (hfinite : (x.isNaN || x.isInf) = false)
    (hone : 1.0 ≤ x) (hlongest : ¬ Float.ofNat longestWalk < x)
    (hlength : items.length = ⌊Number.magnitude x⌋₊)
    (hitem : ∀ i < items.length,
      items[i]? = some (.number (Float.ofNat i), .number (Float.ofNat (i + 1)))) :
    Walks (.number x) items
  | itself {value : Value} (hvalue : value.Solitary) (htrue : value.isTruthy = true) :
    Walks value [(.number (Float.ofNat 0), value)]
  | nothing {value : Value} (hvalue : value.Solitary) (hfalse : value.isTruthy = false) :
    Walks value []

/-- **A number that can be walked over has as many items as whole units.** -/
theorem toIndex_of_walk {x : Float} (hfinite : (x.isNaN || x.isInf) = false) (hone : 1.0 ≤ x)
    (hlongest : ¬ Float.ofNat longestWalk < x) :
    Number.toIndex x = ⌊Number.magnitude x⌋₊ := by
  have hsign : ¬ x < 0 := Number.not_lt_zero_of_one_le hone
  have hbound : (Float.ofNat longestWalk).toModel.unpack =
      .finite .positive (longestWalk * 2 ^ 33) (-33) (by decide) := rfl
  have hlt : Number.magnitude x < 2 ^ (53 + -33 : ℤ) :=
    Number.magnitude_lt_of_not_lt hbound (Number.isFinite_iff.2 hfinite) hsign hlongest
  have hword : ⌊Number.magnitude x⌋₊ < 2 ^ 20 := by
    refine (Nat.floor_lt' (by decide)).2 (hlt.trans_eq ?_)
    norm_num
  rw [Number.toIndex_eq_floor (Number.isFinite_iff.2 hfinite) hsign]
  exact Nat.min_eq_left (hword.le.trans (by decide))

theorem getElem?_indexed (values : List Value) (i : Nat) :
    (indexed values)[i]? = values[i]?.map fun value => (Value.number (Float.ofNat i), value) := by
  simp [indexed, List.getElem?_zipIdx, Function.comp_def]

theorem length_counted (n : Nat) : (counted n).length = n := by
  simp [counted, indexed]

theorem getElem?_counted {n i : Nat} (h : i < n) :
    (counted n)[i]? = some (.number (Float.ofNat i), .number (Float.ofNat (i + 1))) := by
  simp [counted, getElem?_indexed, h]

section Items

variable {value : Value} {expression : String} {items : List (Value × Value)}

theorem walkItems_solitary (h : value.Solitary) :
    walkItems value expression = .ok (if value.isTruthy then indexed [value] else []) := by
  cases value with
  | list values => cases h
  | map m => cases h
  | number x =>
    obtain ⟨hfinite, hone⟩ := h
    rw [walkItems, hfinite, if_neg Bool.false_ne_true, if_neg hone]
  | _ => rfl

theorem walkItems_of_walks (h : Walks value items) : walkItems value expression = .ok items := by
  cases h with
  | @list values _ hitem =>
    have hindexed : indexed values = items :=
      List.ext_getElem? fun i => (getElem?_indexed values i).trans (hitem i).symm
    rw [← hindexed]
    rfl
  | map m => rfl
  | @number x _ hfinite hone hlongest hlength hitem =>
    have hcounted : counted (Number.toIndex x) = items := by
      rw [toIndex_of_walk hfinite hone hlongest]
      -- behind the last item there is none on either side
      refine List.ext_getElem? fun i => ?_
      by_cases hi : i < items.length
      · rw [hitem i hi, getElem?_counted (hlength ▸ hi)]
      · rw [List.getElem?_eq_none (by rw [length_counted]; omega),
          List.getElem?_eq_none (by omega)]
    rw [walkItems, hfinite, if_neg Bool.false_ne_true, if_pos hone, if_neg hlongest, hcounted]
  | itself hvalue htrue =>
    rw [walkItems_solitary hvalue, if_pos htrue]
    rfl
  | nothing hvalue hfalse =>
    rw [walkItems_solitary hvalue, if_neg (Bool.eq_false_iff.1 hfalse)]

/-- A value that is visited itself, or not at all. -/
theorem walks_of_solitary (h : value.Solitary) :
    Walks value (if value.isTruthy then indexed [value] else []) := by
  cases htruthy : value.isTruthy with
  | true => exact .itself h htruthy
  | false => exact .nothing h htruthy

/-- **The items of a value** are what the walk over it goes through; a walk over a number that is
infinite, none or too large is not possible. -/
theorem walkItems_eq_ok_iff : walkItems value expression = .ok items ↔ Walks value items := by
  refine ⟨fun h => ?_, walkItems_of_walks⟩
  -- what is left beside the solitary values are lists, maps and numbers from one on
  by_cases hsolitary : value.Solitary
  · rw [walkItems_solitary hsolitary] at h
    cases h
    exact walks_of_solitary hsolitary
  · cases value with
    | list values =>
      cases h
      exact .list (getElem?_indexed values)
    | map m =>
      cases h
      exact .map m
    | number x =>
      unfold walkItems at h
      dsimp only at h
      split_ifs at h with hfinite hone hlongest
      · cases h
        replace hfinite := Bool.eq_false_iff.2 hfinite
        have hlength := length_counted (Number.toIndex x)
        have hfloor := hlength.trans (toIndex_of_walk hfinite hone hlongest)
        exact .number hfinite hone hlongest hfloor fun i hi => getElem?_counted (hlength ▸ hi)
      all_goals exact absurd ⟨Bool.eq_false_iff.2 hfinite, hone⟩ hsolitary
    | _ => exact absurd trivial hsolitary

end Items

/-! ## Indentation -/

/-- What indents an element behind a text: the end of the text from its last line feed on, if all of
that is white space. There is no indentation otherwise. -/
inductive Indents : String → String → Prop
  | blank {front tail : List Char} (hlast : '\n' ∉ tail)
    (hblank : ∀ c ∈ tail, Text.isBlank c = true) :
    Indents (String.ofList (front ++ '\n' :: tail)) (String.ofList ('\n' :: tail))
  | inked {front tail : List Char} (hlast : '\n' ∉ tail)
    (hinked : ∃ c ∈ tail, Text.isBlank c = false) :
    Indents (String.ofList (front ++ '\n' :: tail)) ""
  | unbroken {text : String} (hbroken : '\n' ∉ text.toList) : Indents text ""

theorem indents_indentation (text : String) : Indents text (indentation text) := by
  unfold indentation
  by_cases hbroken : '\n' ∈ text.toList
  -- the indentation is read from the back, up to the last line break
  · obtain ⟨tail, front, hreverse, hlast⟩ :=
      List.eq_append_cons_of_mem (List.mem_reverse.2 hbroken)
    have htext : text = String.ofList (front.reverse ++ '\n' :: tail.reverse) := by
      rw [← String.ofList_toList (s := text), ← List.reverse_reverse text.toList, hreverse]
      simp
    have hspan : text.toList.reverse.span (fun c => c ≠ '\n') = (tail, '\n' :: front) := by
      rw [hreverse]
      exact Text.span_ne_append hlast front
    rw [hspan]
    dsimp only
    rw [htext]
    cases hblank : Text.allBlank tail with
    | true =>
      refine .blank (by simpa using hlast) fun c hc => ?_
      exact List.all_eq_true.1 hblank c (List.mem_reverse.1 hc)
    | false =>
      obtain ⟨c, hc, hinked⟩ := List.all_eq_false.1 hblank
      exact .inked (by simpa using hlast) ⟨c, List.mem_reverse.2 hc, Bool.eq_false_iff.2 hinked⟩
  · rw [Text.span_ne_of_notMem fun h => hbroken (List.mem_reverse.1 h)]
    exact .unbroken hbroken

/-! ## Iterations -/

/-- The state that an item is rendered in. -/
def RenderState.enter (s : RenderState) (item : Value) (iteration : Iteration) : RenderState :=
  { s with scope := s.scope.push item, iterations := iteration :: s.iterations }

/-- The state behind an iteration, which is off again together with its item. -/
def RenderState.leave (s : RenderState) : RenderState :=
  { s with scope := s.scope.pop.2, iterations := s.iterations.tail }

namespace Rendering

variable {action : Rendering String}

/-- The action succeeds for every item, one after another: each time with the item on top of what
the one before left behind, and inside of an iteration that knows the position of the item among
all of them, their count and the key. -/
inductive Visits (action : Rendering String) (count : Nat) :
    Nat → List (Value × Value) → RenderState → List String → RenderState → Prop
  | done {position : Nat} {s : RenderState} : Visits action count position [] s [] s
  | next {position : Nat} {key item : Value} {items : List (Value × Value)} {output : String}
    {outputs : List String} {s t s' : RenderState}
    (hitem : action.outcome (s.enter item ⟨position, count, key⟩) = (.ok output, t))
    (hitems : Visits action count (position + 1) items t.leave outputs s') :
    Visits action count position ((key, item) :: items) s (output :: outputs) s'

/-- One iteration. -/
theorem outcome_iteration (item : Value) (iteration : Iteration) (s : RenderState) :
    (withLayer item (withIteration iteration action)).outcome s =
      let (result, t) := action.outcome (s.enter item iteration)
      (result, t.leave) := rfl

theorem outcome_iteration_ok_iff {item : Value} {iteration : Iteration} {s s' : RenderState}
    {output : String} :
    (withLayer item (withIteration iteration action)).outcome s = (.ok output, s') ↔
      ∃ t, action.outcome (s.enter item iteration) = (.ok output, t) ∧ t.leave = s' := by
  rw [outcome_iteration]
  generalize action.outcome (s.enter item iteration) = p
  obtain ⟨result, t⟩ := p
  simp

/-- **Every item is visited**, in order, and nothing else happens. -/
theorem visits_forItems {count position : Nat} {items : List (Value × Value)} {s s' : RenderState}
    {outputs : List String} :
    (forItems action count position items).outcome s = (.ok outputs, s') ↔
      Visits action count position items s outputs s' := by
  constructor
  · -- each iteration ends in the state that the rest of the items is visited from
    intro h
    induction items generalizing position s outputs with
    | nil =>
      cases h
      exact .done
    | cons entry items ih =>
      obtain ⟨output, t, hiteration, h⟩ := outcome_bind_ok_iff.1 h
      obtain ⟨rest, t', hrest, h⟩ := outcome_bind_ok_iff.1 h
      cases h
      obtain ⟨t, hitem, rfl⟩ := outcome_iteration_ok_iff.1 hiteration
      exact .next hitem (ih hrest)
  · intro h
    induction h with
    | done => rfl
    | next hitem _ ih =>
      refine outcome_bind_ok_iff.2 ⟨_, _, outcome_iteration_ok_iff.2 ⟨_, hitem, rfl⟩, ?_⟩
      exact outcome_bind_ok_iff.2 ⟨_, _, ih, rfl⟩

/-- **What a walk comes to**: it succeeds exactly if its value has items and the element can be
rendered for each of them, one after another. Then it comes to the outputs that are not empty, with
the indentation of the element between each and the next. -/
theorem renderWalk_iff (env : Environment) (self : NodeRenderer) (template : Template) (node : Node)
    (expression : String) :
    ∃ indent, Indents node.precedingText indent ∧ ∀ s s' output,
      (renderWalk env (renderGuarded env self template node) node expression).outcome s =
          (.ok output, s') ↔
        ∃ value items outputs,
          Expr.evaluate ⟨s.scope, env.functions, s.iterations.head?⟩ expression = .ok value ∧
          Walks value items ∧
          Visits (renderGuarded env self template node) items.length 1 items s outputs s' ∧
          output = indent.intercalate (outputs.filter (· ≠ "")) := by
  refine ⟨_, indents_indentation _, fun s s' output => ⟨fun h => ?_, ?_⟩⟩
  · obtain ⟨value, t, hvalue, h⟩ := outcome_bind_ok_iff.1 h
    obtain ⟨hvalue, rfl⟩ := Prod.ext_iff.1 hvalue
    obtain ⟨items, t, hitems, h⟩ := outcome_bind_ok_iff.1 h
    obtain ⟨hitems, rfl⟩ := Prod.ext_iff.1 hitems
    obtain ⟨outputs, t, houtputs, h⟩ := outcome_bind_ok_iff.1 h
    cases h
    exact ⟨value, items, outputs, hvalue, walkItems_eq_ok_iff.1 hitems,
      visits_forItems.1 houtputs, joinIndented_eq _ _⟩
  · rintro ⟨value, items, outputs, hvalue, hitems, houtputs, rfl⟩
    refine outcome_bind_ok_iff.2 ⟨value, s, Prod.ext hvalue rfl, ?_⟩
    refine outcome_bind_ok_iff.2 ⟨items, s, Prod.ext (walkItems_of_walks hitems) rfl, ?_⟩
    refine outcome_bind_ok_iff.2 ⟨outputs, s', visits_forItems.2 houtputs, ?_⟩
    rw [outcome_pure, joinIndented_eq]

/-- An element on lines of its own, rendered for the numbers from two on. -/
def lineNode : Node :=
  ⟨"li", "tl:", ⟨[("tl:walk", "3.7"), ("tl:cond", "gt(., 1)"), ("tl:text", ".")]⟩, [], true, 1,
    none, "\n  ", none⟩

/-- A page of such lines. -/
def linesPage : Template := ⟨"page.xml", "tl:", none, ⟨[lineNode], some (.node 0)⟩⟩

/-- What the page is rendered with. -/
def linesEnvironment : Environment := ⟨.standard, .empty, [], none, none⟩

/-- What the page is rendered from. -/
def linesStart : RenderState := .start .empty (.empty "/" 0)

/-- The walk over `3.7` visits three numbers. The first one comes out empty, and nothing stands in
front of the second one. -/
theorem renderWalk_iff_lines :
    ∃ indent items outputs s', Indents lineNode.precedingText indent ∧
      Walks (.number 3.7) items ∧ items.length = 3 ∧
      Visits (renderGuarded linesEnvironment (renderNode linesEnvironment 1) linesPage lineNode)
        items.length 1 items linesStart outputs s' ∧
      "<li>2</li>\n  <li>3</li>" = indent.intercalate (outputs.filter (· ≠ "")) := by
  obtain ⟨indent, hindent, hwalk⟩ := renderWalk_iff linesEnvironment
    (renderNode linesEnvironment 1) linesPage lineNode "3.7"
  have houtput : ((renderWalk linesEnvironment (renderGuarded linesEnvironment
      (renderNode linesEnvironment 1) linesPage lineNode) lineNode "3.7").outcome linesStart).1 =
      .ok "<li>2</li>\n  <li>3</li>" := by decide +kernel
  have hvalue : Expr.evaluate ⟨linesStart.scope, linesEnvironment.functions, none⟩ "3.7" =
      .ok (.number 3.7) := rfl
  generalize hrun : (renderWalk linesEnvironment _ lineNode "3.7").outcome linesStart = p at houtput
  obtain ⟨result, s'⟩ := p
  obtain rfl : result = _ := houtput
  obtain ⟨value, items, outputs, hevaluated, hitems, hvisits, hjoined⟩ :=
    (hwalk linesStart s' _).1 hrun
  cases hvalue.symm.trans hevaluated
  have hone : (1.0 : Float) ≤ 3.7 := by decide +kernel
  have hlength : items.length = 3 := by
    cases hitems with
    | number _ _ _ hlength _ =>
      have hmagnitude : Number.magnitude 3.7 = 8331659310635418 * 2 ^ (-51 : ℤ) := rfl
      rw [hlength, hmagnitude]
      refine (Nat.floor_eq_iff (by positivity)).2 ?_
      norm_num
    | itself hsolitary _ => exact absurd hone hsolitary.2
    | nothing hsolitary _ => exact absurd hone hsolitary.2
  exact ⟨indent, items, outputs, s', hindent, hitems, hlength, hvisits, hjoined⟩

end Rendering

end TagTemplate
