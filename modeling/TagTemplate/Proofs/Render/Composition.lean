import Mathlib.Data.List.Flatten
import TagTemplate.Proofs.Render.Iterations
import TagTemplate.Proofs.Render.Orderly
import TagTemplate.Proofs.Render.Restoration

/-!
# What is rendered is composed of text and slots

Every function of the renderer composes its output of text without marks and of new slots, if the
renderer for the elements inside does. Where a function stores what it rendered, or puts it into an
attribute, there is no slot in it.

- `writes_renderSlot`: the one place where a slot comes from;
- `writes_renderPlug`, `gives_callArguments`, `gives_attributeValue`, `writes_renderMount`: the
  places where output becomes something else;
- `writes_renderNode`: **elements of orderly templates write text and new slots**, by induction on
  how deep the renderer goes.
-/

namespace TagTemplate

open Text Slots Rendering

/-! ## Pieces of attributes -/

/-- The text of a piece, without braces. -/
def Piece.chars : Piece → List Char
  | .literal text => text
  | .expression text => text
  | .unclosed => []

/-- The pieces of an attribute stand in it. -/
theorem Piece.chars_infix_of_mem {fuel : Nat} {cs : List Char} :
    ∀ piece ∈ piecesFrom fuel cs, piece.chars <:+: cs := by
  induction fuel generalizing cs with
  | zero => exact List.forall_mem_nil _
  | succ fuel ih =>
    rw [piecesFrom, List.span_eq_takeWhile_dropWhile]
    have hsplit := List.takeWhile_append_dropWhile (p := fun c => c ≠ '\x7b') (l := cs)
    generalize cs.takeWhile _ = front at hsplit ⊢
    generalize cs.dropWhile _ = rest at hsplit ⊢
    subst hsplit
    have hfront : ∀ rest, front <:+: front ++ rest := fun rest => ⟨[], rest, rfl⟩
    cases rest with
    | nil => exact List.forall_mem_singleton.2 (hfront [])
    | cons brace inner =>
      dsimp only
      rw [List.span_eq_takeWhile_dropWhile]
      have hsplit := List.takeWhile_append_dropWhile (p := fun c => c ≠ '\x7d') (l := inner)
      generalize inner.takeWhile _ = expression at hsplit ⊢
      generalize inner.dropWhile _ = rest at hsplit ⊢
      subst hsplit
      cases rest with
      | nil =>
        refine List.forall_mem_cons.2 ⟨hfront _, List.forall_mem_singleton.2 ?_⟩
        exact List.nil_infix
      | cons brace' rest =>
        refine List.forall_mem_cons.2
          ⟨hfront _, List.forall_mem_cons.2 ⟨?_, fun piece hpiece => ?_⟩⟩
        · exact ⟨front ++ [brace], brace' :: rest, by simp [Piece.chars]⟩
        · exact (ih piece hpiece).trans ⟨front ++ brace :: expression ++ [brace'], [], by simp⟩

namespace Setup

variable {S : Setup} {self : NodeRenderer} {t : Template} {n : Node}

/-! ## Attributes -/

section Attributes

variable {name value : String}

theorem harmless_attribute (hn : n.Orderly S.env.functions S.plugged t)
    (h : n.attribute? name = some value) : Expr.Harmless S.env.functions value.toList :=
  (hn.attributes _ (OrderedMap.mem_of_get? h)).2

theorem harmless_directiveAttribute (hn : n.Orderly S.env.functions S.plugged t)
    (h : n.directiveAttribute? name = some value) : Expr.Harmless S.env.functions value.toList :=
  (hn.attributes _ (OrderedMap.mem_of_get? h)).2

/-- An attribute that is not there is as good as an empty one. -/
theorem harmless_getD_attribute (hn : n.Orderly S.env.functions S.plugged t) (name : String) :
    Expr.Harmless S.env.functions ((n.attribute? name).getD "").toList := by
  cases h : n.attribute? name with
  | none => exact Expr.harmless_nil
  | some value => exact harmless_attribute hn h

theorem harmless_plainAttributes (hn : n.Orderly S.env.functions S.plugged t) :
    ∀ a ∈ n.plainAttributes, Text.Unmarked a.1 ∧ Expr.Harmless S.env.functions a.2.toList :=
  fun a ha => hn.attributes a (List.mem_filter.1 ha).1

end Attributes

/-! ## Expressions -/

theorem gives_evaluate {expression : String}
    (h : Expr.Harmless S.env.functions expression.toList) :
    S.Gives Value.Unmarked (evaluate S.env expression) := by
  refine gives_bind gives_get fun s hs => gives_lift fun v hv => ?_
  refine Expr.evaluate_unmarked hs.scope (fun it hit => hs.iterations it ?_) h hv
  exact List.mem_of_mem_head? hit

theorem gives_evaluateText {expression : String}
    (h : Expr.Harmless S.env.functions expression.toList) :
    S.Gives Text.Unmarked (evaluateText S.env expression) :=
  gives_map (gives_evaluate h) fun _ hv => hv.output

theorem gives_evaluateTruth {expression : Option String}
    (h : ∀ e ∈ expression, Expr.Harmless S.env.functions e.toList) :
    S.Gives (fun _ => True) (evaluateTruth S.env expression) := by
  cases expression with
  | none => exact gives_pure trivial
  | some expression => exact gives_map (gives_evaluate (h expression rfl)) fun _ _ => trivial

theorem gives_interpolate {raw : String} (h : Expr.Harmless S.env.functions raw.toList) :
    S.Gives Text.Unmarked (interpolate S.env raw) := by
  refine gives_map (gives_mapM fun piece hpiece => ?_) fun texts htexts => unmarked_join htexts
  have hharmless := h.of_infix (Piece.chars_infix_of_mem piece hpiece)
  cases piece with
  | literal chars => exact gives_pure (unmarked_ofList hharmless.unmarked)
  | expression chars =>
    refine gives_evaluateText ?_
    rwa [String.toList_ofList]
  | unclosed => exact writes_throw _

theorem gives_mount {name : String} {value : Value} (hname : Text.Unmarked name)
    (hvalue : value.Unmarked) : S.Gives (fun _ => True) (mount name value) :=
  gives_modify (fun _ hs => { hs with scope := hs.scope.mount hname hvalue }) fun _ => rfl

theorem frame_insert {frame : Frame} (h : frame.Unmarked) {name : String} {value : Option String}
    (hname : Text.Unmarked name) (hvalue : ∀ v ∈ value, Text.Unmarked v) :
    Frame.Unmarked (frame.insert name value) := by
  intro e he
  rcases OrderedMap.mem_entries_insert he with he | rfl
  · exact h e he
  · exact ⟨hname, hvalue⟩

theorem gives_setAttribute {name : String} {value : Option String}
    (hname : Text.Unmarked name) (hvalue : ∀ v ∈ value, Text.Unmarked v) :
    S.Gives (fun _ => True) (setAttribute name value) := by
  refine gives_modify (fun s hs => ?_) fun s => by split <;> rfl
  split
  · rename_i frame frames hframes
    have hall := hs.frames
    rw [hframes, List.forall_mem_cons] at hall
    exact { hs with frames := List.forall_mem_cons.2 ⟨frame_insert hall.1 hname hvalue, hall.2⟩ }
  · exact hs

theorem gives_noteDoctype (hn : n.Orderly S.env.functions S.plugged t) :
    S.Gives (fun _ => True) (noteDoctype n) := by
  refine gives_modify (fun s hs => ?_) fun s => by split <;> (try split) <;> rfl
  split
  · rename_i doctype hdoctype
    split
    · refine { hs with doctype := fun d hd => ?_ }
      cases hd
      exact (harmless_directiveAttribute hn hdoctype).unmarked
    · exact hs
  · exact hs

/-! ## Elements -/

theorem gives_ownAttributes {attributes : List (String × String)}
    (h : ∀ a ∈ attributes, Text.Unmarked a.1 ∧ Expr.Harmless S.env.functions a.2.toList) :
    S.Gives Frame.Unmarked (ownAttributes S.env attributes) := by
  refine gives_foldlM (fun frame a hframe ha => ?_) (List.forall_mem_nil _)
  refine gives_bind (gives_interpolate (h a ha).2) fun value hvalue => gives_pure ?_
  exact frame_insert hframe (h a ha).1 fun v hv => Option.some.inj hv ▸ hvalue

theorem unmarked_renderedAttributes {frame : Frame} (h : frame.Unmarked) :
    Text.Unmarked (renderedAttributes frame) := by
  refine unmarked_join fun s hs => ?_
  obtain ⟨⟨name, value⟩, he, rfl⟩ := List.mem_map.1 hs
  obtain ⟨hname, hvalue⟩ := h _ he
  cases value with
  | none => exact unmarked_append (by decide) hname
  | some value =>
    have hescaped := unmarked_escaped (hvalue value rfl)
    exact unmarked_append (unmarked_append (unmarked_append (unmarked_append (by decide) hname)
      (by decide)) hescaped) (by decide)

/-- The written element around its body. -/
theorem gives_envelope (hn : n.Orderly S.env.functions S.plugged t) {plain : Prop} {body : String}
    {c : Content} (hbody : Output plain body c) {made : Frame} (hmade : made.Unmarked) :
    S.Gives (fun output => ∃ d, c.Becomes d ∧ Output plain output d)
      (envelope S.env n body made) := by
  refine gives_bind (gives_noteDoctype hn) fun _ _ => ?_
  refine gives_bind (gives_ownAttributes (harmless_plainAttributes hn)) fun own hown => ?_
  have hall : Frame.Unmarked (own.insertAll made.entries) := by
    intro e he
    rcases OrderedMap.mem_entries_insertAll he with he | he
    · exact hown e he
    · exact hmade e he
  have hopening : Text.Unmarked ("<" ++ n.tag ++ renderedAttributes (own.insertAll made.entries)) :=
    unmarked_append (unmarked_append (by decide) hn.tag) (unmarked_renderedAttributes hall)
  -- without children the whole element is text
  have htext : ∀ closing, Text.Unmarked closing → ∃ d, c.Becomes d ∧ Output plain
      ("<" ++ n.tag ++ renderedAttributes (own.insertAll made.entries) ++ closing) d := by
    intro closing hclosing
    exact ⟨_, becomes_text (unmarked_append hopening hclosing), List.append_nil _, fun _ => rfl⟩
  refine gives_bind
    (gives_evaluateTruth fun e he => harmless_directiveAttribute hn he) fun void _ => ?_
  split
  · exact gives_pure (htext ">" (by decide))
  · split
    · exact gives_pure (htext "/>" (by decide))
    · refine gives_pure ⟨_, fun _ _ _ _ hgrows => hgrows.surround
        (unmarked_append hopening (t := ">") (by decide))
        (unmarked_append (unmarked_append (s := "</") (by decide) hn.tag) (t := ">") (by decide)),
        ?_, fun hplain => ?_⟩
      · simp [Content.flatten, hbody.flatten, String.toList_append]
      · simp [Content.names, hbody.names hplain]

/-! ## Walks -/

/-- The outputs of several renderings one after the other. -/
def Outputs (plain : Prop) (outputs : List String) (c : Content) : Prop :=
  ∃ cs : List Content, List.Forall₂ (Output plain) outputs cs ∧ c = cs.foldr Content.append .done

/-- Dropping outputs drops their slots. -/
theorem forall₂_filter {plain : Prop} {outputs : List String} {cs : List Content}
    (h : List.Forall₂ (Output plain) outputs cs) (p : String → Bool) :
    ∃ kept, List.Forall₂ (Output plain) (outputs.filter p) kept ∧ kept.Sublist cs := by
  induction h with
  | nil => exact ⟨[], .nil, .slnil⟩
  | @cons output c outputs cs hout _ ih =>
    obtain ⟨kept, hkept, hsub⟩ := ih
    cases hp : p output with
    | true =>
      refine ⟨c :: kept, ?_, hsub.cons_cons c⟩
      rw [List.filter_cons_of_pos hp]
      exact .cons hout hkept
    | false =>
      refine ⟨kept, ?_, hsub.cons c⟩
      rwa [List.filter_cons_of_neg (by simp [hp])]

/-- Outputs with text between them. -/
theorem exists_intercalate {plain : Prop} {outputs : List String} {cs : List Content}
    (h : List.Forall₂ (Output plain) outputs cs) {indent : String}
    (hindent : Text.Unmarked indent) :
    ∃ d : Content, d.flatten = (indent.intercalate outputs).toList ∧
      d.names = cs.flatMap Content.names ∧
      ∀ plugged lengths, (∀ c ∈ cs, c.Sound plugged lengths) → d.Sound plugged lengths := by
  rw [String.toList_intercalate]
  induction h with
  | nil => exact ⟨.done, rfl, rfl, fun _ _ _ => ⟨trivial, trivial⟩⟩
  | @cons output c outputs cs hout hrest ih =>
    obtain ⟨d, hflatten, hnames, hsound⟩ := ih
    -- the indentation stands between two outputs, so the last has none behind it
    cases hrest with
    | nil =>
      refine ⟨c, ?_, (List.append_nil _).symm, fun _ _ hall => hall c List.mem_cons_self⟩
      rw [hout.flatten, List.map_cons, List.map_nil, List.intercalate_singleton]
    | cons =>
      refine ⟨c.append (.text indent.toList d), ?_, ?_, fun plugged lengths hall => ?_⟩
      · rw [Content.flatten_append, Content.flatten, hflatten, hout.flatten]
        simp only [List.map_cons, List.intercalate_cons_cons, List.append_assoc]
      · rw [Content.names_append, Content.names, hnames]
        rfl
      · obtain ⟨hc, hcs⟩ := List.forall_mem_cons.1 hall
        have hd := hsound plugged lengths hcs
        exact Content.sound_append hc ⟨⟨hindent, hd.clean⟩, hd.fits⟩

/-- **Joined outputs** are composed of the slots in them. -/
theorem Outputs.joined {plain : Prop} {outputs : List String} {c : Content}
    (h : Outputs plain outputs c) {indent : String} (hindent : Text.Unmarked indent) :
    ∃ d, c.Becomes d ∧ Output plain (joinIndented indent outputs) d := by
  obtain ⟨cs, hcs, rfl⟩ := h
  obtain ⟨kept, hkept, hsub⟩ := forall₂_filter hcs (· ≠ "")
  obtain ⟨d, hflatten, hnames, hsound⟩ := exists_intercalate hkept hindent
  rw [← joinIndented_eq] at hflatten
  -- what an empty output wrote into is left out, which cannot make the rest unsound
  have hall : ∀ plugged lengths, (cs.foldr Content.append .done).Sound plugged lengths →
      ∀ c ∈ cs, c.Sound plugged lengths := by
    intro plugged lengths
    clear hcs hsub
    induction cs with
    | nil => exact fun _ => List.forall_mem_nil _
    | cons c cs ih => exact fun hc => List.forall_mem_cons.2 ⟨hc.of_append.1, ih hc.of_append.2⟩
  have htotal : (cs.foldr Content.append .done).names = cs.flatMap Content.names := by
    clear hcs hsub hall
    induction cs with
    | nil => rfl
    | cons c cs ih => rw [List.foldr_cons, Content.names_append, ih, List.flatMap_cons]
  refine ⟨d, fun plugged s t is hgrows => hgrows.mono ?_ ?_, hflatten, fun hplain => ?_⟩
  · refine hsound plugged _ fun c hc => ?_
    exact hall plugged _ (hgrows.sound _ List.mem_cons_self) c (hsub.subset hc)
  · rw [hnames, htotal]
    exact hsub.flatMap _
  · rw [hnames]
    clear hflatten hnames hsound hsub
    generalize outputs.filter _ = rendered at hkept
    induction hkept with
    | nil => rfl
    | cons hout _ ih => rw [List.flatMap_cons, hout.names hplain, ih, List.nil_append]

/-- The items of an unmarked value and their keys are unmarked. -/
theorem unmarked_walkItems {value : Value} {expression : String} {items : List (Value × Value)}
    (hvalue : value.Unmarked) (h : walkItems value expression = .ok items) :
    ∀ e ∈ items, e.1.Unmarked ∧ e.2.Unmarked := by
  -- the keys of what is not a map are numbers
  have hindexed : ∀ values : List Value, (∀ v ∈ values, v.Unmarked) →
      ∀ e ∈ indexed values, e.1.Unmarked ∧ e.2.Unmarked := by
    intro values hvalues e he
    obtain ⟨⟨v, i⟩, hv, rfl⟩ := List.mem_map.1 he
    exact ⟨.number _, hvalues v (List.fst_mem_of_mem_zipIdx hv)⟩
  have hsingle : ∀ e ∈ (if value.isTruthy then indexed [value] else []),
      e.1.Unmarked ∧ e.2.Unmarked := by
    split
    · exact hindexed [value] (List.forall_mem_singleton.2 hvalue)
    · exact List.forall_mem_nil _
  cases hvalue with
  | list hitems =>
    cases h
    exact hindexed _ hitems
  | map hnames hvalues =>
    cases h
    intro e he
    obtain ⟨entry, hentry, rfl⟩ := List.mem_map.1 he
    exact ⟨.string (hnames entry hentry), hvalues entry hentry⟩
  | number x =>
    unfold walkItems at h
    dsimp only at h
    split at h
    · cases h
    · split at h
      · split at h
        · cases h
        · cases h
          refine hindexed _ fun v hv => ?_
          obtain ⟨i, -, rfl⟩ := List.mem_map.1 hv
          exact .number _
      · cases h
        exact hsingle
  | _ =>
    cases h
    exact hsingle

theorem unmarked_indentation {text : String} (h : Text.Unmarked text) :
    Text.Unmarked (indentation text) := by
  unfold indentation
  rw [List.span_eq_takeWhile_dropWhile]
  dsimp only
  split
  · decide
  · refine unmarked_ofList ?_
    rw [List.mem_cons, not_or]
    refine ⟨by decide, fun hmem => h ?_⟩
    exact List.mem_reverse.1 ((List.takeWhile_sublist _).subset (List.mem_reverse.1 hmem))

/-- An action for every item. -/
theorem writes_forItems {plain : Prop} {action : Rendering String}
    (h : S.Writes (Output plain) action) {items : List (Value × Value)}
    (hitems : ∀ e ∈ items, e.1.Unmarked ∧ e.2.Unmarked) (count position : Nat) :
    S.Writes (Outputs plain) (forItems action count position items) := by
  induction items generalizing position with
  | nil => exact writes_pure ⟨[], .nil, rfl⟩
  | cons entry items ih =>
    obtain ⟨key, item⟩ := entry
    obtain ⟨⟨hkey, hitem⟩, hrest⟩ := List.forall_mem_cons.1 hitems
    have hiteration : S.Writes (Output plain) (withIteration ⟨position, count, key⟩ action) := by
      refine writes_during h (fun s hs => { hs with iterations := ?_ })
        (fun s hs => { hs with iterations := ?_ }) (fun _ => rfl) fun _ => rfl
      · exact List.forall_mem_cons.2 ⟨hkey, hs.iterations⟩
      · exact fun it hit => hs.iterations it (List.mem_of_mem_tail hit)
    have hlayer : S.Writes (Output plain)
        (withLayer item (withIteration ⟨position, count, key⟩ action)) :=
      writes_during hiteration (fun s hs => { hs with scope := hs.scope.push hitem })
        (fun s hs => { hs with scope := hs.scope.pop }) (fun _ => rfl) fun _ => rfl
    refine writes_bind hlayer fun output c hc => ?_
    refine writes_bind (ih hrest _) fun outputs d hd => writes_pure ?_
    obtain ⟨cs, hcs, rfl⟩ := hd
    refine ⟨c :: cs, .cons hc hcs, ?_⟩
    rw [append_done, List.foldr_cons]

theorem writes_renderWalk {plain : Prop} {action : Rendering String}
    (h : S.Writes (Output plain) action) (hn : n.Orderly S.env.functions S.plugged t)
    {expression : String} (hexpression : Expr.Harmless S.env.functions expression.toList) :
    S.Writes (Output plain) (renderWalk S.env action n expression) := by
  refine gives_bind (gives_evaluate hexpression) fun value hvalue => ?_
  refine gives_bind (gives_lift fun _ h => unmarked_walkItems hvalue h) fun items hitems => ?_
  refine writes_bind_becomes (writes_forItems h hitems _ _) fun outputs c hc _ => gives_pure ?_
  exact hc.joined (unmarked_indentation hn.precedingText)

/-! ## What is inside -/

theorem gives_nodeAt (ht : S.Admits t) (i : Nat) :
    S.Gives (fun n => t.tree.node? i = some n ∧ n.Orderly S.env.functions S.plugged t)
      (nodeAt t i) := by
  unfold nodeAt
  split
  · rename_i n hn
    exact gives_pure ⟨hn, ht.nodes n (List.mem_of_getElem? hn)⟩
  · exact writes_throw _

theorem gives_directiveChildren (ht : S.Admits t) (d : Directive) (children : List Child) :
    S.Gives (fun ids => ∀ id ∈ ids, ∀ n, t.tree.node? id = some n → n.directive = some d)
      (directiveChildren t d children) := by
  induction children with
  | nil => exact gives_pure (List.forall_mem_nil _)
  | cons child children ih =>
    cases child with
    | text content => exact ih
    | node id =>
      refine gives_bind (gives_nodeAt ht id) fun n hn => gives_bind ih fun ids hids => gives_pure ?_
      split
      · rename_i hdirective
        refine List.forall_mem_cons.2 ⟨fun m hm => ?_, hids⟩
        rw [hn.1] at hm
        exact Option.some.inj hm ▸ hdirective
      · exact hids

section Inside

variable (hself : ∀ t i mode, S.Admits t → S.Writes (Output (t.Plain i)) (self t i mode))

include hself

/-- Children in order. -/
theorem writes_renderChildren (ht : S.Admits t) {children : List Child}
    (htexts : ∀ content, Child.text content ∈ children → Text.Unmarked content) :
    S.Writes (Output (t.PlainChildren children)) (renderChildren self t children) := by
  induction children with
  | nil => exact writes_pure ⟨rfl, fun _ => rfl⟩
  | cons child children ih =>
    have hrest := ih fun content hcontent => htexts content (List.mem_cons_of_mem _ hcontent)
    have hplain : t.PlainChildren (child :: children) → t.PlainChildren children :=
      fun h i hi => h i (List.mem_cons_of_mem _ hi)
    cases child with
    | text content =>
      have hcontent := htexts content List.mem_cons_self
      refine writes_bind_becomes hrest fun rest c hc _ => gives_pure ?_
      refine ⟨_, fun _ _ _ _ hgrows => hgrows.surround hcontent List.not_mem_nil, ?_, fun h => ?_⟩
      · simp [Content.flatten, hc.flatten, String.toList_append]
      · simp [Content.names, hc.names (hplain h)]
    | node id =>
      refine writes_bind (hself t id .normal ht) fun output c hc => ?_
      refine writes_bind hrest fun rest d hd => writes_pure ⟨?_, fun h => ?_⟩
      · simp [Content.flatten, hc.flatten, hd.flatten, String.toList_append]
      · simp [Content.names, hc.names (h id List.mem_cons_self), hd.names (hplain h)]

/-- Plain children give text without marks, and what they write is gone. -/
theorem gives_renderChildren (ht : S.Admits t) {children : List Child}
    (htexts : ∀ content, Child.text content ∈ children → Text.Unmarked content)
    (hplain : t.PlainChildren children) :
    S.Gives Text.Unmarked (renderChildren self t children) :=
  (writes_renderChildren hself ht htexts).gives fun _ _ hout hclean =>
    Output.unmarked ⟨hout.flatten, fun _ => hout.names hplain⟩ hclean

theorem writes_renderBody (ht : S.Admits t) (hn : n.Orderly S.env.functions S.plugged t) :
    S.Writes (Output (t.PlainChildren n.children)) (renderBody S.env self t n) := by
  unfold renderBody
  split
  · exact writes_renderChildren hself ht hn.texts
  · rename_i expression hexpression
    refine gives_bind (gives_directiveChildren ht .attr _) fun ids _ => ?_
    refine gives_bind (gives_forIn fun id _ => ?_) fun _ _ => ?_
    · refine gives_bind (P := fun _ => True) ?_ fun _ _ => gives_pure trivial
      exact (hself t id .normal ht).gives fun _ _ _ _ => trivial
    · exact (gives_evaluateText (harmless_directiveAttribute hn hexpression)).writes

theorem writes_renderElement (ht : S.Admits t) (hn : n.Orderly S.env.functions S.plugged t) :
    S.Writes (Output (t.PlainChildren n.children)) (renderElement S.env self t n) := by
  refine writes_bind_becomes (writes_withFrame (writes_renderBody hself ht hn)) ?_
  rintro ⟨body, made⟩ c ⟨hmade, hbody⟩ _
  have hkept :
      S.Gives (fun output => ∃ d, c.Becomes d ∧ Output (t.PlainChildren n.children) output d)
        (pure body) := gives_pure ⟨c, fun _ _ _ _ hgrows => hgrows, hbody⟩
  dsimp only
  split
  · exact hkept
  · refine gives_bind
      (gives_evaluateTruth fun e he => harmless_directiveAttribute hn he) fun _ _ => ?_
    split
    · exact hkept
    · exact gives_envelope hn hbody hmade

/-! ## Calls, plugs and slots -/

/-- The arguments of a call hold no marks: the children of a parameter are plain. -/
theorem gives_callArguments (ht : S.Admits t) (hn : n.Orderly S.env.functions S.plugged t) :
    S.Gives (fun layer => (Value.map layer).Unmarked) (callArguments S.env self t n) := by
  refine gives_bind (P := fun layer => (Value.map layer).Unmarked) (gives_foldlM ?_
    Value.unmarked_empty) fun named hnamed => ?_
  · rintro layer ⟨name, expression⟩ hlayer hmem
    obtain ⟨hname, hexpression⟩ := harmless_plainAttributes hn _ hmem
    exact gives_bind (gives_evaluate hexpression) fun value hvalue =>
      gives_pure (hlayer.insert hname hvalue)
  · refine gives_bind (gives_directiveChildren ht .param _) fun ids hids => ?_
    refine gives_foldlM (fun layer id hlayer hid => ?_) hnamed
    refine gives_bind (gives_nodeAt ht id) fun param hparam => ?_
    obtain ⟨hat, horderly⟩ := hparam
    have hdirective := hids id hid param hat
    have hset : ∀ value : Value, value.Unmarked → S.Gives (fun layer => (Value.map layer).Unmarked)
        (pure (layer.insert ((param.attribute? "name").getD "") value)) := fun value hvalue =>
      gives_pure (hlayer.insert (harmless_getD_attribute horderly "name").unmarked hvalue)
    split
    · rename_i expression hexpression
      exact gives_bind (gives_evaluate (harmless_attribute horderly hexpression)) hset
    · rename_i hnone
      have hplain := horderly.captured ⟨.inr (.inr hdirective), hnone⟩
      refine gives_bind (gives_map (gives_renderChildren hself ht horderly.texts hplain) ?_) hset
      exact fun _ hcontent => .string hcontent

theorem writes_renderCall (ht : S.Admits t) (hn : n.Orderly S.env.functions S.plugged t)
    (name : String) : S.Writes (Output False) (renderCall S.env self t n name) := by
  refine gives_bind gives_get fun s hs => ?_
  split
  · exact writes_throw _
  · rename_i definition hdefinition
    have hmacro := hs.macros _ (OrderedMap.mem_of_get? hdefinition)
    refine gives_bind (gives_callArguments hself ht hn) fun layer hlayer => ?_
    refine writes_during ?_ (fun s hs => { hs with scope := hs.scope.push hlayer })
      (fun s hs => { hs with scope := hs.scope.pop }) (fun _ => rfl) fun _ => rfl
    exact (hself _ _ .called hmacro).mono fun _ _ hout => ⟨hout.flatten, False.elim⟩

/-- The output of the element goes into the queue, with all slots in it. -/
theorem writes_renderPlug (ht : S.Admits t) (hn : n.Orderly S.env.functions S.plugged t)
    {name : String} (hname : S.plugged name) {plain : Prop} :
    S.Writes (Output plain) (renderPlug S.env self t n name) := by
  intro s output u hs hrun
  obtain ⟨content, s₁, helement, hrun⟩ := outcome_bind_ok_iff.1 hrun
  obtain ⟨append, s₂, happend, hrun⟩ := outcome_bind_ok_iff.1 hrun
  obtain ⟨_, s₃, hqueue, hrun⟩ := outcome_bind_ok_iff.1 hrun
  cases hqueue
  cases hrun
  obtain ⟨hs₁, c, is, hc, hgrows⟩ := writes_renderElement hself ht hn s content s₁ hs helement
  obtain ⟨hs₂, _, js, ⟨-, rfl⟩, hgrows'⟩ :=
    gives_evaluateTruth (fun e he => harmless_directiveAttribute hn he) s₁ append s₂ hs₁ happend
  have htotal := (hgrows.trans hgrows').plug hname append
  rw [append_done, hc.flatten, String.ofList_toList] at htotal
  exact ⟨{ hs₂ with }, .done, _, ⟨rfl, fun _ => rfl⟩, htotal⟩

/-- **A new slot** is written with its anchor and noted with its length; a slot that was there
before is a plain element. -/
theorem writes_renderSlot (ht : S.Admits t) (hn : n.Orderly S.env.functions S.plugged t)
    {name : String} (hname : n.directiveAttribute? "slot" = some name) :
    S.Writes (Output False) (renderSlot S.env self t n name) := by
  intro s output u hs hrun
  have helement := writes_renderElement hself ht hn
  -- only the first slot of a name writes an anchor
  cases hknown : s.slots.lengths.contains name with
  | true =>
    rw [outcome_renderSlot_known hknown] at hrun
    obtain ⟨hu, c, is, hc, hgrows⟩ := helement s output u hs hrun
    exact ⟨hu, c, is, ⟨hc.flatten, False.elim⟩, hgrows⟩
  | false =>
    rw [outcome_renderSlot_new hknown] at hrun
    have hrecorded : S.State { s with slots := (s.slots.recordSlot name).2 } := { hs with }
    generalize hp : (renderElement S.env self t n).outcome _ = p at hrun
    obtain ⟨result, s₁⟩ := p
    cases result with
    | error e => cases hrun
    | ok content =>
      obtain ⟨hs₁, c, is, hc, hgrows⟩ := helement _ content s₁ hrecorded hp
      cases hrun
      have hgood : Content.GoodName name :=
        ⟨(harmless_directiveAttribute hn hname).unmarked, hn.slot name hname⟩
      have htotal := hgrows.slot hknown hgood fun hplugged =>
        hc.names (hn.pluggedSlot name hname hplugged)
      rw [hc.flatten, byteLength_toList] at htotal
      refine ⟨{ hs₁ with }, _, is, ⟨?_, False.elim⟩, htotal⟩
      simp [Content.flatten, hc.flatten, String.toList_append]

/-! ## Guards -/

/-- What is done once the condition is known. -/
theorem writes_conditional (ht : S.Admits t) (hn : n.Orderly S.env.functions S.plugged t)
    (holds : Bool) : S.Writes (Output (n.Anchorless ∧ t.PlainChildren n.children))
    (if !holds then pure ""
      else match n.directiveAttribute? "call" with
      | some name => renderCall S.env self t n name
      | none =>
        match n.directiveAttribute? "plug" with
        | some name => renderPlug S.env self t n name
        | none =>
          match n.directiveAttribute? "slot" with
          | some name => renderSlot S.env self t n name
          | none => renderElement S.env self t n) := by
  split
  · exact writes_pure ⟨rfl, fun _ => rfl⟩
  · split
    · rename_i name hcall
      refine (writes_renderCall hself ht hn name).mono fun _ _ hout => ⟨hout.flatten, fun h => ?_⟩
      rw [h.1.call] at hcall
      cases hcall
    · split
      · rename_i name hplug
        exact writes_renderPlug hself ht hn (hn.plug name hplug)
      · split
        · rename_i name hslot
          refine (writes_renderSlot hself ht hn hslot).mono fun _ _ hout =>
            ⟨hout.flatten, fun h => ?_⟩
          rw [h.1.slot] at hslot
          cases hslot
        · exact (writes_renderElement hself ht hn).mono fun _ _ hout =>
            ⟨hout.flatten, fun h => hout.names h.2⟩

theorem writes_renderGuarded (ht : S.Admits t) (hn : n.Orderly S.env.functions S.plugged t) :
    S.Writes (Output (n.Anchorless ∧ t.PlainChildren n.children))
      (renderGuarded S.env self t n) := by
  unfold renderGuarded
  cases hcond : n.directiveAttribute? "cond" with
  | none =>
    exact gives_bind (gives_pure (P := fun _ => True) trivial) fun _ _ =>
      writes_conditional hself ht hn _
  | some condition =>
    refine gives_bind (gives_evaluateTruth fun e he => ?_) fun _ _ =>
      writes_conditional hself ht hn _
    exact harmless_directiveAttribute hn (Option.some.inj he ▸ hcond)

theorem writes_unregistered (ht : S.Admits t) (hn : n.Orderly S.env.functions S.plugged t) :
    S.Writes (Output (n.Anchorless ∧ t.PlainChildren n.children))
      (match n.directiveAttribute? "walk" with
        | some expression => renderWalk S.env (renderGuarded S.env self t n) n expression
        | none => renderGuarded S.env self t n) := by
  have hguarded := writes_renderGuarded hself ht hn
  split
  · rename_i expression hwalk
    exact writes_renderWalk hguarded hn (harmless_directiveAttribute hn hwalk)
  · exact hguarded

theorem writes_renderPlain (ht : S.Admits t) (hn : n.Orderly S.env.functions S.plugged t) (i : Nat)
    (mode : Mode) : S.Writes (Output (n.Anchorless ∧ t.PlainChildren n.children))
      (renderPlain S.env self t i n mode) := by
  unfold renderPlain
  cases mode with
  | called => exact writes_unregistered hself ht hn
  | normal =>
    cases n.directiveAttribute? "macro" with
    | none => exact writes_unregistered hself ht hn
    | some name =>
      refine gives_bind (gives_modify (fun s hs => ?_) fun _ => rfl) fun _ _ =>
        writes_pure ⟨rfl, fun _ => rfl⟩
      refine { hs with macros := fun e he => ?_ }
      rcases OrderedMap.mem_entries_insert he with he | rfl
      · exact hs.macros e he
      · exact ht

/-! ## Directives -/

/-- The value of an attribute holds no mark: it comes from an expression or from plain children. -/
theorem gives_attributeValue (ht : S.Admits t) (hn : n.Orderly S.env.functions S.plugged t)
    (hdirective : n.directive = some .attr) :
    S.Gives (fun value => ∀ v ∈ value, Text.Unmarked v) (attributeValue S.env self t n) := by
  refine gives_bind (gives_evaluateTruth fun e he => harmless_attribute hn he) fun flagged _ => ?_
  split
  · exact gives_pure fun _ hv => nomatch hv
  · split
    · rename_i expression hexpression
      exact gives_map (gives_evaluateText (harmless_attribute hn hexpression))
        fun text htext v hv => Option.some.inj hv ▸ htext
    · rename_i hnone
      have hplain := hn.captured ⟨.inl hdirective, hnone⟩
      refine gives_bind (gives_renderChildren hself ht hn.texts hplain) fun content hcontent => ?_
      exact gives_pure fun v hv => Option.some.inj hv ▸ unmarked_ofList (notMem_words hcontent)

theorem writes_renderAttr {plain : Prop} (ht : S.Admits t)
    (hn : n.Orderly S.env.functions S.plugged t) (hdirective : n.directive = some .attr) :
    S.Writes (Output plain) (renderAttr S.env self t n) := by
  refine gives_bind (gives_attributeValue hself ht hn hdirective) fun value hvalue => ?_
  have hname := (harmless_getD_attribute hn "name").unmarked
  refine gives_bind (gives_setAttribute hname hvalue) fun _ _ => ?_
  exact writes_pure ⟨rfl, fun _ => rfl⟩

/-- What is mounted holds no marks. -/
theorem writes_renderMount {plain : Prop} (ht : S.Admits t)
    (hn : n.Orderly S.env.functions S.plugged t) (hdirective : n.directive = some .mount) :
    S.Writes (Output plain) (renderMount S.env self t n) := by
  have hthen : ∀ value : Value, value.Unmarked → S.Writes (Output plain)
      (mount (required n "target") value >>= fun _ => pure "") := fun value hvalue =>
    gives_bind (gives_mount (harmless_getD_attribute hn "target").unmarked hvalue) fun _ _ =>
      writes_pure ⟨rfl, fun _ => rfl⟩
  unfold renderMount
  cases hvalue : n.attribute? "value" with
  | some expression => exact gives_bind (gives_evaluate (harmless_attribute hn hvalue)) hthen
  | none =>
    have hplain := hn.captured ⟨.inr (.inl hdirective), hvalue⟩
    refine gives_bind (gives_map (gives_renderChildren hself ht hn.texts hplain) ?_) hthen
    exact fun _ hcontent => .string hcontent

/-- A translation stands in for the content, whose slots are gone with it. -/
theorem writes_renderTrans (hS : S.Orderly) (ht : S.Admits t)
    (hn : n.Orderly S.env.functions S.plugged t) :
    S.Writes (Output (t.PlainChildren n.children)) (renderTrans S.env self t n) := by
  refine writes_bind_becomes (writes_renderChildren hself ht hn.texts) fun content c hc _ => ?_
  -- without a translation the element keeps its content
  have hkept : ∃ d, c.Becomes d ∧ Output (t.PlainChildren n.children) content d :=
    ⟨c, fun _ _ _ _ hgrows => hgrows, hc⟩
  split
  · exact gives_pure hkept
  · rename_i translate htranslate
    have hasked : ∀ request, ∃ d, c.Becomes d ∧
        Output (t.PlainChildren n.children) ((translate request).getD content) d := by
      intro request
      cases hfound : translate request with
      | none => exact hkept
      | some text =>
        have htext := hS.translations translate htranslate request text hfound
        exact ⟨_, becomes_text htext, List.append_nil _, fun _ => rfl⟩
    cases hkey : n.attribute? "key" with
    | none =>
      exact gives_bind (gives_pure (P := fun _ => True) trivial) fun key _ =>
        gives_bind gives_get fun s _ => gives_pure (hasked _)
    | some key =>
      exact gives_bind (gives_interpolate (harmless_attribute hn hkey)) fun key _ =>
        gives_bind gives_get fun s _ => gives_pure (hasked _)

theorem writes_renderTemplate (ht : S.Admits t) :
    S.Writes (Output False) (renderTemplate self t) := by
  unfold renderTemplate
  split
  · exact (hself t _ .normal ht).mono fun _ _ hout => ⟨hout.flatten, False.elim⟩
  · rename_i content hroot
    exact (gives_pure (ht.root content hroot)).writes
  · exact writes_pure ⟨rfl, fun _ => rfl⟩

omit hself in
theorem gives_namedFile : S.Gives (fun _ => True) (namedFile S.env t n) :=
  gives_bind gives_get fun _ _ => gives_pure trivial

omit hself in
theorem gives_load (hS : S.Orderly) (file : String) : S.Gives S.Admits (load S.env file) := by
  intro s loaded u hs hrun
  obtain ⟨hresult, hstate⟩ := Prod.mk.inj hrun
  obtain ⟨found, hfound, rfl⟩ := map_eq_ok hresult
  subst hstate
  refine ⟨{ hs with files := hs.files.tail ⟨file, rfl⟩ }, .done, [], ⟨?_, rfl⟩, .refl _⟩
  exact hS.templates s.files hs.files file found hfound

/-- Another template is rendered in place. -/
theorem writes_renderEmbed (hS : S.Orderly) :
    S.Writes (Output False) (renderEmbed S.env self t n) := by
  refine gives_bind gives_namedFile fun file _ => ?_
  refine gives_bind gives_get fun s _ => ?_
  split
  · exact writes_throw _
  · refine gives_bind (gives_load hS file) fun included hincluded => ?_
    exact writes_during (writes_renderTemplate hself hincluded) (fun s hs => { hs with })
      (fun s hs => { hs with }) (fun _ => rfl) fun _ => rfl

omit hself in
theorem gives_renderCData (hS : S.Orderly) : S.Gives Text.Unmarked (renderCData S.env t n) := by
  refine gives_bind gives_namedFile fun file _ => ?_
  refine gives_bind gives_get fun s hs => gives_lift fun text htext => ?_
  exact hS.texts s.files hs.files file text htext

omit hself in
theorem gives_renderDictionary : S.Gives Text.Unmarked (renderDictionary S.env t n) := by
  refine gives_bind gives_namedFile fun file _ => ?_
  refine gives_bind (gives_modify (fun s hs => { hs with }) fun _ => rfl) fun _ _ => ?_
  exact gives_pure (by decide)

omit hself in
theorem gives_renderFeed (hS : S.Orderly) (hn : n.Orderly S.env.functions S.plugged t) :
    S.Gives Text.Unmarked (renderFeed S.env n) := by
  have hparams : S.Gives (fun params => (Value.map params).Unmarked) (feedParams S.env n) := by
    refine gives_foldlM ?_ Value.unmarked_empty
    rintro params ⟨name, expression⟩ hall hmem
    obtain ⟨hname, hexpression⟩ := hn.attributes _ (List.mem_filter.1 hmem).1
    exact gives_bind (gives_evaluate hexpression) fun value hvalue =>
      gives_pure (hall.insert hname hvalue)
  refine gives_bind hparams fun params hall => ?_
  split
  · exact writes_throw _
  · rename_i run hrun
    refine gives_bind (gives_lift fun v hv => hS.feeds _ run hrun params v hall hv) fun v hv => ?_
    have hclass := (harmless_getD_attribute hn "class").unmarked
    have htarget : Text.Unmarked ((n.attribute? "target").getD (required n "class")) := by
      cases htarget : n.attribute? "target" with
      | none => exact hclass
      | some target => exact (harmless_attribute hn htarget).unmarked
    exact gives_bind (gives_mount htarget hv) fun _ _ => gives_pure (by decide)

theorem writes_renderDirective (hS : S.Orderly) (ht : S.Admits t)
    (hn : n.Orderly S.env.functions S.plugged t) {d : Directive} (hd : n.directive = some d) :
    S.Writes (Output (n.Anchorless ∧ t.PlainChildren n.children))
      (renderDirective S.env self t n d) := by
  cases d with
  | attr => exact writes_renderAttr hself ht hn hd
  | cdata => exact (gives_renderCData hS).writes
  | dictionary => exact gives_renderDictionary.writes
  | feed => exact (gives_renderFeed hS hn).writes
  | embed =>
    exact (writes_renderEmbed hself hS).mono fun _ _ hout =>
      ⟨hout.flatten, fun h => absurd hd h.1.embed⟩
  | mount => exact writes_renderMount hself ht hn hd
  | param => exact writes_pure ⟨rfl, fun _ => rfl⟩
  | trans =>
    exact (writes_renderTrans hself hS ht hn).mono fun _ _ hout =>
      ⟨hout.flatten, fun h => hout.names h.2⟩
  | val => exact (gives_evaluateText (harmless_getD_attribute hn "value")).writes

/-- An element, if the elements inside do the same. -/
theorem writes_renderWith (hS : S.Orderly) (ht : S.Admits t) (i : Nat) (mode : Mode) :
    S.Writes (Output (t.Plain i)) (renderWith S.env self t i mode) := by
  refine gives_bind (gives_nodeAt ht i) fun n hn => ?_
  obtain ⟨hat, horderly⟩ := hn
  have hplain : t.Plain i → n.Anchorless ∧ t.PlainChildren n.children :=
    (Template.plain_iff hat).1
  refine writes_adapt (Writes.mono (r := Output (n.Anchorless ∧ t.PlainChildren n.children)) ?_
    fun _ _ hout => ⟨hout.flatten, fun h => hout.names (hplain h)⟩)
  split
  · rename_i d hd
    exact writes_renderDirective hself hS ht horderly hd
  · exact writes_renderPlain hself ht horderly i mode

end Inside

/-- **Elements of orderly templates write text and new slots**, however deep the renderer goes. -/
theorem writes_renderNode (hS : S.Orderly) (depth : Nat) (ht : S.Admits t) (i : Nat) (mode : Mode) :
    S.Writes (Output (t.Plain i)) (renderNode S.env depth t i mode) := by
  induction depth generalizing t i mode with
  | zero => exact writes_throw _
  | succ depth ih => exact writes_renderWith (fun _ i mode ht => ih ht i mode) hS ht i mode

end Setup

end TagTemplate
