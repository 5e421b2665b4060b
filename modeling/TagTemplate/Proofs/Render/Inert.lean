import Mathlib.Data.List.TakeDrop
import Mathlib.Data.List.TakeWhile
import TagTemplate.Proofs.Render.Agreement
import TagTemplate.Proofs.Template.Likeness
import TagTemplate.Proofs.Text.Search

/-!
# Rendering what does not depend on data

An inert element renders to the text that it folds to and leaves the state as it is, unless elements
are nested more deeply than the renderer goes (`outcome_inert`).
-/

namespace TagTemplate

theorem Text.beginsWith_append (start text : String) :
    Text.beginsWith start (start ++ text) = true := by
  rw [beginsWith, afterStart?, String.toList_append, isPrefixOf?_append]
  rfl

/-- An inert element has no attribute of the template language. -/
theorem directiveAttribute?_of_isInert {head : Head} (h : head.isInert = true)
    (children : List Child) (parent : Option Nat) (name : String) :
    (head.node children parent).directiveAttribute? name = none := by
  rw [Head.isInert, Bool.and_eq_true, Bool.and_eq_true] at h
  obtain ⟨⟨-, hkeys⟩, -⟩ := h
  cases hvalue : (head.node children parent).directiveAttribute? name with
  | none => rfl
  | some value =>
    have hmem := List.mem_map_of_mem (f := Prod.fst) (OrderedMap.mem_of_get? hvalue)
    have hany : head.attributes.keys.any (Text.beginsWith head.nsPrefix) = true :=
      List.any_eq_true.2 ⟨_, hmem, Text.beginsWith_append head.nsPrefix name⟩
    rw [hany] at hkeys
    cases hkeys

/-- The attributes of an inert element hold no expressions. -/
theorem notMem_of_isInert {head : Head} (h : head.isInert = true) {entry : String × String}
    (hentry : entry ∈ head.attributes.entries) : '\x7b' ∉ entry.2.toList := by
  rw [Head.isInert, Bool.and_eq_true] at h
  obtain ⟨-, hvalues⟩ := h
  intro hbrace
  have hany : (head.attributes.values.any fun value => value.toList.contains '\x7b') = true :=
    List.any_eq_true.2
      ⟨_, List.mem_map_of_mem (f := Prod.snd) hentry, List.contains_iff_mem.2 hbrace⟩
  rw [hany] at hvalues
  cases hvalues

theorem directive_of_isInert {head : Head} (h : head.isInert = true) : head.directive = none := by
  rw [Head.isInert, Bool.and_eq_true, Bool.and_eq_true] at h
  exact Option.isNone_iff_eq_none.1 h.1.1

namespace Rendering

variable {env : Environment}

theorem pieces_of_notMem {raw : String} (h : '\x7b' ∉ raw.toList) :
    pieces raw = [.literal raw.toList] := by
  have hall : ∀ c ∈ raw.toList, (decide (c ≠ '\x7b')) = true := by
    intro c hc
    refine decide_eq_true ?_
    rintro rfl
    exact h hc
  rw [pieces, piecesFrom, List.span_eq_takeWhile_dropWhile, List.takeWhile_eq_self_iff.2 hall,
    List.dropWhile_eq_nil_iff.2 hall]

/-- An attribute without expressions stays as it is. -/
theorem outcome_interpolate {raw : String} (h : '\x7b' ∉ raw.toList) (s : RenderState) :
    (interpolate env raw).outcome s = (.ok raw, s) := by
  rw [interpolate, pieces_of_notMem h, outcome_map, List.mapM_cons, List.mapM_nil, outcome_bind]
  simp [renderPiece, Except.map]

/-- Names are distinct, so that each attribute is put behind those already there. -/
theorem outcome_foldlM_insert {attributes : List (String × String)} {values : List String}
    {s : RenderState}
    (hvalues : List.Forall₂
      (fun entry value => (interpolate env entry.2).outcome s = (.ok value, s)) attributes values)
    (hdistinct : (attributes.map Prod.fst).Nodup) {frame : Frame}
    (hnew : ∀ entry ∈ attributes, entry.1 ∉ frame.keys) :
    outcome (attributes.foldlM (fun (frame : Frame) (name, raw) => do
      let value ← interpolate env raw
      pure (frame.insert name (some value))) frame) s =
    (.ok ⟨frame.entries ++ ((attributes.map Prod.fst).zip values).map fun entry =>
      (entry.1, some entry.2)⟩, s) := by
  induction hvalues generalizing frame with
  | nil => simp
  | @cons entry value attributes values hentry _ ih =>
    rw [List.map_cons, List.nodup_cons] at hdistinct
    -- the names are new, so every value goes to the end
    have hinsert : (frame.insert entry.1 (some value)).entries =
        frame.entries ++ [(entry.1, some value)] :=
      OrderedMap.entries_insert_of_notMem (hnew entry (by simp)) _
    rw [List.foldlM_cons, outcome_bind, outcome_bind, hentry]
    dsimp only [outcome_pure]
    rw [ih hdistinct.2, hinsert]
    · simp
    · intro e he hmem
      rw [OrderedMap.keys, hinsert, List.map_append, List.mem_append] at hmem
      rcases hmem with hold | hadded
      · exact hnew e (by simp [he]) hold
      · rw [List.map_singleton, List.mem_singleton] at hadded
        exact hdistinct.1 (hadded ▸ List.mem_map_of_mem he)

/-- Attributes are written with what their values come to. -/
theorem outcome_ownAttributes_values {attributes : List (String × String)} {values : List String}
    {s : RenderState}
    (hvalues : List.Forall₂
      (fun entry value => (interpolate env entry.2).outcome s = (.ok value, s)) attributes values)
    (hdistinct : (attributes.map Prod.fst).Nodup) :
    (ownAttributes env attributes).outcome s =
      (.ok ⟨((attributes.map Prod.fst).zip values).map fun entry => (entry.1, some entry.2)⟩, s) :=
  outcome_foldlM_insert hvalues hdistinct fun _ _ => List.not_mem_nil

/-- Attributes without expressions are written as they are. -/
theorem outcome_ownAttributes {attributes : List (String × String)}
    (hbrace : ∀ entry ∈ attributes, '\x7b' ∉ entry.2.toList)
    (hdistinct : (attributes.map Prod.fst).Nodup) (s : RenderState) :
    (ownAttributes env attributes).outcome s =
      (.ok ⟨attributes.map fun entry => (entry.1, some entry.2)⟩, s) := by
  have hvalues : List.Forall₂
      (fun entry value => (interpolate env entry.2).outcome s = (.ok value, s)) attributes
        (attributes.map Prod.snd) := by
    refine List.forall₂_map_right_iff.2 (List.forall₂_same.2 fun entry hentry => ?_)
    exact outcome_interpolate (hbrace entry hentry) s
  have hzip : (attributes.map Prod.fst).zip (attributes.map Prod.snd) = attributes := by
    rw [List.zip_map', List.map_id']
  rw [outcome_ownAttributes_values hvalues hdistinct, hzip]

/-- Without attributes that children made, the own ones are written. -/
theorem renderedAttributes_own (attributes : List (String × String)) :
    renderedAttributes (OrderedMap.insertAll ⟨attributes.map fun entry => (entry.1, some entry.2)⟩
      OrderedMap.empty.entries) = writtenAttributes attributes := by
  show renderedAttributes ⟨_⟩ = _
  rw [renderedAttributes, writtenAttributes, List.map_map]
  rfl

/-! ## Inert elements -/

/-- The envelope of an inert element is written without looking at the state. -/
theorem outcome_envelope {head : Head} (h : head.isInert = true) (children : List Child)
    (parent : Option Nat) (body : String) (s : RenderState) :
    (envelope env (head.node children parent) body .empty).outcome s =
      (.ok (let attributes := writtenAttributes (head.node [] none).plainAttributes
        if head.selfClosing ∧ body = "" then s!"<{head.tag}{attributes}/>"
        else s!"<{head.tag}{attributes}>{body}</{head.tag}>"), s) := by
  have hdoctype : (noteDoctype (head.node children parent)).outcome s = (.ok (), s) := by
    rw [noteDoctype, directiveAttribute?_of_isInert h]
    rfl
  have hplain : ∀ entry ∈ (head.node children parent).plainAttributes, '\x7b' ∉ entry.2.toList :=
    fun entry hentry => notMem_of_isInert h (List.mem_filter.1 hentry).1
  have hdistinct : ((head.node children parent).plainAttributes.map Prod.fst).Nodup :=
    head.distinct.sublist (List.filter_sublist.map Prod.fst)
  rw [envelope, outcome_bind, hdoctype]
  dsimp only
  rw [outcome_bind, outcome_ownAttributes hplain hdistinct]
  dsimp only
  rw [directiveAttribute?_of_isInert h, evaluateTruth, outcome_bind, outcome_pure]
  simp only [Bool.false_eq_true, if_false]
  show outcome (if head.selfClosing = true ∧ body = "" then _ else _) s = _
  rw [renderedAttributes_own]
  split
  · rw [outcome_pure]
    simp [String.append_assoc]
    rfl
  · rw [outcome_pure]
    simp [String.append_assoc]
    rfl

/-- An inert element whose children render to a body is written around it. -/
theorem outcome_renderElement {self : NodeRenderer} {template : Template} {head : Head}
    (h : head.isInert = true) {children : List Child} (parent : Option Nat) {s : RenderState}
    {result : Except Error String}
    (hchildren : (renderChildren self template children).outcome
      { s with frames := .empty :: s.frames } = (result, { s with frames := .empty :: s.frames })) :
    (renderElement env self template (head.node children parent)).outcome s =
      (result.map head.written, s) := by
  have hbody : renderBody env self template (head.node children parent) =
      renderChildren self template children := by
    rw [renderBody, directiveAttribute?_of_isInert h]
    rfl
  rw [renderElement, hbody, outcome_bind, outcome_withFrame, hchildren]
  cases result with
  | error e => rfl
  | ok body =>
    dsimp only [Except.map, List.headD, List.tail]
    rw [Head.written]
    show outcome (if Text.beginsWith head.nsPrefix head.tag = true then _ else _) s = _
    split
    · rfl
    · rw [directiveAttribute?_of_isInert h, evaluateTruth, outcome_bind, outcome_pure]
      exact outcome_envelope h children parent body s

/-- Without attributes of the template language an element has no guards. -/
theorem renderPlain_of_isInert {self : NodeRenderer} {template : Template} {id : Nat} {head : Head}
    (h : head.isInert = true) (children : List Child) (parent : Option Nat) :
    renderPlain env self template id (head.node children parent) .normal =
      renderElement env self template (head.node children parent) := by
  unfold renderPlain renderGuarded
  simp only [directiveAttribute?_of_isInert h]
  rfl

/-- A rendering that succeeds with a value, or goes too deep, and leaves the state as it is. -/
def Settles {α : Type} (x : Rendering α) (s : RenderState) (a : α) (shallow : Prop) : Prop :=
  x.outcome s = (.ok a, s) ∨ shallow ∧ x.outcome s = (.error tooDeep, s)

theorem renderChildren_text (self : NodeRenderer) (template : Template) (content : String)
    (children : List Child) :
    renderChildren self template (.text content :: children) =
      (content ++ ·) <$> renderChildren self template children := by
  rw [renderChildren, map_eq_pure_bind]

/-- An inert element is rendered one level less deep than it stands. -/
theorem settles_renderNode {template : Template} {depth i k : Nat} {head : Head}
    {children : List Child} {parent : Option Nat} {body : String} {s : RenderState}
    (hnode : template.tree.nodes[i]? = some (head.node children parent)) (h : head.isInert = true)
    (hchildren : ∀ s, Settles (renderChildren (renderNode env depth) template children) s body
      (depth < k)) :
    Settles (renderNode env (depth + 1) template i .normal) s (head.written body) (depth < k) := by
  have hat : (nodeAt template i).outcome s = (.ok (head.node children parent), s) := by
    rw [nodeAt, Tree.node?, hnode]
    rfl
  have hdirective : (head.node children parent).directive = none := directive_of_isInert h
  have hwith : (renderNode env (depth + 1) template i .normal).outcome s =
      (((renderElement env (renderNode env depth) template (head.node children parent)).outcome
        s).1.mapError
        (Error.annotated template (head.node children parent)),
        ((renderElement env (renderNode env depth) template (head.node children parent)).outcome
          s).2) := by
    rw [renderNode, renderWith, outcome_bind, hat]
    dsimp only
    rw [outcome_adapt, hdirective, renderPlain_of_isInert h]
  rcases hchildren { s with frames := .empty :: s.frames } with hok | ⟨hshallow, hdeep⟩
  · left
    rw [hwith, outcome_renderElement h parent hok]
    rfl
  · refine .inr ⟨hshallow, ?_⟩
    rw [hwith, outcome_renderElement h parent hdeep]
    rfl

/-- **Inert children render to the text they come to**, unless they are nested more deeply than the
renderer goes. -/
theorem outcome_inert {template : Template} {k : Nat} {children : List Child} {text : String}
    (h : Inert template.tree.nodes k children text) (depth : Nat) (s : RenderState) :
    Settles (renderChildren (renderNode env depth) template children) s text (depth < k) := by
  induction h generalizing depth s with
  | nil => exact .inl rfl
  | text _ ih =>
    unfold Settles
    rw [renderChildren_text, outcome_map]
    rcases ih depth s with hok | ⟨hshallow, hdeep⟩
    · rw [hok]
      exact .inl rfl
    · rw [hdeep]
      exact .inr ⟨hshallow, rfl⟩
  -- what is inside is rendered one level less deep, what follows at the same level
  | @node k i head inside children parent body text hnode hinert _ _ ihin ihrest =>
    unfold Settles
    rw [renderChildren, outcome_bind]
    cases depth with
    | zero => exact .inr ⟨Nat.succ_pos k, rfl⟩
    | succ depth =>
      rcases settles_renderNode (s := s) hnode hinert (ihin depth) with hok | ⟨hshallow, hdeep⟩
      · rw [hok]
        dsimp only
        rw [outcome_bind]
        rcases ihrest (depth + 1) s with hok' | ⟨hshallow', hdeep'⟩
        · rw [hok']
          exact .inl rfl
        · rw [hdeep']
          exact .inr ⟨hshallow', rfl⟩
      · rw [hdeep]
        exact .inr ⟨Nat.succ_lt_succ hshallow, rfl⟩

end Rendering

end TagTemplate
