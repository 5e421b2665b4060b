import TagTemplate.Proofs.Except
import TagTemplate.Proofs.Template.Outline
import TagTemplate.Template.Read

/-!
# Building with and without folding

- `Outline.fold`: the outline with everything folded that is closed;
- `Twins`: a builder that folds beside one that does not, with the same outline but for folding;
- `twins_openElement`, `twins_closeElement`, `twins_addText`: operations have the same results on
  twins and leave twins behind;
- `Template.FoldsTo`: what twins end with;
- `agree_readSource`: a source read with folding and without it;
- `Template.hasDistinctAttributes_of_read`: what is read has no attribute twice;
- `Template.build`, `agree_foldsTo`: a document built from its tags and texts, in both ways.
-/

namespace TagTemplate

/-- The element with everything in it folded. -/
def OpenElement.fold (f : OpenElement) : OpenElement := { f with done := f.done.fold }

namespace Outline

/-- The outline with everything folded that is closed. -/
def fold : Outline → Outline
  | empty => empty
  | opened frame outer => opened frame.fold (outer.map OpenElement.fold)
  | closed root => closed root.fold

theorem innermost?_fold (z : Outline) : z.fold.innermost? = z.innermost? := by cases z <;> rfl

theorem isClosed_fold (z : Outline) : z.fold.isClosed = z.isClosed := by cases z <;> rfl

theorem fold_openWith (z : Outline) (head : Head) :
    (z.openWith head).fold = z.fold.openWith head := by
  cases z <;> rfl

theorem fold_addText (z : Outline) (content : String) :
    (z.addText content).fold = z.fold.addText content := by
  cases z with
  | empty => rfl
  | closed => rfl
  | opened frame outer =>
    show opened ⟨_, (frame.done.appendText content).fold⟩ _ = _
    rw [Forest.fold_appendText]
    rfl

/-- Folding when elements close comes to the same as folding afterwards. -/
theorem fold_close (z : Outline) (slash : Bool) :
    (z.close false slash).fold = z.fold.close true slash := by
  cases z with
  | empty => rfl
  | closed => rfl
  | opened frame outer =>
    have hended : frame.fold.ended slash = frame.ended slash := by
      unfold OpenElement.ended
      rw [OpenElement.fold, Forest.isNil_fold]
    cases outer with
    | nil =>
      show closed (Forest.fold _) =
        closed (Forest.put .nil true (frame.fold.ended slash) frame.done.fold)
      rw [hended]
      exact congrArg closed (Forest.fold_snoc .nil _ _)
    | cons outer others =>
      show opened ⟨_, Forest.fold _⟩ _ =
        opened ⟨_, Forest.put outer.done.fold true (frame.fold.ended slash) frame.done.fold⟩ _
      rw [hended]
      exact congrArg (fun done => opened ⟨outer.head, done⟩ (others.map OpenElement.fold))
        (Forest.fold_snoc outer.done _ _)

end Outline

namespace Builder

/-- A builder that folds beside one that does not. -/
structure Twins (b₁ b₂ : Builder) (z : Outline) : Prop where
  source : b₁.source = b₂.source
  nsPrefix? : b₁.nsPrefix? = b₂.nsPrefix?
  transSource : b₁.transSource = b₂.transSource
  pending : b₁.pending = b₂.pending
  folds : b₁.fold = true
  keeps : b₂.fold = false
  draws_folded : b₁.Draws z.fold
  draws : b₂.Draws z

/-- Both results are the same, and the builders behind them are twins. -/
def SameStep (r₁ r₂ : Except Error Unit × Builder) : Prop := r₁.1 = r₂.1 ∧ ∃ z, Twins r₁.2 r₂.2 z

theorem twins_start (source : List Char) : Twins (start source true) (start source false) .empty :=
  ⟨rfl, rfl, rfl, rfl, rfl, rfl, draws_start _ _, draws_start _ _⟩

variable {b₁ b₂ : Builder} {z : Outline}

namespace Twins

theorem error_eq (h : Twins b₁ b₂ z) (problem : String) (line : Nat) :
    b₁.error problem line = b₂.error problem line :=
  Builder.error_eq h.draws h.draws_folded z.innermost?_fold problem line

theorem nsPrefix_eq (h : Twins b₁ b₂ z) : b₁.nsPrefix = b₂.nsPrefix := by
  rw [nsPrefix, nsPrefix, h.nsPrefix?]

theorem opened_isEmpty (h : Twins b₁ b₂ z) : b₁.opened.isEmpty = b₂.opened.isEmpty := by
  rw [opened_isEmpty_of_draws h.draws_folded, opened_isEmpty_of_draws h.draws, z.innermost?_fold]

theorem root_isSome (h : Twins b₁ b₂ z) (hopened : b₂.opened = []) :
    b₁.root.isSome = b₂.root.isSome := by
  have hopened₁ : b₁.opened = [] := by
    rw [← List.isEmpty_iff, h.opened_isEmpty, hopened]
    rfl
  rw [root_isSome_of_draws h.draws_folded hopened₁, root_isSome_of_draws h.draws hopened,
    z.isClosed_fold]

end Twins

/-! ## Opening tags -/

theorem twins_capture (h : Twins b₁ b₂ z) (attributes : OrderedMap String) :
    (b₁.capture attributes).2 = (b₂.capture attributes).2 ∧
      Twins (b₁.capture attributes).1 (b₂.capture attributes).1 z := by
  obtain ⟨hsource, -, -, hpending, hfolds, hkeeps, hdraws₁, hdraws₂⟩ := h
  refine ⟨rfl, hsource, rfl, rfl, hpending, hfolds, hkeeps, ?_, ?_⟩
  · cases z <;> exact hdraws₁
  · cases z <;> exact hdraws₂

theorem twins_addNode (h : Twins b₁ b₂ z) (hclosed : z.isClosed = false) {tag : String}
    {attributes : OrderedMap String} (distinct : attributes.Distinct) (line : Nat)
    (directive : Option Directive) :
    ∃ z', Twins (b₁.addNode tag attributes line directive)
      (b₂.addNode tag attributes line directive) z' := by
  refine ⟨z.openWith (b₂.headOf tag attributes line directive distinct), h.source, h.nsPrefix?,
    h.transSource, rfl, h.folds, h.keeps, ?_, draws_addNode h.draws hclosed distinct line directive⟩
  have hhead : b₂.headOf tag attributes line directive distinct =
      b₁.headOf tag attributes line directive distinct := by
    unfold headOf
    rw [h.nsPrefix_eq, h.pending]
  rw [Outline.fold_openWith, hhead]
  exact draws_addNode h.draws_folded (by rw [z.isClosed_fold]; exact hclosed) distinct line
    directive

/-- Whether an attribute is missing does not depend on which twin is asked. -/
theorem twins_addDirective (h : Twins b₁ b₂ z) (hclosed : z.isClosed = false) (tag : String)
    {attributes : OrderedMap String} (distinct : attributes.Distinct) (line : Nat) :
    SameStep
      (match missing? (Directive.ofTag? b₁.nsPrefix tag) attributes with
        | some name => (.error (.requiredAttribute tag name line ""), b₁)
        | none => (.ok (), b₁.addNode tag attributes line (Directive.ofTag? b₁.nsPrefix tag)))
      (match missing? (Directive.ofTag? b₂.nsPrefix tag) attributes with
        | some name => (.error (.requiredAttribute tag name line ""), b₂)
        | none => (.ok (), b₂.addNode tag attributes line (Directive.ofTag? b₂.nsPrefix tag))) := by
  rw [h.nsPrefix_eq]
  split
  · exact ⟨rfl, z, h⟩
  · exact ⟨rfl, twins_addNode h hclosed distinct line _⟩

/-- Opening tags have the same effect on twins, or the same error. -/
theorem twins_openElement (h : Twins b₁ b₂ z) (tag : String) {attributes : OrderedMap String}
    (distinct : attributes.Distinct) (line : Nat) :
    SameStep (b₁.openElement tag attributes line) (b₂.openElement tag attributes line) := by
  have hroot : b₁.opened.isEmpty = true ∧ b₁.root.isSome = true ↔
      b₂.opened.isEmpty = true ∧ b₂.root.isSome = true := by
    rw [h.opened_isEmpty]
    refine and_congr_right fun hempty => ?_
    rw [h.root_isSome (List.isEmpty_iff.1 hempty)]
  unfold openElement
  by_cases hsecond : b₂.opened.isEmpty = true ∧ b₂.root.isSome = true
  · rw [if_pos hsecond, if_pos (hroot.2 hsecond)]
    exact ⟨congrArg Except.error (h.error_eq _ _), z, h⟩
  · rw [if_neg hsecond, if_neg fun hboth => hsecond (hroot.1 hboth)]
    have hclosed := isClosed_of_draws h.draws hsecond
    -- whether the namespace is known or taken from this tag, twins go on as twins
    rw [h.nsPrefix?]
    cases hknown : b₂.nsPrefix?.isNone with
    | true =>
      have hcapture := twins_capture h attributes
      have hdistinct := distinct_capture b₂ distinct
      have hstep := twins_addDirective hcapture.2 hclosed tag hdistinct line
      simp only [if_true]
      rw [← hcapture.1] at hstep ⊢
      exact hstep
    | false => exact twins_addDirective h hclosed tag distinct line

/-! ## Closing tags and text -/

/-- What a closing tag leaves alone. -/
theorem closeElement_same (b : Builder) (offset line : Nat) :
    (b.closeElement offset line).2.source = b.source ∧
    (b.closeElement offset line).2.nsPrefix? = b.nsPrefix? ∧
    (b.closeElement offset line).2.transSource = b.transSource ∧
    (b.closeElement offset line).2.pending = b.pending ∧
    (b.closeElement offset line).2.fold = b.fold := by
  unfold closeElement foldNode
  split
  · exact ⟨rfl, rfl, rfl, rfl, rfl⟩
  · split
    · exact ⟨rfl, rfl, rfl, rfl, rfl⟩
    · dsimp only
      split
      · split <;> exact ⟨rfl, rfl, rfl, rfl, rfl⟩
      · exact ⟨rfl, rfl, rfl, rfl, rfl⟩

/-- Without open elements a closing tag is an error. -/
theorem closeElement_nil {b : Builder} (h : b.opened = []) (offset line : Nat) :
    b.closeElement offset line =
      (.error (b.error "closing tag without a matching opening tag" line), b) := by
  rw [closeElement, h]

/-- Closing tags have the same effect on twins, or the same error. -/
theorem twins_closeElement (h : Twins b₁ b₂ z) (offset line : Nat) :
    SameStep (b₁.closeElement offset line) (b₂.closeElement offset line) := by
  -- neither has an element open, and both refuse with one error
  have hnone : b₂.opened = [] →
      SameStep (b₁.closeElement offset line) (b₂.closeElement offset line) := by
    intro hopened
    have hopened₁ : b₁.opened = [] := by
      rw [← List.isEmpty_iff, h.opened_isEmpty, hopened]
      rfl
    rw [closeElement_nil hopened, closeElement_nil hopened₁]
    exact ⟨congrArg Except.error (h.error_eq _ _), z, h⟩
  cases hz : z with
  | empty =>
    subst hz
    exact hnone h.draws.1
  | closed root =>
    subst hz
    exact hnone h.draws.1
  | opened frame outer =>
    subst hz
    obtain ⟨hok₁, hdraws₁⟩ := draws_closeElement h.draws_folded offset line
    obtain ⟨hok₂, hdraws₂⟩ := draws_closeElement h.draws offset line
    obtain ⟨hs₁, hn₁, ht₁, hp₁, hf₁⟩ := closeElement_same b₁ offset line
    obtain ⟨hs₂, hn₂, ht₂, hp₂, hf₂⟩ := closeElement_same b₂ offset line
    refine ⟨hok₁.trans hok₂.symm, _, hs₁.trans (h.source.trans hs₂.symm),
      hn₁.trans (h.nsPrefix?.trans hn₂.symm), ht₁.trans (h.transSource.trans ht₂.symm),
      hp₁.trans (h.pending.trans hp₂.symm), hf₁.trans h.folds, hf₂.trans h.keeps, ?_, hdraws₂⟩
    rw [h.keeps, Outline.fold_close]
    rw [h.folds, h.source] at hdraws₁
    exact hdraws₁

/-- Text has the same effect on twins, or the same error. -/
theorem twins_addText (h : Twins b₁ b₂ z) (content : String) (line : Nat) :
    SameStep (b₁.addText content line) (b₂.addText content line) := by
  have hempty := h.opened_isEmpty
  cases hopened₂ : b₂.opened with
  | nil =>
    have hopened₁ : b₁.opened = [] := by
      rw [← List.isEmpty_iff, hempty, hopened₂]
      rfl
    rw [addText, addText, hopened₁, hopened₂]
    dsimp only
    split
    · exact ⟨rfl, z, h⟩
    · exact ⟨congrArg Except.error (h.error_eq _ _), z, h⟩
  | cons i₂ ids₂ =>
    cases hz : z with
    | empty =>
      subst hz
      exact absurd (hopened₂.symm.trans h.draws.1) (List.cons_ne_nil _ _)
    | closed root =>
      subst hz
      exact absurd (hopened₂.symm.trans h.draws.1) (List.cons_ne_nil _ _)
    | opened frame outer =>
      subst hz
      obtain ⟨hok₁, hdraws₁⟩ := draws_addText h.draws_folded content line
      obtain ⟨hok₂, hdraws₂⟩ := draws_addText h.draws content line
      refine ⟨hok₁.trans hok₂.symm, (Outline.opened frame outer).addText content, ?_⟩
      cases hopened₁ : b₁.opened with
      | nil =>
        rw [hopened₁, hopened₂] at hempty
        cases hempty
      | cons i₁ ids₁ =>
        rw [addText, hopened₁] at hdraws₁ ⊢
        rw [addText, hopened₂] at hdraws₂ ⊢
        refine ⟨h.source, h.nsPrefix?, h.transSource, ?_, h.folds, h.keeps, ?_, hdraws₂⟩
        · show b₁.pending ++ content = b₂.pending ++ content
          rw [h.pending]
        · rw [Outline.fold_addText]
          exact hdraws₁

end Builder

/-! ## Whole templates -/

/-- The second template is the first one folded. -/
structure Template.FoldsTo (plain folded : Template) : Prop where
  sourcePath : plain.sourcePath = folded.sourcePath
  nsPrefix : plain.nsPrefix = folded.nsPrefix
  transSource : plain.transSource = folded.transSource
  trees : ∃ forest c₁ c₂, plain.tree.root = some c₁ ∧ folded.tree.root = some c₂ ∧
    Reads plain.tree.nodes none 0 [c₁] forest plain.tree.nodes.length ∧
    Reads folded.tree.nodes none 0 [c₂] forest.fold folded.tree.nodes.length

namespace Builder

variable {b₁ b₂ : Builder} {z : Outline}

/-- Some outline makes the builders twins. -/
def AreTwins (b₁ b₂ : Builder) : Prop := ∃ z, Twins b₁ b₂ z

theorem SameStep.agree {r₁ r₂ : Except Error Unit × Builder} (h : SameStep r₁ r₂) :
    Agree AreTwins (r₁.1.map fun _ => r₁.2) (r₂.1.map fun _ => r₂.2) := by
  obtain ⟨hresult, htwins⟩ := h
  rw [hresult]
  cases r₂.1 with
  | error e => exact .error e
  | ok => exact .ok htwins

theorem agree_openTag (h : AreTwins b₁ b₂) (tag : Markup.Tag) (line : Nat) :
    Agree AreTwins (b₁.openTag tag line) (b₂.openTag tag line) := by
  obtain ⟨z, hz⟩ := h
  unfold openTag
  cases tag.attributes with
  | error fault =>
    dsimp only
    rw [hz.error_eq]
    exact .error _
  | ok attributes =>
    exact (twins_openElement hz _ (OrderedMap.distinct_ofList attributes) line).agree

theorem agree_closeTag (h : AreTwins b₁ b₂) (offset line : Nat) :
    Agree AreTwins (b₁.closeTag offset line) (b₂.closeTag offset line) := by
  obtain ⟨z, hz⟩ := h
  exact (twins_closeElement hz offset line).agree

theorem agree_addCharacters (h : AreTwins b₁ b₂) (content : List Char) (line : Nat) :
    Agree AreTwins (b₁.addCharacters content line) (b₂.addCharacters content line) := by
  obtain ⟨z, hz⟩ := h
  exact (twins_addText hz (String.ofList content) line).agree

theorem agree_add (h : AreTwins b₁ b₂) (e : Markup.Located) (line : Nat) :
    Agree AreTwins (b₁.add e line) (b₂.add e line) := by
  unfold add
  cases e.event with
  | start tag => exact agree_openTag h tag line
  | empty tag => exact (agree_openTag h tag line).bind fun _ _ hb => agree_closeTag hb e.last line
  | stop => exact agree_closeTag h e.last line
  | text content => exact agree_addCharacters h content line
  | literal content => exact agree_addCharacters h content line
  | reference name => exact agree_addCharacters h _ line
  | aside => exact .ok h

/-- Events in a row have the same effect on twins, or the same first error. -/
theorem agree_addAll (h : AreTwins b₁ b₂) (lines : LineCursor) (events : List Markup.Located) :
    Agree (fun p q => AreTwins p.1 q.1 ∧ p.2 = q.2) (b₁.addAll lines events)
      (b₂.addAll lines events) := by
  induction events generalizing b₁ b₂ lines with
  | nil => exact .ok ⟨h, rfl⟩
  | cons e es ih =>
    rw [addAll, addAll]
    exact (agree_add h e _).bind fun _ _ hb => ih hb _

theorem agree_finish (h : AreTwins b₁ b₂) (sourcePath : String) (line : Nat) :
    Agree (fun folded plain => plain.FoldsTo folded) (b₁.finish sourcePath line)
      (b₂.finish sourcePath line) := by
  obtain ⟨z, hz⟩ := h
  unfold finish
  rw [hz.opened_isEmpty]
  cases hopened : b₂.opened with
  | cons =>
    rw [hz.error_eq]
    exact .error _
  | nil =>
    have hroot := hz.root_isSome hopened
    cases z with
    | empty =>
      rw [hz.draws.2.2, hz.draws_folded.2.2, hz.error_eq, hz.error_eq]
      exact .error _
    | opened frame outer =>
      have hempty := opened_isEmpty_of_draws hz.draws
      rw [hopened] at hempty
      cases hempty
    | closed root =>
      obtain ⟨-, c₁, hroot₁, hreads₁⟩ := hz.draws_folded
      obtain ⟨-, c₂, hroot₂, hreads₂⟩ := hz.draws
      rw [hroot₁, hroot₂]
      exact .ok ⟨rfl, hz.nsPrefix_eq.symm, hz.transSource.symm,
        root, c₂, c₁, rfl, rfl, hreads₂, hreads₁⟩

end Builder

/-- **A source read with folding and without it**: the same error, or a template and the folded
one. -/
theorem agree_readSource (source : List Char) (sourcePath : String) :
    Agree (fun folded plain => Template.FoldsTo plain folded)
      (Template.readSource source sourcePath true)
      (Template.readSource source sourcePath false) := by
  unfold Template.readSource
  cases Markup.events source with
  | mk events failure =>
    refine (Builder.agree_addAll ⟨_, Builder.twins_start source⟩ (.start source) events).bind ?_
    rintro ⟨b₁, lines⟩ ⟨b₂, -⟩ ⟨htwins, rfl⟩
    cases failure with
    | some failure =>
      obtain ⟨z, hz⟩ := htwins
      dsimp only
      rw [hz.error_eq]
      exact .error _
    | none => exact Builder.agree_finish htwins sourcePath _

/-- No element has two attributes of one name. -/
def Tree.HasDistinctAttributes (t : Tree) : Prop := ∀ n ∈ t.nodes, n.attributes.Distinct

theorem Reads.hasDistinctAttributes {t : Tree} {parent : Option Nat} {children : List Child}
    {forest : Forest} (h : Reads t.nodes parent 0 children forest t.nodes.length) :
    t.HasDistinctAttributes := by
  intro n hn
  obtain ⟨i, hi, rfl⟩ := List.mem_iff_getElem.1 hn
  obtain ⟨head, inside, outer, hnode⟩ := h.exists_head (Nat.zero_le i) hi
  rw [List.getElem?_eq_getElem hi] at hnode
  rw [Option.some.inj hnode]
  exact head.distinct

/-- A template that was read has no element with two attributes of one name. -/
theorem Template.hasDistinctAttributes_of_read {source sourcePath : String} {fold : Bool}
    {t : Template} (h : Template.read source sourcePath fold = .ok t) :
    t.tree.HasDistinctAttributes := by
  have hread : Template.readSource source.toList sourcePath fold = .ok t := mapError_eq_ok h
  -- with folding or without it, the list of elements holds a forest
  have hforest : ∀ {x y : Except Error Template},
      Agree (fun folded plain => Template.FoldsTo plain folded) x y →
        x = .ok t ∨ y = .ok t → t.tree.HasDistinctAttributes := by
    rintro x y (e | hfolds) hor
    · rcases hor with heq | heq <;> cases heq
    · obtain ⟨forest, c₁, c₂, -, -, hplain, hfolded⟩ := hfolds.trees
      rcases hor with heq | heq
      · cases heq
        exact hfolded.hasDistinctAttributes
      · cases heq
        exact hplain.hasDistinctAttributes
  cases fold with
  | true => exact hforest (agree_readSource source.toList sourcePath) (.inl hread)
  | false => exact hforest (agree_readSource source.toList sourcePath) (.inr hread)

/-! ## Documents from their parts -/

/-- What a parser hands to a builder, each with its line. -/
inductive BuildEvent where
  | opening (tag : String) (attributes : List (String × String)) (line : Nat)
  /-- `offset` is the byte after the closing tag. -/
  | closing (offset line : Nat)
  | text (content : String) (line : Nat)

/-- Takes in one part of a document. -/
def Builder.take (b : Builder) : BuildEvent → Except Error Unit × Builder
  | .opening tag attributes line => b.openElement tag (.ofList attributes) line
  | .closing offset line => b.closeElement offset line
  | .text content line => b.addText content line

/-- Takes in the parts of a document up to the first error. -/
def Builder.takeAll : Builder → List BuildEvent → Except Error Builder
  | b, [] => .ok b
  | b, e :: es =>
    match b.take e with
    | (.ok _, b) => b.takeAll es
    | (.error e, _) => .error e

/-- The template of a document. -/
def Template.build (source : List Char) (fold : Bool) (events : List BuildEvent)
    (sourcePath : String) (line : Nat) : Except Error Template :=
  ((Builder.start source fold).takeAll events).bind (·.finish sourcePath line)

namespace Builder

variable {b₁ b₂ : Builder}

theorem sameStep_take {z : Outline} (h : Twins b₁ b₂ z) (e : BuildEvent) :
    SameStep (b₁.take e) (b₂.take e) := by
  cases e with
  | opening tag attributes line => exact twins_openElement h tag (OrderedMap.distinct_ofList _) line
  | closing offset line => exact twins_closeElement h offset line
  | text content line => exact twins_addText h content line

theorem agree_takeAll {z : Outline} (h : Twins b₁ b₂ z) (events : List BuildEvent) :
    Agree AreTwins (b₁.takeAll events) (b₂.takeAll events) := by
  induction events generalizing b₁ b₂ z with
  | nil => exact .ok ⟨z, h⟩
  | cons e es ih =>
    obtain ⟨hresult, z', hz'⟩ := sameStep_take h e
    rw [takeAll, takeAll]
    generalize b₁.take e = p at hresult hz'
    generalize b₂.take e = q at hresult hz'
    obtain ⟨r, c₁⟩ := p
    obtain ⟨_, c₂⟩ := q
    obtain rfl : r = _ := hresult
    cases r with
    | error e => exact .error e
    | ok => exact ih hz'

end Builder

/-- A document built with folding and without it: the same error, or a template and the folded
one. -/
theorem agree_foldsTo (source : List Char) (events : List BuildEvent) (sourcePath : String)
    (line : Nat) :
    Agree (fun folded plain => Template.FoldsTo plain folded)
      (Template.build source true events sourcePath line)
      (Template.build source false events sourcePath line) :=
  (Builder.agree_takeAll (Builder.twins_start source) events).bind
    fun _ _ htwins => Builder.agree_finish htwins sourcePath line

end TagTemplate
