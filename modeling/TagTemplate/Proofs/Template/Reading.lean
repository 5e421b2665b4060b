import TagTemplate.Proofs.Template.Folding

/-!
# A template is built from the parts of its source

Reading a source is cutting it into events and building a template from the parts that they hand to
the builder, whether or not folding is on.

- `Located.parts?`: what one event hands to the builder;
- `Parts`: what events in order hand to it, each with its line;
- `readSource_eq_build`: **a source that is cut into events without a failure is read as the
  document of its parts**;
- `Template.tree_of_read`: the tree does not depend on the path.
-/

namespace TagTemplate

open Markup

/-- The parts of an event on a line, unless its attributes cannot be read. A tag that closes itself
opens an element and closes it at once. -/
def Markup.Located.parts? (e : Located) (line : Nat) : Option (List BuildEvent) :=
  match e.event with
  | .start tag => tag.attributes.toOption.map fun attributes =>
    [.opening (String.ofList tag.name) attributes line]
  | .empty tag => tag.attributes.toOption.map fun attributes =>
    [.opening (String.ofList tag.name) attributes line, .closing e.last line]
  | .stop => some [.closing e.last line]
  | .text content => some [.text (String.ofList content) line]
  | .literal content => some [.text (String.ofList content) line]
  | .reference name => some [.text (String.ofList ('&' :: name ++ [';'])) line]
  | .aside => some []

/-- What events in order hand to a builder. Lines are counted from the first cursor on, and up to
the second one. -/
inductive Parts : LineCursor → List Located → List BuildEvent → LineCursor → Prop
  | nil {lines : LineCursor} : Parts lines [] [] lines
  | cons {lines lines' : LineCursor} {e : Located} {es : List Located}
      {first others : List BuildEvent} :
      e.parts? (lines.lineAt e.first).1 = some first →
      Parts (lines.lineAt e.first).2 es others lines' →
      Parts lines (e :: es) (first ++ others) lines'

namespace Parts

variable {lines lines₁ lines₂ : LineCursor}

theorem append {es es' : List Located} {ps ps' : List BuildEvent} (h : Parts lines es ps lines₁)
    (h' : Parts lines₁ es' ps' lines₂) : Parts lines (es ++ es') (ps ++ ps') lines₂ := by
  induction h with
  | nil => exact h'
  | cons hfirst _ ih =>
    rw [List.append_assoc]
    exact .cons hfirst (ih h')

/-- One event alone. -/
theorem single {e : Located} {ps : List BuildEvent}
    (h : e.parts? (lines.lineAt e.first).1 = some ps) :
    Parts lines [e] ps (lines.lineAt e.first).2 := by
  have hcons := Parts.cons h .nil
  rw [List.append_nil] at hcons
  exact hcons

end Parts

namespace Builder

theorem takeAll_append (b : Builder) (ps qs : List BuildEvent) :
    b.takeAll (ps ++ qs) = (b.takeAll ps).bind (·.takeAll qs) := by
  induction ps generalizing b with
  | nil => rfl
  | cons p ps ih =>
    rw [List.cons_append, takeAll, takeAll]
    split
    · exact ih _
    · rfl

/-- One part is all that is taken in. -/
theorem takeAll_singleton (b : Builder) (p : BuildEvent) :
    b.takeAll [p] = (b.take p).1.map fun _ => (b.take p).2 := by
  rw [takeAll]
  generalize b.take p = step
  obtain ⟨_ | _, b'⟩ := step <;> rfl

theorem openTag_eq (b : Builder) {tag : Tag} {attributes : List (String × String)}
    (h : tag.attributes = .ok attributes) (line : Nat) :
    b.openTag tag line = b.takeAll [.opening (String.ofList tag.name) attributes line] := by
  rw [takeAll_singleton, openTag, h]
  rfl

theorem closeTag_eq (b : Builder) (offset line : Nat) :
    b.closeTag offset line = b.takeAll [.closing offset line] := by
  rw [takeAll_singleton]
  rfl

theorem addCharacters_eq (b : Builder) (content : List Char) (line : Nat) :
    b.addCharacters content line = b.takeAll [.text (String.ofList content) line] := by
  rw [takeAll_singleton]
  rfl

/-- Where something was made of attributes, they can be read. -/
theorem attributes_eq_ok {α : Type} {tag : Tag} {f : List (String × String) → α} {a : α}
    (h : tag.attributes.toOption.map f = some a) :
    ∃ attributes, tag.attributes = .ok attributes ∧ f attributes = a := by
  obtain ⟨attributes, hread, hf⟩ := Option.map_eq_some_iff.1 h
  exact ⟨attributes, eq_ok_of_toOption hread, hf⟩

/-- An event is taken in part by part. -/
theorem add_eq_takeAll (b : Builder) {e : Located} {line : Nat} {ps : List BuildEvent}
    (h : e.parts? line = some ps) : b.add e line = b.takeAll ps := by
  obtain ⟨event, first, last⟩ := e
  cases event with
  | start tag =>
    obtain ⟨attributes, hread, rfl⟩ := attributes_eq_ok h
    exact openTag_eq b hread line
  | empty tag =>
    obtain ⟨attributes, hread, rfl⟩ := attributes_eq_ok h
    show (b.openTag tag line).bind (fun b => b.closeTag last line) = _
    simp only [openTag_eq b hread, closeTag_eq]
    exact (takeAll_append b [_] [_]).symm
  | stop =>
    cases h
    exact closeTag_eq b last line
  | text content =>
    cases h
    exact addCharacters_eq b content line
  | literal content =>
    cases h
    exact addCharacters_eq b content line
  | reference name =>
    cases h
    exact addCharacters_eq b _ line
  | aside =>
    cases h
    rfl

/-- Events in order are taken in part by part. -/
theorem addAll_eq_takeAll (b : Builder) {lines lines' : LineCursor} {es : List Located}
    {ps : List BuildEvent} (h : Parts lines es ps lines') :
    b.addAll lines es = (b.takeAll ps).map fun b => (b, lines') := by
  induction h generalizing b with
  | nil => rfl
  | cons hfirst _ ih =>
    rw [addAll, takeAll_append]
    dsimp only
    rw [add_eq_takeAll b hfirst]
    cases b.takeAll _ with
    | error e => rfl
    | ok b => exact ih b

end Builder

/-- **A source that is cut into events without a failure is read as the document of its parts.** -/
theorem readSource_eq_build {source : List Char} {es : List Located} {ps : List BuildEvent}
    {lines : LineCursor} (hevents : Markup.events source = (es, none))
    (hparts : Parts (.start source) es ps lines) (sourcePath : String) (fold : Bool) :
    Template.readSource source sourcePath fold =
      Template.build source fold ps sourcePath (lines.lineAt (Text.byteLength source)).1 := by
  rw [Template.readSource, hevents, Template.build]
  dsimp only
  rw [Builder.addAll_eq_takeAll _ hparts]
  cases (Builder.start source fold).takeAll ps <;> rfl

/-! ## The path of a source -/

theorem finish_eq (b : Builder) (sourcePath : String) (line : Nat) :
    b.finish sourcePath line = (b.finish "" line).map fun t => { t with sourcePath } := by
  unfold Builder.finish
  split
  · rfl
  · split <;> rfl

/-- The path of a source is only kept. -/
theorem readSource_eq (source : List Char) (sourcePath : String) (fold : Bool) :
    Template.readSource source sourcePath fold =
      (Template.readSource source "" fold).map fun t => { t with sourcePath } := by
  unfold Template.readSource
  cases Markup.events source with
  | mk events failure =>
    dsimp only
    cases (Builder.start source fold).addAll (.start source) events with
    | error e => rfl
    | ok built =>
      cases failure with
      | some failure => rfl
      | none => exact finish_eq built.1 sourcePath _

/-- A source has the same tree at every path. -/
theorem Template.tree_of_read {source path path' : String} {fold : Bool} {t t' : Template}
    (h : Template.read source path fold = .ok t) (h' : Template.read source path' fold = .ok t') :
    t.tree = t'.tree := by
  replace h : Template.readSource source.toList path fold = .ok t := mapError_eq_ok h
  replace h' : Template.readSource source.toList path' fold = .ok t' := mapError_eq_ok h'
  rw [readSource_eq] at h h'
  obtain ⟨u, hu, rfl⟩ := map_eq_ok h
  obtain ⟨u', hu', rfl⟩ := map_eq_ok h'
  cases hu.symm.trans hu'
  rfl

end TagTemplate
