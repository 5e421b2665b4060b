import TagTemplate.Cache.Basic
import TagTemplate.Proofs.Error
import TagTemplate.Proofs.Except

/-!
# What stops the loading of a template

Loading is stopped by errors about the document or its file, and by no others.

- `Builder.failsAs_add`: what an event can stop a builder with;
- `Template.failsAs_read`, `failsAs_loadTemplate`: **the errors of reading and loading**.
-/

namespace TagTemplate

namespace Builder

theorem ofDocument_error (b : Builder) (problem : String) (line : Nat) :
    (b.error problem line).OfDocument := by
  unfold error
  split <;> trivial

theorem failsAs_openElement (b : Builder) (tag : String) (attributes : OrderedMap String)
    (line : Nat) : FailsAs Error.OfDocument (b.openElement tag attributes line).1 := by
  unfold openElement
  split
  · exact .error (ofDocument_error _ _ _)
  · dsimp only
    split
    · exact .error trivial
    · exact .ok _

theorem failsAs_closeElement (b : Builder) (offset line : Nat) :
    FailsAs Error.OfDocument (b.closeElement offset line).1 := by
  unfold closeElement
  split
  · exact .error (ofDocument_error _ _ _)
  · split
    · exact .ok _
    · exact .ok _

theorem failsAs_addText (b : Builder) (content : String) (line : Nat) :
    FailsAs Error.OfDocument (b.addText content line).1 := by
  unfold addText
  split
  · split
    · exact .ok _
    · exact .error (ofDocument_error _ _ _)
  · exact .ok _

theorem failsAs_openTag (b : Builder) (tag : Markup.Tag) (line : Nat) :
    FailsAs Error.OfDocument (b.openTag tag line) := by
  unfold openTag
  split
  · exact .error (ofDocument_error _ _ _)
  · exact (failsAs_openElement _ _ _ _).map _

theorem failsAs_closeTag (b : Builder) (offset line : Nat) :
    FailsAs Error.OfDocument (b.closeTag offset line) :=
  (b.failsAs_closeElement offset line).map _

theorem failsAs_addCharacters (b : Builder) (content : List Char) (line : Nat) :
    FailsAs Error.OfDocument (b.addCharacters content line) :=
  (b.failsAs_addText (String.ofList content) line).map _

theorem failsAs_add (b : Builder) (e : Markup.Located) (line : Nat) :
    FailsAs Error.OfDocument (b.add e line) := by
  unfold add
  split
  · exact b.failsAs_openTag _ line
  · exact (b.failsAs_openTag _ line).bind fun opened => opened.failsAs_closeTag _ line
  · exact b.failsAs_closeTag _ line
  · exact b.failsAs_addCharacters _ line
  · exact b.failsAs_addCharacters _ line
  · exact b.failsAs_addCharacters _ line
  · exact .ok _

theorem failsAs_addAll (b : Builder) (lines : LineCursor) (es : List Markup.Located) :
    FailsAs Error.OfDocument (b.addAll lines es) := by
  induction es generalizing b lines with
  | nil => exact .ok _
  | cons e es ih => exact (b.failsAs_add e _).bind fun added => ih added _

theorem failsAs_finish (b : Builder) (sourcePath : String) (line : Nat) :
    FailsAs Error.OfDocument (b.finish sourcePath line) := by
  exact .ite (.error (ofDocument_error _ _ _)) (.ite (.error (ofDocument_error _ _ _)) (.ok _))

end Builder

/-- A file is named in an error about a document. -/
theorem Error.OfDocument.withFile {e : Error} (h : e.OfDocument) (file : String) :
    (e.withFile file).OfDocument := by
  unfold Error.withFile
  split
  · trivial
  · trivial
  · exact h

theorem Template.failsAs_read (source sourcePath : String) (fold : Bool) :
    FailsAs Error.OfDocument (Template.read source sourcePath fold) := by
  refine FailsAs.mapError ?_ fun e (he : e.OfDocument) => he.withFile sourcePath
  refine (Builder.failsAs_addAll _ _ _).bind fun ⟨b, lines⟩ => ?_
  dsimp only
  split
  · exact .error (b.ofDocument_error _ _)
  · exact b.failsAs_finish sourcePath _

theorem FileStore.failsAs_readNamed (files : FileStore) (path : String) :
    FailsAs Error.OfLoading (files.readNamed path) := by
  unfold FileStore.readNamed
  split
  · exact .ok _
  · exact .error trivial
  · exact .error trivial

/-- **Loading fails for what stands in a document or because of its file**, and for nothing else. -/
theorem failsAs_loadTemplate (cache : Option Cache) (files : FileStore) (path : String)
    (fold : Bool) : FailsAs Error.OfLoading (loadTemplate cache files path fold).1 := by
  have hread : FailsAs Error.OfLoading (readTemplate files path fold) :=
    (files.failsAs_readNamed path).bind fun text =>
      (Template.failsAs_read text path fold).imp fun _ => Error.OfDocument.ofLoading
  unfold loadTemplate
  split
  · exact .ok _
  · split
    · rename_i e he
      exact .error (hread e he)
    · exact .ok _

end TagTemplate
