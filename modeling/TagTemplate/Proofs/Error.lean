import TagTemplate.Error

/-!
# Kinds of errors

- `Error.IsPlain`: errors that name no element;
- `Error.OfDocument`, `Error.OfLoading`: errors about a template that is read, and about its file;
- `Error.OfElement`: errors as they leave an element.
-/

namespace TagTemplate.Error

/-- The error names no element: it is not annotated. -/
def IsPlain : Error → Prop
  | .rendering .. => False
  | _ => True

/-- An error about what stands in a document. -/
def OfDocument : Error → Prop
  | .malformed .. => True
  | .requiredAttribute .. => True
  | _ => False

/-- An error about a document or the file that it stands in. -/
def OfLoading : Error → Prop
  | .io => True
  | .fileNotFound _ => True
  | e => e.OfDocument

/-- An error as it leaves an element: it is annotated, or a fault. -/
def OfElement : Error → Prop
  | .rendering .. => True
  | .fault _ => True
  | _ => False

variable {e : Error}

theorem OfDocument.ofLoading (h : e.OfDocument) : e.OfLoading := by
  cases e with
  | malformed | requiredAttribute => trivial
  | _ => exact h.elim

theorem OfLoading.isPlain (h : e.OfLoading) : e.IsPlain := by
  cases e with
  | rendering => exact h.elim
  | _ => trivial

end TagTemplate.Error
