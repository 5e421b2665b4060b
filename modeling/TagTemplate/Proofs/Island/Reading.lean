import TagTemplate.Island.Read
import TagTemplate.Proofs.Markup.Fragment

/-!
# An island is read piece by piece

Reading a fragment is taking its texts, references and elements in, one after the other. How the
cutter lumps texts together does not matter, since texts side by side become one node anyway.

- `Progress.add?`, `Progress.addAll?`: events taken in, leaving out what an error says;
- `Progress.run?`: a run of text, which may be cut anywhere (`run?_append`);
- `Progress.takes?`: a fragment taken in by recursion on it;
- `toOption_read`: **a well-formed fragment is read as what its pieces make**.
-/

namespace TagTemplate.Island

open Markup Text

namespace Progress

/-! ## Events without their errors -/

/-- One event taken in, unless it is an error. -/
def add? (p : Progress) (e : Event) : Option Progress := (p.add e).toOption

/-- Events taken in one after the other, unless one is an error. -/
def addAll? (p : Progress) (es : List Located) : Option Progress :=
  es.foldlM (fun p e => p.add? e.event) p

/-- The document once everything is in, unless an element is open or there is none. -/
def finish? (p : Progress) : Option Document :=
  match p.opened with
  | [] => p.root
  | _ :: _ => none

theorem toOption_addAll (source : List Char) (p : Progress) (es : List Located) :
    (addAll source p es).toOption = p.addAll? es := by
  induction es generalizing p with
  | nil => rfl
  | cons e es ih =>
    rw [addAll, addAll?, List.foldlM_cons, add?]
    cases p.add e.event with
    | error problem => rfl
    | ok p => exact ih p

theorem toOption_finish (source : List Char) (p : Progress) :
    (p.finish source).toOption = p.finish? := by
  obtain ⟨_ | ⟨frame, opened⟩, _ | root⟩ := p <;> rfl

@[simp] theorem addAll?_nil (p : Progress) : p.addAll? [] = some p := rfl

theorem addAll?_append (p : Progress) (es es' : List Located) :
    p.addAll? (es ++ es') = (p.addAll? es).bind (·.addAll? es') :=
  List.foldlM_append

theorem addAll?_singleton (p : Progress) (e : Located) : p.addAll? [e] = p.add? e.event := by
  rw [addAll?, List.foldlM_cons]
  exact Option.bind_fun_some _

/-! ## Runs of text -/

/-- A run of text taken in; no text is no event. -/
def run? (p : Progress) (cs : List Char) : Option Progress :=
  if cs = [] then some p else p.add? (.text cs)

@[simp] theorem run?_nil (p : Progress) : p.run? [] = some p := rfl

/-- In an element a run of text goes to its children. -/
theorem run?_of_ne {cs : List Char} (h : cs ≠ []) (frame : Frame) (opened : List Frame)
    (root : Option Document) :
    run? ⟨frame :: opened, root⟩ cs =
      some ⟨{ frame with children := addText (String.ofList cs) frame.children } :: opened, root⟩ :=
  if_neg h

/-- Outside of the root only blanks are taken, and nothing is made of them. -/
theorem run?_outside (root : Option Document) (cs : List Char) :
    run? ⟨[], root⟩ cs = if allBlank cs then some ⟨[], root⟩ else none := by
  unfold run? add? add text
  by_cases hnil : cs = []
  · rw [if_pos hnil, hnil]
    rfl
  · rw [if_neg hnil]
    dsimp only
    split <;> rfl

theorem addText_addText (before after : String) (children : List Node) :
    addText after (addText before children) = addText (before ++ after) children := by
  rcases children with _ | ⟨⟨content⟩ | _, children⟩
  · rfl
  · simp only [addText, String.append_assoc]
  · rfl

/-- A run of text may be cut anywhere. -/
theorem run?_append (p : Progress) (cs ds : List Char) :
    p.run? (cs ++ ds) = (p.run? cs).bind (·.run? ds) := by
  -- no characters are no text, not even an empty one
  by_cases hcs : cs = []
  · rw [hcs]
    rfl
  by_cases hds : ds = []
  · rw [hds, List.append_nil]
    cases p.run? cs <;> rfl
  obtain ⟨_ | ⟨frame, opened⟩, root⟩ := p
  · rw [run?_outside, run?_outside, allBlank, List.all_append]
    by_cases hblank : allBlank cs = true
    · rw [if_pos hblank]
      show _ = run? ⟨[], root⟩ ds
      rw [run?_outside, show cs.all isBlank = true from hblank, Bool.true_and]
      rfl
    · rw [if_neg hblank, if_neg]
      · rfl
      · intro hboth
        exact hblank ((Bool.and_eq_true _ _).mp hboth).1
  · have happend : cs ++ ds ≠ [] := fun heq => hcs (List.append_eq_nil_iff.1 heq).1
    rw [run?_of_ne happend, run?_of_ne hcs]
    show _ = run? ⟨{ frame with children := _ } :: opened, root⟩ ds
    rw [run?_of_ne hds, addText_addText, String.ofList_append]

/-- The event of a text takes it in as a run. -/
theorem addAll?_textEvents (p : Progress) (offset : Nat) (cs : List Char) :
    p.addAll? (textEvents offset cs) = p.run? cs := by
  unfold textEvents run?
  split
  · rfl
  · exact addAll?_singleton p _

/-- A reference that resolves is a run of one character. -/
theorem add?_reference (p : Progress) {name : List Char} {c : Char}
    (h : resolve? name = some c) : p.add? (.reference name) = p.run? [c] := by
  unfold run? add? add
  dsimp only
  rw [h]
  rfl

/-! ## Fragments -/

/-- An element opened with attributes that need no reading. -/
def enter (p : Progress) (e : Markup.Element) : Progress :=
  { p with opened := ⟨e.tag, OrderedMap.ofList e.attributes, []⟩ :: p.opened }

/-- A fragment taken in piece by piece. -/
def takes? (p : Progress) : Fragment → Option Progress
  | .nil => some p
  | .text content rest => (p.run? content.toList).bind (·.takes? rest)
  | .reference name rest => (p.add? (.reference name.toList)).bind (·.takes? rest)
  | .element e inside rest =>
    (((p.enter e).takes? inside).bind (·.add? .stop)).bind (·.takes? rest)

theorem open_raw {e : Markup.Element} (h : e.WellFormed) (p : Progress) :
    p.open e.raw = .ok (p.enter e) := by
  rw [Progress.open, Element.attributes_raw h]
  show Except.ok { p with opened := ⟨String.ofList e.tag.toList, _, []⟩ :: p.opened } = _
  rw [String.ofList_toList]
  rfl

/-- An element is entered, filled and closed, also where its tag closes itself. -/
theorem addAll?_element {e : Markup.Element} (h : e.WellFormed) {inside : Fragment}
    (hempty : e.selfClosing = true → inside = .nil) {offset : Nat} {body : List Char}
    {es : List Located} (hes : ∀ p : Progress, p.addAll? es = p.takes? inside) (p : Progress) :
    p.addAll? (e.events offset body es) = ((p.enter e).takes? inside).bind (·.add? .stop) := by
  unfold Element.events
  split
  · rename_i hself
    rw [hempty hself, addAll?_singleton]
    show ((p.open e.raw).bind close).toOption = (p.enter e).add? .stop
    rw [open_raw h]
    rfl
  · have hopen : p.add? (.start e.raw) = some (p.enter e) := by
      show (p.open e.raw).toOption = _
      rw [open_raw h]
      rfl
    rw [← List.singleton_append, addAll?_append, addAll?_singleton]
    show (p.add? (.start e.raw)).bind _ = _
    rw [hopen, Option.bind_some, addAll?_append, hes]
    congr 1
    funext q
    exact addAll?_singleton q _

/-- **The events of a fragment take it in piece by piece**, behind the run in front of it. -/
theorem addAll?_events {f : Fragment} (h : f.WellFormed) (p : Progress) (cs : List Char)
    (offset : Nat) : p.addAll? (f.events cs offset) = (p.run? cs).bind (·.takes? f) := by
  -- the run grows along texts and is handed over at the next mark
  induction f generalizing p cs offset with
  | nil =>
    rw [Fragment.events, addAll?_textEvents]
    exact (Option.bind_fun_some _).symm
  | text content rest ih =>
    rw [Fragment.events, ih h.2, run?_append, Option.bind_assoc]
    rfl
  | reference name rest ih =>
    have hrest : ∀ (q : Progress) (offset : Nat), q.addAll? (rest.events [] offset) =
        q.takes? rest := fun q offset => ih h.2 q [] offset
    rw [Fragment.events, addAll?_append, addAll?_textEvents]
    congr 1
    funext q
    rw [addAll?_append, addAll?_singleton, takes?]
    congr 1
    funext q
    exact hrest q _
  | element e inside rest ihinside ihrest =>
    obtain ⟨he, hempty, hinside, hrest⟩ := h
    rw [Fragment.events, addAll?_append, addAll?_textEvents]
    congr 1
    funext q
    rw [addAll?_append, addAll?_element he hempty (fun q => ihinside hinside q [] _), takes?]
    congr 1
    funext q
    exact ihrest hrest q [] _

end Progress

/-- What is read from a document that is cut into events without a failure. -/
theorem toOption_read_of_events {source : List Char} {es : List Located}
    (h : events source = (es, none)) :
    (read source).toOption = (Progress.addAll? ⟨[], none⟩ es).bind Progress.finish? := by
  rw [read, h, ← Progress.toOption_addAll source]
  show ((Progress.addAll source ⟨[], none⟩ es).bind _).toOption = _
  cases Progress.addAll source ⟨[], none⟩ es with
  | error problem => rfl
  | ok p => exact Progress.toOption_finish source p

/-- **A well-formed fragment is read as what its pieces make.** -/
theorem toOption_read {f : Fragment} (h : f.WellFormed)
    (hmark : dropByteOrderMark f.write = f.write) :
    (read f.write).toOption = (Progress.takes? ⟨[], none⟩ f).bind Progress.finish? := by
  rw [toOption_read_of_events (events_write h hmark), Progress.addAll?_events h, Progress.run?_nil,
    Option.bind_some]

end TagTemplate.Island
