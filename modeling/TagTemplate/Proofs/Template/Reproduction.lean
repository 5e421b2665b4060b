import TagTemplate.Proofs.Markup.Fragment
import TagTemplate.Proofs.Template.Acceptance
import TagTemplate.Proofs.Template.Reading

/-!
# Documents without data are folded to themselves

A fragment in which nothing depends on data is read as a passage, and the forest of this passage is
folded to what the fragment was written as: each element is written again around its folded body,
just as it stood in the source.

- `Element.Plain`, `Fragment.Plain`: nothing depends on data;
- `endsInSlash_empty`, `endsInSlash_closing`: the source says which elements close themselves;
- `written_closing`: an element that is folded is written as it stood in the source;
- `Passage.Folds`: a passage that folds to a text;
- `exists_passage`: **a fragment is handed to the builder as a passage that folds to its text**;
- `StaticDocument`: a whole document without data;
- `exists_unfolded`, `exists_folded`: the templates that it is read as.
-/

namespace TagTemplate

open Markup Text

/-! ## Forests of one text -/

namespace Forest

/-- The forest of a text: none if there is no text. -/
def ofText (content : String) : Forest := if content = "" then nil else text content nil

theorem prependText_ofText (first second : String) :
    (ofText second).prependText first = text (first ++ second) nil := by
  unfold ofText
  split
  · rename_i hnil
    rw [hnil, String.append_empty]
    rfl
  · rfl

theorem isText_ofText (content : String) : (ofText content).isText = true := by
  unfold ofText
  split <;> rfl

theorem ownText_ofText (content : String) : (ofText content).ownText = content := by
  unfold ofText
  split
  · rename_i hnil
    rw [hnil]
    rfl
  · exact String.append_empty

theorem isNil_ofText (content : String) : (ofText content).isNil = decide (content = "") := by
  unfold ofText
  split <;> simp_all [isNil]

theorem ofText_of_ne_nil {content : List Char} (h : content ≠ []) :
    ofText (String.ofList content) = text (String.ofList content) nil := by
  rw [ofText, if_neg]
  rw [← String.toList_inj, String.toList_ofList]
  exact h

/-- An inert element around a text is folded to the text that it is written as. -/
theorem fold_element_of_isInert {head : Head} (h : head.isInert = true) {kids : Forest}
    {body : String} (hkids : kids.fold = ofText body) (rest : Forest) :
    (element head kids rest).fold = rest.fold.prependText (head.written body) := by
  rw [fold, hkids, isText_ofText, ownText_ofText, h]
  rfl

theorem fold_prependText (content : String) (f : Forest) :
    (f.prependText content).fold = f.fold.prependText content := by
  cases f with
  | nil => rfl
  | text first rest =>
    rw [prependText, fold, fold, prependText_prependText]
  | element head kids rest => rfl

end Forest

/-! ## Elements without data -/

namespace Markup

/-- Nothing in the element itself depends on data: its tag and the names of its attributes are
outside of the namespace, and no value holds an expression. -/
structure Element.Plain (e : Element) : Prop where
  tag : beginsWith defaultPrefix e.tag = false
  keys : ∀ entry ∈ e.attributes, beginsWith defaultPrefix entry.1 = false
  values : ∀ entry ∈ e.attributes, '\x7b' ∉ entry.2.toList

/-- Nothing in the fragment depends on data. -/
def Fragment.Plain : Fragment → Prop
  | .nil => True
  | .text _ rest => rest.Plain
  | .reference _ rest => rest.Plain
  | .element e inside rest => e.Plain ∧ inside.Plain ∧ rest.Plain

end Markup

/-- Attributes are written by the template as they are written in a tag. -/
theorem writtenAttributes_eq (attributes : List (String × String)) :
    writtenAttributes attributes = String.ofList (writeAttributes attributes) := by
  rw [← String.toList_inj, String.toList_ofList]
  unfold writtenAttributes writeAttributes
  induction attributes with
  | nil => rfl
  | cons entry attributes ih =>
    have hentry : (s!" {entry.1}=\"{escaped entry.2}\"").toList = writeAttribute entry := by
      simp only [String.toList_append, writeAttribute, escaped]
      show [' '] ++ entry.1.toList ++ ['=', '"'] ++ (String.ofList _).toList ++ ['"'] = _
      rw [String.toList_ofList]
      simp
    rw [List.map_cons, String.join_cons, String.toList_append, ih, List.flatMap_cons]
    exact congrArg (· ++ _) hentry

namespace Builder

/-- Whether a tag closes itself is read off the text up to its end. -/
theorem endsInSlash_eq {source front after : List Char} {last : Char}
    (hsource : source = front ++ [last] ++ after) (hlast : isBlank last = false) :
    endsInSlash source (byteLength (front ++ [last])) =
      (dropEnding? ['/', '>'] (front ++ [last])).isSome := by
  have htrim : trimEnd (front ++ [last]) = front ++ [last] := by
    rw [trimEnd, List.reverse_append, List.reverse_singleton, List.singleton_append,
      List.dropWhile_cons_of_neg (by simp [hlast]), List.reverse_cons, List.reverse_reverse]
  rw [endsInSlash, hsource, takeBytes?_byteLength, Option.any_some, htrim]

theorem endsInSlash_empty (e : Element) (before after : List Char) :
    endsInSlash (before ++ (e.empty ++ after)) (byteLength before + byteLength e.empty) = true := by
  have hempty : before ++ e.empty = before ++ '<' :: (e.content ++ ['/']) ++ ['>'] := by
    rw [List.append_assoc]
    rfl
  have hending :
      dropEnding? ['/', '>'] (before ++ e.empty) = some (before ++ '<' :: e.content) := by
    rw [dropEnding?_eq_some_iff, hempty]
    simp
  rw [← byteLength_append, ← List.append_assoc, hempty, endsInSlash_eq rfl rfl, ← hempty, hending]
  rfl

theorem endsInSlash_closing {e : Element} (h : e.WellFormed) (before after : List Char) :
    endsInSlash (before ++ (e.closing ++ after)) (byteLength before + byteLength e.closing) =
      false := by
  have hclosing : before ++ e.closing = before ++ '<' :: '/' :: e.tag.toList ++ ['>'] := by
    rw [List.append_assoc]
    rfl
  have hending : dropEnding? ['/', '>'] (before ++ e.closing) = none := by
    rw [Option.eq_none_iff_forall_ne_some]
    intro cs hcs
    rw [dropEnding?_eq_some_iff, hclosing] at hcs
    -- in front of the bracket is the last character of the name, which is no slash
    rcases List.eq_nil_or_concat e.tag.toList with hnil | ⟨front, c, hlast⟩
    · have htag := h.tag
      rw [hnil] at htag
      cases htag
    · have hsplit : before ++ '<' :: '/' :: e.tag.toList ++ ['>'] =
          before ++ '<' :: '/' :: front ++ [c, '>'] := by
        rw [hlast, List.concat_eq_append]
        simp
      rw [hsplit] at hcs
      have hc : c = '/' := (List.cons.inj (List.append_inj' hcs rfl).2).1
      refine name_ne_slash h.tag front ?_
      rw [hlast, List.concat_eq_append, hc]
  rw [← byteLength_append, ← List.append_assoc, hclosing, endsInSlash_eq rfl rfl, ← hclosing,
    hending]
  rfl

end Builder

/-- The tag that closes itself, as a template writes it. -/
theorem ofList_empty (e : Element) :
    s!"<{e.tag}{writtenAttributes e.attributes}/>" = String.ofList e.empty := by
  rw [← String.toList_inj, writtenAttributes_eq, String.toList_ofList]
  simp only [String.toList_append]
  show ['<'] ++ e.tag.toList ++ (String.ofList _).toList ++ ['/', '>'] = _
  rw [String.toList_ofList]
  simp [Element.empty, Element.content]

/-- The tags around a body, as a template writes them. -/
theorem ofList_around (e : Element) (body : List Char) :
    s!"<{e.tag}{writtenAttributes e.attributes}>{String.ofList body}</{e.tag}>" =
      String.ofList (e.opening ++ (body ++ e.closing)) := by
  rw [← String.toList_inj, writtenAttributes_eq, String.toList_ofList]
  simp only [String.toList_append]
  show ['<'] ++ e.tag.toList ++ (String.ofList _).toList ++ ['>'] ++ (String.ofList _).toList ++
    ['<', '/'] ++ e.tag.toList ++ ['>'] = _
  rw [String.toList_ofList, String.toList_ofList]
  simp [Element.opening, Element.closing, Element.content]

section Heads

variable {e : Element} {attributes : OrderedMap String} (h : e.Plain)
  (hattributes : attributes.entries = e.attributes) (distinct : attributes.Distinct)

include h

/-- A tag outside of the namespace is no directive. -/
theorem ofTag?_of_plain : Directive.ofTag? defaultPrefix e.tag = none := by
  have hstart : afterStart? defaultPrefix e.tag = none := by
    rw [← Option.not_isSome_iff_eq_none]
    exact Bool.eq_false_iff.1 h.tag
  rw [Directive.ofTag?, hstart]
  rfl

theorem suffices_of_plain (given : List (String × String)) :
    Suffices defaultPrefix e.tag given := by
  intro d hd
  rw [ofTag?_of_plain h] at hd
  cases hd

include hattributes

theorem isInert_closing (source : List Char) (before : String) (line : Nat) (kids : Forest)
    (offset : Nat) :
    (Head.closing source defaultPrefix before e.tag distinct line kids offset).isInert = true := by
  have hkeys : attributes.keys.any (beginsWith defaultPrefix) = false := by
    rw [List.any_eq_false, OrderedMap.keys, hattributes]
    intro key hkey
    obtain ⟨entry, hentry, rfl⟩ := List.mem_map.1 hkey
    exact Bool.eq_false_iff.1 (h.keys entry hentry)
  have hvalues : (attributes.values.any fun value => value.toList.contains '\x7b') = false := by
    rw [List.any_eq_false, OrderedMap.values, hattributes]
    intro value hvalue
    obtain ⟨entry, hentry, rfl⟩ := List.mem_map.1 hvalue
    rw [List.contains_iff_mem]
    exact h.values entry hentry
  show ((Directive.ofTag? defaultPrefix e.tag).isNone &&
    !attributes.keys.any (beginsWith defaultPrefix) &&
    !attributes.values.any fun value => value.toList.contains '\x7b') = true
  rw [ofTag?_of_plain h, hkeys, hvalues]
  rfl

/-- What is written for an element is what it was read from. -/
theorem written_closing {source : List Char} (before : String) (line : Nat) {kids : Forest}
    {offset : Nat} {body : List Char} (hslash : Builder.endsInSlash source offset = e.selfClosing)
    (hkids : kids.isNil = decide (String.ofList body = ""))
    (hempty : e.selfClosing = true → body = []) :
    (Head.closing source defaultPrefix before e.tag distinct line kids offset).written
        (String.ofList body) = String.ofList (e.write body) := by
  have hplain : (attributes.entries.filter fun entry => !beginsWith defaultPrefix entry.1) =
      e.attributes := by
    rw [hattributes, List.filter_eq_self]
    intro entry hentry
    rw [h.keys entry hentry]
    rfl
  show (if beginsWith defaultPrefix e.tag = true then _ else
    if (kids.isNil && Builder.endsInSlash source offset) = true ∧ String.ofList body = "" then
      s!"<{e.tag}{writtenAttributes (attributes.entries.filter fun entry =>
        !beginsWith defaultPrefix entry.1)}/>"
    else s!"<{e.tag}{writtenAttributes (attributes.entries.filter fun entry =>
        !beginsWith defaultPrefix entry.1)}>{String.ofList body}</{e.tag}>") = _
  rw [if_neg (Bool.eq_false_iff.1 h.tag), hplain, ofList_empty, ofList_around, hkids, hslash,
    Element.write]
  by_cases hself : e.selfClosing = true
  · rw [if_pos hself, if_pos]
    simp [hself, hempty hself]
  · rw [if_neg hself, if_neg]
    simp [hself]

end Heads

/-! ## Fragments as passages -/

/-- Every directive of the passage has its attributes, and folded it is a text. -/
structure Passage.Folds (p : Passage) (source : List Char) (content : List Char) : Prop where
  given : p.Suffices defaultPrefix
  fold : ∀ before, (p.forest source defaultPrefix before).fold = .ofText (String.ofList content)

namespace Passage

variable {source : List Char}

theorem folds_nil : Passage.nil.Folds source [] := ⟨trivial, fun _ => rfl⟩

theorem Folds.text {p : Passage} {content : List Char} (h : p.Folds source content)
    {run : List Char} (hrun : run ≠ []) (line : Nat) :
    (Passage.text (String.ofList run) line p).Folds source (run ++ content) where
  given := h.given
  fold before := by
    rw [forest, Forest.fold_prependText, h.fold, Forest.prependText_ofText, ← String.ofList_append,
      Forest.ofText_of_ne_nil (List.append_ne_nil_of_left_ne_nil hrun content)]

theorem Folds.isNil_forest {p : Passage} {content : List Char} (h : p.Folds source content) :
    (p.forest source defaultPrefix "").isNil = decide (String.ofList content = "") := by
  rw [← Forest.isNil_fold, h.fold, Forest.isNil_ofText]

/-- An element without data is folded to the text that it is written as. -/
theorem Folds.fold_element {e : Element} (h : e.Plain) {attributes : OrderedMap String}
    (hattributes : attributes.entries = e.attributes) (distinct : attributes.Distinct)
    {p : Passage} {body : List Char} (hp : p.Folds source body) {offset : Nat}
    (hslash : Builder.endsInSlash source offset = e.selfClosing)
    (hempty : e.selfClosing = true → body = []) (before : String) (line : Nat) (rest : Forest) :
    (Forest.element
        (.closing source defaultPrefix before e.tag distinct line (p.forest source defaultPrefix "")
          offset)
        (p.forest source defaultPrefix "") rest).fold =
      rest.fold.prependText (String.ofList (e.write body)) := by
  rw [Forest.fold_element_of_isInert (isInert_closing h hattributes _ _ _ _ _ _) (hp.fold ""),
    written_closing h hattributes _ _ _ hslash hp.isNil_forest hempty]

theorem Folds.element {e : Element} (h : e.Plain) (hdistinct : (e.attributes.map Prod.fst).Nodup)
    {inside rest : Passage} {body content : List Char} (hinside : inside.Folds source body)
    (hrest : rest.Folds source content) {offset : Nat}
    (hslash : Builder.endsInSlash source offset = e.selfClosing)
    (hempty : e.selfClosing = true → body = []) (line closed : Nat) :
    (Passage.element e.tag e.attributes line inside offset closed rest).Folds source
      (e.write body ++ content) where
  given := ⟨suffices_of_plain h _, hinside.given, hrest.given⟩
  fold before := by
    have hattributes : (OrderedMap.ofList e.attributes).entries = e.attributes := by
      rw [OrderedMap.ofList_of_nodup hdistinct]
    have hcontent : e.write body ++ content ≠ [] := by
      refine List.append_ne_nil_of_left_ne_nil ?_ content
      unfold Element.write
      split <;> exact List.cons_ne_nil _ _
    rw [forest, hinside.fold_element h hattributes _ hslash hempty, hrest.fold,
      Forest.prependText_ofText, ← String.ofList_append,
      Forest.ofText_of_ne_nil hcontent]

end Passage

/-! ## From the source to passages -/

section Events

variable {e : Element} (h : e.WellFormed) (offset : Nat) (written : List Char) (line : Nat)

include h in
theorem parts?_start : ((Event.start e.raw).over offset written).parts? line =
    some [.opening e.tag e.attributes line] := by
  rw [Located.parts?, Event.over]
  dsimp only
  rw [Element.attributes_raw h, Element.raw, String.ofList_toList]
  rfl

include h in
theorem parts?_empty : ((Event.empty e.raw).over offset written).parts? line =
    some [.opening e.tag e.attributes line, .closing (offset + byteLength written) line] := by
  rw [Located.parts?, Event.over]
  dsimp only
  rw [Element.attributes_raw h, Element.raw, String.ofList_toList]
  rfl

theorem parts?_stop : (Event.stop.over offset written).parts? line =
    some [.closing (offset + byteLength written) line] := rfl

theorem parts?_reference (name : List Char) :
    ((Event.reference name).over offset written).parts? line =
      some [.text (String.ofList ('&' :: (name ++ [';']))) line] := rfl

end Events

section Sources

variable (source : List Char) (lines : LineCursor)

/-- A text in front of a passage makes a longer passage. -/
theorem exists_parts_text (run : List Char) (offset : Nat) :
    ∃ ps lines', Parts lines (textEvents offset run) ps lines' ∧
      ∀ (p : Passage) (content : List Char), p.Folds source content →
        ∃ q : Passage, q.events = ps ++ p.events ∧ q.Folds source (run ++ content) := by
  unfold textEvents
  split
  · rename_i hrun
    rw [hrun]
    exact ⟨[], lines, .nil, fun p content hp => ⟨p, rfl, hp⟩⟩
  · rename_i hrun
    exact ⟨_, _, .single rfl, fun p content hp => ⟨.text _ _ p, rfl, hp.text hrun _⟩⟩

/-- An element is opened, its passage comes, and it is closed by a tag that says whether it closes
itself. -/
theorem exists_parts_element {e : Element} (h : e.WellFormed) {inside : Fragment}
    (hclosed : e.selfClosing = true → inside = .nil)
    (hinside : ∀ (lines : LineCursor) (before after : List Char),
      source = before ++ (inside.write ++ after) →
      ∃ (p : Passage) (lines' : LineCursor),
        Parts lines (inside.events [] (byteLength before)) p.events lines' ∧
        p.Folds source inside.write)
    {before after : List Char} (hsource : source = before ++ (e.write inside.write ++ after)) :
    ∃ (line : Nat) (p : Passage) (offset closed : Nat) (lines' : LineCursor),
      Parts lines
        (e.events (byteLength before) inside.write
          (inside.events [] (byteLength before + byteLength e.opening)))
        (.opening e.tag e.attributes line :: (p.events ++ [.closing offset closed])) lines' ∧
      p.Folds source inside.write ∧ Builder.endsInSlash source offset = e.selfClosing := by
  unfold Element.events
  -- an empty tag is an opening and a closing at one place
  cases hself : e.selfClosing with
  | true =>
    have hslash : Builder.endsInSlash source (byteLength before + byteLength e.empty) = true := by
      rw [hsource, Element.write, if_pos hself]
      exact Builder.endsInSlash_empty e before after
    refine ⟨_, .nil, _, _, _, .single (parts?_empty h _ _ _), ?_, hslash⟩
    rw [Fragment.write_of_selfClosing hclosed hself]
    exact Passage.folds_nil
  | false =>
    rw [Element.write, if_neg (Bool.eq_false_iff.1 hself)] at hsource
    have hbody : source = before ++ e.opening ++ (inside.write ++ (e.closing ++ after)) := by
      rw [hsource]
      simp
    have hend : source = before ++ (e.opening ++ inside.write) ++ (e.closing ++ after) := by
      rw [hsource]
      simp
    have hslash := Builder.endsInSlash_closing h (before ++ (e.opening ++ inside.write)) after
    rw [← hend, byteLength_append] at hslash
    obtain ⟨p, lines', hinner, hp⟩ := hinside (lines.lineAt (byteLength before)).2 _ _ hbody
    rw [byteLength_append] at hinner
    have hall := (Parts.single (parts?_start h (byteLength before) e.opening _)).append
      (hinner.append (.single (parts?_stop
        (byteLength before + byteLength (e.opening ++ inside.write)) e.closing _)))
    exact ⟨_, p, _, _, _, hall, hp, hslash⟩

/-- **A fragment without data is handed to the builder as a passage that folds to what was
written.** -/
theorem exists_passage (f : Fragment) (h : f.WellFormed) (hplain : f.Plain)
    {run before after : List Char} (hsource : source = before ++ (run ++ (f.write ++ after))) :
    ∃ (p : Passage) (lines' : LineCursor),
      Parts lines (f.events run (byteLength before)) p.events lines' ∧
      p.Folds source (run ++ f.write) := by
  -- the place in the source moves along, since the offset of a closing tag is looked up in it
  induction f generalizing run before after lines with
  | nil =>
    obtain ⟨ps, lines', hparts, hfolds⟩ := exists_parts_text source lines run (byteLength before)
    obtain ⟨q, hq, hfolds⟩ := hfolds .nil [] Passage.folds_nil
    rw [Passage.events, List.append_nil] at hq
    exact ⟨q, lines', hq ▸ hparts, hfolds⟩
  | text content rest ih =>
    have hsplit : source = before ++ (run ++ content.toList ++ (rest.write ++ after)) := by
      rw [hsource, Fragment.write]
      simp
    obtain ⟨p, lines', hparts, hp⟩ := ih lines h.2 hplain hsplit
    rw [List.append_assoc] at hp
    exact ⟨p, lines', hparts, hp⟩
  | reference name rest ih =>
    obtain ⟨ps, lines₁, htext, hfolds⟩ := exists_parts_text source lines run (byteLength before)
    let written := '&' :: (name.toList ++ [';'])
    have hsplit : source = before ++ run ++ written ++ ([] ++ (rest.write ++ after)) := by
      rw [hsource, Fragment.write]
      simp [written]
    obtain ⟨p, lines₂, hrest, hp⟩ :=
      ih (lines₁.lineAt (byteLength before + byteLength run)).2 h.2 hplain hsplit
    rw [byteLength_append, byteLength_append] at hrest
    have hp := hp.text (List.cons_ne_nil _ _ : written ≠ [])
      (lines₁.lineAt (byteLength before + byteLength run)).1
    obtain ⟨q, hq, hfolds⟩ := hfolds _ _ hp
    have hall := htext.append ((Parts.single
      (parts?_reference (byteLength before + byteLength run) written _ name.toList)).append hrest)
    exact ⟨q, lines₂, hq ▸ hall, hfolds⟩
  | element e inside rest ihinside ihrest =>
    obtain ⟨he, hclosed, hinside, hrest⟩ := h
    obtain ⟨hplain, hplainInside, hplainRest⟩ := hplain
    obtain ⟨ps, lines₁, htext, hfolds⟩ := exists_parts_text source lines run (byteLength before)
    have hsplit : source = before ++ run ++ (e.write inside.write ++ (rest.write ++ after)) := by
      rw [hsource, Fragment.write]
      simp
    obtain ⟨line, p, closing, closed, lines₂, helement, hp, hslash⟩ :=
      exists_parts_element source lines₁ he hclosed
        (fun lines before after => @ihinside lines hinside hplainInside [] before after) hsplit
    have hbehind : source = before ++ run ++ e.write inside.write ++
        ([] ++ (rest.write ++ after)) := by
      rw [hsplit]
      simp
    obtain ⟨q, lines₃, hothers, hq⟩ := ihrest lines₂ hrest hplainRest hbehind
    obtain ⟨r, hr, hfolds⟩ :=
      hfolds _ _ (hp.element hplain he.distinct hq hslash
        (Fragment.write_of_selfClosing hclosed) line closed)
    rw [byteLength_append] at helement
    rw [byteLength_append, byteLength_append] at hothers
    have hall := htext.append (helement.append hothers)
    rw [List.cons_append, List.append_assoc] at hall
    exact ⟨r, lines₃, hr ▸ hall, hfolds⟩

end Sources

/-! ## Whole documents -/

/-- Folded, the template is one text. -/
def Template.FoldsToText (t : Template) (content : String) : Prop :=
  ∃ forest c, t.tree.root = some c ∧ Reads t.tree.nodes none 0 [c] forest t.tree.nodes.length ∧
    forest.fold = .text content .nil

/-- A document in which nothing depends on data: one element with what is inside of it, which
declares no namespace. -/
structure StaticDocument where
  root : Element
  inside : Fragment
  wellFormed : (Fragment.element root inside .nil).WellFormed
  plain : (Fragment.element root inside .nil).Plain
  undeclared : ∀ entry ∈ root.attributes, Builder.declaredPrefix? entry.1 entry.2 = none

namespace StaticDocument

variable (d : StaticDocument)

/-- The document written out. -/
def source : List Char := d.root.write d.inside.write

/-- The events that it is cut into. -/
def events : List Located :=
  d.root.events 0 d.inside.write (d.inside.events [] (0 + byteLength d.root.opening))

theorem declaration?_eq_none : FirstTag.declaration? d.root.attributes = none := by
  rw [FirstTag.declaration?, OrderedMap.ofList_of_nodup d.wellFormed.1.distinct,
    List.findSome?_eq_none_iff]
  intro entry hentry
  dsimp only
  rw [d.undeclared entry hentry]
  rfl

/-- The root keeps all of its attributes. -/
theorem entries_kept : (FirstTag.kept d.root.attributes).entries = d.root.attributes := by
  have hkept : FirstTag.kept d.root.attributes =
      OrderedMap.erase ⟨d.root.attributes⟩ (defaultPrefix ++ "trans") := by
    unfold FirstTag.kept FirstTag.undeclared FirstTag.nsPrefix
    rw [d.declaration?_eq_none, OrderedMap.ofList_of_nodup d.wellFormed.1.distinct]
    rfl
  rw [hkept, OrderedMap.erase, List.filter_eq_self]
  intro entry hentry
  refine decide_eq_true fun hname => ?_
  have hstart := d.plain.1.keys entry hentry
  rw [hname] at hstart
  exact Bool.noConfusion hstart

theorem events_source : Markup.events d.source = (d.events, none) := by
  have hwrite : (Fragment.element d.root d.inside .nil).write = d.source := List.append_nil _
  have hmark : dropByteOrderMark d.source = d.source := by
    unfold source Element.write
    split <;> rfl
  have hevents := events_write d.wellFormed (hwrite ▸ hmark)
  rw [hwrite, Fragment.events] at hevents
  rw [hevents, events]
  simp [textEvents, Fragment.events]

/-- The document is a manuscript that folds to the source. -/
theorem exists_manuscript :
    ∃ (m : Manuscript) (lines : LineCursor),
      Parts (.start d.source) d.events m.events lines ∧ m.WellFormed ∧
      (m.forest d.source).fold = .text (String.ofList d.source) .nil := by
  obtain ⟨hroot, hclosed, hinside, -⟩ := d.wellFormed
  obtain ⟨hplain, hplainInside, -⟩ := d.plain
  have hsource : d.source = [] ++ (d.root.write d.inside.write ++ []) := (List.append_nil _).symm
  obtain ⟨line, p, offset, closed, lines, hparts, hp, hslash⟩ :=
    exists_parts_element d.source (.start d.source) hroot hclosed
      (fun lines before after =>
        @exists_passage d.source lines d.inside hinside hplainInside [] before after) hsource
  have hdefault : FirstTag.nsPrefix d.root.attributes = defaultPrefix := by
    rw [FirstTag.nsPrefix, d.declaration?_eq_none]
    rfl
  refine ⟨⟨[], d.root.tag, d.root.attributes, line, p, offset, closed, []⟩, lines, hparts,
    ⟨nofun, ?_, ?_⟩, ?_⟩
  · show Suffices (FirstTag.nsPrefix d.root.attributes) d.root.tag d.root.attributes
    rw [hdefault]
    exact suffices_of_plain hplain _
  · show p.Suffices (FirstTag.nsPrefix d.root.attributes)
    rw [hdefault]
    exact hp.given
  · unfold Manuscript.forest
    dsimp only
    rw [hdefault, hp.fold_element hplain d.entries_kept _ hslash
      (Fragment.write_of_selfClosing hclosed)]
    rfl

/-- Without folding, the document is read as a template that folds to the source. -/
theorem exists_unfolded (sourcePath : String) :
    ∃ t, Template.readSource d.source sourcePath false = .ok t ∧
      t.FoldsToText (String.ofList d.source) := by
  obtain ⟨m, lines, hparts, hm, hfold⟩ := d.exists_manuscript
  obtain ⟨t, ht, hread⟩ := m.build_of_wellFormed hm d.source sourcePath
    (lines.lineAt (byteLength d.source)).1
  refine ⟨t, ?_, _, _, hread.root, hread.reads, hfold⟩
  rw [readSource_eq_build d.events_source hparts]
  exact ht

/-- With folding, nothing but the source is left as one text. -/
theorem exists_folded (sourcePath : String) :
    ∃ t, Template.readSource d.source sourcePath true = .ok t ∧
      t.tree = ⟨[], some (.text (String.ofList d.source))⟩ := by
  obtain ⟨plain, hplain, forest, c, hroot, hreads, hfold⟩ := d.exists_unfolded sourcePath
  have hagree := agree_readSource d.source sourcePath
  rw [hplain] at hagree
  cases hfolded : Template.readSource d.source sourcePath true with
  | error e =>
    rw [hfolded] at hagree
    cases hagree
  | ok t =>
    rw [hfolded] at hagree
    cases hagree with
    | ok hfolds =>
      obtain ⟨forest', c₁, c₂, hroot₁, hroot₂, hreads₁, hreads₂⟩ := hfolds.trees
      obtain rfl := Option.some.inj (hroot.symm.trans hroot₁)
      obtain ⟨rfl, -⟩ := hreads.unique hreads₁
      rw [hfold] at hreads₂
      refine ⟨t, rfl, ?_⟩
      generalize hlast : t.tree.nodes.length = last at hreads₂
      cases hreads₂ with
      | text hrest =>
        cases hrest
        show Tree.mk t.tree.nodes t.tree.root = _
        rw [List.eq_nil_of_length_eq_zero hlast, hroot₂]

end StaticDocument

end TagTemplate
