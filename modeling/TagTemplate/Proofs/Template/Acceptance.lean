import TagTemplate.Proofs.Template.Folding
import TagTemplate.Proofs.Text.Search

/-!
# Which documents are built

Without folding, a builder gets through opening tags, closing tags and texts exactly if they are a
manuscript written out: one element with what is inside of it, only blanks around it, and every
directive with its attributes.

- `Passage`, `Manuscript`: the parts of a document as a tree, and `events`, the parts in order;
- `Passage.forest`, `Manuscript.forest`: the forest that the tree stands for;
- `goes_passage`: a builder inside of an element takes a passage in;
- `exists_passage`: what a builder takes in up to the closing tag of an element is a passage;
- `Manuscript.events_injective`: the parts in order say what the tree is;
- `build_succeeds_iff`: **the documents that are built, and what they are built into**.
-/

namespace TagTemplate

open TagTemplate.Text

/-- The attributes hold all that a directive of this tag requires. -/
def Suffices (nsPrefix tag : String) (attributes : List (String × String)) : Prop :=
  ∀ d, Directive.ofTag? nsPrefix tag = some d → ∀ name ∈ d.required, name ∈ attributes.map Prod.fst

/-- What an element says of itself when it is opened. In front of it, since the last opening tag,
stands the text `before`. -/
def Head.opening (nsPrefix before tag : String) {attributes : OrderedMap String}
    (distinct : attributes.Distinct) (line : Nat) : Head :=
  ⟨tag, nsPrefix, attributes, true, line, before, Directive.ofTag? nsPrefix tag, distinct⟩

/-- What it says of itself once it is closed: it closes itself if nothing is inside of it and its
tag says so. -/
def Head.closing (source : List Char) (nsPrefix before tag : String)
    {attributes : OrderedMap String} (distinct : attributes.Distinct) (line : Nat) (kids : Forest)
    (offset : Nat) : Head :=
  { Head.opening nsPrefix before tag distinct line with
    selfClosing := kids.isNil && Builder.endsInSlash source offset }

/-! ## Passages -/

/-- What stands inside of an element, as it is handed to a builder. -/
inductive Passage where
  | nil
  | text (content : String) (line : Nat) (rest : Passage)
  /-- `offset` is the byte after the closing tag, and `closed` the line of that tag. -/
  | element (tag : String) (attributes : List (String × String)) (line : Nat) (inside : Passage)
      (offset closed : Nat) (rest : Passage)

namespace Passage

/-- The parts in order. -/
def events : Passage → List BuildEvent
  | nil => []
  | text content line rest => .text content line :: rest.events
  | element tag attributes line inside offset closed rest =>
    .opening tag attributes line :: (inside.events ++ .closing offset closed :: rest.events)

/-- Every directive has its attributes. -/
def Suffices (nsPrefix : String) : Passage → Prop
  | nil => True
  | text _ _ rest => rest.Suffices nsPrefix
  | element tag attributes _ inside _ _ rest =>
    TagTemplate.Suffices nsPrefix tag attributes ∧ inside.Suffices nsPrefix ∧ rest.Suffices nsPrefix

/-- The text since the last opening tag, if it is `before` in front of the passage. -/
def lastText : Passage → String → String
  | nil, before => before
  | text content _ rest, before => rest.lastText (before ++ content)
  | element _ _ _ inside _ _ rest, _ => rest.lastText (inside.lastText "")

/-- The forest of the passage; texts next to each other are one. -/
def forest (source : List Char) (nsPrefix : String) : Passage → String → Forest
  | nil, _ => .nil
  | text content _ rest, before =>
    (rest.forest source nsPrefix (before ++ content)).prependText content
  | element tag attributes line inside offset _ rest, before =>
    let kids := inside.forest source nsPrefix ""
    .element
      (.closing source nsPrefix before tag (OrderedMap.distinct_ofList attributes) line kids offset)
      kids (rest.forest source nsPrefix (inside.lastText ""))

end Passage

/-! ## The first tag -/

namespace FirstTag

/-- The first attribute that declares the namespace, and the prefix that it declares. -/
def declaration? (attributes : List (String × String)) : Option (String × String) :=
  (OrderedMap.ofList attributes).entries.findSome? fun (name, value) =>
    (Builder.declaredPrefix? name value).map fun declared => (name, declared)

/-- The namespace prefix of the document. -/
def nsPrefix (attributes : List (String × String)) : String :=
  ((declaration? attributes).map Prod.snd).getD defaultPrefix

/-- The attributes apart from the one that declares the namespace. -/
def undeclared (attributes : List (String × String)) : OrderedMap String :=
  match declaration? attributes with
  | some (name, _) => (OrderedMap.ofList attributes).erase name
  | none => .ofList attributes

/-- The source of translations that the document names. -/
def transSource (attributes : List (String × String)) : Option String :=
  (undeclared attributes).get? (nsPrefix attributes ++ "trans")

/-- The attributes that stay with the element. -/
def kept (attributes : List (String × String)) : OrderedMap String :=
  (undeclared attributes).erase (nsPrefix attributes ++ "trans")

variable (attributes : List (String × String))

theorem distinct_kept : (kept attributes).Distinct := by
  unfold kept undeclared
  split
  · exact OrderedMap.distinct_erase (OrderedMap.distinct_erase (OrderedMap.distinct_ofList _) _) _
  · exact OrderedMap.distinct_erase (OrderedMap.distinct_ofList _) _

end FirstTag

/-! ## Whole documents -/

/-- The part that is a text on a line. -/
def BuildEvent.ofText (t : String × Nat) : BuildEvent := .text t.1 t.2

/-- An element with what is inside of it, and the texts around it. -/
structure Manuscript where
  before : List (String × Nat)
  tag : String
  attributes : List (String × String)
  line : Nat
  inside : Passage
  offset : Nat
  closed : Nat
  after : List (String × Nat)

namespace Manuscript

/-- The parts in order. -/
def events (m : Manuscript) : List BuildEvent :=
  m.before.map .ofText ++ .opening m.tag m.attributes m.line ::
    (m.inside.events ++ .closing m.offset m.closed :: m.after.map .ofText)

/-- Only blanks stand around the element, and every directive has its attributes. -/
structure WellFormed (m : Manuscript) : Prop where
  blank : ∀ t ∈ m.before ++ m.after, allBlank t.1.toList = true
  root : Suffices (FirstTag.nsPrefix m.attributes) m.tag m.attributes
  inside : m.inside.Suffices (FirstTag.nsPrefix m.attributes)

/-- The document as a forest of one element. -/
def forest (source : List Char) (m : Manuscript) : Forest :=
  let kids := m.inside.forest source (FirstTag.nsPrefix m.attributes) ""
  .element
    (.closing source (FirstTag.nsPrefix m.attributes) "" m.tag (FirstTag.distinct_kept m.attributes)
      m.line kids m.offset)
    kids .nil

end Manuscript

/-! ## Attributes -/

/-- No attribute that a directive requires has a colon in its name. -/
theorem Directive.notMem_colon {d : Directive} {name : String} (h : name ∈ d.required) :
    ':' ∉ name.toList := by
  revert name
  cases d <;> decide

namespace Builder

variable {b : Builder}

theorem missing?_ofList {nsPrefix tag : String} {attributes : List (String × String)} :
    missing? (Directive.ofTag? nsPrefix tag) (.ofList attributes) = none ↔
      Suffices nsPrefix tag attributes := by
  rw [missing?_eq_none_iff]
  unfold Suffices
  simp only [OrderedMap.contains_ofList]

/-- An attribute that declares a namespace has a colon in its name, and so has the prefix. -/
theorem mem_colon_of_declaredPrefix? {name value declared : String}
    (h : declaredPrefix? name value = some declared) :
    ':' ∈ name.toList ∧ ':' ∈ declared.toList := by
  obtain ⟨rest, hrest, hdeclared⟩ := Option.bind_eq_some_iff.1 h
  constructor
  · obtain ⟨cs, hcs, -⟩ := Option.map_eq_some_iff.1 hrest
    rw [isPrefixOf?_eq_some_iff.1 hcs]
    exact List.mem_append_left cs (by decide)
  · split at hdeclared
    · rw [← Option.some.inj hdeclared, String.toList_append]
      exact List.mem_append_right _ (by decide)
    · cases hdeclared

end Builder

namespace FirstTag

variable {attributes : List (String × String)}

theorem mem_colon_of_declaration? {name declared : String}
    (h : declaration? attributes = some (name, declared)) :
    ':' ∈ name.toList ∧ ':' ∈ declared.toList := by
  obtain ⟨⟨name', value⟩, -, hfound⟩ := List.exists_of_findSome?_eq_some h
  obtain ⟨declared', hdeclared, heq⟩ := Option.map_eq_some_iff.1 hfound
  cases heq
  exact Builder.mem_colon_of_declaredPrefix? hdeclared

theorem mem_colon_nsPrefix (attributes : List (String × String)) :
    ':' ∈ (nsPrefix attributes).toList := by
  unfold nsPrefix
  cases h : declaration? attributes with
  | none => decide
  | some d => exact (mem_colon_of_declaration? h).2

/-- The attributes that are not kept have a colon in their names. -/
theorem contains_kept {name : String} (h : ':' ∉ name.toList) :
    (kept attributes).contains name = (OrderedMap.ofList attributes).contains name := by
  have hsource : name ≠ nsPrefix attributes ++ "trans" := by
    rintro rfl
    refine h ?_
    rw [String.toList_append]
    exact List.mem_append_left _ (mem_colon_nsPrefix attributes)
  rw [kept, OrderedMap.contains_erase hsource, undeclared]
  split
  · rename_i key declared hdeclared
    refine OrderedMap.contains_erase ?_
    rintro rfl
    exact h (mem_colon_of_declaration? hdeclared).1
  · rfl

/-- Taking the namespace away takes nothing that a directive requires. -/
theorem missing?_kept {tag : String} :
    Builder.missing? (Directive.ofTag? (nsPrefix attributes) tag) (kept attributes) = none ↔
      Suffices (nsPrefix attributes) tag attributes := by
  rw [← Builder.missing?_ofList, Builder.missing?_eq_none_iff, Builder.missing?_eq_none_iff]
  refine forall_congr' fun d => forall_congr' fun _ => forall_congr' fun name =>
    forall_congr' fun hname => ?_
  rw [contains_kept (Directive.notMem_colon hname)]

theorem capture_eq (b : Builder) (attributes : List (String × String)) :
    b.capture (.ofList attributes) =
      ({ b with nsPrefix? := some (nsPrefix attributes), transSource := transSource attributes },
        kept attributes) := by
  have hcapture : b.capture (.ofList attributes) =
      match declaration? attributes with
      | some (name, declared) =>
        let kept := (OrderedMap.ofList attributes).erase name
        ({ b with nsPrefix? := some declared, transSource := kept.get? (declared ++ "trans") },
          kept.erase (declared ++ "trans"))
      | none =>
        let kept := OrderedMap.ofList attributes
        ({ b with
            nsPrefix? := some defaultPrefix, transSource := kept.get? (defaultPrefix ++ "trans") },
          kept.erase (defaultPrefix ++ "trans")) := by
    unfold Builder.capture
    dsimp only
    cases hfound : declaration? attributes <;> rw [declaration?] at hfound <;> rw [hfound]
  rw [hcapture]
  unfold kept transSource nsPrefix undeclared
  cases declaration? attributes <;> rfl

end FirstTag

/-! ## Builders and passages -/

namespace OpenElement

/-- The element with a forest put behind what is already in it. -/
def joined (frame : OpenElement) (f : Forest) : OpenElement :=
  ⟨if f.isNil then frame.head else frame.filled.head, frame.done.join f⟩

theorem joined_nil (frame : OpenElement) : frame.joined .nil = frame := by
  show OpenElement.mk frame.head _ = frame
  rw [Forest.join_nil]

theorem joined_prependText (frame : OpenElement) (content : String) (f : Forest) :
    ({ frame.filled with done := frame.done.appendText content } : OpenElement).joined f =
      frame.joined (f.prependText content) := by
  unfold joined
  rw [Forest.join_appendText, Forest.isNil_prependText]
  cases f.isNil <;> rfl

theorem joined_element (frame : OpenElement) (head : Head) (kids f : Forest) :
    ({ frame.filled with done := frame.done.snoc head kids } : OpenElement).joined f =
      frame.joined (.element head kids f) := by
  unfold joined
  rw [Forest.join_snoc]
  cases f.isNil <;> rfl

end OpenElement

namespace Builder

variable {b b₁ b₂ : Builder}

/-- The builder takes the parts in and goes on as the second one. -/
structure Goes (b : Builder) (events : List BuildEvent) (b' : Builder) : Prop where
  takes : ∀ rest, b.takeAll (events ++ rest) = b'.takeAll rest
  source : b'.source = b.source
  fold : b'.fold = b.fold
  nsPrefix? : b'.nsPrefix? = b.nsPrefix?
  transSource : b'.transSource = b.transSource

theorem Goes.refl (b : Builder) : b.Goes [] b := ⟨fun _ => rfl, rfl, rfl, rfl, rfl⟩

theorem Goes.append {first second : List BuildEvent} (h : b.Goes first b₁)
    (h' : b₁.Goes second b₂) : b.Goes (first ++ second) b₂ where
  takes rest := by rw [List.append_assoc, h.takes, h'.takes]
  source := h'.source.trans h.source
  fold := h'.fold.trans h.fold
  nsPrefix? := h'.nsPrefix?.trans h.nsPrefix?
  transSource := h'.transSource.trans h.transSource

theorem Goes.cons {e : BuildEvent} {events : List BuildEvent} (h : b.Goes [e] b₁)
    (h' : b₁.Goes events b₂) : b.Goes (e :: events) b₂ := h.append h'

/-- A part that is taken in goes no further than its own builder. -/
theorem takeAll_of_ok {e : BuildEvent} (h : (b.take e).1 = .ok ()) (rest : List BuildEvent) :
    b.takeAll (e :: rest) = (b.take e).2.takeAll rest := by
  rw [takeAll]
  generalize b.take e = p at h
  obtain ⟨r, b'⟩ := p
  obtain rfl : r = .ok () := h
  rfl

/-- Where parts are taken in, the first of them is. -/
theorem ok_of_takeAll {e : BuildEvent} {rest : List BuildEvent}
    (h : b.takeAll (e :: rest) = .ok b₁) : (b.take e).1 = .ok () := by
  rw [takeAll] at h
  generalize b.take e = p at h
  obtain ⟨r | ⟨⟨⟩⟩, b'⟩ := p
  · cases h
  · rfl

variable {frame : OpenElement} {outer : List OpenElement} {nsPrefix : String}

/-! ### One part inside of an element -/

theorem goes_text (h : b.Draws (.opened frame outer)) (content : String) (line : Nat) :
    ∃ b', b.Goes [.text content line] b' ∧
      b'.Draws (.opened { frame.filled with done := frame.done.appendText content } outer) ∧
      b'.pending = b.pending ++ content := by
  obtain ⟨hok, hdraws⟩ : (b.take (.text content line)).1 = .ok () ∧ _ :=
    draws_addText h content line
  have hopened : b.opened ≠ [] := by
    intro hnil
    have hempty := opened_isEmpty_of_draws h
    rw [hnil] at hempty
    cases hempty
  obtain ⟨i, ids, hids⟩ := List.exists_cons_of_ne_nil hopened
  refine ⟨_, ⟨takeAll_of_ok hok, ?_, ?_, ?_, ?_⟩, hdraws, ?_⟩ <;>
    rw [take, addText, hids]

theorem goes_closing (h : b.Draws (.opened frame outer)) (offset line : Nat) :
    ∃ b', b.Goes [.closing offset line] b' ∧
      b'.Draws ((Outline.opened frame outer).close b.fold (endsInSlash b.source offset)) ∧
      b'.pending = b.pending := by
  obtain ⟨hok, hdraws⟩ : (b.take (.closing offset line)).1 = .ok () ∧ _ :=
    draws_closeElement h offset line
  obtain ⟨hsource, hns, htrans, hpending, hfold⟩ := closeElement_same b offset line
  exact ⟨_, ⟨takeAll_of_ok hok, hsource, hfold, hns, htrans⟩, hdraws, hpending⟩

/-- Inside of an element the namespace is known, and nothing is taken from the attributes. -/
theorem take_opening (h : b.Draws (.opened frame outer)) (hns : b.nsPrefix? = some nsPrefix)
    (tag : String) (attributes : List (String × String)) (line : Nat) :
    b.take (.opening tag attributes line) =
      match missing? (Directive.ofTag? nsPrefix tag) (.ofList attributes) with
      | some name => (.error (.requiredAttribute tag name line ""), b)
      | none =>
        (.ok (), b.addNode tag (.ofList attributes) line (Directive.ofTag? nsPrefix tag)) := by
  have hinformed : b.informed (.ofList attributes) = (b, .ofList attributes) := by
    rw [informed, hns]
    rfl
  have hprefix : b.nsPrefix = nsPrefix := by rw [Builder.nsPrefix, hns]; rfl
  have hopened : b.opened.isEmpty = false := opened_isEmpty_of_draws h
  rw [take, openElement_eq, hinformed, hprefix, hopened]
  exact if_neg fun hboth => Bool.noConfusion hboth.1

theorem goes_opening (h : b.Draws (.opened frame outer)) (hns : b.nsPrefix? = some nsPrefix)
    {tag : String} {attributes : List (String × String)}
    (hgiven : Suffices nsPrefix tag attributes) (line : Nat) :
    ∃ b', b.Goes [.opening tag attributes line] b' ∧
      b'.Draws (.opened
        ⟨.opening nsPrefix b.pending tag (OrderedMap.distinct_ofList attributes) line, .nil⟩
        (frame.filled :: outer)) ∧
      b'.pending = "" := by
  have htake := take_opening h hns tag attributes line
  rw [missing?_ofList.2 hgiven] at htake
  have hprefix : b.nsPrefix = nsPrefix := by rw [Builder.nsPrefix, hns]; rfl
  refine ⟨b.addNode tag (.ofList attributes) line (Directive.ofTag? nsPrefix tag),
    ⟨fun rest => ?_, rfl, rfl, rfl, rfl⟩, ?_, rfl⟩
  · rw [List.singleton_append, takeAll_of_ok (by rw [htake]), htake]
  · have hdraws : (b.addNode tag (.ofList attributes) line _).Draws _ :=
      draws_addNode h rfl (OrderedMap.distinct_ofList attributes) line
        (Directive.ofTag? nsPrefix tag)
    rw [headOf, hprefix] at hdraws
    exact hdraws

/-! ### Passages -/

/-- An element that was opened and holds a forest by now closes as it should. -/
theorem ended_joined (source : List Char) (before tag : String) {attributes : OrderedMap String}
    (distinct : attributes.Distinct) (line : Nat) (kids : Forest) (offset : Nat) :
    (OpenElement.joined ⟨.opening nsPrefix before tag distinct line, .nil⟩ kids).ended
        (endsInSlash source offset) =
      .closing source nsPrefix before tag distinct line kids offset := by
  unfold OpenElement.ended OpenElement.joined Head.closing Forest.join
  cases kids.isNil <;> rfl

/-- **A builder inside of an element takes a passage in**: the forest of the passage is then behind
what was in the element. -/
theorem goes_passage (p : Passage) {b : Builder} {frame : OpenElement} {outer : List OpenElement}
    (h : b.Draws (.opened frame outer)) (hkeeps : b.fold = false)
    (hns : b.nsPrefix? = some nsPrefix) (hgiven : p.Suffices nsPrefix) :
    ∃ b', b.Goes p.events b' ∧
      b'.Draws (.opened (frame.joined (p.forest b.source nsPrefix b.pending)) outer) ∧
      b'.pending = p.lastText b.pending := by
  induction p generalizing b frame outer with
  | nil =>
    refine ⟨b, .refl b, ?_, rfl⟩
    rw [Passage.forest, OpenElement.joined_nil]
    exact h
  | text content line rest ih =>
    obtain ⟨b₁, hgoes₁, hdraws₁, hpending₁⟩ := goes_text h content line
    obtain ⟨b₂, hgoes₂, hdraws₂, hpending₂⟩ := ih hdraws₁ (hgoes₁.fold.trans hkeeps)
      (hgoes₁.nsPrefix?.trans hns) hgiven
    rw [OpenElement.joined_prependText, hpending₁, hgoes₁.source] at hdraws₂
    rw [hpending₁] at hpending₂
    exact ⟨b₂, hgoes₁.cons hgoes₂, hdraws₂, hpending₂⟩
  | element tag attributes line inside offset closed rest ihinside ihrest =>
    obtain ⟨hroot, hinside, hrest⟩ := hgiven
    obtain ⟨b₁, hgoes₁, hdraws₁, hpending₁⟩ := goes_opening h hns hroot line
    obtain ⟨b₂, hgoes₂, hdraws₂, hpending₂⟩ := ihinside hdraws₁ (hgoes₁.fold.trans hkeeps)
      (hgoes₁.nsPrefix?.trans hns) hinside
    obtain ⟨b₃, hgoes₃, hdraws₃, hpending₃⟩ := goes_closing hdraws₂ offset closed
    have hgoes := hgoes₁.cons (hgoes₂.append hgoes₃)
    -- once it is closed, the element is one more child of the one around it
    have hclosed : b₃.Draws (.opened { frame.filled with
        done := frame.done.snoc
          (.closing b.source nsPrefix b.pending tag (OrderedMap.distinct_ofList attributes) line
            (inside.forest b.source nsPrefix "") offset)
          (inside.forest b.source nsPrefix "") } outer) := by
      rw [hgoes₂.fold, hgoes₁.fold, hkeeps, hgoes₂.source, hgoes₁.source, hpending₁] at hdraws₃
      rw [← ended_joined]
      exact hdraws₃
    obtain ⟨b₄, hgoes₄, hdraws₄, hpending₄⟩ := ihrest hclosed (hgoes.fold.trans hkeeps)
      (hgoes.nsPrefix?.trans hns) hrest
    have hpending : b₃.pending = inside.lastText "" := by
      rw [hpending₃, hpending₂, hpending₁]
    rw [OpenElement.joined_element, hgoes.source, hpending] at hdraws₄
    rw [hpending] at hpending₄
    refine ⟨b₄, ?_, hdraws₄, hpending₄⟩
    have hevents := hgoes.append hgoes₄
    rw [List.cons_append, List.append_assoc, List.singleton_append] at hevents
    exact hevents

/-- **What is taken in up to the closing tag of an element is a passage.** -/
theorem exists_passage (events : List BuildEvent) {b last : Builder} {frame : OpenElement}
    {outer : List OpenElement} (h : b.Draws (.opened frame outer)) (hkeeps : b.fold = false)
    (hns : b.nsPrefix? = some nsPrefix) (htaken : b.takeAll events = .ok last)
    (hlast : last.opened = []) :
    ∃ (p : Passage) (offset line : Nat) (rest : List BuildEvent),
      p.Suffices nsPrefix ∧ events = p.events ++ .closing offset line :: rest := by
  -- a passage inside of another one is shorter, and so is what comes behind it
  induction hlength : events.length using Nat.strongRecOn generalizing events b frame outer with
  | ind n ih =>
    subst hlength
    cases events with
    | nil =>
      cases htaken
      have hopened := opened_isEmpty_of_draws h
      rw [hlast] at hopened
      cases hopened
    | cons e events =>
      cases e with
      | closing offset line => exact ⟨.nil, offset, line, events, trivial, rfl⟩
      | text content line =>
        obtain ⟨b₁, hgoes, hdraws, -⟩ := goes_text h content line
        have htaken₁ : b₁.takeAll events = .ok last := (hgoes.takes events).symm.trans htaken
        obtain ⟨p, offset, closed, rest, hgiven, hevents⟩ := ih _ (Nat.lt_succ_self _) events hdraws
          (hgoes.fold.trans hkeeps) (hgoes.nsPrefix?.trans hns) htaken₁ rfl
        exact ⟨.text content line p, offset, closed, rest, hgiven, congrArg _ hevents⟩
      | opening tag attributes line =>
        have hroot : Suffices nsPrefix tag attributes := by
          have hok := ok_of_takeAll htaken
          rw [take_opening h hns] at hok
          rw [← missing?_ofList]
          split at hok
          · cases hok
          · assumption
        obtain ⟨b₁, hgoes₁, hdraws₁, -⟩ := goes_opening h hns hroot line
        have htaken₁ : b₁.takeAll events = .ok last := (hgoes₁.takes events).symm.trans htaken
        -- first what is inside of the element, up to the tag that closes it
        obtain ⟨inside, offset, closed, middle, hinside, hevents⟩ :=
          ih _ (Nat.lt_succ_self _) events
          hdraws₁ (hgoes₁.fold.trans hkeeps) (hgoes₁.nsPrefix?.trans hns) htaken₁ rfl
        obtain ⟨b₂, hgoes₂, hdraws₂, -⟩ := goes_passage inside hdraws₁ (hgoes₁.fold.trans hkeeps)
          (hgoes₁.nsPrefix?.trans hns) hinside
        obtain ⟨b₃, hgoes₃, hdraws₃, -⟩ := goes_closing hdraws₂ offset closed
        have hgoes := hgoes₁.cons (hgoes₂.append hgoes₃)
        have htaken₃ : b₃.takeAll middle = .ok last := by
          rw [← htaken, ← hgoes.takes middle, hevents, List.cons_append, List.append_assoc]
          rfl
        -- then what is behind the element, up to the tag that closes the one around it
        have hshorter :
            middle.length < (BuildEvent.opening tag attributes line :: events).length := by
          rw [hevents]
          simp only [List.length_cons, List.length_append]
          omega
        obtain ⟨p, offset', closed', rest, hgiven, hmiddle⟩ := ih _ hshorter middle hdraws₃
          (hgoes.fold.trans hkeeps) (hgoes.nsPrefix?.trans hns) htaken₃ rfl
        refine ⟨.element tag attributes line inside offset closed p, offset', closed', rest,
          ⟨hroot, hinside, hgiven⟩, ?_⟩
        rw [hevents, hmiddle, Passage.events, List.cons_append, List.append_assoc]
        rfl

/-! ### The root -/

/-- The builder that knows what the first tag says of the document. -/
def knowing (source : List Char) (attributes : List (String × String)) : Builder :=
  { start source false with
    nsPrefix? := some (FirstTag.nsPrefix attributes)
    transSource := FirstTag.transSource attributes }

theorem take_root (source : List Char) (tag : String) (attributes : List (String × String))
    (line : Nat) :
    (start source false).take (.opening tag attributes line) =
      match missing? (Directive.ofTag? (FirstTag.nsPrefix attributes) tag)
          (FirstTag.kept attributes) with
      | some name => (.error (.requiredAttribute tag name line ""), knowing source attributes)
      | none => (.ok (), (knowing source attributes).addNode tag (FirstTag.kept attributes) line
          (Directive.ofTag? (FirstTag.nsPrefix attributes) tag)) := by
  have hinformed : (start source false).informed (.ofList attributes) =
      (knowing source attributes, FirstTag.kept attributes) :=
    FirstTag.capture_eq (start source false) attributes
  rw [take, openElement_eq, hinformed]
  rfl

/-- The first tag of all opens the root. -/
theorem takeAll_root (source : List Char) {tag : String} {attributes : List (String × String)}
    (hgiven : Suffices (FirstTag.nsPrefix attributes) tag attributes) (line : Nat) :
    ∃ b : Builder,
      (∀ rest, (start source false).takeAll (.opening tag attributes line :: rest) =
        b.takeAll rest) ∧
      b.source = source ∧ b.fold = false ∧ b.nsPrefix? = some (FirstTag.nsPrefix attributes) ∧
      b.transSource = FirstTag.transSource attributes ∧ b.pending = "" ∧
      b.Draws (.opened
        ⟨.opening (FirstTag.nsPrefix attributes) "" tag (FirstTag.distinct_kept attributes) line,
          .nil⟩ []) := by
  have htake := take_root source tag attributes line
  rw [FirstTag.missing?_kept.2 hgiven] at htake
  have hknowing : (knowing source attributes).Draws .empty := ⟨rfl, rfl, rfl⟩
  have hdraws : ((knowing source attributes).addNode tag _ line _).Draws _ :=
    draws_addNode hknowing rfl (FirstTag.distinct_kept attributes) line
      (Directive.ofTag? (FirstTag.nsPrefix attributes) tag)
  refine ⟨_, fun rest => ?_, rfl, rfl, rfl, rfl, rfl, hdraws⟩
  rw [takeAll_of_ok (by rw [htake]), htake]

/-- The root with all that is inside of it. -/
theorem takeAll_element (source : List Char) {tag : String} {attributes : List (String × String)}
    (hgiven : Suffices (FirstTag.nsPrefix attributes) tag attributes) (line : Nat)
    {inside : Passage} (hinside : inside.Suffices (FirstTag.nsPrefix attributes))
    (offset closed : Nat) :
    ∃ b : Builder,
      (∀ rest, (start source false).takeAll (.opening tag attributes line ::
        (inside.events ++ .closing offset closed :: rest)) = b.takeAll rest) ∧
      b.nsPrefix? = some (FirstTag.nsPrefix attributes) ∧
      b.transSource = FirstTag.transSource attributes ∧
      b.Draws (.closed (Forest.element
        (.closing source (FirstTag.nsPrefix attributes) "" tag (FirstTag.distinct_kept attributes)
          line (inside.forest source (FirstTag.nsPrefix attributes) "") offset)
        (inside.forest source (FirstTag.nsPrefix attributes) "") .nil)) := by
  obtain ⟨b₁, htakes, hsource, hkeeps, hns, htrans, hpending, hdraws₁⟩ :=
    takeAll_root source hgiven line
  obtain ⟨b₂, hgoes₂, hdraws₂, -⟩ := goes_passage inside hdraws₁ hkeeps hns hinside
  obtain ⟨b₃, hgoes₃, hdraws₃, -⟩ := goes_closing hdraws₂ offset closed
  have hgoes := hgoes₂.append hgoes₃
  refine ⟨b₃, fun rest => ?_, hgoes.nsPrefix?.trans hns, hgoes.transSource.trans htrans, ?_⟩
  · rw [htakes, ← hgoes.takes, List.append_assoc]
    rfl
  · rw [hgoes₂.fold, hkeeps, hgoes₂.source, hsource, hpending] at hdraws₃
    rw [← ended_joined]
    exact hdraws₃

/-- A document ends with nothing open and with a root. -/
theorem finish_eq_ok {sourcePath : String} {line : Nat} {t : Template}
    (h : b.finish sourcePath line = .ok t) : b.opened = [] ∧ b.root.isSome = true := by
  unfold finish at h
  split at h
  · cases h
  · rename_i hopened
    split at h
    · cases h
    · rename_i hroot
      constructor
      · simpa using hopened
      · simpa [Option.isSome_iff_ne_none] using hroot

/-- Blanks around the root change nothing. -/
theorem goes_blanks (h : b.opened = []) {texts : List (String × Nat)}
    (hblank : ∀ t ∈ texts, allBlank t.1.toList = true) : b.Goes (texts.map .ofText) b := by
  induction texts with
  | nil => exact .refl b
  | cons t texts ih =>
    obtain ⟨hfirst, hothers⟩ := List.forall_mem_cons.1 hblank
    have htake : b.take (.ofText t) = (.ok (), b) := by
      rw [BuildEvent.ofText, take, addText, h]
      exact if_pos hfirst
    have hgoes : b.Goes [.ofText t] b := by
      refine ⟨fun rest => ?_, rfl, rfl, rfl, rfl⟩
      rw [List.singleton_append, takeAll_of_ok (by rw [htake]), htake]
    exact hgoes.cons (ih hothers)

/-- Around the root only blanks are taken in, up to an opening tag. -/
theorem exists_blanks (events : List BuildEvent) {last : Builder} (h : b.opened = [])
    (htaken : b.takeAll events = .ok last) :
    ∃ texts : List (String × Nat), (∀ t ∈ texts, allBlank t.1.toList = true) ∧
      (events = texts.map .ofText ∨ ∃ tag attributes line rest,
        events = texts.map .ofText ++ .opening tag attributes line :: rest) := by
  induction events with
  | nil => exact ⟨[], nofun, .inl rfl⟩
  | cons e events ih =>
    have hok := ok_of_takeAll htaken
    -- without an open element blank text is passed over, a closing tag and any other text are
    -- refused
    cases e with
    | opening tag attributes line => exact ⟨[], nofun, .inr ⟨tag, attributes, line, events, rfl⟩⟩
    | closing offset line =>
      rw [take, closeElement_nil h] at hok
      cases hok
    | text content line =>
      have hblank : allBlank content.toList = true := by
        rw [take, addText, h] at hok
        by_contra hnot
        dsimp only at hok
        rw [if_neg hnot] at hok
        cases hok
      have hgoes : b.Goes [.text content line] b :=
        @goes_blanks b h [(content, line)] (List.forall_mem_singleton.2 hblank)
      obtain ⟨texts, hblanks, hevents⟩ := ih ((hgoes.takes events).symm.trans htaken)
      refine ⟨(content, line) :: texts, List.forall_mem_cons.2 ⟨hblank, hblanks⟩, ?_⟩
      rcases hevents with rfl | ⟨tag, attributes, line', rest, rfl⟩
      · exact .inl rfl
      · exact .inr ⟨tag, attributes, line', rest, rfl⟩

end Builder

/-! ## The parts say what the tree is -/

theorem Passage.eq_of_events {p q : Passage} {offset offset' line line' : Nat}
    {rest rest' : List BuildEvent}
    (h : p.events ++ .closing offset line :: rest = q.events ++ .closing offset' line' :: rest') :
    p = q ∧ offset = offset' ∧ line = line' ∧ rest = rest' := by
  induction p generalizing q offset offset' line line' rest rest' with
  | nil =>
    -- the first event tells which kind of passage it is the beginning of
    cases q with
    | nil =>
      cases h
      exact ⟨rfl, rfl, rfl, rfl⟩
    | text => cases h
    | element => cases h
  | text content first more ih =>
    cases q with
    | nil => cases h
    | text content' first' more' =>
      obtain ⟨hevent, hmore⟩ := List.cons.inj h
      cases hevent
      obtain ⟨rfl, hrest⟩ := ih hmore
      exact ⟨rfl, hrest⟩
    | element => cases h
  | element tag attributes first inside last closed more ihinside ihmore =>
    cases q with
    | nil => cases h
    | text => cases h
    | element tag' attributes' first' inside' last' closed' more' =>
      rw [events, events, List.cons_append, List.cons_append, List.append_assoc,
        List.append_assoc] at h
      obtain ⟨hevent, hmore⟩ := List.cons.inj h
      cases hevent
      obtain ⟨rfl, rfl, rfl, hbehind⟩ := ihinside hmore
      obtain ⟨rfl, hrest⟩ := ihmore hbehind
      exact ⟨rfl, hrest⟩

theorem BuildEvent.ofText_injective : Function.Injective BuildEvent.ofText := by
  rintro ⟨content, line⟩ ⟨content', line'⟩ h
  cases h
  rfl

theorem BuildEvent.eq_of_ofText {texts texts' : List (String × Nat)} {tag tag' : String}
    {attributes attributes' : List (String × String)} {line line' : Nat}
    {rest rest' : List BuildEvent}
    (h : texts.map .ofText ++ .opening tag attributes line :: rest =
      texts'.map .ofText ++ .opening tag' attributes' line' :: rest') :
    texts = texts' ∧ tag = tag' ∧ attributes = attributes' ∧ line = line' ∧ rest = rest' := by
  induction texts generalizing texts' with
  | nil =>
    cases texts' with
    | nil =>
      cases h
      exact ⟨rfl, rfl, rfl, rfl, rfl⟩
    | cons => cases h
  | cons t texts ih =>
    cases texts' with
    | nil => cases h
    | cons t' texts' =>
      obtain ⟨hevent, hrest⟩ := List.cons.inj h
      obtain rfl := ofText_injective hevent
      obtain ⟨rfl, hothers⟩ := ih hrest
      exact ⟨rfl, hothers⟩

/-- The parts in order say what the tree is. -/
theorem Manuscript.events_injective : Function.Injective Manuscript.events := by
  rintro ⟨before, tag, attributes, line, inside, offset, closed, after⟩
    ⟨before', tag', attributes', line', inside', offset', closed', after'⟩ h
  obtain ⟨rfl, rfl, rfl, rfl, hinside⟩ := BuildEvent.eq_of_ofText h
  obtain ⟨rfl, rfl, rfl, hafter⟩ := Passage.eq_of_events hinside
  obtain rfl := List.map_injective_iff.2 BuildEvent.ofText_injective hafter
  rfl

/-! ## Documents that are built -/

namespace Manuscript

variable {m : Manuscript}

/-- The template is the document: its elements, numbered in document order, and what its first tag
says of all of it. -/
structure IsRead (m : Manuscript) (source : List Char) (sourcePath : String) (t : Template) :
    Prop where
  sourcePath : t.sourcePath = sourcePath
  nsPrefix : t.nsPrefix = FirstTag.nsPrefix m.attributes
  transSource : t.transSource = FirstTag.transSource m.attributes
  root : t.tree.root = some (.node 0)
  reads : Reads t.tree.nodes none 0 [.node 0] (m.forest source) t.tree.nodes.length

/-- A well-formed document is built. -/
theorem build_of_wellFormed (h : m.WellFormed) (source : List Char) (sourcePath : String)
    (line : Nat) : ∃ t, Template.build source false m.events sourcePath line = .ok t ∧
      m.IsRead source sourcePath t := by
  obtain ⟨hbefore, hafter⟩ := List.forall_mem_append.1 h.blank
  obtain ⟨b, htakes, hns, htrans, hdraws⟩ := Builder.takeAll_element source h.root m.line h.inside
    m.offset m.closed
  obtain ⟨hopened, c, hroot, hreads⟩ := hdraws
  have htaken : (Builder.start source false).takeAll m.events = .ok b := by
    rw [events, (Builder.goes_blanks rfl hbefore).takes, htakes]
    have hrest := (Builder.goes_blanks hopened hafter).takes []
    rw [List.append_nil] at hrest
    exact hrest
  refine ⟨⟨sourcePath, b.nsPrefix, b.transSource, ⟨b.nodes, b.root⟩⟩, ?_, ?_⟩
  · rw [Template.build, htaken]
    show b.finish sourcePath line = _
    rw [Builder.finish, hopened, hroot]
    rfl
  · have hc : c = .node 0 := by
      cases hreads
      rfl
    rw [hc] at hroot hreads
    refine ⟨rfl, ?_, htrans, hroot, hreads⟩
    show b.nsPrefix = _
    rw [Builder.nsPrefix, hns]
    rfl

/-- What is built is a well-formed document. -/
theorem exists_wellFormed {source : List Char} {events : List BuildEvent} {sourcePath : String}
    {line : Nat} {t : Template} (h : Template.build source false events sourcePath line = .ok t) :
    ∃ m : Manuscript, m.WellFormed ∧ m.events = events := by
  obtain ⟨last, htaken, hfinish⟩ := bind_eq_ok h
  obtain ⟨hlast, hlastRoot⟩ := Builder.finish_eq_ok hfinish
  obtain ⟨before, hbefore, hevents⟩ := Builder.exists_blanks events rfl htaken
  have hblanks : (Builder.start source false).Goes (before.map .ofText) _ :=
    Builder.goes_blanks rfl hbefore
  -- without an outermost element the reading cannot be finished
  rcases hevents with rfl | ⟨tag, attributes, first, rest, rfl⟩
  · have hstart := hblanks.takes []
    rw [List.append_nil, htaken] at hstart
    cases hstart
    cases hlastRoot
  · rw [hblanks.takes] at htaken
    have hgiven : Suffices (FirstTag.nsPrefix attributes) tag attributes := by
      have hok := Builder.ok_of_takeAll htaken
      rw [Builder.take_root] at hok
      rw [← FirstTag.missing?_kept]
      split at hok
      · cases hok
      · assumption
    obtain ⟨b₁, htakes₁, hsource, hkeeps, hns, -, -, hdraws₁⟩ :=
      Builder.takeAll_root source hgiven first
    obtain ⟨inside, offset, closed, behind, hinside, rfl⟩ := Builder.exists_passage rest hdraws₁
      hkeeps hns ((htakes₁ rest).symm.trans htaken) hlast
    obtain ⟨b, htakes, -, -, hdraws⟩ := Builder.takeAll_element source hgiven first hinside offset
      closed
    rw [htakes] at htaken
    obtain ⟨hopened, c, hroot, -⟩ := hdraws
    obtain ⟨after, hafter, rfl | ⟨tag', attributes', line', more, rfl⟩⟩ :=
      Builder.exists_blanks behind hopened htaken
    · exact ⟨⟨before, tag, attributes, first, inside, offset, closed, after⟩,
        ⟨List.forall_mem_append.2 ⟨hbefore, hafter⟩, hgiven, hinside⟩, rfl⟩
    · rw [(Builder.goes_blanks hopened hafter).takes] at htaken
      have hok := Builder.ok_of_takeAll htaken
      rw [Builder.take, Builder.openElement_eq, hopened, hroot, if_pos ⟨rfl, rfl⟩] at hok
      cases hok

end Manuscript

/-- **Without folding, the parts that a template is built from are exactly those of one well-formed
document, and the template is that document.** -/
theorem build_succeeds_iff (source : List Char) (events : List BuildEvent) (sourcePath : String)
    (line : Nat) :
    ((∃ t, Template.build source false events sourcePath line = .ok t) ↔
      ∃! m : Manuscript, m.WellFormed ∧ m.events = events) ∧
    ∀ m : Manuscript, m.WellFormed → m.events = events →
      ∃ t, Template.build source false events sourcePath line = .ok t ∧
        m.IsRead source sourcePath t := by
  have hbuilt : ∀ m : Manuscript, m.WellFormed → m.events = events →
      ∃ t, Template.build source false events sourcePath line = .ok t ∧
        m.IsRead source sourcePath t := by
    rintro m hm rfl
    exact Manuscript.build_of_wellFormed hm source sourcePath line
  refine ⟨⟨?_, ?_⟩, hbuilt⟩
  · rintro ⟨t, ht⟩
    obtain ⟨m, hm, hevents⟩ := Manuscript.exists_wellFormed ht
    refine ⟨m, ⟨hm, hevents⟩, ?_⟩
    rintro m' ⟨-, hevents'⟩
    exact Manuscript.events_injective (hevents'.trans hevents.symm)
  · rintro ⟨m, ⟨hm, hevents⟩, -⟩
    obtain ⟨t, ht, -⟩ := hbuilt m hm hevents
    exact ⟨t, ht⟩

end TagTemplate
