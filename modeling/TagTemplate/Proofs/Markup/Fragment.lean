import TagTemplate.Markup.Event
import TagTemplate.Proofs.Markup.Attributes

/-!
# Documents written out and cut up again

A `Fragment` is what may stand inside of an element: texts, references and elements. Written out
and cut into events, it gives the events that it should.

- `isName`: the names of XML, none of which holds a character that markup is made with;
- `Fragment.write`, `Fragment.events`: a fragment as text, and the events it stands for;
- `Cursor.Yields`: the events from one cursor to another;
- `Balanced`: text without a `>` outside of quotes, which a tag does not end in;
- `yields_fragment`, `events_write`: **a fragment that is written is cut into its events**.
-/

namespace TagTemplate.Markup

open TagTemplate.Text

/-! ## Names -/

/-- What a name may begin with. -/
def nameStartRanges : List (Nat × Nat) :=
  [(0x3A, 0x3A), (0x41, 0x5A), (0x5F, 0x5F), (0x61, 0x7A), (0xC0, 0xD6), (0xD8, 0xF6),
   (0xF8, 0x2FF), (0x370, 0x37D), (0x37F, 0x1FFF), (0x200C, 0x200D), (0x2070, 0x218F),
   (0x2C00, 0x2FEF), (0x3001, 0xD7FF), (0xF900, 0xFDCF), (0xFDF0, 0xFFFD), (0x10000, 0xEFFFF)]

/-- What a name may go on with. -/
def nameRanges : List (Nat × Nat) :=
  nameStartRanges ++ [(0x2D, 0x2E), (0x30, 0x39), (0xB7, 0xB7), (0x300, 0x36F), (0x203F, 0x2040)]

/-- The text is a name as XML has it. -/
def isName : List Char → Bool
  | [] => false
  | c :: cs => inRanges nameStartRanges c && cs.all (inRanges nameRanges)

/-- The characters that markup is made with. -/
def marks : List Char :=
  ['<', '>', '&', ';', '=', '/', '!', '?', '\'', '"', ' ', '\t', '\r', '\n']

/-- A name is made of the characters that a name may go on with. -/
theorem inRanges_of_name {name : List Char} (h : isName name = true) :
    ∀ c ∈ name, inRanges nameRanges c = true := by
  cases name with
  | nil => exact nofun
  | cons c cs =>
    obtain ⟨hfirst, hrest⟩ := (Bool.and_eq_true _ _).mp h
    refine List.forall_mem_cons.2 ⟨?_, List.all_eq_true.1 hrest⟩
    rw [inRanges_iff] at hfirst ⊢
    obtain ⟨r, hr, hc⟩ := hfirst
    exact ⟨r, List.mem_append_left _ hr, hc⟩

/-- No name holds a character that markup is made with. -/
theorem notMem_marks {name : List Char} (h : isName name = true) : ∀ c ∈ name, c ∉ marks := by
  have hmarks : marks.any (inRanges nameRanges) = false := by decide
  intro c hc hmark
  exact List.any_eq_false.1 hmarks c hmark (inRanges_of_name h c hc)

theorem isMarkupBlank_of_name {name : List Char} (h : isName name = true) :
    ∀ c ∈ name, isMarkupBlank c = false := by
  intro c hc
  have hmark := notMem_marks h c hc
  refine Bool.eq_false_iff.2 fun hblank => ?_
  simp only [isMarkupBlank, Bool.or_eq_true, decide_eq_true_eq] at hblank
  rcases hblank with ((rfl | rfl) | rfl) | rfl <;> exact hmark (by decide)

theorem isKey_of_name {name : List Char} (h : isName name = true) : IsKey name := by
  refine ⟨?_, fun c hc => ⟨?_, isMarkupBlank_of_name h c hc⟩⟩
  · rintro rfl
    cases h
  · rintro rfl
    exact notMem_marks h '=' hc (by decide)

/-- A name does not end in a slash. -/
theorem name_ne_slash {name : List Char} (h : isName name = true) (cs : List Char) :
    name ≠ cs ++ ['/'] := by
  rintro rfl
  exact notMem_marks h '/' (List.mem_append_right cs List.mem_cons_self) (by decide)

/-! ## Fragments -/

/-- What an element says of itself: its tag, its attributes, and whether it is written as a tag that
closes itself. -/
structure Element where
  tag : String
  attributes : List (String × String)
  selfClosing : Bool

namespace Element

/-- Tag and attributes have names, and no two attributes the same. -/
structure WellFormed (e : Element) : Prop where
  tag : isName e.tag.toList = true
  keys : ∀ entry ∈ e.attributes, isName entry.1.toList = true
  distinct : (e.attributes.map Prod.fst).Nodup

/-- The tag as it is read. -/
def raw (e : Element) : Tag := ⟨e.tag.toList, writeAttributes e.attributes⟩

/-- The tag with its attributes. -/
def content (e : Element) : List Char := e.tag.toList ++ writeAttributes e.attributes

/-- The opening tag. -/
def opening (e : Element) : List Char := '<' :: (e.content ++ ['>'])

/-- The tag of an element that closes itself. -/
def empty (e : Element) : List Char := '<' :: (e.content ++ ['/'] ++ ['>'])

/-- The closing tag. -/
def closing (e : Element) : List Char := '<' :: '/' :: (e.tag.toList ++ ['>'])

/-- The element around what is inside of it. -/
def write (e : Element) (inside : List Char) : List Char :=
  if e.selfClosing then e.empty else e.opening ++ (inside ++ e.closing)

end Element

/-- What stands inside of an element. -/
inductive Fragment where
  | nil
  | text (content : String) (rest : Fragment)
  | reference (name : String) (rest : Fragment)
  | element (e : Element) (inside rest : Fragment)

namespace Fragment

/-- The fragment as text. -/
def write : Fragment → List Char
  | nil => []
  | text content rest => content.toList ++ rest.write
  | reference name rest => '&' :: (name.toList ++ [';']) ++ rest.write
  | element e inside rest => e.write inside.write ++ rest.write

/-- Texts and references hold nothing that ends them, and nothing is inside of an element that
closes itself. -/
def WellFormed : Fragment → Prop
  | nil => True
  | text content rest => (∀ c ∈ content.toList, c ≠ '<' ∧ c ≠ '&') ∧ rest.WellFormed
  | reference name rest =>
    (∀ c ∈ name.toList, c ≠ ';' ∧ c ≠ '&' ∧ c ≠ '<') ∧ rest.WellFormed
  | element e inside rest =>
    e.WellFormed ∧ (e.selfClosing = true → inside = nil) ∧ inside.WellFormed ∧ rest.WellFormed

/-- Nothing is written inside of an element that closes itself. -/
theorem write_of_selfClosing {e : Element} {inside : Fragment}
    (h : e.selfClosing = true → inside = nil) (hself : e.selfClosing = true) :
    inside.write = [] := by
  rw [h hself]
  rfl

end Fragment

/-! ## The events of a fragment -/

/-- The event that is written as a text at a byte offset. -/
def Event.over (event : Event) (offset : Nat) (written : List Char) : Located :=
  ⟨event, offset, offset + byteLength written⟩

/-- The event of a text, unless there is none. -/
def textEvents (offset : Nat) (content : List Char) : List Located :=
  if content = [] then [] else [(Event.text content).over offset content]

/-- The events of an element at a byte offset around those of what is inside of it. -/
def Element.events (e : Element) (offset : Nat) (body : List Char) (inside : List Located) :
    List Located :=
  if e.selfClosing then [(Event.empty e.raw).over offset e.empty]
  else
    (Event.start e.raw).over offset e.opening ::
      (inside ++ [Event.stop.over (offset + byteLength (e.opening ++ body)) e.closing])

/-- The events of a fragment at a byte offset. The characters `run` stand in front of it and were
not taken by an event yet, since a text goes on up to a mark. -/
def Fragment.events (run : List Char) (offset : Nat) : Fragment → List Located
  | nil => textEvents offset run
  | text content rest => rest.events (run ++ content.toList) offset
  | reference name rest =>
    let first := offset + byteLength run
    let written := '&' :: (name.toList ++ [';'])
    textEvents offset run ++
      ([(Event.reference name.toList).over first written] ++
        rest.events [] (first + byteLength written))
  | element e inside rest =>
    let first := offset + byteLength run
    textEvents offset run ++
      (e.events first inside.write (inside.events [] (first + byteLength e.opening)) ++
        rest.events [] (first + byteLength (e.write inside.write)))

/-! ## From cursor to cursor -/

/-- From the first cursor on the events are these, then those from the second one on. Each of them
takes a character. -/
structure Cursor.Yields (c : Cursor) (es : List Located) (c' : Cursor) : Prop where
  events : ∀ fuel, eventsFrom (es.length + fuel) c =
    (es ++ (eventsFrom fuel c').1, (eventsFrom fuel c').2)
  length : es.length + c'.rest.length ≤ c.rest.length

namespace Cursor

variable {c c₁ c₂ : Cursor}

theorem Yields.refl (c : Cursor) : c.Yields [] c where
  events fuel := by
    rw [List.length_nil, Nat.zero_add]
    rfl
  length := by rw [List.length_nil, Nat.zero_add]

theorem Yields.append {es es' : List Located} (h : c.Yields es c₁) (h' : c₁.Yields es' c₂) :
    c.Yields (es ++ es') c₂ where
  events fuel := by
    rw [List.length_append, Nat.add_assoc, h.events, h'.events, List.append_assoc]
  length := by
    have := h.length
    have := h'.length
    rw [List.length_append]
    omega

/-- One event that was read. -/
theorem yields_read {first : Char} {cs : List Char} {offset : Nat} {opened : List (List Char)}
    {e : Located} (hread : Cursor.read ⟨first :: cs, offset, opened⟩ first cs = .ok (e, c))
    (hlength : c.rest.length ≤ cs.length) : Cursor.Yields ⟨first :: cs, offset, opened⟩ [e] c where
  events fuel := by
    rw [List.length_singleton, Nat.add_comm, eventsFrom]
    dsimp only
    rw [hread]
    rfl
  length := by
    rw [List.length_singleton, List.length_cons]
    omega

end Cursor

/-! ## Texts and references -/

/-- Nothing comes, or a mark that ends a text. -/
def Stops (rest : List Char) : Prop := ∀ d ∈ rest.head?, d = '<' ∨ d = '&'

variable {offset : Nat} {opened : List (List Char)}

theorem yields_text {run : List Char} (hrun : ∀ c ∈ run, c ≠ '<' ∧ c ≠ '&') {rest : List Char}
    (hrest : Stops rest) :
    Cursor.Yields ⟨run ++ rest, offset, opened⟩ (textEvents offset run)
      ⟨rest, offset + byteLength run, opened⟩ := by
  cases run with
  | nil => exact .refl _
  | cons c run =>
    obtain ⟨hopen, hamp⟩ := hrun c List.mem_cons_self
    -- text goes on up to a tag or a reference
    have hspan : (c :: run ++ rest).span (fun d => d ≠ '<' && d ≠ '&') = (c :: run, rest) := by
      refine span_append (fun d hd => ?_) (fun d hd => ?_)
      · obtain ⟨hd, hd'⟩ := hrun d hd
        simp [hd, hd']
      · rcases hrest d hd with rfl | rfl <;> rfl
    show Cursor.Yields ⟨c :: (run ++ rest), offset, opened⟩ _ _
    refine Cursor.yields_read ?_ ?_
    · rw [List.cons_append] at hspan
      unfold Cursor.read
      rw [if_neg hopen, if_neg hamp, hspan]
      rfl
    · rw [List.length_append]
      exact Nat.le_add_left ..

theorem byteLength_between {first last : Char} (hfirst : first.utf8Size = 1)
    (hlast : last.utf8Size = 1) (cs : List Char) :
    byteLength (first :: (cs ++ [last])) = byteLength cs + 2 := by
  rw [byteLength_cons, byteLength_append, byteLength_cons, byteLength_nil, hfirst, hlast]
  omega

theorem yields_reference {name : List Char} (h : ∀ c ∈ name, c ≠ ';' ∧ c ≠ '&' ∧ c ≠ '<')
    (rest : List Char) :
    Cursor.Yields ⟨'&' :: (name ++ [';']) ++ rest, offset, opened⟩
      [(Event.reference name).over offset ('&' :: (name ++ [';']))]
      ⟨rest, offset + byteLength ('&' :: (name ++ [';'])), opened⟩ := by
  have hspan : (name ++ ';' :: rest).span (fun c => c ≠ ';' && c ≠ '&' && c ≠ '<') =
      (name, ';' :: rest) := by
    refine span_append (fun c hc => ?_) (by simp)
    obtain ⟨hend, hamp, hopen⟩ := h c hc
    simp [hend, hamp, hopen]
  show Cursor.Yields ⟨'&' :: (name ++ [';'] ++ rest), offset, opened⟩ _ _
  refine Cursor.yields_read ?_ ?_
  · show Cursor.readReference _ (name ++ [';'] ++ rest) = _
    unfold Cursor.readReference
    rw [List.append_assoc, List.singleton_append, hspan]
    dsimp only
    rw [Event.over, byteLength_between rfl rfl]
    rfl
  · rw [List.length_append]
    exact Nat.le_add_left ..

/-! ## Tags -/

/-- Text in which a tag does not end: every quote is closed, and no `>` stands outside of quotes. -/
def Balanced (cs : List Char) : Prop :=
  ∀ rest, breakTag none (cs ++ rest) = (breakTag none rest).map (prepend cs)

theorem balanced_nil : Balanced [] := by
  intro rest
  rw [prepend_nil, List.nil_append]
  cases breakTag none rest <;> rfl

theorem map_prepend {ε : Type} (cs ds : List Char) (x : Except ε (List Char × List Char)) :
    (x.map (prepend ds)).map (prepend cs) = x.map (prepend (cs ++ ds)) := by
  cases x with
  | error e => rfl
  | ok cut => simp [Except.map, prepend]

theorem Balanced.append {cs ds : List Char} (h : Balanced cs) (h' : Balanced ds) :
    Balanced (cs ++ ds) := by
  intro rest
  rw [List.append_assoc, h, h', map_prepend]

theorem balanced_plain {cs : List Char} (h : ∀ c ∈ cs, c ≠ '>' ∧ c ≠ '\'' ∧ c ≠ '"') :
    Balanced cs := by
  induction cs with
  | nil => exact balanced_nil
  | cons c cs ih =>
    obtain ⟨⟨hend, hsingle, hdouble⟩, hcs⟩ := List.forall_mem_cons.1 h
    intro rest
    rw [List.cons_append, breakTag, if_neg hend, if_neg (not_or.2 ⟨hsingle, hdouble⟩), ih hcs]
    exact map_prepend [c] cs _

/-- Inside of quotes only the closing quote matters. -/
theorem breakTag_quoted {cs : List Char} (h : '"' ∉ cs) (rest : List Char) :
    breakTag (some '"') (cs ++ '"' :: rest) =
      (breakTag none rest).map (prepend (cs ++ ['"'])) := by
  induction cs with
  | nil =>
    rw [List.nil_append, breakTag, if_pos rfl]
    rfl
  | cons c cs ih =>
    rw [List.mem_cons, not_or] at h
    rw [List.cons_append, breakTag, if_neg (Ne.symm h.1), ih h.2]
    exact map_prepend [c] (cs ++ ['"']) _

theorem balanced_quoted {cs : List Char} (h : '"' ∉ cs) : Balanced ('"' :: (cs ++ ['"'])) := by
  intro rest
  rw [List.cons_append, List.append_assoc, List.singleton_append, breakTag,
    if_neg (by decide), if_pos (by decide), breakTag_quoted h]
  exact map_prepend ['"'] (cs ++ ['"']) _

/-- A tag ends where it was closed. -/
theorem breakTag_of_balanced {cs : List Char} (h : Balanced cs) (rest : List Char) :
    breakTag none (cs ++ '>' :: rest) = .ok (cs, rest) := by
  rw [h, breakTag, if_pos rfl]
  show Except.ok (cs ++ [], rest) = _
  rw [List.append_nil]

/-- A tag that begins with no mark opens an element. -/
theorem read_start {c : Char} (hc : c ∉ marks) (cursor : Cursor) (cs : List Char) :
    cursor.read '<' (c :: cs) = cursor.readStart (c :: cs) := by
  unfold Cursor.read
  rw [if_pos rfl]
  split
  · rename_i heq
    cases heq
  · rename_i heq
    cases heq
    exact absurd (by decide) hc
  · rename_i heq
    cases heq
    exact absurd (by decide) hc
  · rename_i heq
    cases heq
    exact absurd (by decide) hc
  · rfl

/-- A tag that closes itself yields one event, whether its attributes can be read or not. -/
theorem yields_emptyTag {c : Char} {cs : List Char} (hc : c ∉ marks) (h : Balanced (c :: cs))
    (rest : List Char) :
    Cursor.Yields ⟨'<' :: (c :: cs ++ ['/'] ++ ['>']) ++ rest, offset, opened⟩
      [(Event.empty (Tag.ofContent (c :: cs))).over offset ('<' :: (c :: cs ++ ['/'] ++ ['>']))]
      ⟨rest, offset + byteLength ('<' :: (c :: cs ++ ['/'] ++ ['>'])), opened⟩ := by
  have hslash : dropEnding? ['/'] (c :: cs ++ ['/']) = some (c :: cs) :=
    dropEnding?_eq_some_iff.2 rfl
  have hbreak : breakTag none (c :: (cs ++ ['/'] ++ '>' :: rest)) = .ok (c :: cs ++ ['/'], rest) :=
    breakTag_of_balanced (h.append (balanced_plain (by simp))) rest
  show Cursor.Yields ⟨'<' :: (c :: cs ++ ['/'] ++ ['>'] ++ rest), offset, opened⟩ _ _
  refine Cursor.yields_read ?_ ?_
  · rw [List.append_assoc, List.singleton_append]
    show Cursor.read _ '<' (c :: (cs ++ ['/'] ++ '>' :: rest)) = _
    rw [read_start hc, Cursor.readStart, hbreak]
    dsimp only
    rw [hslash]
    dsimp only
    rw [Event.over, byteLength_between rfl rfl]
    rfl
  · rw [List.length_append]
    exact Nat.le_add_left ..

namespace Element

variable {e : Element}

theorem balanced_name {name : String} (h : isName name.toList = true) : Balanced name.toList := by
  refine balanced_plain fun c hc => ?_
  have hmark := notMem_marks h c hc
  refine ⟨?_, ?_, ?_⟩ <;> rintro rfl <;> exact hmark (by decide)

theorem balanced_writeAttributes {attributes : List (String × String)}
    (h : ∀ entry ∈ attributes, isName entry.1.toList = true) :
    Balanced (writeAttributes attributes) := by
  induction attributes with
  | nil => exact balanced_nil
  | cons entry attributes ih =>
    obtain ⟨hname, hothers⟩ := List.forall_mem_cons.1 h
    have hblank : Balanced [' '] := balanced_plain (by simp)
    have hequals : Balanced ['='] := balanced_plain (by simp)
    have hvalue : Balanced ('"' :: (escape entry.2.toList ++ ['"'])) :=
      balanced_quoted (notMem_escape (by simp) _)
    exact ((hblank.append ((balanced_name hname).append (hequals.append hvalue))).append
      (ih hothers))

theorem balanced_content (h : e.WellFormed) : Balanced e.content :=
  (balanced_name h.tag).append (balanced_writeAttributes h.keys)

/-- A tag without its closing slash does not end in one. -/
theorem content_ne_slash (h : e.WellFormed) (cs : List Char) : e.content ≠ cs ++ ['/'] := by
  intro heq
  rw [content] at heq
  rcases List.eq_nil_or_concat e.attributes with hnil | ⟨front, entry, hlast⟩
  · rw [hnil, writeAttributes, List.flatMap_nil, List.append_nil] at heq
    exact name_ne_slash h.tag cs heq
  · have hquote : (e.tag.toList ++ writeAttributes e.attributes).getLast? = some '"' := by
      rw [hlast, List.concat_eq_append, writeAttributes, List.flatMap_append]
      simp [writeAttribute, List.getLast?_append, List.getLast?_cons]
    rw [heq, List.getLast?_concat] at hquote
    cases hquote

/-- The content of a tag begins with its name. -/
theorem exists_content (h : e.WellFormed) : ∃ c cs, e.content = c :: cs ∧ c ∉ marks := by
  cases hname : e.tag.toList with
  | nil =>
    have htag := h.tag
    rw [hname] at htag
    cases htag
  | cons c cs =>
    refine ⟨c, cs ++ writeAttributes e.attributes, ?_, ?_⟩
    · rw [content, hname]
      rfl
    · exact notMem_marks h.tag c (hname ▸ List.mem_cons_self)

theorem ofContent_content (h : e.WellFormed) : Tag.ofContent e.content = e.raw :=
  ofContent_write (isMarkupBlank_of_name h.tag) e.attributes

theorem attributes_raw (h : e.WellFormed) : e.raw.attributes = .ok e.attributes :=
  attributes_write (fun entry hentry => isKey_of_name (h.keys entry hentry)) h.distinct _

theorem yields_opening (h : e.WellFormed) (rest : List Char) :
    Cursor.Yields ⟨e.opening ++ rest, offset, opened⟩
      [(Event.start e.raw).over offset e.opening]
      ⟨rest, offset + byteLength e.opening, e.tag.toList :: opened⟩ := by
  -- neither a name nor a quoted value ends in the slash of an empty tag
  have hslash : dropEnding? ['/'] e.content = none := by
    rw [Option.eq_none_iff_forall_ne_some]
    exact fun cs hcs => content_ne_slash h cs (dropEnding?_eq_some_iff.1 hcs)
  have hread : ∀ cursor : Cursor, cursor.read '<' (e.content ++ '>' :: rest) =
      cursor.readStart (e.content ++ '>' :: rest) := by
    intro cursor
    obtain ⟨c, cs, hcontent, hc⟩ := exists_content h
    rw [hcontent]
    exact read_start hc cursor _
  show Cursor.Yields ⟨'<' :: (e.content ++ ['>'] ++ rest), offset, opened⟩ _ _
  refine Cursor.yields_read ?_ ?_
  · rw [List.append_assoc, List.singleton_append, hread, Cursor.readStart,
      breakTag_of_balanced (balanced_content h)]
    dsimp only
    rw [hslash]
    dsimp only
    rw [ofContent_content h, Event.over, opening, byteLength_between rfl rfl]
    rfl
  · rw [List.length_append]
    exact Nat.le_add_left ..

theorem yields_empty (h : e.WellFormed) (rest : List Char) :
    Cursor.Yields ⟨e.empty ++ rest, offset, opened⟩
      [(Event.empty e.raw).over offset e.empty]
      ⟨rest, offset + byteLength e.empty, opened⟩ := by
  obtain ⟨c, cs, hcontent, hc⟩ := exists_content h
  have hbalanced := balanced_content h
  rw [← ofContent_content h, empty, hcontent]
  rw [hcontent] at hbalanced
  exact yields_emptyTag hc hbalanced rest

/-- The name in a closing tag is all of it. -/
theorem closingName_eq {name : List Char} (h : isName name = true) : closingName name = name := by
  have hblank := isMarkupBlank_of_name h
  have hall : name.all isMarkupBlank = false := by
    cases name with
    | nil => cases h
    | cons c cs => rw [List.all_cons, hblank c List.mem_cons_self, Bool.false_and]
  have hend : name.reverse.dropWhile isMarkupBlank = name.reverse := by
    cases hreverse : name.reverse with
    | nil => rfl
    | cons c cs =>
      have hc : c ∈ name := List.mem_reverse.1 (hreverse ▸ List.mem_cons_self)
      exact List.dropWhile_cons_of_neg (by simp [hblank c hc])
  rw [closingName, hall, hend, List.reverse_reverse]
  rfl

theorem yields_closing (h : e.WellFormed) (rest : List Char) :
    Cursor.Yields ⟨e.closing ++ rest, offset, e.tag.toList :: opened⟩
      [Event.stop.over offset e.closing] ⟨rest, offset + byteLength e.closing, opened⟩ := by
  have hbytes : byteLength e.closing = byteLength e.tag.toList + 3 := by
    rw [closing, byteLength_cons, byteLength_between rfl rfl, Nat.add_comm]
    rfl
  show Cursor.Yields ⟨'<' :: '/' :: (e.tag.toList ++ ['>'] ++ rest), offset, _⟩ _ _
  refine Cursor.yields_read ?_ ?_
  · show Cursor.readEnd _ (e.tag.toList ++ ['>'] ++ rest) = _
    rw [List.append_assoc, List.singleton_append, Cursor.readEnd,
      breakTag_of_balanced (balanced_name h.tag)]
    dsimp only
    rw [closingName_eq h.tag, if_pos rfl, Event.over, hbytes]
    rfl
  · rw [List.length_cons, List.length_append]
    exact Nat.le_succ_of_le (Nat.le_add_left ..)

/-- An element yields its events around those of what is inside of it. -/
theorem yields_write (h : e.WellFormed) {body rest : List Char} {inside : List Located}
    (hinside : Cursor.Yields ⟨body ++ (e.closing ++ rest), offset + byteLength e.opening,
        e.tag.toList :: opened⟩ inside
      ⟨e.closing ++ rest, offset + byteLength e.opening + byteLength body,
        e.tag.toList :: opened⟩) :
    Cursor.Yields ⟨e.write body ++ rest, offset, opened⟩ (e.events offset body inside)
      ⟨rest, offset + byteLength (e.write body), opened⟩ := by
  unfold write events
  cases e.selfClosing with
  | true => exact yields_empty h rest
  | false =>
    have hstop : offset + byteLength (e.opening ++ body) =
        offset + byteLength e.opening + byteLength body := by
      rw [byteLength_append, Nat.add_assoc]
    have hlast : offset + byteLength (e.opening ++ (body ++ e.closing)) =
        offset + byteLength e.opening + byteLength body + byteLength e.closing := by
      rw [← List.append_assoc, byteLength_append, ← Nat.add_assoc, hstop]
    rw [if_neg Bool.false_ne_true, if_neg Bool.false_ne_true, hstop, hlast, List.append_assoc,
      List.append_assoc]
    exact (yields_opening h _).append (hinside.append (yields_closing h rest))

end Element

/-! ## Fragments -/

theorem stops_closing (e : Element) (rest : List Char) : Stops (e.closing ++ rest) := by
  rintro d ⟨⟩
  exact .inl rfl

theorem stops_write (e : Element) (body rest : List Char) : Stops (e.write body ++ rest) := by
  unfold Element.write
  split <;> rintro d ⟨⟩ <;> exact .inl rfl

/-- **A fragment yields its events**, up to a mark that ends a text. -/
theorem yields_fragment (f : Fragment) (h : f.WellFormed) {run : List Char}
    (hrun : ∀ c ∈ run, c ≠ '<' ∧ c ≠ '&') {rest : List Char} (hrest : Stops rest) :
    Cursor.Yields ⟨run ++ (f.write ++ rest), offset, opened⟩ (f.events run offset)
      ⟨rest, offset + byteLength (run ++ f.write), opened⟩ := by
  have hnone : ∀ c ∈ ([] : List Char), c ≠ '<' ∧ c ≠ '&' := nofun
  -- texts side by side are one event, so the run in front grows along the fragment
  induction f generalizing run offset opened rest with
  | nil =>
    rw [Fragment.write, List.append_nil]
    exact yields_text hrun hrest
  | text content more ih =>
    obtain ⟨hcontent, hmore⟩ := h
    have hlonger : ∀ c ∈ run ++ content.toList, c ≠ '<' ∧ c ≠ '&' :=
      List.forall_mem_append.2 ⟨hrun, hcontent⟩
    have hyields := @ih offset opened hmore _ hlonger rest hrest
    rw [List.append_assoc, List.append_assoc, ← List.append_assoc content.toList] at hyields
    exact hyields
  | reference name more ih =>
    obtain ⟨hname, hmore⟩ := h
    have hstops : Stops ('&' :: (name.toList ++ [';']) ++ (more.write ++ rest)) := by
      rintro d ⟨⟩
      exact .inr rfl
    rw [Fragment.write, List.append_assoc, byteLength_append, byteLength_append, ← Nat.add_assoc,
      ← Nat.add_assoc]
    exact (yields_text hrun hstops).append
      ((yields_reference hname _).append (ih hmore hnone hrest))
  | element e inside more ihinside ihmore =>
    obtain ⟨he, -, hinside, hmore⟩ := h
    rw [Fragment.write, List.append_assoc, byteLength_append, byteLength_append, ← Nat.add_assoc,
      ← Nat.add_assoc]
    exact (yields_text hrun (stops_write e _ _)).append
      ((Element.yields_write he (ihinside hinside hnone (stops_closing e _))).append
        (ihmore hmore hnone hrest))

/-- What is yielded up to the end of a document are its events. -/
theorem events_of_yields {source : List Char} (hmark : dropByteOrderMark source = source)
    {es : List Located} {offset : Nat}
    (h : Cursor.Yields ⟨source, 0, []⟩ es ⟨[], offset, []⟩) : events source = (es, none) := by
  -- every event takes a character, so there is fuel for all of them and the end
  obtain ⟨fuel, hfuel⟩ : ∃ fuel, source.length + 1 = es.length + (fuel + 1) := by
    have hlength := h.length
    exact ⟨source.length - es.length, by simp at hlength; omega⟩
  rw [events, hmark, hfuel, h.events]
  simp [eventsFrom]

/-- **A fragment that is written is cut into its events.** -/
theorem events_write {f : Fragment} (h : f.WellFormed)
    (hmark : dropByteOrderMark f.write = f.write) :
    events f.write = (f.events [] 0, none) := by
  have hyields := @yields_fragment 0 [] f h [] nofun [] nofun
  rw [List.append_nil, List.nil_append] at hyields
  exact events_of_yields hmark hyields

end TagTemplate.Markup
