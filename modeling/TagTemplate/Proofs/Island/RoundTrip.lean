import TagTemplate.Proofs.Except
import TagTemplate.Proofs.Island.Reading

/-!
# Forests written as islands and read back

A forest of elements and texts is written with its texts and attribute values escaped. Escaping
cuts a text into plain characters and references, and reading puts them together again.

- `write`, `Writable`: a forest as text, and the forests that a text can stand for;
- `fragment`: the pieces that the text of a forest consists of;
- `takes?_inside`: inside of an element, reading adds exactly the forest;
- `takes?_outside`: outside of elements, a forest is read only if it is one element among blanks;
- `readIsland_write`: **a forest that is written is read back**, under the root it is given, under
  its own, or under the implicit one.
-/

namespace TagTemplate.Island

open Markup Text

/-! ## Forests -/

/-- An element without what is inside of it. Those without children may close themselves. -/
def tagOf (short : Bool) (name : String) (attributes : OrderedMap String) (children : List Node) :
    Markup.Element :=
  ⟨name, attributes.entries, short && children.isEmpty⟩

mutual

/-- A node as text: a text escaped, or an element with escaped attribute values. -/
def Node.write (short : Bool) : Node → List Char
  | .text content => escape content.toList
  | .element name attributes children =>
    (tagOf short name attributes children).write (write short children)

/-- A forest as text. -/
def write (short : Bool) : List Node → List Char
  | [] => []
  | n :: ns => n.write short ++ write short ns

end

/-- The forest begins with a text. -/
def startsWithText : List Node → Bool
  | .text _ :: _ => true
  | _ => false

/-- A forest that a text can stand for: tags and attributes have names, and no two attributes of an
element the same; no text is empty, begins with a byte order mark or stands next to another. -/
inductive Writable : List Node → Prop
  | nil : Writable []
  | text {content : String} {rest : List Node} : content ≠ "" →
      content.toList.head? ≠ some '\uFEFF' → startsWithText rest = false → Writable rest →
      Writable (.text content :: rest)
  | element {name : String} {attributes : OrderedMap String} {children rest : List Node} :
      isName name.toList = true → (∀ key ∈ attributes.keys, isName key.toList = true) →
      attributes.Distinct → Writable children → Writable rest →
      Writable (.element name attributes children :: rest)

/-- A text of nothing but white space. -/
def Node.isBlank : Node → Bool
  | .text content => allBlank content.toList
  | .element .. => false

/-- The nodes of a forest that are more than white space. -/
def significant (forest : List Node) : List Node := forest.filter (!·.isBlank)

/-! ## The pieces of a text -/

/-- One character as it is escaped: a reference, or itself. -/
def piece (c : Char) (rest : Fragment) : Fragment :=
  match escapeChar c with
  | '&' :: name => .reference (String.ofList name.dropLast) rest
  | plain => .text (String.ofList plain) rest

/-- Characters as they are escaped. -/
def pieces (cs : List Char) (rest : Fragment) : Fragment := cs.foldr piece rest

theorem piece_cases (c : Char) (rest : Fragment) :
    (piece c rest = .text (String.ofList [c]) rest ∧ escapeChar c = [c] ∧ c ≠ '<' ∧ c ≠ '&') ∨
      ∃ name, predefined? name = some c ∧ escapeChar c = '&' :: (name ++ [';']) ∧
        piece c rest = .reference (String.ofList name) rest := by
  rcases escapeChar_cases c with ⟨hescape, hplain⟩ | ⟨name, hname, hescape⟩
  · simp only [List.mem_cons, List.not_mem_nil, or_false, not_or] at hplain
    refine .inl ⟨?_, hescape, hplain.1, hplain.2.2.1⟩
    unfold piece
    rw [hescape]
    split
    · rename_i heq
      exact absurd (List.cons.inj heq).1 hplain.2.2.1
    · rfl
  · refine .inr ⟨name, hname, hescape, ?_⟩
    unfold piece
    rw [hescape]
    show Fragment.reference (String.ofList (name ++ [';']).dropLast) rest = _
    rw [List.dropLast_concat]

theorem write_pieces (cs : List Char) (rest : Fragment) :
    (pieces cs rest).write = escape cs ++ rest.write := by
  induction cs with
  | nil => rfl
  | cons c cs ih =>
    have hsplit : escape (c :: cs) = escapeChar c ++ escape cs := rfl
    show (piece c (pieces cs rest)).write = _
    rw [hsplit, List.append_assoc, ← ih]
    rcases piece_cases c (pieces cs rest) with ⟨hpiece, hescape, -⟩ | ⟨name, -, hescape, hpiece⟩
    · rw [hpiece, hescape, Fragment.write, String.toList_ofList]
    · rw [hpiece, hescape, Fragment.write, String.toList_ofList]

theorem wellFormed_pieces (cs : List Char) {rest : Fragment} (h : rest.WellFormed) :
    (pieces cs rest).WellFormed := by
  induction cs with
  | nil => exact h
  | cons c cs ih =>
    show (piece c (pieces cs rest)).WellFormed
    rcases piece_cases c (pieces cs rest) with ⟨hpiece, -, hopen, hamp⟩ | ⟨name, hname, -, hpiece⟩
    · rw [hpiece]
      refine ⟨fun d hd => ?_, ih⟩
      rw [String.toList_ofList, List.mem_singleton] at hd
      exact hd ▸ ⟨hopen, hamp⟩
    · rw [hpiece]
      refine ⟨fun d hd => ?_, ih⟩
      rw [String.toList_ofList] at hd
      have hlower := isLower_of_predefined? hname d hd
      refine ⟨?_, ?_, ?_⟩ <;> rintro rfl <;> cases hlower

theorem resolve?_of_predefined? {name : List Char} {c : Char} (h : predefined? name = some c) :
    resolve? name = some c := by
  unfold resolve?
  rw [h]

/-- The pieces of a text are taken in as one run. -/
theorem takes?_pieces (p : Progress) (cs : List Char) (rest : Fragment) :
    p.takes? (pieces cs rest) = (p.run? cs).bind (·.takes? rest) := by
  induction cs generalizing p with
  | nil => rfl
  | cons c cs ih =>
    have hfirst : p.takes? (piece c (pieces cs rest)) =
        (p.run? [c]).bind (·.takes? (pieces cs rest)) := by
      rcases piece_cases c (pieces cs rest) with ⟨hpiece, -⟩ | ⟨name, hname, -, hpiece⟩
      · rw [hpiece, Progress.takes?, String.toList_ofList]
      · rw [hpiece, Progress.takes?, String.toList_ofList,
          Progress.add?_reference p (resolve?_of_predefined? hname)]
    show p.takes? (piece c (pieces cs rest)) = (p.run? ([c] ++ cs)).bind _
    rw [hfirst, Progress.run?_append, Option.bind_assoc]
    congr 1
    funext q
    exact ih q

/-! ## The fragment of a forest -/

mutual

/-- The pieces of a node in front of others. -/
def Node.fragment (short : Bool) : Node → Fragment → Fragment
  | .text content, rest => pieces content.toList rest
  | .element name attributes children, rest =>
    .element (tagOf short name attributes children) (fragment short children) rest

/-- The pieces of a forest. -/
def fragment (short : Bool) : List Node → Fragment
  | [] => .nil
  | n :: ns => n.fragment short (fragment short ns)

end

theorem wellFormed_tagOf {name : String} {attributes : OrderedMap String}
    (hname : isName name.toList = true) (hkeys : ∀ key ∈ attributes.keys, isName key.toList = true)
    (hdistinct : attributes.Distinct) (short : Bool) (children : List Node) :
    (tagOf short name attributes children).WellFormed where
  tag := hname
  keys entry hentry := hkeys entry.1 (List.mem_map_of_mem hentry)
  distinct := hdistinct

variable {forest : List Node}

theorem write_fragment (h : Writable forest) (short : Bool) :
    (fragment short forest).write = write short forest := by
  induction h with
  | nil => simp only [fragment, write, Fragment.write]
  | text _ _ _ _ ih => simp only [fragment, Node.fragment, write, Node.write, write_pieces, ih]
  | element _ _ _ _ _ ihchildren ihrest =>
    simp only [fragment, Node.fragment, write, Node.write, Fragment.write, ihchildren, ihrest]

theorem wellFormed_fragment (h : Writable forest) (short : Bool) :
    (fragment short forest).WellFormed := by
  induction h with
  | nil =>
    rw [fragment]
    trivial
  | text _ _ _ _ ih =>
    rw [fragment, Node.fragment]
    exact wellFormed_pieces _ ih
  | @element name attributes children rest hname hkeys hdistinct _ _ ihchildren ihrest =>
    rw [fragment, Node.fragment]
    refine ⟨wellFormed_tagOf hname hkeys hdistinct short children, fun hself => ?_,
      ihchildren, ihrest⟩
    have hempty : children = [] := List.isEmpty_iff.1 ((Bool.and_eq_true _ _).mp hself).2
    rw [hempty, fragment]

/-! ## Reading a forest -/

variable {short : Bool}

/-- An element is taken in by closing it over its children. -/
theorem takes?_element {name : String} {attributes : OrderedMap String} {children : List Node}
    (hdistinct : attributes.Distinct) {p : Progress}
    (hchildren : Progress.takes? ⟨⟨name, attributes, []⟩ :: p.opened, p.root⟩
        (fragment short children) =
      some ⟨⟨name, attributes, children.reverse ++ []⟩ :: p.opened, p.root⟩) (rest : Fragment) :
    p.takes? (.element (tagOf short name attributes children) (fragment short children) rest) =
      (Progress.add? ⟨⟨name, attributes, children.reverse⟩ :: p.opened, p.root⟩ .stop).bind
        (·.takes? rest) := by
  have hattributes : OrderedMap.ofList (tagOf short name attributes children).attributes =
      attributes := OrderedMap.ofList_of_nodup hdistinct
  rw [List.append_nil] at hchildren
  rw [Progress.takes?, Progress.enter, hattributes]
  show ((Progress.takes? ⟨⟨name, attributes, []⟩ :: p.opened, p.root⟩ _).bind _).bind _ = _
  rw [hchildren]
  rfl

/-- Inside of an element, reading adds exactly the forest to the children. -/
theorem takes?_inside (h : Writable forest) {frame : Frame} (opened : List Frame)
    (root : Option Document)
    (hgap : startsWithText frame.children = false ∨ startsWithText forest = false) :
    Progress.takes? ⟨frame :: opened, root⟩ (fragment short forest) =
      some ⟨{ frame with children := forest.reverse ++ frame.children } :: opened, root⟩ := by
  induction h generalizing frame opened with
  | nil =>
    rw [fragment]
    rfl
  | @text content rest hne hmark hrest _ ih =>
    have hcs : content.toList ≠ [] := fun heq => hne (String.toList_eq_nil_iff.1 heq)
    -- two texts side by side would come back as one
    have hadd : addText content frame.children = .text content :: frame.children := by
      rcases hchildren : frame.children with _ | ⟨_ | _, others⟩
      · rfl
      · rw [hchildren] at hgap
        rcases hgap with hgap | hgap <;> cases hgap
      · rfl
    rw [fragment, Node.fragment, takes?_pieces, Progress.run?_of_ne hcs, Option.bind_some,
      String.ofList_toList, hadd, ih opened (.inr hrest), List.reverse_cons, List.append_assoc]
    rfl
  | @element name attributes children rest hname hkeys hdistinct _ _ ihchildren ihrest =>
    rw [fragment, Node.fragment,
      takes?_element hdistinct (ihchildren (frame :: opened) (.inl rfl))]
    show Progress.takes? ⟨{ frame with
      children := .element name attributes children.reverse.reverse :: frame.children } ::
        opened, root⟩ _ = _
    rw [List.reverse_reverse, ihrest opened (.inl rfl), List.reverse_cons,
      List.append_assoc]
    rfl

/-- The root made of nodes that stand outside of elements, after a root if there was one. -/
def outermost : Option Document → List Node → Option Document
  | root, [] => root
  | some _, _ :: _ => none
  | none, [.element name attributes children] => some ⟨name, attributes, children⟩
  | none, _ => none

/-- Outside of elements, a forest is read only if it is one element among blanks. -/
theorem takes?_outside (h : Writable forest) (root : Option Document) :
    (Progress.takes? ⟨[], root⟩ (fragment short forest)).bind Progress.finish? =
      outermost root (significant forest) := by
  induction h generalizing root with
  | nil =>
    rw [fragment]
    cases root <;> rfl
  | @text content rest _ _ _ _ ih =>
    rw [fragment, Node.fragment, takes?_pieces, Progress.run?_outside]
    by_cases hblank : allBlank content.toList = true
    · have hsignificant : significant (.text content :: rest) = significant rest :=
        List.filter_cons_of_neg (by simpa [Node.isBlank] using hblank)
      rw [if_pos hblank, Option.bind_some, ih, hsignificant]
    · have hsignificant : significant (.text content :: rest) =
          .text content :: significant rest :=
        List.filter_cons_of_pos (by simpa [Node.isBlank] using hblank)
      rw [if_neg hblank, hsignificant]
      cases root <;> rfl
  | @element name attributes children rest _ _ hdistinct hchildren _ _ ih =>
    have hsignificant : significant (.element name attributes children :: rest) =
        .element name attributes children :: significant rest := List.filter_cons_of_pos rfl
    rw [fragment, Node.fragment, takes?_element hdistinct
      (takes?_inside hchildren [] root (.inl rfl)), hsignificant]
    cases root with
    | some before =>
      -- a second element is one too many
      rfl
    | none =>
      show (Progress.takes? ⟨[], some ⟨name, attributes, children.reverse.reverse⟩⟩ _).bind _ = _
      rw [List.reverse_reverse, ih]
      cases significant rest <;> rfl

/-! ## Islands -/

theorem head?_element (e : Markup.Element) (inside rest : List Char) :
    (e.write inside ++ rest).head? = some '<' := by
  unfold Element.write
  split <;> rfl

/-- What is written does not begin with a byte order mark. -/
theorem dropByteOrderMark_write (h : Writable forest) (short : Bool) :
    dropByteOrderMark (write short forest) = write short forest := by
  refine dropByteOrderMark_of_head? ?_
  cases h with
  | nil => simp [write]
  | @text content rest hne hmark _ _ =>
    obtain ⟨c, cs, hcs⟩ :=
      List.exists_cons_of_ne_nil fun heq => hne (String.toList_eq_nil_iff.1 heq)
    rw [hcs] at hmark
    have hsplit : write short (.text content :: rest) =
        escapeChar c ++ (escape cs ++ write short rest) := by
      rw [write, Node.write, hcs, ← List.append_assoc]
      rfl
    rw [hsplit]
    rcases escapeChar_cases c with ⟨hescape, -⟩ | ⟨name, -, hescape⟩
    · rw [hescape]
      exact hmark
    · rw [hescape]
      exact fun heq => absurd (Option.some.inj heq) (by decide)
  | element =>
    rw [write, Node.write, head?_element]
    exact fun heq => absurd (Option.some.inj heq) (by decide)

/-- Without a wrapper a forest is read as its only element, if it has only one. -/
theorem toOption_read_write (h : Writable forest) (short : Bool) :
    (read (write short forest)).toOption = outermost none (significant forest) := by
  have hread := toOption_read (wellFormed_fragment h short)
    (by rw [write_fragment h, dropByteOrderMark_write h])
  rw [write_fragment h] at hread
  rw [hread, takes?_outside h]

/-- In a wrapper every forest is read. -/
theorem read_wrap (h : Writable forest) (short : Bool) {root : String}
    (hroot : isName root.toList = true) :
    read (wrap root.toList (write short forest)) = .ok ⟨root, .empty, forest⟩ := by
  have hwrite : (Fragment.element ⟨root, [], false⟩ (fragment short forest) .nil).write =
      wrap root.toList (write short forest) := by
    rw [Fragment.write, write_fragment h]
    simp [wrap, Element.write, Element.opening, Element.closing, Element.content, writeAttributes,
      Fragment.write]
  have hwellFormed : (Fragment.element ⟨root, [], false⟩ (fragment short forest) .nil).WellFormed :=
    ⟨⟨hroot, List.forall_mem_nil _, List.nodup_nil⟩, fun hself => absurd hself Bool.false_ne_true,
      wellFormed_fragment h short, trivial⟩
  have hread := toOption_read hwellFormed (by
    rw [hwrite]
    exact dropByteOrderMark_of_head? fun heq => absurd (Option.some.inj heq) (by decide))
  rw [hwrite, Progress.takes?, Progress.enter,
    takes?_inside h [] none (.inl rfl), List.append_nil] at hread
  refine eq_ok_of_toOption (hread.trans ?_)
  show some (Document.mk root .empty forest.reverse.reverse) = _
  rw [List.reverse_reverse]

/-- **A forest that is written is read back.** Under a given root it is what the root holds. Without
one it is read as its only element if all else in it is white space, and is otherwise what the
implicit root holds. -/
theorem readIsland_write (h : Writable forest) (short : Bool) :
    (∀ root : String, isName root.toList = true →
      readIsland (some root.toList) (write short forest) = .ok ⟨root, .empty, forest⟩) ∧
    (∀ name attributes children, significant forest = [.element name attributes children] →
      readIsland none (write short forest) = .ok ⟨name, attributes, children⟩) ∧
    ((∀ name attributes children, significant forest ≠ [.element name attributes children]) →
      readIsland none (write short forest) = .ok ⟨"xml", .empty, forest⟩) := by
  have hread := toOption_read_write h short
  refine ⟨fun root hroot => read_wrap h short hroot, ?_, ?_⟩
  · intro name attributes children hlone
    rw [hlone] at hread
    rw [readIsland, eq_ok_of_toOption hread]
  · intro hnone
    -- without a lone element there is no document, and it is read again as the content of one
    have houtermost : outermost none (significant forest) = none := by
      rcases hrest : significant forest with _ | ⟨⟨_⟩ | ⟨name, attributes, children⟩, _ | _⟩
      · rfl
      · rfl
      · rfl
      · exact absurd hrest (hnone name attributes children)
      · rfl
    rw [houtermost] at hread
    cases hfailed : read (write short forest) with
    | ok document =>
      rw [hfailed] at hread
      cases hread
    | error problem =>
      rw [readIsland, hfailed]
      exact @read_wrap forest h short "xml" rfl

/-- Texts and values with marks of markup in them, nested, and white space around them. -/
def nestedForest : List Node :=
  [.text " \n",
    .element "a" ⟨[("k", "<\"&'>"), ("b", "")]⟩
      [.text "x & <y>", .element "c" .empty [], .text "\u00e9"],
    .text "\u00a0"]

theorem writable_nestedForest : Writable nestedForest := by
  have hdistinct : ["k", "b"].Nodup := by decide
  refine .text (by decide) (by decide) rfl (.element rfl (by decide) hdistinct ?_ ?_)
  · exact .text (by decide) (by decide) rfl
      (.element rfl nofun List.nodup_nil .nil (.text (by decide) (by decide) rfl .nil))
  · exact .text (by decide) (by decide) rfl .nil

/-- The nested forest is read under a given root, under its own, and under the implicit root once
another text stands behind it. -/
theorem readIsland_write_nestedForest :
    readIsland (some ['r']) (write true nestedForest) = .ok ⟨"r", .empty, nestedForest⟩ ∧
    readIsland none (write true nestedForest) =
      .ok ⟨"a", ⟨[("k", "<\"&'>"), ("b", "")]⟩,
        [.text "x & <y>", .element "c" .empty [], .text "\u00e9"]⟩ ∧
    readIsland none (write false [.element "b" .empty nestedForest, .text "z"]) =
      .ok ⟨"xml", .empty, [.element "b" .empty nestedForest, .text "z"]⟩ := by
  have hmore : Writable [.element "b" .empty nestedForest, .text "z"] :=
    .element rfl nofun List.nodup_nil writable_nestedForest
      (.text (by decide) (by decide) rfl .nil)
  obtain ⟨hgiven, hlone, -⟩ := readIsland_write writable_nestedForest true
  obtain ⟨-, -, himplicit⟩ := readIsland_write hmore false
  refine ⟨hgiven "r" rfl, hlone _ _ _ rfl, himplicit fun name attributes children heq => ?_⟩
  exact nomatch (List.cons.inj heq).2

example : write true nestedForest = (" \n<a k=\"&lt;&quot;&amp;&apos;&gt;\" b=\"\">" ++
    "x &amp; &lt;y&gt;<c/>\u00e9</a>\u00a0").toList := by decide

end TagTemplate.Island
