import Mathlib.Data.List.Find
import TagTemplate.Proofs.Except
import TagTemplate.Proofs.Template.Acceptance

/-!
# Templates with another prefix

The names of the template language can be written with another prefix, if the first tag declares it.
What is built then has the same elements under other names.

- `respellName`: a name with another prefix in place of the default one;
- `Node.respell`, `Template.respell`: all names of an element and of a template;
- `Error.Respelled`: errors that differ only in the names they quote;
- `Builder.Spells`: a builder beside the one that has the respelled elements, with one lemma for
  each operation: `respells_openElement`, `respells_closeElement`, `respells_addText`.
-/

namespace TagTemplate

open Text

theorem Text.afterStart?_eq_some_iff {start text rest : String} :
    afterStart? start text = some rest ↔ text = start ++ rest := by
  rw [afterStart?, Option.map_eq_some_iff]
  constructor
  · rintro ⟨cs, hcs, rfl⟩
    rw [isPrefixOf?_eq_some_iff] at hcs
    rw [← String.toList_inj, String.toList_append, String.toList_ofList, hcs]
  · rintro rfl
    exact ⟨rest.toList, by rw [String.toList_append, isPrefixOf?_append], String.ofList_toList⟩

theorem Text.beginsWith_eq_false_iff {start text : String} :
    beginsWith start text = false ↔ ∀ rest, text ≠ start ++ rest := by
  rw [beginsWith, Option.isSome_eq_false_iff, Option.isNone_iff_eq_none,
    Option.eq_none_iff_forall_ne_some]
  exact forall_congr' fun rest => not_congr afterStart?_eq_some_iff

/-! ## Names -/

/-- The name with another prefix in place of the default one. -/
def respellName (ns name : String) : String :=
  match afterStart? defaultPrefix name with
  | some rest => ns ++ rest
  | none => name

variable {ns name : String}

theorem respellName_append (ns rest : String) :
    respellName ns (defaultPrefix ++ rest) = ns ++ rest := by
  rw [respellName, afterStart?_eq_some_iff.2 rfl]

theorem respellName_of_plain (h : beginsWith defaultPrefix name = false) :
    respellName ns name = name := by
  rw [beginsWith, Option.isSome_eq_false_iff, Option.isNone_iff_eq_none] at h
  rw [respellName, h]

/-- The new prefix stands where the default one stood, and nowhere else. -/
theorem afterStart?_respellName (h : beginsWith ns name = false) :
    afterStart? ns (respellName ns name) = afterStart? defaultPrefix name := by
  rw [respellName]
  cases hrest : afterStart? defaultPrefix name with
  | some rest => exact afterStart?_eq_some_iff.2 rfl
  | none =>
    rw [beginsWith, Option.isSome_eq_false_iff, Option.isNone_iff_eq_none] at h
    exact h

theorem beginsWith_respellName (h : beginsWith ns name = false) :
    beginsWith ns (respellName ns name) = beginsWith defaultPrefix name := by
  rw [beginsWith, beginsWith, afterStart?_respellName h]

/-- Only a name with the default prefix gets the new one. -/
theorem eq_of_respellName_eq {rest : String} (h : beginsWith ns name = false)
    (heq : respellName ns name = ns ++ rest) : name = defaultPrefix ++ rest := by
  have hrest := afterStart?_respellName h
  rw [heq, afterStart?_eq_some_iff.2 rfl] at hrest
  exact afterStart?_eq_some_iff.1 hrest.symm

/-- Names without the new prefix stay distinct. -/
theorem respellName_injective {a b : String} (ha : beginsWith ns a = false)
    (hb : beginsWith ns b = false) (h : respellName ns a = respellName ns b) : a = b := by
  have hrest := afterStart?_respellName ha
  rw [h, afterStart?_respellName hb] at hrest
  cases hb' : afterStart? defaultPrefix b with
  | some rest =>
    rw [hb'] at hrest
    rw [afterStart?_eq_some_iff.1 hrest.symm, afterStart?_eq_some_iff.1 hb']
  | none =>
    rw [hb'] at hrest
    rw [respellName, respellName, ← hrest, hb'] at h
    exact h

/-- Names without a colon have no prefix. -/
theorem beginsWith_of_notMem {start : String} (hstart : ':' ∈ start.toList)
    (h : ':' ∉ name.toList) : beginsWith start name = false := by
  rw [beginsWith_eq_false_iff]
  rintro rest rfl
  rw [String.toList_append] at h
  exact h (List.mem_append_left _ hstart)

theorem respellName_of_notMem (h : ':' ∉ name.toList) : respellName ns name = name :=
  respellName_of_plain (beginsWith_of_notMem (by decide) h)

namespace OrderedMap

variable {α : Type}

/-- The map with other names. -/
def mapKeys (f : String → String) (m : OrderedMap α) : OrderedMap α :=
  ⟨m.entries.map fun entry => (f entry.1, entry.2)⟩

theorem keys_mapKeys (f : String → String) (m : OrderedMap α) :
    (m.mapKeys f).keys = m.keys.map f := by
  unfold keys mapKeys
  rw [List.map_map, List.map_map]
  rfl

theorem values_mapKeys (f : String → String) (m : OrderedMap α) :
    (m.mapKeys f).values = m.values := by
  unfold values mapKeys
  rw [List.map_map]
  rfl

variable {f : String → String} {m : OrderedMap α} {key : String}

theorem get?_mapKeys (hinj : ∀ k ∈ m.keys, f k = f key → k = key) :
    (m.mapKeys f).get? (f key) = m.get? key := by
  obtain ⟨entries⟩ := m
  unfold get? mapKeys
  induction entries with
  | nil => rfl
  | cons entry entries ih =>
    dsimp only at ih ⊢
    rw [List.map_cons, List.lookup_cons, List.lookup_cons,
      ih fun k hk => hinj k (List.mem_cons_of_mem _ hk)]
    have hfirst := hinj entry.1 List.mem_cons_self
    by_cases heq : key = entry.1
    · rw [heq, beq_self_eq_true, beq_self_eq_true]
    · have hne : f key ≠ f entry.1 := fun h => heq (hfirst h.symm).symm
      rw [beq_eq_false_iff_ne.2 heq, beq_eq_false_iff_ne.2 hne]

theorem insert_mapKeys (hinj : ∀ k ∈ m.keys, f k = f key → k = key) (value : α) :
    (m.mapKeys f).insert (f key) value = (m.insert key value).mapKeys f := by
  obtain ⟨entries⟩ := m
  unfold insert mapKeys
  refine congrArg mk ?_
  induction entries with
  | nil => rfl
  | cons entry entries ih =>
    dsimp only at ih ⊢
    have hfirst := hinj entry.1 List.mem_cons_self
    rw [List.map_cons, insertEntry, insertEntry]
    by_cases heq : entry.1 = key
    · rw [if_pos heq, if_pos (congrArg f heq)]
      rfl
    · rw [if_neg heq, if_neg fun h => heq (hfirst h), List.map_cons,
        ih fun k hk => hinj k (List.mem_cons_of_mem _ hk)]

theorem insertAll_mapKeys {es : List (String × α)}
    (hinj : ∀ k ∈ m.keys ++ es.map Prod.fst, ∀ k' ∈ m.keys ++ es.map Prod.fst,
      f k = f k' → k = k') :
    (m.mapKeys f).insertAll (es.map fun entry => (f entry.1, entry.2)) =
      (m.insertAll es).mapKeys f := by
  induction es generalizing m with
  | nil => rfl
  | cons entry es ih =>
    show ((m.mapKeys f).insert (f entry.1) entry.2).insertAll _ =
      ((m.insert entry.1 entry.2).insertAll es).mapKeys f
    have hmem : ∀ k ∈ (m.insert entry.1 entry.2).keys ++ es.map Prod.fst,
        k ∈ m.keys ++ (entry :: es).map Prod.fst := by
      intro k hk
      rw [List.mem_append, mem_keys_insert] at hk
      rw [List.map_cons, List.mem_append, List.mem_cons]
      tauto
    rw [insert_mapKeys fun k hk => hinj k (List.mem_append_left _ hk) entry.1 (by simp), ih]
    exact fun k hk k' hk' => hinj k (hmem k hk) k' (hmem k' hk')

/-- Renaming can be done before or after the map is made. -/
theorem ofList_mapKeys {es : List (String × α)}
    (hinj : ∀ k ∈ es.map Prod.fst, ∀ k' ∈ es.map Prod.fst, f k = f k' → k = k') :
    ofList (es.map fun entry => (f entry.1, entry.2)) = (ofList es).mapKeys f :=
  insertAll_mapKeys (m := empty) hinj

theorem erase_mapKeys (hinj : ∀ k ∈ m.keys, f k = f key → k = key) :
    (m.mapKeys f).erase (f key) = (m.erase key).mapKeys f := by
  unfold erase mapKeys
  rw [List.filter_map]
  refine congrArg mk (congrArg _ (List.filter_congr fun entry hentry => ?_))
  have hfirst := hinj entry.1 (List.mem_map_of_mem hentry)
  simp only [Function.comp_apply, decide_eq_decide, ne_eq]
  exact not_congr ⟨fun h => hfirst h, fun h => congrArg f h⟩

end OrderedMap

/-! ## Elements -/

/-- The element with another prefix. -/
def Node.respell (ns : String) (n : Node) : Node :=
  { n with
    tag := respellName ns n.tag, nsPrefix := ns,
    attributes := n.attributes.mapKeys (respellName ns) }

/-- The template with another prefix. -/
def Template.respell (ns : String) (t : Template) : Template :=
  { t with nsPrefix := ns, tree := { t.tree with nodes := t.tree.nodes.map (Node.respell ns) } }

/-- An element with the default prefix can be respelled if no name in it has the new one. A feed
takes all of its attributes for parameters, so they may have no prefix. -/
structure Node.Respellable (ns : String) (n : Node) : Prop where
  nsPrefix : n.nsPrefix = defaultPrefix
  tag : beginsWith ns n.tag = false
  attributes : ∀ name ∈ n.attributes.keys, beginsWith ns name = false
  feed : n.directive = some .feed →
    ∀ name ∈ n.attributes.keys, beginsWith defaultPrefix name = false

namespace Node.Respellable

variable {n : Node} (h : n.Respellable ns)

include h

theorem isNamespaced : (n.respell ns).isNamespaced = n.isNamespaced := by
  unfold Node.isNamespaced
  rw [h.nsPrefix]
  exact beginsWith_respellName h.tag

/-- Tags without the prefix stay as they are. -/
theorem tag_eq (hwritten : n.isNamespaced = false) : (n.respell ns).tag = n.tag := by
  rw [Node.isNamespaced, h.nsPrefix] at hwritten
  exact respellName_of_plain hwritten

theorem isDirectiveAttribute {name : String} (hname : name ∈ n.attributes.keys) :
    (n.respell ns).isDirectiveAttribute (respellName ns name) = n.isDirectiveAttribute name := by
  unfold Node.isDirectiveAttribute
  rw [h.nsPrefix]
  show beginsWith ns (respellName ns name) = _
  exact beginsWith_respellName (h.attributes name hname)

theorem plainAttributes : (n.respell ns).plainAttributes = n.plainAttributes := by
  have hfilter : (n.respell ns).plainAttributes =
      n.plainAttributes.map fun entry => (respellName ns entry.1, entry.2) := by
    unfold Node.plainAttributes
    show List.filter _ (List.map _ n.attributes.entries) = _
    rw [List.filter_map]
    refine congrArg _ (List.filter_congr fun entry hentry => ?_)
    exact congrArg not (h.isDirectiveAttribute (List.mem_map_of_mem (f := Prod.fst) hentry))
  rw [hfilter]
  refine (List.map_congr_left fun entry hentry => ?_).trans (List.map_id _)
  have hplain : n.isDirectiveAttribute entry.1 = false := by
    simpa using (List.mem_filter.1 hentry).2
  rw [Node.isDirectiveAttribute, h.nsPrefix] at hplain
  rw [respellName_of_plain hplain]
  rfl

theorem directiveAttribute? (name : String) :
    (n.respell ns).directiveAttribute? name = n.directiveAttribute? name := by
  unfold Node.directiveAttribute?
  rw [h.nsPrefix]
  show (n.attributes.mapKeys _).get? (ns ++ name) = _
  rw [← respellName_append ns name]
  refine OrderedMap.get?_mapKeys fun k hk heq => ?_
  rw [respellName_append] at heq
  exact eq_of_respellName_eq (h.attributes k hk) heq

theorem isFoldable : (n.respell ns).isFoldable = n.isFoldable := by
  have hattributes : (n.respell ns).attributes = n.attributes.mapKeys (respellName ns) := rfl
  have hkeys : (n.respell ns).attributes.keys.any (n.respell ns).isDirectiveAttribute =
      n.attributes.keys.any n.isDirectiveAttribute := by
    rw [hattributes, OrderedMap.keys_mapKeys, List.any_map, Bool.eq_iff_iff, List.any_eq_true,
      List.any_eq_true]
    refine exists_congr fun name => and_congr_right fun hname => ?_
    rw [Function.comp_apply, h.isDirectiveAttribute hname]
  have hvalues : (n.respell ns).attributes.values = n.attributes.values :=
    OrderedMap.values_mapKeys _ _
  unfold Node.isFoldable
  rw [hkeys, hvalues]
  rfl

/-- A folded element has no prefix left to respell. -/
theorem folded : (n.respell ns).folded = n.folded := by
  have hbody : (n.respell ns).ownText = n.ownText := rfl
  have hselfClosing : (n.respell ns).selfClosing = n.selfClosing := rfl
  unfold Node.folded
  rw [h.plainAttributes, h.isNamespaced, hbody, hselfClosing]
  cases hwritten : n.isNamespaced with
  | true => rfl
  | false =>
    dsimp only
    rw [h.tag_eq hwritten]

/-- The attributes of a feed stay as they are. -/
theorem attributes_eq (hfeed : n.directive = some .feed) :
    (n.respell ns).attributes = n.attributes := by
  show OrderedMap.mk _ = _
  refine congrArg OrderedMap.mk ((List.map_congr_left fun entry hentry => ?_).trans (List.map_id _))
  rw [respellName_of_plain (h.feed hfeed _ (List.mem_map_of_mem (f := Prod.fst) hentry))]
  rfl

end Node.Respellable

/-- Names that a directive gives to its own attributes have no prefix. -/
theorem get?_respelled (hns : ':' ∈ ns.toList) {attributes : OrderedMap String}
    (hattributes : ∀ k ∈ attributes.keys, beginsWith ns k = false) (h : ':' ∉ name.toList) :
    (attributes.mapKeys (respellName ns)).get? name = attributes.get? name := by
  have hself : respellName ns name = name := respellName_of_notMem h
  conv_lhs => rw [← hself]
  exact OrderedMap.get?_mapKeys fun k hk =>
    respellName_injective (hattributes k hk) (beginsWith_of_notMem hns h)

/-! ## Errors -/

/-- What is wrong with two documents, in the words of each. The words for bad attributes and bad
markup quote names and positions. -/
inductive SameProblem : String → String → Prop
  | refl (problem : String) : SameProblem problem problem
  | attribute (fault fault' : Markup.AttributeFault) : SameProblem fault.message fault'.message
  | markup (fault fault' : Markup.Fault) : SameProblem fault.message fault'.message

/-- Errors of the same kind at the same place, which differ in the names that they quote. -/
inductive Error.Respelled (ns : String) : Error → Error → Prop
  | refl (e : Error) : Respelled ns e e
  | malformed {problem problem' : String} (same : SameProblem problem problem') (line : Nat)
      (file : String) :
    Respelled ns (.malformed problem line file) (.malformed problem' line file)
  /-- The innermost open element is named behind the problem. -/
  | malformedIn {problem other : String} (same : SameProblem problem other) (tag : String)
      (opened line : Nat) (file : String) :
    Respelled ns (.malformed s!"{problem}. Last element: {tag}({opened})" line file)
      (.malformed s!"{other}. Last element: {respellName ns tag}({opened})" line file)
  | requiredAttribute (tag name : String) (line : Nat) (file : String) :
    Respelled ns (.requiredAttribute tag name line file)
      (.requiredAttribute (respellName ns tag) name line file)
  | rendering (tag file : String) (line : Nat) (cause : Error) :
    Respelled ns (.rendering tag file line cause)
      (.rendering (respellName ns tag) file line cause)

theorem Error.withFile_malformed (problem : String) (line : Nat) (file path : String) :
    (malformed problem line file).withFile path =
      malformed problem line (if file = "" then path else file) := by
  by_cases h : file = ""
  · rw [if_pos h, h]
    rfl
  · rw [if_neg h, withFile.eq_3]
    all_goals simp [h]

theorem Error.withFile_requiredAttribute (tag name : String) (line : Nat) (file path : String) :
    (requiredAttribute tag name line file).withFile path =
      requiredAttribute tag name line (if file = "" then path else file) := by
  by_cases h : file = ""
  · rw [if_pos h, h]
    rfl
  · rw [if_neg h, withFile.eq_3]
    all_goals simp [h]

/-- The path of a template is put into both errors. -/
theorem Error.Respelled.withFile {e e' : Error} (h : e.Respelled ns e') (path : String) :
    (e.withFile path).Respelled ns (e'.withFile path) := by
  cases h with
  | refl => exact .refl _
  | rendering tag file line cause => exact .rendering tag file line cause
  | malformed same line file =>
    rw [withFile_malformed, withFile_malformed]
    exact .malformed same _ _
  | malformedIn same tag opened line file =>
    rw [withFile_malformed, withFile_malformed]
    exact .malformedIn same _ _ _ _
  | requiredAttribute tag name line file =>
    rw [withFile_requiredAttribute, withFile_requiredAttribute]
    exact .requiredAttribute _ _ _ _

/-! ## Operations of the builder -/

/-- The element once it is closed; `slash` says that its tag ends in a slash. -/
def Node.closed (n : Node) (slash : Bool) : Node :=
  { n with selfClosing := n.selfClosing && n.children.isEmpty && slash }

namespace Builder

/-- The builder with another prefix and the elements respelled. -/
def respell (ns : String) (source : List Char) (b : Builder) : Builder :=
  { b with source, nsPrefix? := some ns, nodes := b.nodes.map (Node.respell ns) }

/-- A builder that knows the default prefix and whose elements can be respelled, beside the one with
the respelled elements. -/
structure Respells (ns : String) (source source' : List Char) (b b' : Builder) : Prop where
  source_eq : b.source = source
  nsPrefix? : b.nsPrefix? = some defaultPrefix
  respellable : ∀ n ∈ b.nodes, n.Respellable ns
  eq : b' = b.respell ns source'

variable {b b' : Builder} {source source' : List Char}

theorem respelled_error (b : Builder) (source : List Char) {problem problem' : String}
    (same : SameProblem problem problem') (line : Nat) :
    (b.error problem line).Respelled ns ((b.respell ns source).error problem' line) := by
  have hinner : (b.respell ns source).innermost? = b.innermost?.map (Node.respell ns) := by
    unfold innermost? respell
    dsimp only
    cases b.opened.head? with
    | none => rfl
    | some id => exact List.getElem?_map
  unfold error
  rw [hinner]
  cases b.innermost? with
  | none => exact .malformed same line ""
  | some n => exact .malformedIn same n.tag n.line line ""

theorem map_modify {α β : Type} {f : α → β} {g : α → α} {g' : β → β} (h : ∀ a, f (g a) = g' (f a))
    (l : List α) (i : Nat) : (l.modify i g).map f = (l.map f).modify i g' := by
  refine List.ext_getElem? fun j => ?_
  rw [List.getElem?_map, List.getElem?_modify, List.getElem?_modify, List.getElem?_map]
  cases l[j]? with
  | none => rfl
  | some a =>
    by_cases hij : i = j
    · simp [hij, h]
    · simp [hij]

theorem respell_addNode (b : Builder) (source : List Char) (tag : String)
    (attributes : OrderedMap String) (line : Nat) (directive : Option Directive) :
    (b.respell ns source).addNode (respellName ns tag) (attributes.mapKeys (respellName ns)) line
        directive =
      (b.addNode tag attributes line directive).respell ns source := by
  unfold addNode respell
  dsimp only
  rw [List.length_map]
  cases b.opened.head? with
  | none =>
    dsimp only
    rw [List.map_append]
    rfl
  | some parent =>
    dsimp only
    have hparent : (b.nodes.modify parent fun n =>
          { n with children := n.children ++ [.node b.nodes.length], selfClosing := false }).map
            (Node.respell ns) =
        (b.nodes.map (Node.respell ns)).modify parent fun n =>
          { n with children := n.children ++ [.node b.nodes.length], selfClosing := false } :=
      map_modify (by intro n; rfl) _ _
    rw [List.map_append, hparent]
    rfl

/-- What a directive requires is there or not in both spellings. -/
theorem missing?_respelled (hns : ':' ∈ ns.toList) (directive : Option Directive)
    {attributes : OrderedMap String} (h : ∀ k ∈ attributes.keys, beginsWith ns k = false) :
    missing? directive (attributes.mapKeys (respellName ns)) = missing? directive attributes := by
  cases directive with
  | none => rfl
  | some d =>
    refine List.find?_congr fun name hname => ?_
    unfold OrderedMap.contains
    rw [get?_respelled hns h (Directive.notMem_colon hname)]

/-- Results of an operation on both sides. -/
abbrev Respelled (ns : String) (source source' : List Char) :
    Except Error Builder → Except Error Builder → Prop :=
  Corresponds (Error.Respelled ns) (Respells ns source source')

/-- The builder after an operation that succeeded. -/
def settled (answer : Except Error Unit × Builder) : Except Error Builder :=
  answer.1.map fun _ => answer.2

/-- A builder that knows the prefix takes every attribute of an opening tag. -/
theorem openElement_of_known (hknown : b.nsPrefix? = some ns) (tag : String)
    (attributes : OrderedMap String) (line : Nat) :
    b.openElement tag attributes line =
      if b.opened.isEmpty ∧ b.root.isSome then
        (.error (b.error "document has more than one root element" line), b)
      else
        match missing? (Directive.ofTag? ns tag) attributes with
        | some name => (.error (.requiredAttribute tag name line ""), b)
        | none => (.ok (), b.addNode tag attributes line (Directive.ofTag? ns tag)) := by
  have hinformed : b.informed attributes = (b, attributes) := by
    rw [informed, hknown]
    rfl
  have hspelled : b.nsPrefix = ns := by
    rw [nsPrefix, hknown]
    rfl
  rw [openElement_eq, hinformed]
  dsimp only
  subst hspelled
  rfl

theorem mem_modify {α : Type} {f : α → α} {l : List α} {i : Nat} {a : α} (h : a ∈ l.modify i f) :
    a ∈ l ∨ ∃ a' ∈ l, a = f a' := by
  obtain ⟨j, hj⟩ := List.mem_iff_getElem?.1 h
  rw [List.getElem?_modify] at hj
  cases hl : l[j]? with
  | none =>
    rw [hl] at hj
    cases hj
  | some a' =>
    rw [hl] at hj
    have hmem := List.mem_of_getElem? hl
    by_cases hij : i = j
    · exact .inr ⟨a', hmem, by simpa [hij] using hj.symm⟩
    · have heq : a' = a := by simpa [hij] using hj
      exact .inl (heq ▸ hmem)

/-- Elements whose names are kept can still be respelled. -/
theorem respellable_modify {nodes : List Node} (h : ∀ n ∈ nodes, n.Respellable ns) {f : Node → Node}
    (hf : ∀ n, n.Respellable ns → (f n).Respellable ns) (i : Nat) :
    ∀ n ∈ nodes.modify i f, n.Respellable ns := by
  intro n hn
  rcases mem_modify hn with hold | ⟨n', hn', rfl⟩
  · exact h n hold
  · exact hf n' (h n' hn')

theorem respellable_addNode (h : ∀ n ∈ b.nodes, n.Respellable ns) {tag : String}
    {attributes : OrderedMap String} {directive : Option Directive} {line : Nat}
    (hnew : ∀ parent, Node.Respellable ns
      ⟨tag, b.nsPrefix, attributes, [], true, line, parent, b.pending, directive⟩) :
    ∀ n ∈ (b.addNode tag attributes line directive).nodes, n.Respellable ns := by
  intro n hn
  unfold addNode at hn
  dsimp only at hn
  rw [List.mem_append, List.mem_singleton] at hn
  rcases hn with hold | rfl
  · cases hopened : b.opened.head? with
    | none =>
      rw [hopened] at hold
      exact h n hold
    | some parent =>
      rw [hopened] at hold
      refine respellable_modify h (fun n hn => ?_) parent n hold
      exact ⟨hn.nsPrefix, hn.tag, hn.attributes, hn.feed⟩
  · exact hnew _

/-- **An opening tag under other names** opens the respelled element. -/
theorem respelled_openElement (hns : ':' ∈ ns.toList) (h : Respells ns source source' b b')
    {tag : String} (htag : beginsWith ns tag = false) {attributes : OrderedMap String}
    (hattributes : ∀ k ∈ attributes.keys, beginsWith ns k = false)
    (hfeed : Directive.ofTag? defaultPrefix tag = some .feed →
      ∀ k ∈ attributes.keys, beginsWith defaultPrefix k = false) (line : Nat) :
    Respelled ns source source' (settled (b.openElement tag attributes line))
      (settled
        (b'.openElement (respellName ns tag) (attributes.mapKeys (respellName ns)) line)) := by
  obtain rfl := h.eq
  have hspelled : b.nsPrefix = defaultPrefix := by
    rw [nsPrefix, h.nsPrefix?]
    rfl
  have hdirective : Directive.ofTag? ns (respellName ns tag) =
      Directive.ofTag? defaultPrefix tag := by
    rw [Directive.ofTag?, Directive.ofTag?, afterStart?_respellName htag]
  rw [openElement_of_known h.nsPrefix?, openElement_of_known (b := b.respell ns source') rfl,
    hdirective, missing?_respelled hns _ hattributes]
  show Respelled ns source source' _ (settled (if b.opened.isEmpty ∧ b.root.isSome then _ else _))
  split
  · exact .error (respelled_error b source' (.refl _) line)
  · cases missing? (Directive.ofTag? defaultPrefix tag) attributes with
    | some name => exact .error (.requiredAttribute tag name line "")
    | none =>
      refine .ok ⟨h.source_eq, h.nsPrefix?, respellable_addNode h.respellable fun parent => ?_,
        respell_addNode b source' tag attributes line _⟩
      exact ⟨hspelled, htag, hattributes, hfeed⟩

/-- Text is taken in on both sides. -/
theorem respelled_addText (h : Respells ns source source' b b') (content : String) (line : Nat) :
    Respelled ns source source' (settled (b.addText content line))
      (settled (b'.addText content line)) := by
  obtain rfl := h.eq
  unfold addText
  cases hopened : b.opened with
  | nil =>
    rw [show (b.respell ns source').opened = [] from hopened]
    dsimp only
    split
    · exact .ok h
    · exact .error (respelled_error b source' (.refl _) line)
  | cons id ids =>
    rw [show (b.respell ns source').opened = id :: ids from hopened]
    refine .ok ⟨h.source_eq, h.nsPrefix?, ?_, ?_⟩
    · intro n hn
      refine respellable_modify h.respellable (fun n hn => ?_) id n hn
      exact ⟨hn.nsPrefix, hn.tag, hn.attributes, hn.feed⟩
    · have hnodes : (b.nodes.modify id fun n =>
            { n with children := appendText n.children content, selfClosing := false }).map
              (Node.respell ns) =
          (b.nodes.map (Node.respell ns)).modify id fun n =>
            { n with children := appendText n.children content, selfClosing := false } :=
        map_modify (by intro n; rfl) _ _
      unfold respell
      dsimp only
      rw [hnodes]

/-- The builder that has left an element. -/
def leaving (b : Builder) (id : Nat) (node : Node) (opened : List Nat) : Builder :=
  { b with nodes := b.nodes.set id node, opened }

theorem closeElement_of_node {id : Nat} {opened : List Nat} {node : Node}
    (hopened : b.opened = id :: opened) (hnode : b.nodes[id]? = some node) (offset line : Nat) :
    b.closeElement offset line =
      let node := node.closed (endsInSlash b.source offset)
      (.ok (), if b.fold && node.isFoldable then (b.leaving id node opened).foldNode id node
        else b.leaving id node opened) := by
  unfold closeElement
  rw [hopened]
  dsimp only
  rw [hnode]
  rfl

/-- A folded element leaves the same text on both sides. -/
theorem respell_foldNode (b : Builder) (source : List Char) (id : Nat) {node : Node}
    (hnode : node.Respellable ns) :
    (b.respell ns source).foldNode id (node.respell ns) =
      (b.foldNode id node).respell ns source := by
  unfold foldNode
  rw [show (node.respell ns).parent = node.parent from rfl, hnode.folded]
  cases node.parent with
  | none =>
    unfold respell
    dsimp only
    rw [List.map_take]
  | some parent =>
    have hnodes : (updateChildren parent
          (fun children => appendText children.dropLast node.folded) (b.nodes.take id)).map
            (Node.respell ns) =
        updateChildren parent (fun children => appendText children.dropLast node.folded)
          ((b.nodes.map (Node.respell ns)).take id) := by
      unfold updateChildren
      rw [← List.map_take]
      exact map_modify (by intro n; rfl) _ _
    unfold respell
    dsimp only
    rw [hnodes]

theorem respells_foldNode (h : Respells ns source source' b b') (id : Nat) {node : Node}
    (hnode : node.Respellable ns) :
    Respells ns source source' (b.foldNode id node) (b'.foldNode id (node.respell ns)) := by
  obtain rfl := h.eq
  have htake : ∀ n ∈ b.nodes.take id, n.Respellable ns :=
    fun n hn => h.respellable n (List.mem_of_mem_take hn)
  refine ⟨?_, ?_, ?_, respell_foldNode b source' id hnode⟩
  · unfold foldNode
    cases node.parent <;> exact h.source_eq
  · unfold foldNode
    cases node.parent <;> exact h.nsPrefix?
  · unfold foldNode
    cases node.parent with
    | none => exact htake
    | some parent =>
      intro n hn
      refine respellable_modify htake (fun n hn => ?_) parent n hn
      exact ⟨hn.nsPrefix, hn.tag, hn.attributes, hn.feed⟩

theorem respells_leaving (h : Respells ns source source' b b') (id : Nat) {node : Node}
    (hnode : node.Respellable ns) (opened : List Nat) :
    Respells ns source source' (b.leaving id node opened)
      (b'.leaving id (node.respell ns) opened) := by
  obtain rfl := h.eq
  refine ⟨h.source_eq, h.nsPrefix?, fun n hn => ?_, ?_⟩
  · rcases List.mem_or_eq_of_mem_set hn with hn | rfl
    · exact h.respellable n hn
    · exact hnode
  · unfold leaving respell
    dsimp only
    rw [List.map_set]

/-- **A closing tag** folds the element on both sides or on none. -/
theorem respelled_closeElement (h : Respells ns source source' b b') {offset offset' : Nat}
    (hslash : endsInSlash source offset = endsInSlash source' offset') (line : Nat) :
    Respelled ns source source' (settled (b.closeElement offset line))
      (settled (b'.closeElement offset' line)) := by
  obtain rfl := h.eq
  cases hopened : b.opened with
  | nil =>
    unfold closeElement
    rw [hopened, show (b.respell ns source').opened = [] from hopened]
    exact .error (respelled_error b source' (.refl _) line)
  | cons id opened =>
    have hnode' : (b.respell ns source').nodes[id]? = b.nodes[id]?.map (Node.respell ns) :=
      List.getElem?_map
    cases hnode : b.nodes[id]? with
    | none =>
      rw [hnode] at hnode'
      unfold closeElement
      rw [hopened, show (b.respell ns source').opened = id :: opened from hopened]
      dsimp only
      rw [hnode, hnode']
      exact .ok ⟨h.source_eq, h.nsPrefix?, h.respellable, rfl⟩
    | some node =>
      rw [hnode] at hnode'
      have hold := h.respellable node (List.mem_of_getElem? hnode)
      rw [closeElement_of_node hopened hnode,
        closeElement_of_node (b := b.respell ns source') hopened hnode',
        show (b.respell ns source').source = source' from rfl, h.source_eq, ← hslash]
      have hclosed : (node.respell ns).closed (endsInSlash source offset) =
          (node.closed (endsInSlash source offset)).respell ns := rfl
      rw [hclosed]
      generalize hended : node.closed (endsInSlash source offset) = ended
      have hrespellable : ended.Respellable ns := by
        rw [← hended]
        exact ⟨hold.nsPrefix, hold.tag, hold.attributes, hold.feed⟩
      have hleft := respells_leaving h id hrespellable opened
      have hfold : (b.respell ns source').fold = b.fold := rfl
      dsimp only
      rw [hfold, hrespellable.isFoldable]
      split
      · exact .ok (respells_foldNode hleft id hrespellable)
      · exact .ok hleft

end Builder

end TagTemplate
