import Mathlib.Data.List.Nodup
import TagTemplate.Proofs.Template.Lines
import TagTemplate.Proofs.Template.Respelling

/-!
# Sources with another prefix

A source is respelled if its tags and attributes have another prefix in place of the default one and
its first tag declares that prefix. It is read as the respelled template, provided that no other
attribute is taken for the declaration: an attribute may become one by its new name.

- `FirstTag.Declares`: the attributes of the first tag, with the declaration among them;
- `DeclaredFirst`: the declaration comes before all attributes that look like one;
- `SourceRespelled`: a source and the respelled one, event by event;
- `respelled_add`: one event, taken in on both sides;
- `respelled_readSource`: **the respelled source is read as the respelled template**, or both are
  not read for the same reason.
-/

namespace TagTemplate

open Text Markup

/-! ## The first tag -/

namespace FirstTag

/-- The attributes of a first tag that declares no namespace, and the same with another prefix and
with its declaration, which may stand anywhere among them. -/
structure Declares (declared : String) (attributes attributes' : List (String × String)) :
    Prop where
  undeclared : declaration? attributes = none
  declaration : ∃ front back value, attributes' =
      front ++ (namespaceDeclaration ++ declared, value) :: back ∧
    front ++ back = attributes.map (fun a => (respellName (declared ++ ":") a.1, a.2)) ∧
    contains namespaceSignature value = true
  distinct : (attributes'.map Prod.fst).Nodup

/-- Nothing in front of the declaration of a prefix declares another one. Only a prefix that looks
like a declaration itself leaves room for that. -/
def Precedes (declared : String) (attributes : List (String × String)) : Prop :=
  beginsWith namespaceDeclaration (declared ++ ":") = true →
    ∀ front back value, attributes = front ++ (namespaceDeclaration ++ declared, value) :: back →
      ∀ a ∈ front, Builder.declaredPrefix? a.1 a.2 = none

variable {declared : String} {attributes attributes' : List (String × String)}

theorem mem_colon_append_colon (declared : String) : ':' ∈ (declared ++ ":").toList := by
  rw [String.toList_append]
  exact List.mem_append_right _ (by decide)

/-- What holds of all names in a list holds of those in its map. -/
theorem mem_ofList {P : String → Prop} {attributes : List (String × String)}
    (h : ∀ a ∈ attributes, P a.1) {k : String} (hk : k ∈ (OrderedMap.ofList attributes).keys) :
    P k := by
  rcases (OrderedMap.mem_keys_insertAll .empty attributes k).1 hk with hempty | hmem
  · cases hempty
  · obtain ⟨a, ha, rfl⟩ := List.mem_map.1 hmem
    exact h a ha

/-- Only a prefix that begins like a declaration makes names that begin like one. -/
theorem beginsWith_declaration_append {ns : String} (hns : ':' ∈ ns.toList)
    (hdeclaration : beginsWith namespaceDeclaration ns = false) (rest : String) :
    beginsWith namespaceDeclaration (ns ++ rest) = false := by
  rw [beginsWith_eq_false_iff] at hdeclaration ⊢
  intro more heq
  have hchars : ns.toList ++ rest.toList = namespaceDeclaration.toList ++ more.toList := by
    rw [← String.toList_append, ← String.toList_append, heq]
  rcases List.append_eq_append_iff.1 hchars with ⟨tail, htail, -⟩ | ⟨tail, htail, -⟩
  · -- the only colon is the last character, so the prefix is the whole declaration
    rcases List.eq_nil_or_concat tail with rfl | ⟨tail, c, rfl⟩
    · refine hdeclaration "" ?_
      rw [← String.toList_inj, String.toList_append, htail]
      simp
    · have hsplit : ['x', 'm', 'l', 'n', 's'] ++ [':'] = (ns.toList ++ tail) ++ [c] := by
        rw [List.append_assoc, ← List.concat_eq_append (a := c)]
        exact htail
      have hfront := (List.append_inj' hsplit rfl).1
      have hcolon : ':' ∈ ['x', 'm', 'l', 'n', 's'] := by
        rw [hfront]
        exact List.mem_append_left _ hns
      exact absurd hcolon (by decide)
  · refine hdeclaration (String.ofList tail) ?_
    rw [← String.toList_inj, String.toList_append, String.toList_ofList, htail]

/-- A respelled attribute declares nothing that it did not declare before. -/
theorem declaredPrefix?_respellName {ns name value : String} (hns : ':' ∈ ns.toList)
    (hdeclaration : beginsWith namespaceDeclaration ns = false)
    (hname : Builder.declaredPrefix? name value = none) :
    Builder.declaredPrefix? (respellName ns name) value = none := by
  unfold respellName
  split
  · rename_i rest hrest
    have hplain := beginsWith_declaration_append hns hdeclaration rest
    rw [beginsWith, Option.isSome_eq_false_iff, Option.isNone_iff_eq_none] at hplain
    rw [Builder.declaredPrefix?, hplain]
    rfl
  · exact hname

namespace Declares

variable (h : Declares declared attributes attributes')

include h

/-- The names are distinct before and after. -/
theorem nodup : (attributes.map Prod.fst).Nodup := by
  obtain ⟨front, back, value, heq, hboth, -⟩ := h.declaration
  have hdistinct := h.distinct
  rw [heq, List.map_append, List.map_cons] at hdistinct
  have hrest : ((front ++ back).map Prod.fst).Nodup := by
    rw [List.map_append]
    exact hdistinct.sublist (List.Sublist.append_left (List.sublist_cons_self ..) _)
  rw [hboth, List.map_map] at hrest
  refine List.Nodup.of_map (respellName (declared ++ ":")) ?_
  rw [List.map_map]
  exact hrest

theorem declaration?_eq (hdeclared : declared ≠ "") (hprecedes : Precedes declared attributes') :
    declaration? attributes' = some (namespaceDeclaration ++ declared, declared ++ ":") := by
  have hundeclared := h.undeclared
  obtain ⟨front, back, value, heq, hboth, hsignature⟩ := h.declaration
  rw [declaration?, OrderedMap.ofList_of_nodup h.nodup, List.findSome?_eq_none_iff] at hundeclared
  rw [declaration?, OrderedMap.ofList_of_nodup h.distinct]
  dsimp only
  rw [heq, List.findSome?_append]
  -- nothing in front of the new declaration declares a prefix
  have hfront : front.findSome? (fun entry =>
      (Builder.declaredPrefix? entry.1 entry.2).map fun declared =>
        (entry.1, declared)) = none := by
    rw [List.findSome?_eq_none_iff]
    intro entry hentry
    rw [Option.map_eq_none_iff]
    cases hlooks : beginsWith namespaceDeclaration (declared ++ ":") with
    | true => exact hprecedes hlooks front back value heq entry hentry
    | false =>
      have hmem : entry ∈ front ++ back := List.mem_append_left _ hentry
      rw [hboth] at hmem
      obtain ⟨a, ha, rfl⟩ := List.mem_map.1 hmem
      have hnone := Option.map_eq_none_iff.1 (hundeclared a ha)
      exact declaredPrefix?_respellName (mem_colon_append_colon _) hlooks hnone
  have hself : Builder.declaredPrefix? (namespaceDeclaration ++ declared) value =
      some (declared ++ ":") := by
    rw [Builder.declaredPrefix?, afterStart?_eq_some_iff.2 rfl]
    exact if_pos ⟨hdeclared, hsignature⟩
  rw [hfront, List.findSome?_cons]
  dsimp only
  rw [hself]
  rfl

/-- Apart from the declaration the attributes are the respelled ones. -/
theorem undeclared_eq (hdeclared : declared ≠ "") (hprecedes : Precedes declared attributes') :
    FirstTag.undeclared attributes' =
      (OrderedMap.ofList attributes).mapKeys (respellName (declared ++ ":")) := by
  rw [FirstTag.undeclared, h.declaration?_eq hdeclared hprecedes]
  dsimp only
  have hdistinct := h.distinct
  obtain ⟨front, back, value, heq, hboth, -⟩ := h.declaration
  have hrest : (OrderedMap.ofList attributes').erase (namespaceDeclaration ++ declared) =
      ⟨front ++ back⟩ := by
    rw [OrderedMap.ofList_of_nodup hdistinct]
    rw [heq, List.map_append, List.map_cons] at hdistinct
    rw [heq]
    obtain ⟨-, hback, hapart⟩ := List.nodup_append.1 hdistinct
    -- no other attribute has the name of the declaration
    have hfront : ∀ entry ∈ front, entry.1 ≠ namespaceDeclaration ++ declared := fun entry hentry =>
      hapart _ (List.mem_map_of_mem hentry) _ List.mem_cons_self
    have hback' : ∀ entry ∈ back, entry.1 ≠ namespaceDeclaration ++ declared := by
      intro entry hentry heq
      have hmem := List.mem_map_of_mem (f := Prod.fst) hentry
      rw [heq] at hmem
      exact (List.nodup_cons.1 hback).1 hmem
    unfold OrderedMap.erase
    refine congrArg OrderedMap.mk ?_
    dsimp only
    rw [List.filter_append, List.filter_cons_of_neg (by simp),
      List.filter_eq_self.2 fun entry hentry => decide_eq_true (hfront entry hentry),
      List.filter_eq_self.2 fun entry hentry => decide_eq_true (hback' entry hentry)]
  rw [hrest, hboth, OrderedMap.ofList_of_nodup h.nodup]
  rfl

/-- The first tag says the same of the document. -/
theorem said_eq (hdeclared : declared ≠ "") (hprecedes : Precedes declared attributes')
    (hplain : ∀ a ∈ attributes, beginsWith (declared ++ ":") a.1 = false) :
    FirstTag.nsPrefix attributes' = declared ++ ":" ∧
      FirstTag.transSource attributes' = FirstTag.transSource attributes ∧
      FirstTag.kept attributes' =
        (FirstTag.kept attributes).mapKeys (respellName (declared ++ ":")) := by
  have hspelled : FirstTag.nsPrefix attributes' = declared ++ ":" := by
    rw [FirstTag.nsPrefix, h.declaration?_eq hdeclared hprecedes]
    rfl
  have hdefault : FirstTag.nsPrefix attributes = defaultPrefix := by
    rw [FirstTag.nsPrefix, h.undeclared]
    rfl
  have hundeclared : FirstTag.undeclared attributes = .ofList attributes := by
    rw [FirstTag.undeclared, h.undeclared]
  have htrans : (declared ++ ":") ++ "trans" =
      respellName (declared ++ ":") (defaultPrefix ++ "trans") := (respellName_append _ _).symm
  have hinj : ∀ k ∈ (OrderedMap.ofList attributes).keys,
      respellName (declared ++ ":") k = respellName (declared ++ ":") (defaultPrefix ++ "trans") →
        k = defaultPrefix ++ "trans" := by
    intro k hk heq
    rw [respellName_append] at heq
    exact eq_of_respellName_eq
      (mem_ofList (P := fun k => beginsWith (declared ++ ":") k = false) hplain hk) heq
  refine ⟨hspelled, ?_, ?_⟩
  · rw [FirstTag.transSource, hspelled, h.undeclared_eq hdeclared hprecedes,
      FirstTag.transSource, hdefault, hundeclared, htrans]
    exact OrderedMap.get?_mapKeys hinj
  · rw [FirstTag.kept, hspelled, h.undeclared_eq hdeclared hprecedes, FirstTag.kept, hdefault,
      hundeclared, htrans]
    exact OrderedMap.erase_mapKeys hinj

end Declares

end FirstTag

namespace Builder

variable {declared tag : String} {attributes attributes' : List (String × String)}

/-- Nothing in front of the first tag is kept by the builder. -/
theorem openElement_start (source : List Char) (fold : Bool) (tag : String)
    (attributes : List (String × String)) (line : Nat) :
    settled ((start source fold).openElement tag (.ofList attributes) line) =
      settled ({ start source fold with
        nsPrefix? := some (FirstTag.nsPrefix attributes)
        transSource := FirstTag.transSource attributes }.openElement tag (FirstTag.kept attributes)
          line) := by
  have hinformed : (start source fold).informed (.ofList attributes) =
      ({ start source fold with
        nsPrefix? := some (FirstTag.nsPrefix attributes)
        transSource := FirstTag.transSource attributes }, FirstTag.kept attributes) :=
    FirstTag.capture_eq (start source fold) attributes
  rw [openElement_eq, hinformed, openElement_eq]
  rfl

/-- **The first tag with a declaration** opens the respelled root. -/
theorem respelled_root (hdeclared : declared ≠ "")
    (h : FirstTag.Declares declared attributes attributes')
    (hprecedes : FirstTag.Precedes declared attributes')
    (htag : beginsWith (declared ++ ":") tag = false)
    (hattributes : ∀ a ∈ attributes, beginsWith (declared ++ ":") a.1 = false)
    (hfeed : Directive.ofTag? defaultPrefix tag = some .feed →
      ∀ a ∈ attributes, beginsWith defaultPrefix a.1 = false)
    (source source' : List Char) (fold : Bool) (line : Nat) :
    Respelled (declared ++ ":") source source'
      (settled ((start source fold).openElement tag (.ofList attributes) line))
      (settled ((start source' fold).openElement (respellName (declared ++ ":") tag)
        (.ofList attributes') line)) := by
  obtain ⟨hspelled, htrans, hkept⟩ := h.said_eq hdeclared hprecedes hattributes
  have hdefault : FirstTag.nsPrefix attributes = defaultPrefix := by
    rw [FirstTag.nsPrefix, h.undeclared]
    rfl
  have hkeys : ∀ {P : String → Prop}, (∀ a ∈ attributes, P a.1) →
      ∀ k ∈ (FirstTag.kept attributes).keys, P k := by
    intro P hP k hk
    rw [FirstTag.kept, FirstTag.undeclared, h.undeclared] at hk
    have hsub := (List.filter_sublist.map Prod.fst).subset hk
    exact FirstTag.mem_ofList hP hsub
  have hknown : Respells (declared ++ ":") source source'
      { start source fold with
        nsPrefix? := some defaultPrefix, transSource := FirstTag.transSource attributes }
      { start source' fold with
        nsPrefix? := some (declared ++ ":"), transSource := FirstTag.transSource attributes } :=
    ⟨rfl, rfl, fun n hn => absurd hn List.not_mem_nil, rfl⟩
  rw [openElement_start, openElement_start, hspelled, htrans, hkept, hdefault]
  exact respelled_openElement (FirstTag.mem_colon_append_colon declared) hknown htag
    (hkeys hattributes) (fun hd => hkeys (hfeed hd)) line

end Builder

/-! ## Events -/

/-- The tag that an event opens. -/
def Markup.Event.tag? : Event → Option Tag
  | .start tag => some tag
  | .empty tag => some tag
  | _ => none

/-- Two tags with related attributes, or with attributes that cannot be read; the second one has the
name with another prefix. -/
structure Markup.Tag.Respelled (ns : String)
    (attributes : List (String × String) → List (String × String) → Prop) (tag tag' : Tag) :
    Prop where
  name : String.ofList tag'.name = respellName ns (String.ofList tag.name)
  attributes : Corresponds (fun _ _ => True) attributes tag.attributes tag'.attributes

/-- Two events of the same kind that say the same, but for their tags. -/
inductive Markup.Event.Like (tags : Tag → Tag → Prop) : Event → Event → Prop
  | start {tag tag' : Tag} : tags tag tag' → Like tags (.start tag) (.start tag')
  | empty {tag tag' : Tag} : tags tag tag' → Like tags (.empty tag) (.empty tag')
  | stop : Like tags .stop .stop
  | text (content : List Char) : Like tags (.text content) (.text content)
  | literal (content : List Char) : Like tags (.literal content) (.literal content)
  | reference (name : List Char) : Like tags (.reference name) (.reference name)
  | aside : Like tags .aside .aside

/-- Two events of two sources on the same line; their ends look the same. -/
structure Markup.Located.Like (tags : Tag → Tag → Prop) (source source' : List Char)
    (e e' : Located) : Prop where
  event : Event.Like tags e.event e'.event
  line : lineOf source e.first = lineOf source' e'.first
  slash : Builder.endsInSlash source e.last = Builder.endsInSlash source' e'.last

theorem Markup.Event.Like.tag?_eq_none {event event' : Event}
    (h : Event.Like (fun _ _ => False) event event') : event'.tag? = none := by
  cases h with
  | start htags => exact htags.elim
  | empty htags => exact htags.elim
  | _ => rfl

/-- The attributes of a tag with another prefix. -/
def RespelledAttributes (ns : String) (attributes attributes' : List (String × String)) : Prop :=
  attributes' = attributes.map fun a => (respellName ns a.1, a.2)

/-- The events of a source and of one with another prefix, which the first tag declares. -/
inductive RespelledEvents (declared : String) (source source' : List Char) :
    List Located → List Located → Prop
  | nil : RespelledEvents declared source source' [] []
  | before {e e' : Located} {es es' : List Located} (quiet : e.event.tag? = none)
      (like : Located.Like (fun _ _ => False) source source' e e')
      (rest : RespelledEvents declared source source' es es') :
    RespelledEvents declared source source' (e :: es) (e' :: es')
  | first {e e' : Located} {es es' : List Located}
      (like : Located.Like (Tag.Respelled (declared ++ ":") (FirstTag.Declares declared)) source
        source' e e')
      (isTag : e.event.tag?.isSome)
      (rest : List.Forall₂ (Located.Like (Tag.Respelled (declared ++ ":")
        (RespelledAttributes (declared ++ ":"))) source source') es es') :
    RespelledEvents declared source source' (e :: es) (e' :: es')

/-- A tag can be respelled if nothing in it has the new prefix. A feed takes all of its attributes
for parameters, so they may have no prefix. -/
structure Markup.Tag.Respellable (ns : String) (tag : Tag) : Prop where
  name : beginsWith ns (String.ofList tag.name) = false
  attributes : ∀ attributes, tag.attributes = .ok attributes →
    ∀ a ∈ attributes, beginsWith ns a.1 = false
  feed : Directive.ofTag? defaultPrefix (String.ofList tag.name) = some .feed →
    ∀ attributes, tag.attributes = .ok attributes →
      ∀ a ∈ attributes, beginsWith defaultPrefix a.1 = false

/-- A tag other than that of a feed can be respelled if its attributes can be read and have another
prefix. -/
theorem Markup.Tag.respellable_of_ok {ns : String} {tag : Tag}
    {attributes : List (String × String)} (hread : tag.attributes = .ok attributes)
    (hname : beginsWith ns (String.ofList tag.name) = false)
    (hplain : ∀ a ∈ attributes, beginsWith ns a.1 = false)
    (hfeed : Directive.ofTag? defaultPrefix (String.ofList tag.name) ≠ some .feed) :
    tag.Respellable ns where
  name := hname
  attributes as has := by
    rw [hread] at has
    cases has
    exact hplain
  feed hd := absurd hd hfeed

namespace Builder

variable {ns : String} {source source' : List Char} {b b' : Builder} {e e' : Located}

/-- A tag whose attributes cannot be read fails on both sides. -/
theorem respelled_openTag {attributes : List (String × String) → List (String × String) → Prop}
    {tag tag' : Tag} (htag : tag.Respelled ns attributes tag') {line : Nat}
    (herror : ∀ {problem problem'}, SameProblem problem problem' →
      (b.error problem line).Respelled ns (b'.error problem' line))
    (hopen : ∀ as as', tag.attributes = .ok as → tag'.attributes = .ok as' → attributes as as' →
      Respelled ns source source'
        (settled (b.openElement (String.ofList tag.name) (.ofList as) line))
        (settled (b'.openElement (respellName ns (String.ofList tag.name)) (.ofList as') line))) :
    Respelled ns source source' (b.openTag tag line) (b'.openTag tag' line) := by
  have hattributes := htag.attributes
  unfold openTag
  rw [htag.name]
  generalize hread : tag.attributes = read at hattributes
  generalize hread' : tag'.attributes = read' at hattributes
  cases hattributes with
  | error _ => exact .error (herror (.attribute _ _))
  | ok has => exact hopen _ _ hread hread' has

theorem respelled_closeTag (h : Respells ns source source' b b') {offset offset' : Nat}
    (hslash : endsInSlash source offset = endsInSlash source' offset') (line : Nat) :
    Respelled ns source source' (b.closeTag offset line) (b'.closeTag offset' line) :=
  respelled_closeElement h hslash line

/-- **An event under other names** is taken in on both sides, or on none. -/
theorem respelled_add (hns : ':' ∈ ns.toList) (h : Respells ns source source' b b')
    (hlike : Located.Like (Tag.Respelled ns (RespelledAttributes ns)) source source' e e')
    (hrespellable : ∀ tag, e.event.tag? = some tag → tag.Respellable ns) (line : Nat) :
    Respelled ns source source' (b.add e line) (b'.add e' line) := by
  have herror : ∀ {problem problem'}, SameProblem problem problem' →
      (b.error problem line).Respelled ns (b'.error problem' line) := by
    intro problem problem' same
    rw [h.eq]
    exact respelled_error b source' same line
  have hopen : ∀ {tag tag' : Tag},
      tag.Respelled ns (RespelledAttributes ns) tag' → tag.Respellable ns →
      Respelled ns source source' (b.openTag tag line) (b'.openTag tag' line) := by
    intro tag tag' htag hable
    refine respelled_openTag htag herror fun as as' hread _ has => ?_
    have hplain := hable.attributes as hread
    have hmap : OrderedMap.ofList as' = (OrderedMap.ofList as).mapKeys (respellName ns) := by
      have hkey : ∀ k ∈ as.map Prod.fst, beginsWith ns k = false := by
        intro k hk
        obtain ⟨a, ha, rfl⟩ := List.mem_map.1 hk
        exact hplain a ha
      rw [has]
      exact OrderedMap.ofList_mapKeys fun k hk k' hk' =>
        respellName_injective (hkey k hk) (hkey k' hk')
    rw [hmap]
    refine respelled_openElement hns h hable.name ?_ (fun hd => ?_) line
    · exact fun k hk => FirstTag.mem_ofList (P := fun k => beginsWith ns k = false) hplain hk
    · exact fun k hk => FirstTag.mem_ofList (P := fun k => beginsWith defaultPrefix k = false)
        (hable.feed hd as hread) hk
  have hslash := hlike.slash
  have hevent := hlike.event
  unfold add
  generalize e.event = event at hevent hrespellable
  generalize e'.event = event' at hevent
  cases hevent with
  | start htag => exact hopen htag (hrespellable _ rfl)
  | empty htag =>
    exact (hopen htag (hrespellable _ rfl)).bind fun _ _ hopened =>
      respelled_closeTag hopened hslash line
  | stop => exact respelled_closeTag h hslash line
  | text content => exact respelled_addText h _ line
  | literal content => exact respelled_addText h _ line
  | reference name => exact respelled_addText h _ line
  | aside => exact .ok h

/-- In front of the first tag only blanks are taken in, and they leave no trace. -/
theorem respelled_before (source source' : List Char) (fold : Bool)
    (hlike : Located.Like (fun _ _ => False) source source' e e') (line : Nat) :
    Corresponds (Error.Respelled ns)
      (fun b b' => b = start source fold ∧ b' = start source' fold)
      ((start source fold).add e line) ((start source' fold).add e' line) := by
  have htext : ∀ content : List Char, Corresponds (Error.Respelled ns)
      (fun b b' => b = start source fold ∧ b' = start source' fold)
      ((start source fold).addCharacters content line)
      ((start source' fold).addCharacters content line) := by
    intro content
    show Corresponds _ _ (settled (if _ then _ else _)) (settled (if _ then _ else _))
    split
    · exact .ok ⟨rfl, rfl⟩
    · exact .error (.refl _)
  have hevent := hlike.event
  unfold add
  generalize e.event = event at hevent
  generalize e'.event = event' at hevent
  cases hevent with
  | start htag => exact htag.elim
  | empty htag => exact htag.elim
  | stop => exact .error (.refl _)
  | text content => exact htext content
  | literal content => exact htext content
  | reference name => exact htext _
  | aside => exact .ok ⟨rfl, rfl⟩

/-- The first tag is taken in on both sides, or on none. -/
theorem respelled_first {declared : String} (hdeclared : declared ≠ "") (source source' : List Char)
    (fold : Bool)
    (hprecedes : ∀ tag, e'.event.tag? = some tag → ∀ attributes, tag.attributes = .ok attributes →
      FirstTag.Precedes declared attributes)
    (hlike : Located.Like (Tag.Respelled (declared ++ ":") (FirstTag.Declares declared)) source
      source' e e')
    (hrespellable : ∀ tag, e.event.tag? = some tag → tag.Respellable (declared ++ ":"))
    (isTag : e.event.tag?.isSome) (line : Nat) :
    Respelled (declared ++ ":") source source' ((start source fold).add e line)
      ((start source' fold).add e' line) := by
  have hopen : ∀ {tag tag' : Tag},
      tag.Respelled (declared ++ ":") (FirstTag.Declares declared) tag' →
      tag.Respellable (declared ++ ":") →
      (∀ as', tag'.attributes = .ok as' → FirstTag.Precedes declared as') →
      Respelled (declared ++ ":") source source' ((start source fold).openTag tag line)
        ((start source' fold).openTag tag' line) := by
    intro tag tag' htag hable hfirst
    refine respelled_openTag htag (fun same => .malformed same line "")
      fun as as' hread hread' has => ?_
    exact respelled_root hdeclared has (hfirst as' hread') hable.name (hable.attributes as hread)
      (fun hd => hable.feed hd as hread) source source' fold line
  have hslash := hlike.slash
  have hevent := hlike.event
  unfold add
  generalize e.event = event at hevent hrespellable isTag
  generalize e'.event = event' at hevent hprecedes
  cases hevent with
  | start htag => exact hopen htag (hrespellable _ rfl) (hprecedes _ rfl)
  | empty htag =>
    exact (hopen htag (hrespellable _ rfl) (hprecedes _ rfl)).bind fun _ _ hopened =>
      respelled_closeTag hopened hslash line
  | stop => cases isTag
  | text => cases isTag
  | literal => cases isTag
  | reference => cases isTag
  | aside => cases isTag

/-- The events behind the first tag, taken in on both sides. -/
theorem respelled_foldlM (hns : ':' ∈ ns.toList) {es es' : List Located}
    (hlike : List.Forall₂ (Located.Like (Tag.Respelled ns (RespelledAttributes ns)) source source')
      es es')
    (hrespellable : ∀ e ∈ es, ∀ tag, e.event.tag? = some tag → tag.Respellable ns)
    (h : Respells ns source source' b b') :
    Respelled ns source source'
      (es.foldlM (fun (b : Builder) e => b.add e (lineOf source e.first)) b)
      (es'.foldlM (fun (b : Builder) e => b.add e (lineOf source' e.first)) b') := by
  induction hlike generalizing b b' with
  | nil => exact .ok h
  | @cons e e' es es' hfirst _ ih =>
    rw [List.foldlM_cons, List.foldlM_cons, ← hfirst.line]
    exact (respelled_add hns h hfirst (hrespellable e List.mem_cons_self) _).bind fun _ _ hadded =>
      ih (fun e he => hrespellable e (List.mem_cons_of_mem _ he)) hadded

/-- **All events**, taken in on both sides: either builder knows its prefix, or neither has met a
tag. -/
theorem respelled_events {declared : String} (hdeclared : declared ≠ "") (fold : Bool)
    {es es' : List Located} (h : RespelledEvents declared source source' es es')
    (hfirst : ∀ tag, es'.findSome? (·.event.tag?) = some tag → ∀ attributes,
      tag.attributes = .ok attributes → FirstTag.Precedes declared attributes)
    (hrespellable : ∀ e ∈ es, ∀ tag, e.event.tag? = some tag →
      tag.Respellable (declared ++ ":")) :
    Corresponds (Error.Respelled (declared ++ ":"))
      (fun b b' => Respells (declared ++ ":") source source' b b' ∨
        b = start source fold ∧ b' = start source' fold)
      (es.foldlM (fun (b : Builder) e => b.add e (lineOf source e.first)) (start source fold))
      (es'.foldlM (fun (b : Builder) e => b.add e (lineOf source' e.first))
        (start source' fold)) := by
  induction h with
  | nil => exact .ok (.inr ⟨rfl, rfl⟩)
  | @before e e' es es' _ hlike _ ih =>
    rw [List.foldlM_cons, List.foldlM_cons, ← hlike.line]
    refine (respelled_before source source' fold hlike _).bind ?_
    rintro _ _ ⟨rfl, rfl⟩
    -- no tag was met, so the first one is still to come
    rw [List.findSome?_cons, hlike.event.tag?_eq_none] at hfirst
    exact ih hfirst fun e he => hrespellable e (List.mem_cons_of_mem _ he)
  | @first e e' es es' hlike htag hrest =>
    rw [List.foldlM_cons, List.foldlM_cons, ← hlike.line]
    have hprecedes : ∀ tag, e'.event.tag? = some tag → ∀ attributes,
        tag.attributes = .ok attributes → FirstTag.Precedes declared attributes := by
      intro tag htag'
      refine hfirst tag ?_
      rw [List.findSome?_cons, htag']
    refine (respelled_first hdeclared source source' fold hprecedes hlike
      (hrespellable e List.mem_cons_self) htag _).bind fun b b' hadded => ?_
    exact (respelled_foldlM (FirstTag.mem_colon_append_colon declared) hrest
      (fun e he => hrespellable e (List.mem_cons_of_mem _ he)) hadded).mono fun _ _ => .inl

end Builder

/-! ## Whole sources -/

/-- A source and the same with another prefix, which its first tag declares. They are cut into the
same events, and stop at the same line if they cannot be cut further. -/
structure SourceRespelled (declared : String) (source source' : List Char) : Prop where
  declared_ne : declared ≠ ""
  events : RespelledEvents declared source source' (Markup.events source).1
    (Markup.events source').1
  failure : (Markup.events source).2.map (fun failure => lineOf source failure.position) =
    (Markup.events source').2.map fun failure => lineOf source' failure.position
  lines : lineOf source (byteLength source) = lineOf source' (byteLength source')
  /-- No tag and no attribute has the new prefix before. -/
  respellable : ∀ e ∈ (Markup.events source).1, ∀ tag, e.event.tag? = some tag →
    tag.Respellable (declared ++ ":")

/-- In the first tag the declaration of a prefix comes before all attributes that declare one by
their new names. For a prefix that does not look like a declaration this is always so. -/
def DeclaredFirst (declared : String) (source' : List Char) : Prop :=
  ∀ tag, (Markup.events source').1.findSome? (·.event.tag?) = some tag → ∀ attributes,
    tag.attributes = .ok attributes → FirstTag.Precedes declared attributes

/-- A prefix that does not look like a declaration may be declared anywhere. -/
theorem declaredFirst_of_plain {declared : String}
    (h : beginsWith namespaceDeclaration (declared ++ ":") = false) (source' : List Char) :
    DeclaredFirst declared source' := fun _ _ _ _ hlooks => by
  rw [h] at hlooks
  cases hlooks

/-- Every element can be respelled. -/
def Template.Respellable (ns : String) (t : Template) : Prop :=
  ∀ n ∈ t.tree.nodes, n.Respellable ns

variable {declared : String} {source source' : List Char}

theorem Builder.respelled_finish {ns : String} {b b' : Builder}
    (h : Builder.Respells ns source source' b b') (sourcePath : String) (line : Nat) :
    Corresponds (Error.Respelled ns) (fun t t' => t.Respellable ns ∧ t' = t.respell ns)
      (b.finish sourcePath line) (b'.finish sourcePath line) := by
  obtain rfl := h.eq
  have herror := fun problem => @respelled_error ns b source' problem problem (.refl problem) line
  unfold finish
  rw [show (b.respell ns source').opened = b.opened from rfl,
    show (b.respell ns source').root = b.root from rfl]
  split
  · exact .error (herror _)
  · split
    · exact .error (herror _)
    · exact .ok ⟨h.respellable, rfl⟩

/-- **The respelled source is read as the respelled template**, with folding and without it, or both
are not read for the same reason. -/
theorem respelled_readSource (h : SourceRespelled declared source source')
    (hfirst : DeclaredFirst declared source') (sourcePath : String) (fold : Bool) :
    Corresponds (Error.Respelled (declared ++ ":"))
      (fun t t' => t.Respellable (declared ++ ":") ∧ t' = t.respell (declared ++ ":"))
      (Template.readSource source sourcePath fold)
        (Template.readSource source' sourcePath fold) := by
  have hfailure := h.failure
  rw [readSource_eq_foldlM, readSource_eq_foldlM]
  refine (Builder.respelled_events h.declared_ne fold h.events hfirst h.respellable).bind
    fun b b' hb => ?_
  -- what both builders say of an error
  have herror : ∀ {problem problem'}, SameProblem problem problem' → ∀ line,
      (b.error problem line).Respelled (declared ++ ":") (b'.error problem' line) := by
    intro problem problem' same line
    rcases hb with hb | ⟨rfl, rfl⟩
    · rw [hb.eq]
      exact Builder.respelled_error b source' same line
    · exact .malformed same line ""
  generalize (Markup.events source).2 = failure at hfailure ⊢
  generalize (Markup.events source').2 = failure' at hfailure ⊢
  cases failure with
  | some failure =>
    cases failure' with
    | none => cases hfailure
    | some failure' =>
      have hline : lineOf source failure.position = lineOf source' failure'.position :=
        Option.some.inj hfailure
      dsimp only
      rw [← hline]
      exact .error (herror (.markup _ _) _)
  | none =>
    cases failure' with
    | some failure' => cases hfailure
    | none =>
      dsimp only
      rw [← h.lines]
      rcases hb with hb | ⟨rfl, rfl⟩
      · exact Builder.respelled_finish hb sourcePath _
      · exact .error (.refl _)

end TagTemplate
